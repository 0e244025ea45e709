/-!
# Errors of the operating system

The reasons for which something is not done with a file. All but one come from the operating system; a path
with a character that ends texts there never gets to it.
-/

namespace MeshFirmware

/-- Why something was not done with a file. -/
inductive OsError where
  | notFound
  | denied
  | notDirectory
  | isDirectory
  | noSpace
  | nameTooLong
  | noLocks
  /-- The path has a character with the number zero. -/
  | zeroInPath
  deriving DecidableEq, Repr

/-- The text for an error, with its number if it is one of the operating system. -/
def OsError.message : OsError → String
  | .notFound => "No such file or directory (os error 2)"
  | .denied => "Permission denied (os error 13)"
  | .notDirectory => "Not a directory (os error 20)"
  | .isDirectory => "Is a directory (os error 21)"
  | .noSpace => "No space left on device (os error 28)"
  | .nameTooLong => "File name too long (os error 36)"
  | .noLocks => "No locks available (os error 37)"
  | .zeroInPath => "file name contained an unexpected NUL byte"

end MeshFirmware
