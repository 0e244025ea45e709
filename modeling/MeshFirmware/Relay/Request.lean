import MeshFirmware.Config
import MeshFirmware.Url.Form

/-!
# Requests to a relay

A node asks a relay for one file of one branch, in the query of a URL. The file must have a name that
means the same in the URL of any mirror.
-/

namespace MeshFirmware.Relay

/-- A file of a branch. -/
structure Request where
  branch : String
  file : String
  deriving DecidableEq, Repr

/-- Why a query asks for nothing. -/
inductive QueryError where
  | missing (parameter : String)
  | badFile (file : String)
  deriving DecidableEq, Repr

/-- The message for a query that asks for nothing. -/
def QueryError.message : QueryError → String
  | .missing parameter => s!"missing parameter '{parameter}'"
  | .badFile file => s!"invalid file name: {file}"

/-- Whether the character may stand in the name of a file. -/
def isPlain (c : Char) : Bool := c.isAlphanum || ['.', '_', '+', '~', '-'].contains c

/-- Whether the name has plain characters only and names no directory. -/
def isPlainName (file : String) : Bool := file != "." && file != ".." && file.toList.all isPlain

/-- The first value under a name, if it is not empty. -/
def parameter (name : String) (pairs : List (String × String)) : Except QueryError String :=
  match pairs.find? fun p => p.1 == name with
  | some (_, v) => if v.isEmpty then .error (.missing name) else .ok v
  | none => .error (.missing name)

/-- The request in a query. -/
def Request.read (query : String) : Except QueryError Request :=
  let pairs := Url.Form.parse query
  match parameter "branch" pairs with
  | .error e => .error e
  | .ok branch =>
    match parameter "file" pairs with
    | .error e => .error e
    | .ok file => if isPlainName file then .ok ⟨branch, file⟩ else .error (.badFile file)

/-- The mirrors of the first branch with this name in manifests, or else of the branch with this key. -/
def mirrorsOf? (c : Config) (branch : String) : Option (List String) :=
  match c.branches.entries.find? fun e => e.2.name == branch with
  | some e => some e.2.mirrors
  | none => (c.branches.get? branch).map (·.mirrors)

end MeshFirmware.Relay
