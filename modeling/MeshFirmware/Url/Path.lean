import MeshFirmware.Url.Percent

/-!
# Paths of URLs

A path is a list of segments. While it is read, a segment of one dot says nothing and a segment of two
dots takes back the segment before it, unless that one is a drive letter. The first segment of a file path
may name a drive.
-/

namespace MeshFirmware.Url

/-- What a segment says. -/
inductive Step where
  | stay
  | up
  | down (segment : String)
  deriving DecidableEq, Repr

/-- A dot, as it is or with its escape, at the start of a segment. -/
def dot? : List Char → Option (List Char)
  | '.' :: s => some s
  | '%' :: '2' :: e :: s => if e == 'e' || e == 'E' then some s else none
  | _ => none

/-- What a segment with its escapes says. -/
def Step.ofSegment (s : List Char) : Step :=
  match dot? s with
  | some [] => .stay
  | some rest => if dot? rest == some [] then .up else .down (String.ofList s)
  | none => .down (String.ofList s)

/-- Whether this is a letter with a colon or a bar. -/
def isDriveLetter : List Char → Bool
  | [c, d] => c.isAlpha && (d == ':' || d == '|')
  | _ => false

/-- Whether a segment is a drive letter, or goes on after one with a backslash, which only a segment of a
URL that is not special can. -/
def isDrive (segment : List Char) : Bool :=
  isDriveLetter (segment.take 2) && (segment.drop 2).head?.all (· == '\\')

/-- The segments without the last one, the last one first; a drive stays. -/
def dropLastSegment : List String → List String
  | [] => []
  | s :: done => if isDrive s.toList then s :: done else done

/-- The segments after one more, the last one first; `final` tells that nothing follows it. -/
def Step.apply (final : Bool) (done : List String) : Step → List String
  | .stay => if final then "" :: done else done
  | .up => if final then "" :: dropLastSegment done else dropLastSegment done
  | .down s => s :: done

/-- The segments of a path, `done` holding those already read, the last one first. -/
def segmentsFrom (done : List String) : List (List Char) → List String
  | [] => done.reverse
  | s :: rest => segmentsFrom ((Step.ofSegment (escape inPathSet s)).apply rest.isEmpty done) rest

/-- The segments of a path. -/
def segments (pieces : List (List Char)) : List String := segmentsFrom [] pieces

/-- The path as it stands in a URL. -/
def pathText (segs : List String) : String := String.join (segs.map ("/" ++ ·))

/-! ## File paths -/

/-- A tab or the end of a line. Nothing is read there, but the text is read in parts that end there. -/
def isBreak (c : Char) : Bool := c == '\t' || c == '\n' || c == '\r'

/-- The text without its breaks. -/
def unbroken (s : List Char) : List Char := s.filter fun c => !isBreak c

/-- The drive and the segment after it, if a break stands between a drive letter with a colon and the rest
of a piece. That rest is taken as it is. -/
def brokenDrive? (piece : List Char) : Option (String × String) :=
  match unbroken piece with
  | c :: ':' :: d :: rest =>
    if c.isAlpha && ((piece.dropWhile (· != ':')).drop 1).head?.any isBreak then
      some (String.ofList [c, ':'], String.ofList (escape inPathSet (d :: rest)))
    else none
  | _ => none

/-- The segments of a file path, and whether one of them named a drive; `done` holds those already read,
the last one first. A drive letter that comes first is written with a colon. -/
def fileSegmentsFrom (done : List String) (onDrive : Bool) : List (List Char) → List String × Bool
  | [] => (done.reverse, onDrive)
  | piece :: rest =>
    let s := unbroken piece
    if done.isEmpty && isDriveLetter s then
      fileSegmentsFrom [String.ofList (s.take 1 ++ [':'])] true rest
    else match done, brokenDrive? piece with
      | [], some (drive, segment) => fileSegmentsFrom [segment, drive] onDrive rest
      | _, _ =>
        fileSegmentsFrom ((Step.ofSegment (escape inPathSet s)).apply rest.isEmpty done) onDrive rest

/-- The segments of a file path without the empty ones at its start, and whether one of them named a
drive. The pieces may have breaks. -/
def fileSegments (pieces : List (List Char)) : List String × Bool :=
  let (all, onDrive) := fileSegmentsFrom [] false pieces
  let segs := all.dropWhile String.isEmpty
  (if segs.isEmpty then [""] else segs, onDrive)

end MeshFirmware.Url
