import MeshFirmware.Unicode.Composite

/-!
# The composed normal form

The same text can be written with composites or with their parts, and with its marks in different orders.
For the composed normal form every composite is taken apart, each run of marks is sorted by class, and then
each character is joined with the marks after it as far as there are composites for them.
-/

namespace MeshFirmware.Unicode

/-- The parts of a character after so many steps. The second part of a composite has no parts. -/
def parts : Nat → Char → List Char
  | 0, c => [c]
  | steps + 1, c =>
    match split? c.toNat with
    | some (base, mark) => parts steps (Char.ofNat base) ++ [Char.ofNat mark]
    | none => [c]

/-- The most steps that a composite needs until it has no more parts. -/
def partSteps : Nat := 4

/-- The text without composites. -/
def decompose (s : List Char) : List Char := s.flatMap (parts partSteps)

/-- Puts a character after those before it, the last of which comes first: a mark goes in front of marks of
higher classes. -/
def settle (c : Char) : List Char → List Char
  | [] => [c]
  | d :: before =>
    if 0 < combiningClass c && combiningClass c < combiningClass d then d :: settle c before
    else c :: d :: before

/-- The text with its marks sorted by class. -/
def sortMarks (s : List Char) : List Char := (s.foldl (fun before c => settle c before) []).reverse

/-- Joins a character with marks after it. Those that did not join it are in `between`, the last one
first; a mark joins only if no mark between is of its class or a higher one. -/
def joinMarks (first : Char) (between : List Char) : List Char → List Char
  | [] => first :: between.reverse
  | c :: rest =>
    let blocked : Bool := match between with
      | d :: _ => combiningClass c ≤ combiningClass d
      | [] => false
    match if blocked then none else join? first.toNat c.toNat with
    | some whole => joinMarks (Char.ofNat whole) between rest
    | none =>
      if combiningClass c == 0 then first :: (between.reverse ++ joinMarks c [] rest)
      else joinMarks first (c :: between) rest

/-- The text with composites for all parts that have one. Marks before the first character of class zero
stay as they are. -/
def compose (s : List Char) : List Char :=
  match s.dropWhile fun c => combiningClass c != 0 with
  | [] => s
  | first :: rest => s.takeWhile (fun c => combiningClass c != 0) ++ joinMarks first [] rest

/-- The composed normal form of a text. -/
def composedForm (s : List Char) : List Char := compose (sortMarks (decompose s))

/-- Whether a text is in the composed normal form. -/
def isComposed (s : List Char) : Bool := composedForm s == s

end MeshFirmware.Unicode
