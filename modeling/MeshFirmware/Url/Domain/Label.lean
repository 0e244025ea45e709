import MeshFirmware.Unicode.Direction
import MeshFirmware.Unicode.Joining
import MeshFirmware.Url.Domain.Mapped
import MeshFirmware.Url.Domain.Punycode

/-!
# Labels of domains

A domain is a list of labels. A label that starts with `xn--` stands for another one, which must have a
character outside of ASCII. Any label with such a character must be in its final form. Where a label is written
from right to left, all labels of the domain must keep their order on the page. In ASCII, what a label stands
for is written after `xn--`.
-/

namespace MeshFirmware.Url.Domain

open Unicode

/-! ## Joiners -/

/-- The character that keeps letters from joining. -/
def nonJoiner : Char := Char.ofNat 0x200C

/-- The character that makes letters join. -/
def joiner : Char := Char.ofNat 0x200D

/-- Whether the first character that joining does not pass over satisfies a test. -/
def reaches (test : Char → Bool) : List Char → Bool
  | [] => false
  | c :: rest => test c || (isTransparent c && reaches test rest)

/-- Whether a joiner may stand between other characters, of which `before` has the last one first: after a
virama, or, if it keeps letters from joining, between letters that would join. -/
def mayJoin (c : Char) (before after : List Char) : Bool :=
  match before with
  | [] => false
  | d :: _ => isVirama d || (c == nonJoiner && reaches joinsNext before && reaches joinsPrevious after)

/-- Whether every joiner may stand where it does. -/
def mayJoinAll (before : List Char) : List Char → Bool
  | [] => true
  | c :: rest =>
    ((c != nonJoiner && c != joiner) || mayJoin c before rest) && mayJoinAll (c :: before) rest

/-! ## One label -/

/-- The most characters of the text of a label. -/
def textLimit : Nat := 2000

/-- The most characters of a label that such a text stands for. -/
def labelLimit : Nat := 1000

/-- Whether a label has only ASCII characters. -/
def isAscii (s : List Char) : Bool := s.all fun c => c.toNat < 128

/-- Whether a label that has not only ASCII characters is in its final form. -/
def isFinal (s : List Char) : Bool :=
  !isAscii s && s.length ≤ labelLimit && s.all (fun c => c.toNat < 128 || permitted.contains c)
    && !s.head?.any isMark && isComposed s && mayJoinAll [] s

/-- The label that a text in its usual spelling stands for. -/
def label? (s : List Char) : Option (List Char) :=
  match s with
  | 'x' :: 'n' :: '-' :: '-' :: text =>
    if isAscii text && text.length ≤ textLimit then (decode? text).filter isFinal else none
  | _ => if isAscii s || isFinal s then some s else none

/-- The text in ASCII for a text that stands for a label. -/
def asciiText (s : List Char) : List Char :=
  if isAscii s then s else 'x' :: 'n' :: '-' :: '-' :: encode s

/-! ## All labels -/

/-- Whether the character is written from right to left. -/
def isRightward (c : Char) : Bool := direction c == .right || direction c == .arabicDigit

/-- Whether a label keeps its order next to labels of the other direction: it starts with a letter and goes
on in the direction of that letter, ends with a letter or a digit, and does not mix the kinds of digits. -/
def keepsOrder (s : List Char) : Bool :=
  match s with
  | [] => true
  | first :: rest =>
    let ds := rest.map direction
    match direction first, ds.reverse.dropWhile (· == .mark) with
    | .left, last :: middle =>
      (last == .left || last == .europeanDigit) && middle.all fun d => d != .right && d != .arabicDigit
    | .right, last :: middle =>
      (last == .right || last == .europeanDigit || last == .arabicDigit) && middle.all (· != .left)
        && !(ds.contains .europeanDigit && ds.contains .arabicDigit)
    | .left, [] => true
    | .right, [] => true
    | _, _ => false

/-- Whether texts in their usual spelling are the labels of a domain. -/
def isValid (texts : List (List Char)) : Bool :=
  match texts.mapM label? with
  | none => false
  | some labels => !(labels.any fun s => s.any isRightward) || labels.all keepsOrder

/-- A domain in ASCII. -/
def inAscii? (s : List Char) : Option (List Char) :=
  match usual? s with
  | none => none
  | some s =>
    let texts := Text.splitOn (· == '.') s
    if isValid texts then some (['.'].intercalate (texts.map asciiText)) else none

end MeshFirmware.Url.Domain
