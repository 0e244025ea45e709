import MeshFirmware.Json.Written
import MeshFirmware.Numeral.Binary64

/-!
# JSON values

The values of a JSON text that is read strictly: strings are texts, numbers are within the range of
doubles, and values nest no deeper than a limit. The number itself is not kept, since nothing asks for
it.
-/

namespace MeshFirmware.Json

/-- A value. -/
inductive Value where
  | null
  | boolean (b : Bool)
  | number
  | text (s : String)
  | array (items : List Value)
  /-- The entries in the order of the text; of two with one name the later one counts. -/
  | object (entries : List (String × Value))
  deriving Repr, Inhabited

/-- How deep arrays and objects may nest. -/
def depthLimit : Nat := 127

/-! ## Strings -/

/-- Whether the unit is the first one of two that write a character together. -/
def isHighUnit (n : Nat) : Bool := 0xD800 ≤ n && n ≤ 0xDBFF

/-- Whether the unit is the second one of two. -/
def isLowUnit (n : Nat) : Bool := 0xDC00 ≤ n && n ≤ 0xDFFF

/-- The bytes of a character given by its number. -/
def charBytes (n : Nat) : Bytes := Bytes.ofText (String.singleton (Char.ofNat n))

/-- The bytes of a string. A unit that is one of two has no bytes without the other one. -/
def bytes? : List Piece → Option Bytes
  | [] => some []
  | .byte b :: rest => (bytes? rest).map (b :: ·)
  | .unit n :: rest =>
    if isHighUnit n then
      match rest with
      | .unit m :: rest =>
        if isLowUnit m then
          (bytes? rest).map (charBytes (0x10000 + (n - 0xD800) * 0x400 + (m - 0xDC00)) ++ ·)
        else none
      | _ => none
    else if isLowUnit n then none
    else (bytes? rest).map (charBytes n ++ ·)

/-- The text of a string. -/
def text? (pieces : List Piece) : Option String := (bytes? pieces).bind Bytes.text?

/-! ## Numbers -/

/-- The digits that fit into a word of 64 bits, and how many were left out because they did not. -/
def leading (n : Nat) : List Nat → Nat × Nat
  | [] => (n, 0)
  | d :: ds =>
    if 10 * n + d < UInt64.size then leading (10 * n + d) ds else (n, ds.length + 1)

/-- Whether the number is within the range of doubles. It is taken for the digits that fit into a word,
times a power of ten. -/
def NumberText.inRange (n : NumberText) : Bool :=
  let (m, skipped) := leading 0 n.whole
  let (m', unused) := leading m n.places
  let used := n.places.length - unused
  (Numeral.Binary64.scaled? m' (n.exponent + skipped - used)).isSome

/-! ## Values -/

mutual

/-- How deep arrays and objects nest. -/
def Written.depth : Written → Nat
  | .array items => itemsDepth items + 1
  | .object entries => entriesDepth entries + 1
  | _ => 0

/-- How deep the values of an array nest. -/
def itemsDepth : List Written → Nat
  | [] => 0
  | v :: rest => max v.depth (itemsDepth rest)

/-- How deep the values of an object nest. -/
def entriesDepth : List (List Piece × Written) → Nat
  | [] => 0
  | (_, v) :: rest => max v.depth (entriesDepth rest)

end

mutual

/-- The value that is written, apart from the limit on its depth. -/
def Written.value? : Written → Option Value
  | .null => some .null
  | .boolean b => some (.boolean b)
  | .number n => if n.inRange then some .number else none
  | .text ps => (text? ps).map .text
  | .array items => (itemValues? items).map .array
  | .object entries => (entryValues? entries).map .object

/-- The values of an array. -/
def itemValues? : List Written → Option (List Value)
  | [] => some []
  | v :: rest =>
    match v.value?, itemValues? rest with
    | some v, some vs => some (v :: vs)
    | _, _ => none

/-- The entries of an object. -/
def entryValues? : List (List Piece × Written) → Option (List (String × Value))
  | [] => some []
  | (key, v) :: rest =>
    match text? key, v.value?, entryValues? rest with
    | some key, some v, some es => some ((key, v) :: es)
    | _, _, _ => none

end

namespace Value

/-- The value that a text writes, read strictly. -/
def read? (s : Bytes) : Option Value :=
  match Written.read? s with
  | some w => if w.depth ≤ depthLimit then w.value? else none
  | none => none

/-- The last entry with this name. -/
def get? (v : Value) (name : String) : Option Value :=
  match v with
  | object entries => (entries.reverse.find? fun e => e.1 == name).map (·.2)
  | _ => none

/-- The text, if it is one. -/
def asText? : Value → Option String
  | text s => some s
  | _ => none

/-- What is found by going through objects along these names. -/
def follow? (v : Value) (path : List String) : Option Value := path.foldlM get? v

end Value

end MeshFirmware.Json
