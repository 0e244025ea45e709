import MeshFirmware.Numeral.Decimal
import MeshFirmware.Toml.Document

/-!
# Reading documents

The text of a document, version 1.0 of the format. A reader takes what it is for from the start of
a text and returns it with what is left. Values nest at most 79 deep, so the reader of values is
defined by recursion on the depth that is still allowed. The lists within a document are read one item
at a time, and each takes at least a character, so that the length of the text bounds their steps.
-/

namespace MeshFirmware.Toml

/-- Takes something from the start of a text, and leaves the rest. -/
abbrev Reader (α : Type) := List Char → Option (α × List Char)

/-- The deepest nesting of values, and the most parts of a dotted key. -/
def depthLimit : Nat := 79

/-! ## Blanks, comments and line ends -/

/-- A blank within a line. -/
def isSpace (c : Char) : Bool := c == ' ' || c == '\t'

/-- The rest after blanks. -/
def skipSpaces (s : List Char) : List Char := s.dropWhile isSpace

/-- A character of comments and quoted text: a tab, or no control character of ASCII. -/
def isTextChar (c : Char) : Bool := c == '\t' || (0x20 ≤ c.toNat && c.toNat != 0x7F)

/-- The rest after a newline, with or without a carriage return. -/
def newline? : List Char → Option (List Char)
  | '\n' :: s => some s
  | '\r' :: '\n' :: s => some s
  | _ => none

/-- The rest after a comment, if there is one. -/
def skipComment : List Char → List Char
  | '#' :: s => s.dropWhile isTextChar
  | s => s

/-- The rest after the end of a line: blanks, perhaps a comment, and a newline or the end. -/
def lineEnd? (s : List Char) : Option (List Char) :=
  match skipComment (skipSpaces s) with
  | [] => some []
  | s => newline? s

theorem length_of_newline? {s rest : List Char} (h : newline? s = some rest) :
    rest.length < s.length := by
  unfold newline? at h
  split at h
  · cases h
    exact Nat.lt_succ_self _
  · cases h
    exact Nat.lt_succ_of_lt (Nat.lt_succ_self _)
  · cases h

theorem length_skipComment_le (s : List Char) : (skipComment s).length ≤ s.length := by
  unfold skipComment
  split
  · exact Nat.le_succ_of_le (List.dropWhile_sublist _).length_le
  · exact Nat.le_refl _

theorem length_skipSpaces_le (s : List Char) : (skipSpaces s).length ≤ s.length :=
  (List.dropWhile_sublist _).length_le

/-- The rest after blanks, newlines and comments that end in a newline. -/
def skipLines (s : List Char) : List Char :=
  match _h : newline? (skipComment (skipSpaces s)) with
  | some rest => skipLines rest
  | none => skipSpaces s
termination_by s.length
decreasing_by
  have := length_of_newline? ‹_›
  have := length_skipComment_le (skipSpaces s)
  have := length_skipSpaces_le s
  omega

/-! ## Quoted text -/

/-- The character whose number is at the start, in so many digits of base sixteen. -/
def numbered? (digits : Nat) (s : List Char) : Option Char :=
  let ds := s.take digits
  if ds.length == digits then
    (Numeral.digitsIn? 16 ds).bind fun n => if n.isValidChar then some (Char.ofNat n) else none
  else none

/-- The character that an escape after a backslash stands for, and the length of the escape. -/
def escape? : List Char → Option (Char × Nat)
  | 'b' :: _ => some ('\x08', 1)
  | 't' :: _ => some ('\t', 1)
  | 'n' :: _ => some ('\n', 1)
  | 'f' :: _ => some ('\x0c', 1)
  | 'r' :: _ => some ('\r', 1)
  | '"' :: _ => some ('"', 1)
  | '\\' :: _ => some ('\\', 1)
  | 'u' :: s => (numbered? 4 s).map (·, 5)
  | 'U' :: s => (numbered? 8 s).map (·, 9)
  | _ => none

/-- The characters up to a closing quotation mark. The first `skip` characters belong to an escape that is
already read, and `acc` holds what has been read, the last first. -/
def basicBody (acc : List Char) : Nat → List Char → Option (String × List Char)
  | _, [] => none
  | skip + 1, _ :: rest => basicBody acc skip rest
  | 0, c :: rest =>
    if c == '"' then some (String.ofList acc.reverse, rest)
    else if c == '\\' then
      match escape? rest with
      | some (d, length) => basicBody (d :: acc) length rest
      | none => none
    else if isTextChar c then basicBody (c :: acc) 0 rest
    else none

/-- The characters up to a closing apostrophe; none has a special meaning. -/
def literalBody : List Char → Option (String × List Char)
  | s =>
    let body := s.takeWhile fun c => isTextChar c && c != '\''
    match s.drop body.length with
    | '\'' :: rest => some (String.ofList body, rest)
    | _ => none

/-- The number of quotes at the start. -/
def quoteRun (quote : Char) (s : List Char) : Nat := (s.takeWhile (· == quote)).length

/-- The length of the newline at the start, or zero. -/
def newlineLength (s : List Char) : Nat :=
  match s with
  | '\n' :: _ => 1
  | '\r' :: '\n' :: _ => 2
  | _ => 0

/-- What stands before the next character of a text of several lines. -/
inductive LineState where
  /-- So many characters that are already read. -/
  | taken (n : Nat)
  /-- An escaped end of a line, which takes all blanks and newlines after it. -/
  | margin
  deriving DecidableEq, Repr

/-- The characters of several lines up to three closing quotes, of which up to two more may stand directly
before. Backslashes escape only if `escapes` holds. What has been read is in `acc`, the last first. -/
def linesBody (quote : Char) (escapes : Bool) (acc : List Char) :
    LineState → List Char → Option (String × List Char)
  | _, [] => none
  | .taken (n + 1), _ :: rest => linesBody quote escapes acc (.taken n) rest
  | state, c :: rest =>
    if state == .margin && (isSpace c || newlineLength (c :: rest) != 0) then
      linesBody quote escapes acc .margin rest
    else if c == quote then
      let run := quoteRun quote (c :: rest)
      if run < 3 then linesBody quote escapes (quote :: acc) (.taken 0) rest
      else
        let extra := min (run - 3) 2
        some (String.ofList (List.replicate extra quote ++ acc).reverse, rest.drop (extra + 2))
    else if escapes && c == '\\' then
      if newlineLength (skipSpaces rest) != 0 then linesBody quote escapes acc .margin rest
      else match escape? rest with
        | some (d, length) => linesBody quote escapes (d :: acc) (.taken length) rest
        | none => none
    else match newlineLength (c :: rest) with
      | n + 1 => linesBody quote escapes ('\n' :: acc) (.taken n) rest
      | 0 => if isTextChar c then linesBody quote escapes (c :: acc) (.taken 0) rest else none

/-- The rest without one newline at its start. -/
def dropNewline (s : List Char) : List Char := (newline? s).getD s

/-- A quoted text of one of the four kinds. -/
def quoted? : Reader String
  | '"' :: '"' :: '"' :: s => linesBody '"' true [] (.taken 0) (dropNewline s)
  | '"' :: s => basicBody [] 0 s
  | '\'' :: '\'' :: '\'' :: s => linesBody '\'' false [] (.taken 0) (dropNewline s)
  | '\'' :: s => literalBody s
  | _ => none

/-! ## Keys -/

/-- A character of a bare key. -/
def isBareChar (c : Char) : Bool := c.isAlphanum || c == '_' || c == '-'

/-- One part of a key: bare, or quoted on one line. -/
def keyPart? : Reader String
  | '"' :: s => basicBody [] 0 s
  | '\'' :: s => literalBody s
  | s =>
    let part := s.takeWhile isBareChar
    if part.isEmpty then none else some (String.ofList part, s.drop part.length)

/-- The parts of a key with dots between them, and blanks around each part, if there are no more than so
many; `acc` holds the parts already read, the last first. -/
def keyParts? (acc : List String) : Nat → List Char → Option (List String × List Char)
  | 0, _ => none
  | most + 1, s =>
    match keyPart? (skipSpaces s) with
    | none => none
    | some (part, rest) =>
      match skipSpaces rest with
      | '.' :: rest' => keyParts? (part :: acc) most rest'
      | rest' => some (part :: acc, rest')

/-- A key: the path of its parts but the last, and the last part. -/
def key? (s : List Char) : Option ((List String × String) × List Char) :=
  match keyParts? [] depthLimit s with
  | some (last :: path, rest) => some ((path.reverse, last), rest)
  | _ => none

/-! ## Numbers, dates and times -/

/-- The digits at the start with single underscores between them, and the rest; the underscores are
left out. What has been read is in `acc`, the last first. -/
def spacedDigits (isDigit : Char → Bool) (acc : List Char) (afterDigit : Bool) :
    List Char → List Char × List Char
  | [] => (acc.reverse, [])
  | c :: s =>
    if isDigit c then spacedDigits isDigit (c :: acc) true s
    else if c == '_' && afterDigit && s.head?.any isDigit then spacedDigits isDigit acc false s
    else (acc.reverse, c :: s)

/-- A non-empty run of decimal digits with underscores. -/
def digitRun? : Reader (List Char) := fun s =>
  match spacedDigits Char.isDigit [] false s with
  | ([], _) => none
  | (ds, rest) => some (ds, rest)

/-- The sign at the start, and the rest. -/
def sign : List Char → List Char × List Char
  | '+' :: s => ([], s)
  | '-' :: s => (['-'], s)
  | s => ([], s)

/-- A whole number without zeros in front. -/
def whole? (s : List Char) : Option (List Char × List Char) :=
  match s with
  | '0' :: rest => some (['0'], rest)
  | _ => digitRun? s

/-- A whole number with an optional sign, as text. -/
def signedWhole? : Reader (List Char) := fun s =>
  let (sg, s) := sign s
  (whole? s).map fun (ds, rest) => (sg ++ ds, rest)

/-- The exponent of a number, as text. -/
def exponent? : Reader (List Char)
  | c :: s =>
    if c == 'e' || c == 'E' then
      let (sg, s) := sign s
      (digitRun? s).map fun (ds, rest) => ('e' :: sg ++ ds, rest)
    else none
  | [] => none

/-- The places of a number after its point, as text. -/
def places? : Reader (List Char)
  | '.' :: s => (digitRun? s).map fun (ds, rest) => ('.' :: ds, rest)
  | _ => none

/-- A number with places or an exponent. One too large for a double is refused. -/
def fraction? : Reader Value := fun s => do
  let (whole, s) ← signedWhole? s
  let (tail, s) ← match exponent? s with
    | some (e, s) => some (e, s)
    | none =>
      match places? s with
      | some (p, s) =>
        match exponent? s with
        | some (e, s) => some (p ++ e, s)
        | none => some (p, s)
      | none => none
  let x ← Numeral.float? (whole ++ tail)
  if x.isInf && x > 0.0 then none else some (.float x, s)

/-- The words for infinity and for no number, with an optional sign. -/
def namedFloat? : Reader Value := fun s =>
  let (sg, t) := sign s
  match t with
  | 'i' :: 'n' :: 'f' :: rest => (Numeral.float? (sg ++ ['i', 'n', 'f'])).map fun x => (.float x, rest)
  | 'n' :: 'a' :: 'n' :: rest => (Numeral.float? ['n', 'a', 'n']).map fun x => (.float x, rest)
  | _ => none

/-- An integer of 64 bits. -/
def fitInteger? (n : Int) : Option Value :=
  if -9223372036854775808 ≤ n && n ≤ 9223372036854775807 then some (.integer n) else none

/-- The number after the mark of its base. -/
def based? (base : Nat) : Reader Value := fun s =>
  match spacedDigits (fun c => (Numeral.digitIn? base c).isSome) [] false s with
  | ([], _) => none
  | (ds, rest) => do
    let n ← Numeral.digitsIn? base ds
    (fitInteger? n).map (·, rest)

/-- A whole number in one of the four bases. -/
def integer? : Reader Value
  | '0' :: 'x' :: s => based? 16 s
  | '0' :: 'o' :: s => based? 8 s
  | '0' :: 'b' :: s => based? 2 s
  | s => do
    let (text, rest) ← signedWhole? s
    let n ← Numeral.integer? text
    (fitInteger? n).map (·, rest)

/-- So many digits, with a value within bounds. -/
def bounded? (n least most : Nat) : Reader Nat := fun s =>
  let ds := s.take n
  if ds.length == n && ds.all Char.isDigit then
    let v := Numeral.decimal ds
    if least ≤ v && v ≤ most then some (v, s.drop n) else none
  else none

/-- A character that satisfies a test. -/
def oneOf? (test : Char → Bool) : List Char → Option (List Char)
  | c :: s => if test c then some s else none
  | [] => none

/-- A date of the calendar. -/
def date? (s : List Char) : Option (List Char) := do
  let (year, s) ← bounded? 4 0 9999 s
  let s ← oneOf? (· == '-') s
  let (month, s) ← bounded? 2 1 12 s
  let s ← oneOf? (· == '-') s
  let (day, s) ← bounded? 2 1 31 s
  let isLeap := year % 4 == 0 && (year % 100 != 0 || year % 400 == 0)
  let last :=
    if month == 2 then if isLeap then 29 else 28
    else if month == 4 || month == 6 || month == 9 || month == 11 then 30
    else 31
  if day ≤ last then some s else none

/-- A time of day with seconds. -/
def timeOfDay? (s : List Char) : Option (List Char) := do
  let (_, s) ← bounded? 2 0 23 s
  let s ← oneOf? (· == ':') s
  let (_, s) ← bounded? 2 0 59 s
  let s ← oneOf? (· == ':') s
  let (_, s) ← bounded? 2 0 60 s
  match s with
  | '.' :: d :: t => if d.isDigit then some (t.dropWhile Char.isDigit) else some s
  | _ => some s

/-- An offset from UTC. -/
def offset? (s : List Char) : Option (List Char) :=
  match s with
  | 'Z' :: rest => some rest
  | 'z' :: rest => some rest
  | _ => do
    let s ← oneOf? (fun c => c == '+' || c == '-') s
    let (_, s) ← bounded? 2 0 23 s
    let s ← oneOf? (· == ':') s
    let (_, s) ← bounded? 2 0 59 s
    some s

/-- A date, perhaps with a time and an offset, or a time alone. -/
def moment? : Reader Value := fun s =>
  match date? s with
  | some afterDate =>
    let afterTime := do
      let t ← oneOf? (fun c => c == 'T' || c == 't' || c == ' ') afterDate
      let t ← timeOfDay? t
      some ((offset? t).getD t)
    some (.moment, afterTime.getD afterDate)
  | none => (timeOfDay? s).map (Value.moment, ·)

/-- A number, a date or a time. -/
def numeric? : Reader Value := fun s =>
  ((moment? s).orElse fun _ => (fraction? s).orElse fun _ => (namedFloat? s).orElse fun _ => integer? s)

/-! ## Values -/

/-- A value that holds no others. -/
def simpleValue? : Reader Value
  | 't' :: 'r' :: 'u' :: 'e' :: s => some (.boolean true, s)
  | 'f' :: 'a' :: 'l' :: 's' :: 'e' :: s => some (.boolean false, s)
  | '"' :: s => (quoted? ('"' :: s)).map fun (t, s) => (.text t, s)
  | '\'' :: s => (quoted? ('\'' :: s)).map fun (t, s) => (.text t, s)
  | s => numeric? s

/-- The items of an array up to its closing bracket, with commas between them and perhaps one more at
the end, if there are fewer than so many; `acc` holds those already read, the last first. -/
def items? (value? : Reader Value) (acc : List Value) : Nat → List Char → Option (Value × List Char)
  | 0, _ => none
  | steps + 1, s =>
    match skipLines s with
    | ']' :: rest => some (.array acc.reverse, rest)
    | t =>
      match value? t with
      | none => none
      | some (v, rest) =>
        match skipLines rest with
        | ',' :: rest' => items? value? (v :: acc) steps rest'
        | ']' :: rest' => some (.array (v :: acc).reverse, rest')
        | _ => none

/-- A key, an equals sign and a value. -/
def pair? (value? : Reader Value) : Reader ((List String × String) × Value) := fun s => do
  let (key, s) ← key? s
  let s ← oneOf? (· == '=') s
  let (v, s) ← value? (skipSpaces s)
  some ((key, v), s)

/-- The pairs of a table in braces up to its closing brace, with commas between them, if there are no more
than so many. -/
def inlinePairs? (value? : Reader Value) (entries : Entries) :
    Nat → List Char → Option (Value × List Char)
  | 0, _ => none
  | steps + 1, s =>
    match pair? value? s with
    | none => none
    | some (((path, key), v), rest) =>
      match putDotted? path key v .inline entries with
      | none => none
      | some entries =>
        match skipSpaces rest with
        | ',' :: rest' => inlinePairs? value? entries steps rest'
        | '\x7d' :: rest' => some (.table .inline entries, rest')
        | _ => none

/-- A value in which values nest at most so deep, and lists are at most so long. -/
def value? (steps : Nat) : Nat → Reader Value
  | 0, s =>
    match s with
    | '[' :: _ => none
    | '\x7b' :: _ => none
    | _ => simpleValue? s
  | depth + 1, s =>
    match s with
    | '[' :: rest => items? (value? steps depth) [] steps rest
    | '\x7b' :: rest =>
      match skipSpaces rest with
      | '\x7d' :: rest' => some (.table .inline [], rest')
      | _ => inlinePairs? (value? steps depth) [] steps rest
    | _ => simpleValue? s

/-! ## Statements -/

/-- One statement and the end of its line: a header, a header of an array of tables, or a pair. -/
def statement? (steps : Nat) (d : Draft) (s : List Char) : Option (Draft × List Char) := do
  let (d, s) ← match s with
    | '[' :: '[' :: s => do
      let ((path, key), s) ← key? s
      let s ← oneOf? (· == ']') s
      let s ← oneOf? (· == ']') s
      some (← d.openArrayTable? path key, s)
    | '[' :: s => do
      let ((path, key), s) ← key? s
      let s ← oneOf? (· == ']') s
      some (← d.openTable? path key, s)
    | s => do
      let (((path, key), v), s) ← pair? (value? steps depthLimit) s
      some (← d.put? path key v, s)
  let s ← lineEnd? s
  some (d, s)

/-- All statements up to the end of the text, on fewer than so many lines. Lists of a value are at most
`steps` long. -/
def statements? (steps : Nat) (d : Draft) : Nat → List Char → Option Draft
  | 0, _ => none
  | lines + 1, s =>
    match skipSpaces s with
    | [] => some d
    | '#' :: t =>
      match lineEnd? ('#' :: t) with
      | some rest => statements? steps d lines rest
      | none => none
    | t =>
      match newline? t with
      | some rest => statements? steps d lines rest
      | none =>
        match statement? steps d t with
        | some (d, rest) => statements? steps d lines rest
        | none => none

/-- The entries of the outermost table of a document. A byte order mark may come first. Every line and
every item of a list takes a character, so there are no more of them than characters. -/
def parse? (text : String) : Option Entries :=
  let s := match text.toList with
    | '\ufeff' :: s => s
    | s => s
  (statements? (s.length + 1) .empty (s.length + 1) s).map Draft.entries

end MeshFirmware.Toml
