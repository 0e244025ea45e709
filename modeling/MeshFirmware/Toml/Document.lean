/-!
# Documents of nested tables

A document is a tree of tables under keys. It is built from statements in the order of the text: a
header opens a table, or one more table of an array of tables, and a pair puts a value under a
dotted key of the table that is open. A table remembers how it came to be, since that decides what
later statements may still add to it.
-/

namespace MeshFirmware.Toml

/-- How a table came to be. -/
inductive Origin where
  /-- A header named the table. -/
  | header
  /-- The header of a table inside it passed through it. -/
  | passed
  /-- A dotted key passed through it. -/
  | dotted
  /-- It was written as a value, between braces, and is complete. -/
  | inline
  deriving DecidableEq, Repr

/-- A value. A date or time keeps none of its numbers. -/
inductive Value where
  | text (s : String)
  | integer (n : Int)
  | float (x : Float)
  | boolean (b : Bool)
  | moment
  | array (items : List Value)
  /-- An array of tables that headers have opened one by one, the last one first. -/
  | tables (opened : List Value)
  | table (origin : Origin) (entries : List (String × Value))
  deriving Repr, Inhabited

/-- The pairs of a table, in the order of their first appearance. -/
abbrev Entries := List (String × Value)

/-- The entries after a change of the value under one key, which may be absent before. Nothing comes
of it if the change fails. -/
def Entries.alter? (change : Option Value → Option Value) (key : String) : Entries → Option Entries
  | [] => (change none).map fun v => [(key, v)]
  | (k, v) :: rest =>
    if k == key then (change (some v)).map fun v => (k, v) :: rest
    else (Entries.alter? change key rest).map ((k, v) :: ·)

/-- What a path does to a value under its next key: an absent one becomes a table of the given origin,
a table is entered if `enters` allows its origin, and of an array of tables the last one is entered. -/
def enter? (fresh : Origin) (enters : Origin → Bool) (change : Origin → Entries → Option Entries) :
    Option Value → Option Value
  | none => (change fresh []).map (Value.table fresh)
  | some (.table origin entries) =>
    if enters origin then (change origin entries).map (Value.table origin) else none
  | some (.tables (.table origin entries :: earlier)) =>
    (change origin entries).map fun es => .tables (.table origin es :: earlier)
  | some _ => none

/-- Changes the table that is reached from a table by a path. -/
def follow? (fresh : Origin) (enters : Origin → Bool) (change : Origin → Entries → Option Entries) :
    List String → Origin → Entries → Option Entries
  | [], origin, entries => change origin entries
  | key :: path, _, entries =>
    Entries.alter? (enter? fresh enters (follow? fresh enters change path)) key entries

/-- Follows a path of headers: every table may be entered that is not complete. -/
def followHeaders? (change : Origin → Entries → Option Entries) (path : List String) (origin : Origin)
    (entries : Entries) : Option Entries :=
  follow? .passed (· != .inline) change path origin entries

/-- Follows a dotted key: no table that a header named may be entered. -/
def followDots? (change : Origin → Entries → Option Entries) (path : List String) (origin : Origin)
    (entries : Entries) : Option Entries :=
  follow? .dotted (fun o => o == .passed || o == .dotted) change path origin entries

/-- Puts a value under a key that is still free. -/
def putNew? (key : String) (v : Value) (entries : Entries) : Option Entries :=
  Entries.alter? (fun old => if old.isNone then some v else none) key entries

/-- Puts a value under a dotted key. The table that receives it must have come about through dotted
keys, unless the key has no dots. -/
def putDotted? (path : List String) (key : String) (v : Value) (origin : Origin) (entries : Entries) :
    Option Entries :=
  followDots? (fun o es => if path.isEmpty || o == .dotted then putNew? key v es else none) path origin
    entries

/-- A document under construction: the tree so far, and the path of the table that is open. -/
structure Draft where
  entries : Entries
  current : List String

/-- An empty document with its outermost table open. -/
def Draft.empty : Draft := ⟨[], []⟩

/-- Opens the table at a path. A header may name a table only once, but it may name one that other
headers have passed through. -/
def Draft.openTable? (d : Draft) (path : List String) (key : String) : Option Draft :=
  let named : Option Value → Option Value
    | none => some (.table .header [])
    | some (.table .passed entries) => some (.table .header entries)
    | some _ => none
  (followHeaders? (fun _ es => Entries.alter? named key es) path .header d.entries).map
    fun es => ⟨es, path ++ [key]⟩

/-- Opens one more table of the array of tables at a path. -/
def Draft.openArrayTable? (d : Draft) (path : List String) (key : String) : Option Draft :=
  let appended : Option Value → Option Value
    | none => some (.tables [.table .header []])
    | some (.tables opened) => some (.tables (.table .header [] :: opened))
    | some _ => none
  (followHeaders? (fun _ es => Entries.alter? appended key es) path .header d.entries).map
    fun es => ⟨es, path ++ [key]⟩

/-- Puts a value under a dotted key of the table that is open. -/
def Draft.put? (d : Draft) (path : List String) (key : String) (v : Value) : Option Draft :=
  (followHeaders? (putDotted? path key v) d.current .header d.entries).map fun es => ⟨es, d.current⟩

end MeshFirmware.Toml
