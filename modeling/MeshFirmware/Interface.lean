import MeshFirmware.Json.Value

/-!
# Network interfaces

The interfaces of the node, as the network service of the node lists them in JSON. A record of the list
may be an object, or an array that gives its fields in their order. What the list says beyond the known
fields is passed over.
-/

namespace MeshFirmware

/-- A network interface that the kernel knows. -/
structure Interface where
  name : String
  /-- The number of the interface in the kernel. -/
  index : UInt32
  up : Bool
  protocol : String
  deriving DecidableEq, Repr

namespace Interface

/-- Whether the interface belongs to the mesh. -/
def isMesh (i : Interface) (protocols : List String) : Bool := protocols.contains i.protocol

/-! ## The list of the network service -/

/-- The fields of a record with these names, by their names or in their order. A field may be left out, but
not given twice, and an array has no items beyond the fields. -/
def fields? (names : List String) : Json.Written → Option (List (Option Json.Written))
  | .object entries => do
    let named ← entries.mapM fun (key, v) => (Json.text? key).map (·, v)
    names.mapM fun name =>
      match named.filter fun e => e.1 == name with
      | [] => some none
      | [e] => some (some e.2)
      | _ => none
  | .array items =>
    if items.length ≤ names.length then
      some (items.map some ++ List.replicate (names.length - items.length) none)
    else none
  | _ => none

/-- A text that may be left out or null. -/
def optionalText? : Option Json.Written → Option (Option String)
  | none => some none
  | some .null => some none
  | some (.text ps) => (Json.text? ps).map some
  | some _ => none

/-- A truth value, which is false if it is left out. -/
def flag? : Option Json.Written → Option Bool
  | none => some false
  | some (.boolean b) => some b
  | some _ => none

/-- A record of the list. -/
structure Entry where
  device : Option String
  up : Bool
  protocol : Option String
  deriving DecidableEq, Repr

/-- The record that is written. -/
def entry? (w : Json.Written) : Option Entry := do
  match ← fields? ["device", "up", "proto"] w with
  | [device, up, protocol] =>
    some { device := ← optionalText? device, up := ← flag? up, protocol := ← optionalText? protocol }
  | _ => none

/-- The records of the list. -/
def entries? (s : Bytes) : Option (List Entry) := do
  match ← fields? ["interface"] (← Json.Written.read? s) with
  | [none] => some []
  | [some (.array items)] => items.mapM entry?
  | _ => none

/-- The interfaces of these records, the first one of each number in the kernel. `seen` holds the numbers
that have come before. -/
def ofEntries (indexOf : String → UInt32) (seen : List UInt32) : List Entry → List Interface
  | [] => []
  | e :: rest =>
    match e.device with
    | none => ofEntries indexOf seen rest
    | some name =>
      let index := indexOf name
      if index == 0 || seen.contains index then ofEntries indexOf seen rest
      else ⟨name, index, e.up, e.protocol.getD ""⟩ :: ofEntries indexOf (index :: seen) rest

/-- How the question to the network service went. -/
inductive Inquiry where
  | notStarted
  | finished (status : Nat) (output : Bytes)
  deriving DecidableEq, Repr

/-- Why there is no list of interfaces. -/
inductive Problem where
  | notStarted
  | failed (status : Nat)
  | unreadable
  deriving DecidableEq, Repr

/-- The message for a missing list. -/
def Problem.message : Problem → String
  | .notStarted => "run ubus call network.interface dump"
  | .failed status => s!"ubus call network.interface dump failed: exit status: {status}"
  | .unreadable => "parse network.interface dump"

/-- The interfaces that the network service lists, with their numbers in the kernel, zero for a name it
does not know. -/
def ofInquiry (indexOf : String → UInt32) : Inquiry → Except Problem (List Interface)
  | .notStarted => .error .notStarted
  | .finished status output =>
    if status != 0 then .error (.failed status)
    else match entries? output with
      | some es => .ok (ofEntries indexOf [] es)
      | none => .error .unreadable

end Interface

end MeshFirmware
