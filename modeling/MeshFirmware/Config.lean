import MeshFirmware.Disk
import MeshFirmware.Text.Table
import MeshFirmware.Toml.Reader

/-!
# The configuration

What an operator can set, with the value of each setting that is left out. A section may be written as a
table, or as an array that gives its settings in their order. A setting of the wrong kind makes the
whole configuration invalid; settings with unknown names are ignored.
-/

namespace MeshFirmware

/-- How the program logs. -/
structure LogConfig where
  level : String := "info"
  dir : Option String := none
  retentionDays : UInt64 := 7
  deriving DecidableEq, Repr

/-- One branch of the firmware. -/
structure BranchConfig where
  /-- The name of the branch in manifests. -/
  name : String := ""
  mirrors : List String := []
  /-- How many different keys must have signed. -/
  goodSignatures : Nat := 1
  /-- Public keys in base sixteen. -/
  pubkeys : List String := []
  deriving DecidableEq, Repr

/-- The protocols of interfaces that belong to the mesh. -/
def defaultMeshProtocols : List String := ["gluon_mesh", "gluon_wired"]

/-- The port on which nodes answer questions about themselves. -/
def respondPort : UInt16 := 1001

/-- How the network is used. -/
structure NetworkConfig where
  fetchTimeout : UInt64 := 300
  connectTimeout : UInt64 := 10
  port : UInt16 := respondPort
  discoveryTimeout : UInt64 := 3
  meshProtocols : List String := defaultMeshProtocols
  deriving DecidableEq, Repr

/-- Where files are. -/
structure PathConfig where
  lockFile : String := "/var/lock/autoupdater.lock"
  firmwareFile : String := "/tmp/firmware.bin"
  sysupgrade : String := "/sbin/sysupgrade"
  hooksDir : String := "/usr/lib/autoupdater"
  releaseFile : String := "/lib/gluon/release"
  imageNameFile : String := "/tmp/sysinfo/image_name"
  proxyLockFile : String := "/tmp/fwproxy.lock"
  deriving DecidableEq, Repr

/-- The whole configuration. -/
structure Config where
  enabled : Bool := false
  branch : String := "stable"
  log : LogConfig := {}
  branches : NameTable BranchConfig := .empty
  network : NetworkConfig := {}
  paths : PathConfig := {}

/-- The place of the configuration unless the command line gives another one. -/
def defaultConfigPath : String := "/etc/autoupdater.toml"

namespace Config

/-- The configuration in which nothing is set. -/
def default : Config := {}

instance : Inhabited Config := ⟨default⟩

/-! ## Settings of a section -/

/-- The settings of a section, by their names or in their order. -/
inductive Section where
  | named (entries : Toml.Entries)
  | ordered (items : List Toml.Value)

/-- The settings that a value holds. A date holds none that has a meaning here. -/
def Section.ofValue? : Toml.Value → Option Section
  | .table _ entries => some (.named entries)
  | .array items => some (.ordered items)
  | .tables opened => some (.ordered opened.reverse)
  | .moment => some (.named [])
  | _ => none

/-- The setting with this name and this place in the order. -/
def Section.find? (s : Section) (name : String) (place : Nat) : Option Toml.Value :=
  match s with
  | .named entries => (entries.find? fun e => e.1 == name).map (·.2)
  | .ordered items => items[place]?

/-- Reads a setting, which has its default if it is left out. -/
def Section.read? {α : Type} (s : Section) (name : String) (place : Nat) (kind : Toml.Value → Option α)
    (default : α) : Option α :=
  match s.find? name place with
  | some v => kind v
  | none => some default

/-- A text. -/
def text? : Toml.Value → Option String
  | .text s => some s
  | _ => none

/-- A truth value. -/
def boolean? : Toml.Value → Option Bool
  | .boolean b => some b
  | _ => none

/-- A number that is not negative. -/
def count? : Toml.Value → Option Nat
  | .integer n => if 0 ≤ n then some n.toNat else none
  | _ => none

/-- A number of 64 bits. -/
def word64? (v : Toml.Value) : Option UInt64 := (count? v).map UInt64.ofNat

/-- A number of 16 bits. -/
def word16? (v : Toml.Value) : Option UInt16 :=
  (count? v).bind fun n => if n < UInt16.size then some (UInt16.ofNat n) else none

/-- A list of texts. -/
def texts? : Toml.Value → Option (List String)
  | .array items => items.mapM text?
  | .tables opened => opened.reverse.mapM text?
  | _ => none

/-- The section on logging. -/
def log? (v : Toml.Value) : Option LogConfig := do
  let s ← Section.ofValue? v
  let d : LogConfig := {}
  let level ← s.read? "level" 0 text? d.level
  let dir ← s.read? "dir" 1 (fun v => (text? v).map some) d.dir
  let retentionDays ← s.read? "retention_days" 2 word64? d.retentionDays
  some { level, dir, retentionDays }

/-- The section on one branch. -/
def branch? (v : Toml.Value) : Option BranchConfig := do
  let s ← Section.ofValue? v
  let d : BranchConfig := {}
  let name ← s.read? "name" 0 text? d.name
  let mirrors ← s.read? "mirrors" 1 texts? d.mirrors
  let goodSignatures ← s.read? "good_signatures" 2 count? d.goodSignatures
  let pubkeys ← s.read? "pubkeys" 3 texts? d.pubkeys
  some { name, mirrors, goodSignatures, pubkeys }

/-- The section on the network. -/
def network? (v : Toml.Value) : Option NetworkConfig := do
  let s ← Section.ofValue? v
  let d : NetworkConfig := {}
  let fetchTimeout ← s.read? "fetch_timeout_seconds" 0 word64? d.fetchTimeout
  let connectTimeout ← s.read? "connect_timeout_seconds" 1 word64? d.connectTimeout
  let port ← s.read? "respondd_port" 2 word16? d.port
  let discoveryTimeout ← s.read? "discovery_timeout_seconds" 3 word64? d.discoveryTimeout
  let meshProtocols ← s.read? "mesh_protocols" 4 texts? d.meshProtocols
  some { fetchTimeout, connectTimeout, port, discoveryTimeout, meshProtocols }

/-- The section on files. -/
def paths? (v : Toml.Value) : Option PathConfig := do
  let s ← Section.ofValue? v
  let d : PathConfig := {}
  let lockFile ← s.read? "lock_file" 0 text? d.lockFile
  let firmwareFile ← s.read? "firmware_file" 1 text? d.firmwareFile
  let sysupgrade ← s.read? "sysupgrade" 2 text? d.sysupgrade
  let hooksDir ← s.read? "hooks_dir" 3 text? d.hooksDir
  let releaseFile ← s.read? "release_file" 4 text? d.releaseFile
  let imageNameFile ← s.read? "image_name_file" 5 text? d.imageNameFile
  let proxyLockFile ← s.read? "proxy_lock_file" 6 text? d.proxyLockFile
  some { lockFile, firmwareFile, sysupgrade, hooksDir, releaseFile, imageNameFile, proxyLockFile }

/-- The branches, each under its key. -/
def branches? : Toml.Value → Option (List (String × BranchConfig))
  | .table _ entries => entries.mapM fun (key, v) => (branch? v).map (key, ·)
  | _ => none

/-! ## Reading a configuration -/

/-- A branch without a name has its key for one. -/
def nameBranch (key : String) (b : BranchConfig) : BranchConfig :=
  if b.name.isEmpty then { b with name := key } else b

/-- Whether every time-out and the port can be used. -/
def isUsable (n : NetworkConfig) : Bool :=
  n.fetchTimeout != 0 && n.connectTimeout != 0 && n.discoveryTimeout != 0 && n.port != 0

/-- The configuration of a document. Network settings that cannot be used are all put back to their
defaults. -/
def ofEntries? (entries : Toml.Entries) : Option Config := do
  let s : Section := .named entries
  let d := Config.default
  let enabled ← s.read? "enabled" 0 boolean? d.enabled
  let branch ← s.read? "branch" 1 text? d.branch
  let log ← s.read? "logging" 2 log? d.log
  let branches ← s.read? "branches" 3 branches? []
  let network ← s.read? "network" 4 network? d.network
  let paths ← s.read? "paths" 5 paths? d.paths
  some {
    enabled, branch, log, paths
    branches := .ofList (branches.map fun (key, b) => (key, nameBranch key b))
    network := if isUsable network then network else {} }

/-- The configuration in a text, if it is a valid one. -/
def parse? (text : String) : Option Config := (Toml.parse? text).bind ofEntries?

/-- The message for a text that is no configuration. -/
def invalidMessage : String := "parse config TOML"

/-- The configuration in a file. A file that is missing or holds no configuration stands for the one in which
nothing is set; there is none if a file cannot be read or is not UTF-8. -/
def load : FileRead → Option Config
  | .error .notFound => some .default
  | .error _ => none
  | .ok bytes => bytes.text?.map fun text => (parse? text).getD .default

/-- The message for a file that cannot be read. -/
def unreadableMessage (path : String) : String := s!"read config {path}"

end Config

end MeshFirmware
