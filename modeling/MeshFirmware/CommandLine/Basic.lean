/-!
# Command lines

An interface lists the options of a program. Options are written long, after two hyphens, or short,
after one, where several flags may stand together. An option that takes a value finds it attached
or in the next argument, unless that looks like an option. Each option may be given once. After an
argument of two hyphens everything is an operand.
-/

namespace MeshFirmware.CommandLine

/-- An option of a program. -/
structure Opt where
  short : Option Char := none
  long : String
  /-- What the value is called in the help, for an option that takes one. -/
  valueName : Option String := none
  /-- Whether the value must not be empty. -/
  nonEmpty : Bool := false
  help : String
  deriving DecidableEq, Repr

/-- The command line of a program. -/
structure Interface where
  name : String
  version : String
  about : String
  options : List Opt
  /-- The name and the help of the operands, if there can be any. -/
  operands : Option (String × String)

/-- Why a command line does not start the program. -/
inductive UsageError where
  /-- An option or an operand that the program does not have. -/
  | unknown
  /-- A value that is missing, or empty where it must not be. -/
  | badValue
  /-- An option given twice. -/
  | repeated
  /-- A value for an option that takes none. -/
  | unwantedValue
  /-- The help was asked for. -/
  | help
  /-- The version was asked for. -/
  | version
  deriving DecidableEq, Repr

/-- What a command line gives: flags, options with their values, and operands. -/
structure Given where
  flags : List String := []
  values : List (String × String) := []
  operands : List String := []
  deriving DecidableEq, Repr

namespace Given

/-- Whether a flag was given. -/
def has (g : Given) (long : String) : Bool := g.flags.contains long

/-- The value of an option. -/
def value? (g : Given) (long : String) : Option String := g.values.lookup long

end Given

/-- The options that every program has: help and version. -/
def standardOptions : List Opt :=
  [ { short := some 'h', long := "help", help := "Print help" },
    { short := some 'V', long := "version", help := "Print version" } ]

/-- All options of a program. -/
def Interface.allOptions (i : Interface) : List Opt := i.options ++ standardOptions

/-- What is known after some arguments. -/
structure Progress where
  given : Given := {}
  /-- The option whose value is still to come or has just come. -/
  pending : Option (Opt × Option String) := none
  /-- Whether everything that follows is an operand. -/
  onlyOperands : Bool := false

namespace Progress

/-- Records the value of an option. -/
def store (p : Progress) (o : Opt) (v : String) : Except UsageError Progress :=
  if (p.given.value? o.long).isSome then .error .repeated
  else if o.nonEmpty && v.isEmpty then .error .badValue
  else .ok { p with given := { p.given with values := p.given.values ++ [(o.long, v)] } }

/-- Records the option that was pending; by now its value must have come. -/
def settle (p : Progress) : Except UsageError Progress :=
  match p.pending with
  | none => .ok p
  | some (_, none) => .error .badValue
  | some (o, some v) => { p with pending := none }.store o v

/-- Records an option that takes no value. Help and version end the reading. -/
def flag (p : Progress) (o : Opt) : Except UsageError Progress := do
  let p ← p.settle
  if o.long == "help" then .error .help
  else if o.long == "version" then .error .version
  else if p.given.has o.long then .error .repeated
  else .ok { p with given := { p.given with flags := p.given.flags ++ [o.long] } }

/-- Records an option that takes a value, attached or still to come. -/
def option (p : Progress) (o : Opt) (attached : Option String) : Except UsageError Progress := do
  let p ← p.settle
  match attached with
  | some v => p.store o v
  | none => .ok { p with pending := some (o, none) }

/-- Records an operand. -/
def operand (i : Interface) (p : Progress) (s : String) : Except UsageError Progress :=
  if i.operands.isNone then .error .unknown
  else do
    let p ← p.settle
    .ok { p with given := { p.given with operands := p.given.operands ++ [s] } }

/-- Reads a long option, without its hyphens. -/
def long (i : Interface) (p : Progress) (body : List Char) : Except UsageError Progress :=
  let name := String.ofList (body.takeWhile (· != '='))
  let attached := match body.dropWhile (· != '=') with
    | _ :: v => some (String.ofList v)
    | [] => none
  match i.allOptions.find? fun o => o.long == name with
  | none => .error .unknown
  | some o =>
    if o.valueName.isSome then p.option o attached
    else if attached.isSome then .error .unwantedValue
    else p.flag o

/-- Reads short options, without their hyphen. One that takes a value takes all that follows it, an equals
sign in front not counting. -/
def short (i : Interface) (p : Progress) : List Char → Except UsageError Progress
  | [] => .ok p
  | c :: rest =>
    match i.allOptions.find? fun o => o.short == some c with
    | none => .error .unknown
    | some o =>
      if o.valueName.isSome then
        p.option o (match rest with
          | [] => none
          | '=' :: v => some (String.ofList v)
          | v => some (String.ofList v))
      else do
        let p ← p.flag o
        short i p rest

/-- Reads one argument. -/
def argument (i : Interface) (p : Progress) (s : String) : Except UsageError Progress :=
  if p.onlyOperands then p.operand i s
  else match s.toList with
    | ['-', '-'] => .ok { p with onlyOperands := true }
    | '-' :: '-' :: body => p.long i body
    | '-' :: c :: body => p.short i (c :: body)
    | _ =>
      match p.pending with
      | some (o, none) => .ok { p with pending := some (o, some s) }
      | _ => p.operand i s

end Progress

/-- Reads the arguments of a program in order. -/
def read (i : Interface) (args : List String) : Except UsageError Given := do
  let p ← args.foldlM (Progress.argument i) {}
  let p ← p.settle
  .ok p.given

/-! ## Help -/

/-- How an option is written in the help. -/
def Opt.synopsis (o : Opt) : String :=
  (match o.short with
    | some c => String.ofList ['-', c] ++ ", "
    | none => "    ")
  ++ "--" ++ o.long
  ++ (match o.valueName with
    | some v => " <" ++ v ++ ">"
    | none => "")

/-- Lines of two columns, the second one aligned. -/
def columns (rows : List (String × String)) : String :=
  let width := rows.foldl (fun w r => max w r.1.length) 0
  String.join (rows.map fun (a, b) =>
    "  " ++ a ++ String.ofList (List.replicate (width - a.length + 2) ' ') ++ b ++ "\n")

/-- The help of a program. -/
def Interface.helpText (i : Interface) : String :=
  let usage := "Usage: " ++ i.name ++ " [OPTIONS]" ++ (match i.operands with
    | some (n, _) => " [" ++ n ++ "]..."
    | none => "")
  let operands := match i.operands with
    | some (n, h) => "Arguments:\n" ++ columns [("[" ++ n ++ "]...", h)] ++ "\n"
    | none => ""
  i.about ++ "\n\n" ++ usage ++ "\n\n" ++ operands ++ "Options:\n"
    ++ columns (i.allOptions.map fun o => (o.synopsis, o.help))

/-- The name and the version of a program. -/
def Interface.versionText (i : Interface) : String := i.name ++ " " ++ i.version ++ "\n"

end MeshFirmware.CommandLine
