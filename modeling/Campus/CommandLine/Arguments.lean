import Campus.Keyed

/-!
# Arguments

What the arguments of the program ask for. An option may stand before or after the command, once
each.
-/

namespace Campus

namespace CommandLine

inductive Command where
  | serve | ping | printSchema | listFunctions
deriving DecidableEq, Repr

def Command.ofName? (name : String) : Option Command :=
  match name with
  | "serve" => some .serve
  | "ping" => some .ping
  | "print-schema" => some .printSchema
  | "list-functions" => some .listFunctions
  | _ => none

inductive Key where
  | config | socket | out
deriving DecidableEq, Repr

/-- The option of a name; `--out` belongs to one command only. -/
def Key.ofName? (command : Option Command) (name : String) : Option Key :=
  match name with
  | "--config" => some .config
  | "--socket" => some .socket
  | "--out" => if command = some .printSchema then some .out else none
  | _ => none

abbrev Values := List (Key × String)

inductive Request where
  | run (command : Command) (values : Values)
  | version
  | help
  | misuse
deriving DecidableEq, Repr

def splitArgument (arg : String) : String × Option String :=
  let cs := arg.toList
  let name := String.ofList (cs.takeWhile (· != '='))
  match cs.dropWhile (· != '=') with
  | _ :: value => (name, some (String.ofList value))
  | [] => (name, none)

/-- An argument that starts with a hyphen is no value, unless it is a hyphen alone. -/
def isValue (arg : String) : Bool := arg == "-" || !(arg.isEmpty || arg.startsWith "-")

/-- Takes one more value of an option; none if it has one. -/
def Values.give? (key : Key) (value : String) (vs : Values) : Option Values :=
  if value.isEmpty || Keyed.contains key vs then none else some (vs ++ [(key, value)])

/-- A command given alone serves. Values after the command win over those before it. -/
def finish (command : Option Command) (outer inner : Values) : Request :=
  .run (command.getD .serve) (inner ++ outer)

/-- Reads arguments, given the command met so far and the values before and after it. -/
def readArguments (command : Option Command) (outer inner : Values) : List String → Request
  | [] => finish command outer inner
  | "--" :: rest => if rest.isEmpty then finish command outer inner else .misuse
  | arg :: rest =>
    let (name, attached) := splitArgument arg
    match Key.ofName? command name with
    | some key =>
      match attached, rest with
      | some value, rest => take key value rest
      | none, value :: rest => if isValue value then take key value rest else .misuse
      | none, [] => .misuse
    | none =>
      if arg = "--help" ∨ arg.startsWith "-h" then .help
      else if command.isNone ∧ (arg = "--version" ∨ arg.startsWith "-V") then .version
      else
        match command, Command.ofName? arg with
        | none, some c => readArguments (some c) inner [] rest
        | none, none => if arg = "help" then helpOn rest else .misuse
        | some _, _ => .misuse
where
  take (key : Key) (value : String) (rest : List String) : Request :=
    match inner.give? key value with
    | some inner => readArguments command outer inner rest
    | none => .misuse
  helpOn : List String → Request
    | [] => .help
    | [name] => if name = "help" ∨ (Command.ofName? name).isSome then .help else .misuse
    | _ => .misuse

end CommandLine

end Campus
