import Campus.CommandLine.Arguments
import Campus.Rpc.Connection
import Campus.Rpc.Schema
import Campus.Service.Config

/-!
# The program

One program serves the functions, asks a running service whether it is alive, and lists what there
is. It runs on any host that has files, a way to reach a socket, and two streams to write to.
-/

namespace Campus

namespace CommandLine

def program : String := "lms-ws-service"

/-- What the program needs of the machine that it runs on. -/
structure Host (m : Type → Type) where
  environment : Environment
  files : Files m
  makeDirectory : String → m (Except String Unit)
  writeFile : String → String → m (Except String Unit)
  exchange : String → String → m (Except String String)
  serve : Service → String → m (Except String Unit)
  print : String → m Unit
  note : String → m Unit

/-! ## Texts -/

/-- A text with blanks after it, up to a width. -/
def column (width : Nat) (s : String) : String :=
  s ++ String.ofList (List.replicate (width - s.length) ' ')

def functionLine {σ : Type} (f : ExternalFunction σ) : String :=
  column 36 f.name ++ " " ++ column 12 f.component ++ " " ++ f.description ++ "\n"

def usage : String :=
  "Usage: lms-ws-service [OPTIONS] [COMMAND]\n\nCommands: serve, ping, print-schema, " ++
    "list-functions, help\nOptions: --config <CONFIG>, --socket <SOCKET>, --help, --version\n"

def helloRequest : Rpc.Request where
  id := .integer 0
  method := "hello"
  params := some (Rpc.HelloParams.toJson ⟨Rpc.protocolVersion, Rpc.serviceVersion⟩)

/-- How many functions the reply to a greeting names, or what it says instead. -/
def readHello (line : String) : Except String Nat :=
  match Json.ofText? (trimBlanks line) with
  | none => .error "ping: invalid response JSON"
  | some reply =>
    match reply.get? "result" with
    | some result => .ok ((((result.get? "functions").bind Json.array?).map List.length).getD 0)
    | none =>
      let text := ((reply.get? "error").bind (Json.get? "message")).bind Json.string?
      .error ("ping: hello failed: " ++ text.getD "unknown error")

/-! ## Commands -/

section Commands

variable {m : Type → Type} [Monad m]

abbrev Attempt (m : Type → Type) (α : Type) := ExceptT String m α

def ping (h : Host m) (socket : String) : Attempt m Unit := do
  let line ← ExceptT.mk (h.exchange socket helloRequest.toJson.render)
  let count ← liftExcept (readHello line)
  h.note s!"ping: service is alive ({count} functions)"

def writeSchemas (h : Host m) (directory : String) : Attempt m Unit := do
  ExceptT.mk (h.makeDirectory directory)
  for (name, schema) in Rpc.Schema.all do
    ExceptT.mk (h.writeFile (Path.join directory (name ++ ".json")) schema.renderSpread)
  h.note s!"wrote {Rpc.Schema.all.length} schemas to {directory}"

def printSchemas (h : Host m) (directory : Option String) : Attempt m Unit :=
  match directory with
  | some directory => writeSchemas h directory
  | none => h.print ((Json.object Rpc.Schema.all).renderSpread ++ "\n")

def startService (h : Host m) (ambient : Ambient) (c : Config) : Attempt m Service :=
  ExceptT.mk do
    return (← c.start h.files h.environment ambient).mapError
      fun e => "building site: " ++ e.message

def listFunctions (h : Host m) (ambient : Ambient) (c : Config) : Attempt m Unit := do
  let s ← startService h ambient c
  for f in Keyed.values s.registry do
    h.print (functionLine f)

def runCommand (h : Host m) (ambient : Ambient) (command : Command) (values : Values) :
    Attempt m Unit := do
  let loaded : Attempt m Config := ExceptT.mk do
    return (← Config.load h.files h.environment (Keyed.get? .config values)).mapError
      fun e => "loading config: " ++ e.message
  let c ← loaded
  let socket := (Keyed.get? .socket values).getD (c.socket h.environment)
  match command with
  | .serve => ExceptT.mk (h.serve (← startService h ambient c) socket)
  | .ping => ping h socket
  | .printSchema => printSchemas h (Keyed.get? .out values)
  | .listFunctions => listFunctions h ambient c

/-- Runs the program and answers its exit code: 2 for arguments that make no sense, and 1 for a
command that fails. -/
def run (h : Host m) (ambient : Ambient) (args : List String) : m Nat := do
  match readArguments none [] [] args with
  | .version =>
    h.print (program ++ " " ++ Rpc.serviceVersion ++ "\n")
    return 0
  | .help =>
    h.print usage
    return 0
  | .misuse =>
    h.note usage
    return 2
  | .run command values =>
    match ← (runCommand h ambient command values).run with
    | .ok () => return 0
    | .error e =>
      h.note ("Error: " ++ e)
      return 1

end Commands

end CommandLine

end Campus
