import Campus.CommandLine.Run
import Std.Time.DateTime.Timestamp

/-!
# The program on this machine

Files are those of the machine. A service answers what comes in at the standard input, line by line,
at the standard output.
-/

namespace Campus.Machine

/-- The reason why an action on a file failed. -/
def reasonOf : IO.Error → String
  | .noFileOrDirectory _ code _ => s!"No such file or directory (os error {code})"
  | e => toString e

def attempt {α : Type} (act : IO α) : IO (Except String α) := do
  match ← act.toBaseIO with
  | .ok a => return .ok a
  | .error e => return .error (reasonOf e)

def now : IO Clock := do
  return Clock.ofSeconds (← Std.Time.Timestamp.now).toSecondsSinceUnixEpoch.toInt.toNat

def draw : IO Nat := do
  return (← IO.getRandomBytes 16).toList.foldl (fun n b => 256 * n + b.toNat) 0

def hexText (n : Nat) : String :=
  String.ofList ((List.range 32).reverse.map fun i => Json.hexDigit ((n >>> (4 * i)) % 16))

/-- The time and chance of this machine. -/
def ambient : IO Ambient := do
  let (award, backpack, collection, token) := (← draw, ← draw, ← draw, ← draw)
  return {
    clock := ← now
    awardHash := fun id => hexText (award + id.toNat)
    backpackUid := fun id => hexText (backpack + id.toNat)
    entityId := fun id => hexText (collection + id.toNat)
    token := fun n => hexText (token + n) }

partial def answerLines (s : Service) (input output : IO.FS.Stream) : IO Unit := do
  let line ← input.getLine
  if line.isEmpty then return
  let (replies, s) := Rpc.connection s (← now) line.toUTF8.toList
  for reply in replies do
    output.putStr reply.line
  output.flush
  answerLines s input output

def host : IO (CommandLine.Host IO) := do
  return {
    environment :=
      { home := (← IO.getEnv "HOME").filter (!·.isEmpty)
        user := ← IO.getEnv "USER"
        runtimeDir := ← IO.getEnv "XDG_RUNTIME_DIR"
        configPath := ← IO.getEnv "LMS_WS_CONFIG" }
    files :=
      { exists? := fun path => do return (← attempt (IO.FS.readFile path)).isOk
        read := fun path => attempt (IO.FS.readFile path) }
    makeDirectory := fun path => attempt (IO.FS.createDirAll path)
    writeFile := fun path text => attempt (IO.FS.writeFile path text)
    exchange := fun path _ => return .error s!"ping: cannot connect to {path}"
    serve := fun s _ => do attempt (answerLines s (← IO.getStdin) (← IO.getStdout))
    print := IO.print
    note := IO.eprintln }

end Campus.Machine

open Campus in
def main (args : List String) : IO UInt32 := do
  return (← CommandLine.run (← Machine.host) (← Machine.ambient) args).toUInt32
