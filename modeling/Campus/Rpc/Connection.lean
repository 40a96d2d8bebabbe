import Campus.Json.Printer
import Campus.Rpc.Dispatch
import Campus.Text.Blank
import Campus.Text.Utf8

/-!
# Connections

A connection carries lines of text. Every line that is not blank is answered with a line. A line
that is not UTF-8 ends the connection.
-/

namespace Campus.Rpc

/-- The lines of a stream of bytes, without the line feeds that end them; the last may lack one. -/
def lines : List UInt8 → List (List UInt8)
  | [] => []
  | b :: rest =>
    if b = 10 then [] :: lines rest
    else
      match lines rest with
      | [] => [[b]]
      | line :: others => (b :: line) :: others

/-- Answers lines one after the other, each at its own time. -/
def converse (s : Service) : List (Clock × List UInt8) → List Reply × Service
  | [] => ([], s)
  | (clock, line) :: rest =>
    match utf8Text? line with
    | none => ([], s)
    | some cs =>
      match trimChars isBlank cs with
      | [] => converse s rest
      | c :: cs =>
        let (reply, s) := dispatch s clock (String.ofList (c :: cs))
        let (replies, s) := converse s rest
        (reply :: replies, s)

/-- Answers a stream of bytes; `clock i` is the time at which line `i` is read. -/
def serve (s : Service) (clock : Nat → Clock) (bytes : List UInt8) : List Reply × Service :=
  converse s ((lines bytes).mapIdx fun i line => (clock i, line))

/-- Answers a stream of bytes all at one time. -/
def connection (s : Service) (clock : Clock) (bytes : List UInt8) : List Reply × Service :=
  serve s (fun _ => clock) bytes

def Reply.line (r : Reply) : String := r.toJson.render ++ "\n"

end Campus.Rpc
