import Campus.Contract.Error
import Campus.Json.Reader

/-!
# Envelopes

A result says whether the call did what it was asked for. If it did not, warnings say why. The
result's own members stand beside the status and the warnings.
-/

namespace Campus

/-- Why something did not happen: a code, a text, and what it is about. -/
structure Warning where
  item : Option String := none
  itemid : Option Int := none
  warningcode : String
  message : String
deriving DecidableEq, Repr

namespace Warning

def toJson (w : Warning) : Json :=
  .ofMembers <|
    (w.item.toList.map fun item => ("item", .string item))
      ++ (w.itemid.toList.map fun id => ("itemid", .int id))
      ++ [("warningcode", .string w.warningcode), ("message", .string w.message)]

def reader (name : String) : Reader Warning :=
  .record name <| Warning.mk <$> .optional "item" .string <*> .optional "itemid" .int64
    <*> .required "warningcode" .string <*> .required "message" .string

end Warning

/-- What a function did: it took effect and answers with a payload, or it did not. -/
inductive Outcome (α : Type) where
  | ok (payload : α)
  | failed (warnings : List Warning)

namespace Outcome

variable {α : Type}

def isOk : Outcome α → Bool
  | .ok _ => true
  | .failed _ => false

def warnings : Outcome α → List Warning
  | .ok _ => []
  | .failed warnings => warnings

def map {β : Type} (f : α → β) : Outcome α → Outcome β
  | .ok payload => .ok (f payload)
  | .failed warnings => .failed warnings

end Outcome

structure Envelope where
  status : Bool
  payload : List (String × Json) := []
  warnings : List Warning := []

namespace Envelope

/-- The members in writing order: a payload may replace the status, but not the warnings. -/
def toJson (e : Envelope) : Json :=
  .ofMembers ([("status", .bool e.status)] ++ e.payload
    ++ [("warnings", .array (e.warnings.map Warning.toJson))])

def reader (warningName : String) : Reader Envelope :=
  .openRecord <|
    (fun status warnings payload => { status, payload, warnings })
      <$> .required "status" .bool
      <*> .withDefault "warnings" (.list (Warning.reader warningName)) []

end Envelope

namespace Outcome

/-- The envelope of an outcome. One that failed has an empty payload. -/
def toEnvelope (empty : List (String × Json)) : Outcome (List (String × Json)) → Envelope
  | .ok payload => { status := true, payload }
  | .failed warnings => { status := false, payload := empty, warnings }

/-- The result that an outcome with no payload of its own gives. -/
def toResult (o : Outcome Unit) : Json :=
  match o with
  | .ok () => Envelope.toJson { status := true }
  | .failed warnings => Envelope.toJson { status := false, warnings }

end Outcome

structure Batch where
  attempted : Nat := 0
  succeeded : Nat := 0
  warnings : List Warning := []

namespace Batch

def success (b : Batch) : Batch :=
  { b with attempted := b.attempted + 1, succeeded := b.succeeded + 1 }

def failure (w : Warning) (b : Batch) : Batch :=
  { b with attempted := b.attempted + 1, warnings := b.warnings ++ [w] }

def failed (b : Batch) : Nat := b.warnings.length

def status (b : Batch) : Bool := b.warnings.isEmpty

def toOutcome (b : Batch) : Outcome Unit := if b.status then .ok () else .failed b.warnings

end Batch

end Campus
