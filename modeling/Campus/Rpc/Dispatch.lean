import Campus.Rpc.Method
import Campus.Service.Basic

/-!
# Answering messages

Every text gets a reply. A text that is no request is answered under the id 0.
-/

namespace Campus.Rpc

/-! ## Failures -/

namespace Failure

def invalidRequest : Failure :=
  { code := -32600, message := "Invalid JSON-RPC: the text is not a request" }

def unknownMethod (method : String) : Failure :=
  { code := -32601, message := "Unknown method: " ++ method }

def missingParams : Failure := { code := -32602, message := "Missing params" }

def invalidParams (method : String) (e : ReadError) : Failure :=
  { code := -32602, message := s!"Invalid {method} params: {e.message}" }

def incompatible (client : String) : Failure :=
  { code := -32602
    message := s!"Incompatible protocol version: client={client}, service={protocolVersion}" }

def codeOf : ErrorCategory → Int
  | .invalidInput => -32602
  | .notFound => 404
  | .featureDisabled => 400
  | .accessDenied => 401
  | .internal => 500

def ofError (e : ExternalError) : Failure where
  code := codeOf e.category
  message := e.message
  data := some (ErrorData.toJson ⟨e.errorcode, e.component⟩)

end Failure

/-! ## Methods -/

def readParams {α : Type} (r : Reader α) (method : String) (params : Option Json) :
    Except Failure α :=
  match params with
  | none => .error .missingParams
  | some v => (r.read v).mapError (.invalidParams method)

def hello (s : Service) (params : Option Json) : Except Failure Json := do
  let p ← readParams HelloParams.reader "hello" params
  if p.protocolVersion = protocolVersion then
    return HelloResult.toJson
      { protocolVersion, serviceVersion, functions := s.registry.names }
  else throw (.incompatible p.protocolVersion)

def FunctionEntry.ofFunction (f : ExternalFunction Site) : FunctionEntry where
  name := f.name
  component := f.component
  description := f.description
  input := f.input.toJson
  output := f.output.toJson

def functions (s : Service) : FunctionsResult where
  functions := (Keyed.values s.registry).map FunctionEntry.ofFunction

def status (s : Service) (clock : Clock) : StatusResult where
  uptime := (s.uptime clock).toNat
  served := s.served.toNat
  failed := s.failed.toNat
  functions := s.registry.length

def callFunction (s : Service) (clock : Clock) (function : String) (params : Option Json) :
    Except Failure Json × Service :=
  match readParams CallParams.reader function params with
  | .error f => (.error f, s)
  | .ok p =>
    match s.call clock function p.token p.arguments with
    | (.ok result, s) => (.ok result, s)
    | (.error e, s) => (.error (.ofError e), s)

def answer (s : Service) (clock : Clock) (r : Request) : Except Failure Json × Service :=
  if r.method = "hello" then (hello s r.params, s)
  else if r.method = "service.functions" then (.ok (functions s).toJson, s)
  else if r.method = "service.status" then (.ok (status s clock).toJson, s)
  else if Keyed.contains r.method s.registry then callFunction s clock r.method r.params
  else (.error (.unknownMethod r.method), s)

def Reply.ofAnswer (id : RequestId) : Except Failure Json → Reply
  | .ok result => .response { id, result }
  | .error f => .error { id, error := f }

def dispatch (s : Service) (clock : Clock) (text : String) : Reply × Service :=
  match Request.reader.ofText? text with
  | none => (.error { id := .integer 0, error := .invalidRequest }, s)
  | some r =>
    let (result, s) := answer s clock r
    (.ofAnswer r.id result, s)

end Campus.Rpc
