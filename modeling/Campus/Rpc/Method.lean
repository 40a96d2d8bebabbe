import Campus.Contract.Envelope
import Campus.Contract.Registry
import Campus.Rpc.Message

/-!
# Parameters and results of methods
-/

namespace Campus.Rpc

/-- The version of the messages, which client and service must agree on. -/
def protocolVersion : String := "1.0"

def serviceVersion : String := "0.0.0"

/-- What the error of a function is, as the data of a failure. -/
structure ErrorData where
  errorcode : String
  component : String
deriving DecidableEq, Repr

namespace ErrorData

def reader : Reader ErrorData :=
  .record "ErrorData" <| ErrorData.mk <$> .required "errorcode" .string
    <*> .required "component" .string

def toJson (d : ErrorData) : Json :=
  .ofMembers [("errorcode", .string d.errorcode), ("component", .string d.component)]

end ErrorData

structure HelloParams where
  protocolVersion : String
  clientVersion : String
deriving DecidableEq, Repr

namespace HelloParams

def reader : Reader HelloParams :=
  .record "HelloParams" <| HelloParams.mk <$> .required "protocol_version" .string
    <*> .required "client_version" .string

def toJson (p : HelloParams) : Json :=
  .ofMembers [("protocol_version", .string p.protocolVersion),
    ("client_version", .string p.clientVersion)]

end HelloParams

structure HelloResult where
  protocolVersion : String
  serviceVersion : String
  functions : List String
deriving DecidableEq, Repr

namespace HelloResult

def reader : Reader HelloResult :=
  .record "HelloResult" <| HelloResult.mk <$> .required "protocol_version" .string
    <*> .required "service_version" .string <*> .required "functions" (.list .string)

def toJson (r : HelloResult) : Json :=
  .ofMembers [("protocol_version", .string r.protocolVersion),
    ("service_version", .string r.serviceVersion), ("functions", .strings r.functions)]

end HelloResult

/-- The parameters of a method that is a function: a token and the function's arguments. -/
structure CallParams where
  token : String
  arguments : Json

namespace CallParams

def reader : Reader CallParams :=
  .record "CallParams" <| CallParams.mk <$> .required "wstoken" .string
    <*> .withDefault "args" .json .null

def toJson (p : CallParams) : Json :=
  .ofMembers [("wstoken", .string p.token), ("args", p.arguments)]

end CallParams

/-- The result of a function as a client reads it. -/
def callResultReader : Reader Envelope := Envelope.reader "WireWarning"

/-- The result of a function as a client writes it, its own members last. -/
def callResultToJson (e : Envelope) : Json :=
  .ofMembers ([("status", .bool e.status), ("warnings", .array (e.warnings.map Warning.toJson))]
    ++ e.payload)

structure FunctionEntry where
  name : String
  component : String
  description : String
  input : Json
  output : Json

namespace FunctionEntry

def reader : Reader FunctionEntry :=
  .record "FunctionDescription" <| FunctionEntry.mk <$> .required "name" .string
    <*> .required "component" .string <*> .required "description" .string
    <*> .required "input" .json <*> .required "output" .json

def toJson (f : FunctionEntry) : Json :=
  .ofMembers [("name", .string f.name), ("component", .string f.component),
    ("description", .string f.description), ("input", f.input), ("output", f.output)]

end FunctionEntry

structure FunctionsResult where
  functions : List FunctionEntry

namespace FunctionsResult

def reader : Reader FunctionsResult :=
  .record "FunctionsResult" <| FunctionsResult.mk
    <$> .required "functions" (.list FunctionEntry.reader)

def toJson (r : FunctionsResult) : Json :=
  .ofMembers [("functions", .array (r.functions.map FunctionEntry.toJson))]

end FunctionsResult

structure StatusResult where
  uptime : Nat
  served : Nat
  failed : Nat
  functions : Nat
deriving DecidableEq, Repr

namespace StatusResult

def reader : Reader StatusResult :=
  .record "ServiceStatusResult" <| StatusResult.mk <$> .required "uptime_s" .word64
    <*> .required "calls_served" .word64 <*> .required "calls_failed" .word64
    <*> .required "functions" .word64

def toJson (r : StatusResult) : Json :=
  .ofMembers [("uptime_s", .int r.uptime), ("calls_served", .int r.served),
    ("calls_failed", .int r.failed), ("functions", .int r.functions)]

end StatusResult

end Campus.Rpc
