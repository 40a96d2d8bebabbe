import Campus.Json.Basic

/-!
# Schemas of messages

JSON Schema documents that describe the messages and what they carry, for clients to check theirs
against.
-/

namespace Campus.Rpc.Schema

/-! ## Parts -/

/-- The schema that any value meets. -/
def anything : Json := .bool true

def ofType (type : String) : Json := .ofMembers [("type", .string type)]

def text : Json := ofType "string"

def integer (format : String) : Json :=
  .ofMembers [("type", .string "integer"), ("format", .string format)]

def natural (format : String) : Json :=
  .ofMembers [("type", .string "integer"), ("format", .string format),
    ("minimum", .number (.double (.zero false)))]

/-- A value of a type, or null. -/
def nullable (type : String) : List (String × Json) := [("type", .strings [type, "null"])]

def reference (name : String) : Json := .ofMembers [("$ref", .string ("#/definitions/" ++ name))]

def arrayOf (item : Json) : List (String × Json) := [("type", .string "array"), ("items", item)]

structure Property where
  name : String
  schema : Json
  required : Bool := true

/-- The members of the schema of a record. What it must have is listed in order. -/
def record (properties : List Property) : List (String × Json) :=
  let byName := Keyed.ofList (properties.map fun p => (p.name, p))
  [("type", .string "object"),
    ("properties", .ofMembers (byName.map fun (name, p) => (name, p.schema))),
    ("required", .strings ((byName.filter (·.2.required)).map (·.1)))]

/-- A document with a title, further members, and definitions that it refers to. -/
def document (title : String) (definitions members : List (String × Json)) : String × Json :=
  (title, .ofMembers <|
    [("$schema", .string "http://json-schema.org/draft-07/schema#"), ("title", .string title)]
      ++ (if definitions.isEmpty then [] else [("definitions", .ofMembers definitions)])
      ++ members)

def describedAs (desc : String) : String × Json := ("description", .string desc)

/-! ## Definitions -/

def requestId : String × Json :=
  ("RequestId", .ofMembers [("anyOf", .array [text, integer "int64"])])

def failure : String × Json :=
  ("JSONRPCErrorError", .ofMembers <| record [
    { name := "code", schema := integer "int64" },
    { name := "message", schema := text },
    { name := "data", schema := anything, required := false }])

def warning : String × Json :=
  ("WireWarning", .ofMembers <| record [
    { name := "item", schema := .ofMembers (nullable "string"), required := false },
    { name := "itemid"
      schema := .ofMembers (("format", .string "int64") :: nullable "integer")
      required := false },
    { name := "warningcode", schema := text },
    { name := "message", schema := text }])

def functionEntry : String × Json :=
  ("FunctionDescription", .ofMembers <| record [
    { name := "name", schema := text },
    { name := "component", schema := text },
    { name := "description", schema := text },
    { name := "input", schema := anything },
    { name := "output", schema := anything }])

/-! ## Documents -/

def request : String × Json :=
  document "JSONRPCRequest" [requestId] <| record [
    { name := "id", schema := reference "RequestId" },
    { name := "method", schema := text },
    { name := "params", schema := anything, required := false }]

def response : String × Json :=
  document "JSONRPCResponse" [requestId] <| record [
    { name := "id", schema := reference "RequestId" },
    { name := "result", schema := anything }]

def errorReply : String × Json :=
  document "JSONRPCError" [requestId, failure] <| record [
    { name := "id", schema := reference "RequestId" },
    { name := "error", schema := reference "JSONRPCErrorError" }]

def errorData : String × Json :=
  document "ErrorData" [] <|
    describedAs "`error.data` attached to every external-function failure."
      :: record [{ name := "errorcode", schema := text }, { name := "component", schema := text }]

def helloParams : String × Json :=
  document "HelloParams" [] <| record [
    { name := "protocol_version", schema := text },
    { name := "client_version", schema := text }]

def helloResult : String × Json :=
  document "HelloResult" [] <| record [
    { name := "protocol_version", schema := text },
    { name := "service_version", schema := text },
    { name := "functions"
      schema := .ofMembers <|
        describedAs "Names of the external functions this service answers." :: arrayOf text }]

def callParams : String × Json :=
  document "CallParams" [] <|
    describedAs "Params of any external-function method."
      :: record [
        { name := "wstoken", schema := text },
        { name := "args"
          schema := .ofMembers [
            describedAs
              "Function arguments; validated against the function's input description.",
            ("default", .null)]
          required := false }]

/-- What a client is told about the result of a function. -/
def callResultText : String :=
  "`status` + `warnings` envelope as seen on the wire. Function specific payload keys " ++
    "(`badge`, `badges`) are kept in `payload`."

def callResult : String × Json :=
  document "CallResult" [warning] <|
    [describedAs callResultText, ("additionalProperties", .bool true)]
      ++ record [
        { name := "status", schema := ofType "boolean" },
        { name := "warnings"
          schema := .ofMembers (("default", .array []) :: arrayOf (reference "WireWarning"))
          required := false }]

def functionsResult : String × Json :=
  document "FunctionsResult" [functionEntry] <| record [
    { name := "functions", schema := .ofMembers (arrayOf (reference "FunctionDescription")) }]

def statusResult : String × Json :=
  document "ServiceStatusResult" [] <| record [
    { name := "uptime_s", schema := natural "uint64" },
    { name := "calls_served", schema := natural "uint64" },
    { name := "calls_failed", schema := natural "uint64" },
    { name := "functions", schema := natural "uint" }]

def all : Keyed String Json :=
  Keyed.ofList [request, response, errorReply, errorData, helloParams, helloResult, callParams,
    callResult, functionsResult, statusResult]

end Campus.Rpc.Schema
