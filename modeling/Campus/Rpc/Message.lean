import Campus.Json.Reader

/-!
# Messages

A request names a method and carries an id, which the reply repeats. A reply is a result or an
error.
-/

namespace Campus.Rpc

inductive RequestId where
  | string (s : String)
  | integer (n : Int)
deriving DecidableEq, Repr

namespace RequestId

def text : RequestId → String
  | .string s => s
  | .integer n => toString n

def toJson : RequestId → Json
  | .string s => .string s
  | .integer n => .int n

def reader : Reader RequestId where
  read
    | .string s => .ok (.string s)
    | v => (Reader.int64.read v).map .integer

end RequestId

structure Request where
  id : RequestId
  method : String
  params : Option Json := none

namespace Request

def reader : Reader Request :=
  .record "JSONRPCRequest" <| Request.mk <$> .required "id" RequestId.reader
    <*> .required "method" .string <*> .optional "params" .json

def toJson (r : Request) : Json :=
  .ofMembers <|
    [("id", r.id.toJson), ("method", .string r.method)]
      ++ r.params.toList.map fun params => ("params", params)

end Request

structure Response where
  id : RequestId
  result : Json

namespace Response

def reader : Reader Response :=
  .record "JSONRPCResponse" <| Response.mk <$> .required "id" RequestId.reader
    <*> .required "result" .json

def toJson (r : Response) : Json := .ofMembers [("id", r.id.toJson), ("result", r.result)]

end Response

/-- What went wrong: a code, a text, and more if a function failed. -/
structure Failure where
  code : Int
  message : String
  data : Option Json := none

namespace Failure

def reader : Reader Failure :=
  .record "JSONRPCErrorError" <| Failure.mk <$> .required "code" .int64
    <*> .required "message" .string <*> .optional "data" .json

def toJson (f : Failure) : Json :=
  .ofMembers <|
    [("code", .int f.code), ("message", .string f.message)]
      ++ f.data.toList.map fun data => ("data", data)

end Failure

structure ErrorReply where
  id : RequestId
  error : Failure

namespace ErrorReply

def reader : Reader ErrorReply :=
  .record "JSONRPCError" <| ErrorReply.mk <$> .required "id" RequestId.reader
    <*> .required "error" Failure.reader

def toJson (r : ErrorReply) : Json := .ofMembers [("id", r.id.toJson), ("error", r.error.toJson)]

end ErrorReply

inductive Reply where
  | error (e : ErrorReply)
  | response (r : Response)

namespace Reply

def id : Reply → RequestId
  | .error e => e.id
  | .response r => r.id

def toJson : Reply → Json
  | .error e => e.toJson
  | .response r => r.toJson

/-- Reads a reply, which is an error if it reads as one. -/
def ofJson? (v : Json) : Option Reply :=
  match ErrorReply.reader.read v with
  | .ok e => some (.error e)
  | .error _ => ((Response.reader.read v).toOption).map .response

/-- Reads a reply from a text. All of the text must be in order before it is decided which kind of
reply it is. -/
def ofText? (s : String) : Option Reply := do
  let t ← Json.Tree.ofText? s
  let _ ← t.keep? .whole Json.maxLevels
  readAs ErrorReply.reader .error t <|> readAs Response.reader .response t
where
  readAs {α : Type} (r : Reader α) (reply : α → Reply) (t : Json.Tree) : Option Reply := do
    let v ← t.keep? r.shape Json.maxLevels
    (r.read v).toOption.map reply

end Reply

end Campus.Rpc
