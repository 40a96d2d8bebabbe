import Campus.Contract.Description
import Campus.Email
import Campus.Url.Basic

/-!
# Coercion of plain values

A plain value is brought to the canonical form of its type: numbers may be written as strings, and
truth as `0` and `1`. What has no such form is rejected, with the reason.
-/

namespace Campus

/-- Why a plain value was rejected. Values are quoted by their text or named by their kind. -/
inductive Rejection where
  | notInteger (what : String)
  | notNumber (what : String)
  | notBoolean (what : String)
  | notAlphanumeric (text : String)
  | notScalar (kind : String)
  | urlWithoutHost (text : String)
  | invalidUrl (text : String) (error : UrlError)
  | notEmail (text : String)
  | notObject
  | notList
deriving DecidableEq, Repr

namespace Rejection

def reason : Rejection → String
  | .notInteger what => what ++ " is not an integer"
  | .notNumber what => what ++ " is not a number"
  | .notBoolean what => what ++ " is not a boolean"
  | .notAlphanumeric text => inQuotes text ++ " contains characters other than letters and digits"
  | .notScalar kind => kind ++ " is not a scalar"
  | .urlWithoutHost text => inQuotes text ++ " has no host"
  | .invalidUrl text error => inQuotes text ++ " is not a valid URL: " ++ error.message
  | .notEmail text => inQuotes text ++ " is not a valid email address"
  | .notObject => "expected an object"
  | .notList => "expected a list"
where
  inQuotes (s : String) : String := "'" ++ s ++ "'"

end Rejection

/-- How a rejection names a value: strings in quotes, numbers as written, others by kind. -/
def Json.mention : Json → String
  | .string s => "'" ++ s ++ "'"
  | .number n => n.text
  | v => v.kind

def Json.scalarText? : Json → Except Rejection String
  | .string s => .ok s
  | .number n => .ok n.text
  | .bool b => .ok (if b then "1" else "0")
  | v => .error (.notScalar v.kind)

/-- The whole number that a double is, if it lies strictly between -2^63 and 2^63. -/
def Binary64.toInt64? (x : Binary64) : Option Int :=
  if x.units < Binary64.one <<< 63 then x.toInt? else none

def Json.toInteger? : Json → Option Int
  | .number (.int n) => if IsInt64 n then some n else none
  | .number (.double x) => x.toInt64?
  | .string s => readInt64? (trimChars isBlank s.toList)
  | _ => none

def Json.toNumber? : Json → Option Number
  | .number n => some n
  | .string s =>
    (DecimalLiteral.ofText? (trimChars isBlank s.toList)).bind fun x => x.toDouble?.map .double
  | _ => none

def Json.toTruth? : Json → Option Bool
  | .bool b => some b
  | .number (.int 0) => some false
  | .number (.int 1) => some true
  | .string "0" => some false
  | .string "false" => some false
  | .string "1" => some true
  | .string "true" => some true
  | _ => none

def isAlphanumeric (c : Char) : Bool := isDigit c || Url.isAsciiAlpha c

/-- The text is empty or a URL with a host. -/
def checkUrl (s : String) : Except Rejection Unit :=
  if s.isEmpty then .ok ()
  else
    match Url.parse s with
    | .ok url => if url.host.isSome then .ok () else .error (.urlWithoutHost s)
    | .error e => .error (.invalidUrl s e)

/-- Brings a value to the canonical form of a type. -/
def ParamType.coerce (type : ParamType) (v : Json) : Except Rejection Json :=
  match type with
  | .int =>
    match v.toInteger? with
    | some n => .ok (.int n)
    | none => .error (.notInteger v.mention)
  | .float =>
    match v.toNumber? with
    | some n => .ok (.number n)
    | none => .error (.notNumber v.mention)
  | .bool =>
    match v.toTruth? with
    | some b => .ok (.bool b)
    | none => .error (.notBoolean v.mention)
  | .alphanum => do
    let s ← v.scalarText?
    if s.toList.all isAlphanumeric then .ok (.string s) else .error (.notAlphanumeric s)
  | .text | .raw => v.scalarText?.map .string
  | .url => do
    let s ← v.scalarText?
    checkUrl s
    return .string s
  | .email => do
    let s ← v.scalarText?
    if s.isEmpty || isEmail s then .ok (.string s) else .error (.notEmail s)

end Campus
