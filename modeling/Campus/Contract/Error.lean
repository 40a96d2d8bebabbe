import Campus.Contract.Fitting
import Campus.Contract.Strings

/-!
# Errors of a call

An error ends a call without a result. Its category decides what a client is told, its code and
component name it.
-/

namespace Campus

inductive ErrorCategory where
  /-- An unknown key, a missing field or a value that was rejected. -/
  | invalidInput
  /-- A record that the call refers to does not exist. -/
  | notFound
  /-- The site has switched off what the call needs. -/
  | featureDisabled
  /-- The caller is not known. -/
  | accessDenied
  /-- The function answered with something it does not declare, or a part of the site failed. -/
  | internal
deriving DecidableEq, Repr

def ErrorCategory.name : ErrorCategory → String
  | .invalidInput => "INVALID_INPUT"
  | .notFound => "NOT_FOUND"
  | .featureDisabled => "FEATURE_DISABLED"
  | .accessDenied => "ACCESS_DENIED"
  | .internal => "INTERNAL"

inductive ExternalError where
  | invalidParameter (path reason : String)
  | missingParameter (path : String)
  | invalidResponse (path reason : String)
  | recordNotFound (table id : String)
  | exception (category : ErrorCategory) (errorcode component message : String)
  | invalidToken
  | unknownFunction (name : String)
  | internal (message : String)
deriving DecidableEq, Repr

namespace ExternalError

def localized (category : ErrorCategory) (errorcode component : String) (strings : Strings) :
    ExternalError :=
  .exception category errorcode component (strings.get errorcode component)

def message : ExternalError → String
  | .invalidParameter path reason => s!"invalid parameter value detected ({path}: {reason})"
  | .missingParameter path => s!"missing required parameter: {path}"
  | .invalidResponse path reason => s!"invalid response value detected ({path}: {reason})"
  | .recordNotFound table id => s!"can't find data record in database table {table} (id {id})"
  | .exception _ _ _ message => message
  | .invalidToken => "invalid token - token not found"
  | .unknownFunction name => s!"can't find function {name}"
  | .internal message => s!"internal error: {message}"

def category : ExternalError → ErrorCategory
  | .invalidParameter .. | .missingParameter _ => .invalidInput
  | .recordNotFound .. | .unknownFunction _ => .notFound
  | .exception category .. => category
  | .invalidToken => .accessDenied
  | .invalidResponse .. | .internal _ => .internal

def errorcode : ExternalError → String
  | .invalidParameter .. => "invalidparameter"
  | .missingParameter _ => "missingparam"
  | .invalidResponse .. => "invalidresponse"
  | .recordNotFound .. => "invalidrecord"
  | .exception _ errorcode .. => errorcode
  | .invalidToken => "invalidtoken"
  | .unknownFunction _ => "invalidfunction"
  | .internal _ => "internalerror"

def component : ExternalError → String
  | .exception _ _ component _ => component
  | .invalidToken | .unknownFunction _ => "webservice"
  | _ => "core"

end ExternalError

def Misfit.toError (direction : Direction) (m : Misfit) : ExternalError :=
  let path := renderPath m.path
  match direction, m.fault with
  | .input, .missing => .missingParameter path
  | .input, .undeclared => .invalidParameter path "unexpected parameter"
  | .input, .rejected r => .invalidParameter path r.reason
  | .output, .missing => .invalidResponse path "required value is missing"
  | .output, .undeclared => .invalidResponse path "unexpected parameter"
  | .output, .rejected r => .invalidResponse path r.reason

/-- Arguments fitted to a structure; absent arguments are an empty object. -/
def validateArguments (d : Description) (arguments : Json) :
    Except ExternalError (List (String × Json)) :=
  match d with
  | .single .. =>
    let arguments := if arguments.isNull then .object [] else arguments
    match d.fit .input arguments with
    | .error m => .error (m.toError .input)
    | .ok (some (.object members)) => .ok members
    | .ok _ => .error (.invalidParameter "" Rejection.notObject.reason)
  | _ => .error (.internal "parameter descriptions must be single structures")

/-- A result fitted to its description, null if it is optional and absent. -/
def cleanResult (d : Description) (result : Json) : Except ExternalError Json :=
  match d.fit .output result with
  | .error m => .error (m.toError .output)
  | .ok v => .ok (v.getD .null)

end Campus
