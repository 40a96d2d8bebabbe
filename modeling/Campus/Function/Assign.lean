import Campus.Contract.Registry
import Campus.Site.Change

/-!
# Functions on assignments

Removing one submission, or those of several users. A removal that is refused is no error: the
result says so, and why.
-/

namespace Campus

def requireAssignment (id : Int) : Run Site Assignment := do
  match (← get).assignment? id with
  | some a => return a
  | none => throw (.recordNotFound "assign" (toString id))

def assignmentIdField : String × Description := ("assignid", .plain .int "Assignment instance id")

namespace RemoveSubmission

structure Arguments where
  assignid : Int
  userid : Int
deriving DecidableEq, Repr

def Arguments.reader : Reader Arguments :=
  .record "RemoveParams" <| Arguments.mk <$> .required "assignid" .int64
    <*> .required "userid" .int64

def warning (strings : Strings) (code : String) (assignid : Int) : Warning :=
  { warningcode := code, message := strings.get code "assign", itemid := some assignid }

def objections (strings : Strings) (s : Site) (a : Assignment) (x : Arguments) (ctx : CallContext) :
    List Warning :=
  (if a.canEdit x.userid ctx then []
    else [warning strings "usercantremovesubmission" x.assignid])
  ++ (if (s.userSubmission? a.id x.userid).isSome then []
    else [warning strings "userdonthavesubmission" x.assignid])

/-- The latest attempt holds something that can be removed. -/
def isRemovable (s : Site) (a : Assignment) (userid : Int) : Bool :=
  (s.userSubmission? a.id userid).any (·.status.isRemovable)

/-- Removes a submission, or says what stands against it. An attempt that holds nothing is left
alone without a warning. -/
def run (strings : Strings) (ctx : CallContext) (x : Arguments) : Run Site (Outcome Unit) := do
  let a ← requireAssignment x.assignid
  let s ← get
  let warnings := objections strings s a x ctx
  if warnings.isEmpty && isRemovable s a x.userid then
    match ← modifyGet (Site.removeSubmission · a x.userid ctx) with
    | .ok _ => return .ok ()
    | .error _ => return .failed warnings
  else return .failed warnings

end RemoveSubmission

def removeSubmissionFunction (strings : Strings) : ExternalFunction Site where
  name := "mod_assign_remove_submission"
  component := "mod_assign"
  description := "Remove submission."
  input := .structureOf "params" [assignmentIdField, ("userid", .plain .int "User id")]
  output := .statusWithWarnings
    "True if the submission was successfully removed and false if it was not."
  execute ctx arguments := do
    let x ← liftExcept (readArguments RemoveSubmission.Arguments.reader arguments)
    return (← RemoveSubmission.run strings ctx x).toResult

namespace RemoveSubmissions

structure Arguments where
  assignid : Int
  userids : List Int
deriving DecidableEq, Repr

def Arguments.reader : Reader Arguments :=
  .record "RemoveManyParams" <| Arguments.mk <$> .required "assignid" .int64
    <*> .required "userids" (.list .int64)

/-- A warning about a user whose submission was not removed. -/
def warning (userid : Int) (refused : RemovalRefused) : Warning :=
  { warningcode := "couldnotremovesubmission", message := refused.message, item := some "user"
    itemid := some userid }

/-- Removes a user's submission. Having none is told before having no permission. -/
def attempt (a : Assignment) (userid : Int) (ctx : CallContext) (s : Site) :
    Except RemovalRefused Submission × Site :=
  match s.userSubmission? a.id userid with
  | none => (.error (.noSubmission userid), s)
  | some _ => s.removeSubmission a userid ctx

def attemptAll (a : Assignment) (ctx : CallContext) : List Int → Batch → StateM Site Batch
  | [], b => pure b
  | userid :: rest, b => do
    match ← modifyGet (attempt a userid ctx) with
    | .ok _ => attemptAll a ctx rest b.success
    | .error refused => attemptAll a ctx rest (b.failure (warning userid refused))

def run (ctx : CallContext) (x : Arguments) : Run Site (Outcome Unit) := do
  let a ← requireAssignment x.assignid
  return (← attemptAll a ctx x.userids {}).toOutcome

end RemoveSubmissions

def removeSubmissionsFunction : ExternalFunction Site where
  name := "mod_assign_remove_submissions"
  component := "mod_assign"
  description := "Remove submissions."
  input := .structureOf "params"
    [assignmentIdField, ("userids", .listOf (.plain .int "User id") "Array of user ids")]
  output := .statusWithWarnings "True if every submission was removed, false otherwise."
  execute ctx arguments := do
    let x ← liftExcept (readArguments RemoveSubmissions.Arguments.reader arguments)
    return (← RemoveSubmissions.run ctx x).toResult

end Campus
