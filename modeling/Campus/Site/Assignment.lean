import Campus.Access.Capability

/-!
# Assignments and submissions

A user works on an assignment in numbered attempts. Removing a submission takes the latest attempt
back to where it started.
-/

namespace Campus

inductive SubmissionStatus where
  | new | draft | submitted | reopened
deriving DecidableEq, Repr

namespace SubmissionStatus

def name : SubmissionStatus → String
  | .new => "new"
  | .draft => "draft"
  | .submitted => "submitted"
  | .reopened => "reopened"

def reader : Reader SubmissionStatus :=
  .oneOf [("new", .new), ("draft", .draft), ("submitted", .submitted), ("reopened", .reopened)]

/-- Only drafts and submitted attempts hold something that can be removed. -/
def isRemovable : SubmissionStatus → Bool
  | .draft | .submitted => true
  | .new | .reopened => false

end SubmissionStatus

/-- An assignment, placed in a course by the module `cmid`. -/
structure Assignment where
  id : Int
  course : Int
  cmid : Int
  name : String
deriving DecidableEq, Repr

namespace Assignment

def path (a : Assignment) : ContextPath := .module a.course a.cmid

def reader : Reader Assignment :=
  .record "AssignInstance" <| Assignment.mk <$> .required "id" .int64 <*> .required "course" .int64
    <*> .required "cmid" .int64 <*> .required "name" .string

def toJson (a : Assignment) : Json :=
  .ofMembers [("id", .int a.id), ("course", .int a.course), ("cmid", .int a.cmid),
    ("name", .string a.name)]

/-- The caller may change a user's submission: their own if they may submit, anyone's if they may
edit those of others. -/
def canEdit (a : Assignment) (userid : Int) (ctx : CallContext) : Bool :=
  (ctx.isCaller userid && ctx.has Capability.submitAssignment a.path)
    || ctx.has Capability.editOtherSubmission a.path

end Assignment

/-- One attempt of a user at an assignment. -/
structure Submission where
  id : Int
  assignment : Int
  userid : Int
  status : SubmissionStatus
  /-- The attempts of a user are numbered from 0. -/
  attemptnumber : Nat
  timemodified : Int
deriving DecidableEq, Repr

namespace Submission

def toJson (s : Submission) : Json :=
  .ofMembers [("id", .int s.id), ("assignment", .int s.assignment), ("userid", .int s.userid),
    ("status", .string s.status.name), ("attemptnumber", .int s.attemptnumber),
    ("timemodified", .int s.timemodified)]

/-- The attempt with its content removed: the first is new again, a later one is reopened. -/
def removed (now : Int) (s : Submission) : Submission :=
  { s with
    status := if 0 < s.attemptnumber then .reopened else .new
    timemodified := now }

end Submission

/-- Why a submission was not removed. -/
inductive RemovalRefused where
  | noPermission (fullname : String)
  | noSubmission (userid : Int)
  | nothingToRemove (userid : Int)
deriving DecidableEq, Repr

def RemovalRefused.message : RemovalRefused → String
  | .noPermission fullname => s!"The submission of {fullname} cannot be removed"
  | .noSubmission userid => s!"Userid {userid} error: No submission to remove"
  | .nothingToRemove userid => s!"Userid {userid} error: Nothing to remove"

end Campus
