import Campus.Site.Basic

/-!
# Changes to the site

A change may fail; what it did before stays done.
-/

namespace Campus

/-- A change to the site, which may fail with an error of a kind. -/
abbrev Change (ε α : Type) := ExceptT ε (StateM Site) α

namespace Change

variable {ε α β : Type}

def require (e : ε) : Option α → Change ε α
  | some a => pure a
  | none => throw e

def each (f : α → Change ε Unit) : List α → Change ε Unit
  | [] => pure ()
  | a :: rest => do
    f a
    each f rest

end Change

namespace Site

/-! ## Removing a submission -/

/-- What the removal of a user's latest attempt would leave, with its id, or why it is refused. -/
def removal (s : Site) (a : Assignment) (userid : Int) (ctx : CallContext) :
    Except RemovalRefused (Int × Submission) :=
  if a.canEdit userid ctx then
    match s.latestAttempt? a.id userid with
    | some (id, attempt) =>
      if attempt.status.isRemovable then .ok (id, attempt.removed ctx.clock.seconds)
      else .error (.nothingToRemove userid)
    | none => .error (.noSubmission userid)
  else .error (.noPermission (((s.user? userid).map User.fullname).getD (toString userid)))

def removeSubmission (s : Site) (a : Assignment) (userid : Int) (ctx : CallContext) :
    Except RemovalRefused Submission × Site :=
  match s.removal a userid ctx with
  | .ok (id, attempt) => (.ok attempt, { s with submissions := s.submissions.put id attempt })
  | .error e => (.error e, s)

def record (e : Event) (s : Site) : Site := { s with events := s.events ++ [e] }

end Site

end Campus
