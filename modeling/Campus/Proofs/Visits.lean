import Campus.Proofs.RemovalCalls

/-!
# Removals in visits

A call that removes submissions visits the site more than once: for the assignment, and for each
user to see whether there is a submission and then to have it removed. If no one else comes in
between two visits, this is what the function does in one go.
-/

namespace Campus

/-! ## Calls in visits -/

namespace Removal

inductive Request where
  | one (strings : Strings) (x : RemoveSubmission.Arguments)
  | several (x : RemoveSubmissions.Arguments)

namespace Request

def assignid : Request → Int
  | one _ x => x.assignid
  | several x => x.assignid

def userids : Request → List Int
  | one _ x => [x.userid]
  | several x => x.userids

/-- What the function answers that the request is for. -/
def run (ctx : CallContext) : Request → Run Site (Outcome Unit)
  | one strings x => RemoveSubmission.run strings ctx x
  | several x => RemoveSubmissions.run ctx x

end Request

/-- What a call visits the site for next, until it is answered. -/
inductive Stage where
  | assignment
  | submission (a : Assignment) (userids : List Int)
  | removal (a : Assignment) (userid : Int) (rest : List Int)
  | answered (answer : Except ExternalError (Outcome Unit))

namespace Stage

/-- The assignment that was found. -/
def found? : Stage → Option Assignment
  | submission a _ | removal a _ _ => some a
  | assignment | answered _ => none

def isSuccess : Stage → Bool
  | answered (.ok (.ok ())) => true
  | _ => false

end Stage

/-- A call that is going on. A batch keeps what was recorded for each user so far. -/
structure Process where
  ctx : CallContext
  request : Request
  stage : Stage := .assignment
  recorded : List (Int × Except RemovalRefused Submission) := []

namespace Process

/-- Records what became of a user's submission and goes on with the rest. -/
def record (a : Assignment) (userid : Int) (result : Except RemovalRefused Submission)
    (rest : List Int) (p : Process) : Process :=
  { p with stage := .submission a rest, recorded := p.recorded ++ [(userid, result)] }

/-- What a batch has come to, item by item. -/
def batch (p : Process) : Batch :=
  p.recorded.foldl (fun b item =>
    match item.2 with
    | .ok _ => b.success
    | .error refused => b.failure (RemoveSubmissions.warning item.1 refused)) {}

/-- One visit to the site, at a time. -/
def visit (clock : Clock) (p : Process) : StateM Site Process := fun s =>
  let ctx := { p.ctx with clock }
  match p.stage, p.request with
  | .assignment, request =>
    match s.assignment? request.assignid with
    | some a => ({ p with stage := .submission a request.userids }, s)
    | none =>
      let e : ExternalError := .recordNotFound "assign" (toString request.assignid)
      ({ p with stage := .answered (.error e) }, s)
  | .submission a _, .one strings x =>
    let warnings := RemoveSubmission.objections strings s a x ctx
    if warnings.isEmpty && RemoveSubmission.isRemovable s a x.userid then
      ({ p with stage := .removal a x.userid [] }, s)
    else ({ p with stage := .answered (.ok (.failed warnings)) }, s)
  | .removal a _ _, .one _ x =>
    match s.removeSubmission a x.userid ctx with
    | (.ok _, after) => ({ p with stage := .answered (.ok (.ok ())) }, after)
    -- The call has come this far without a warning.
    | (.error _, after) => ({ p with stage := .answered (.ok (.failed [])) }, after)
  | .submission _ [], .several _ => ({ p with stage := .answered (.ok p.batch.toOutcome) }, s)
  | .submission a (userid :: rest), .several _ =>
    match s.userSubmission? a.id userid with
    | none => (p.record a userid (.error (.noSubmission userid)) rest, s)
    | some _ => ({ p with stage := .removal a userid rest }, s)
  | .removal a userid rest, .several _ =>
    let (result, after) := s.removeSubmission a userid ctx
    (p.record a userid result rest, after)
  | .answered _, _ => (p, s)

/-- How often the call removed a user's submission: a single call says so in its answer, a batch
records it with the item. -/
def successes (p : Process) (userid : Int) : Nat :=
  match p.request with
  | .one _ x => if x.userid = userid ∧ p.stage.isSuccess then 1 else 0
  | .several _ => p.recorded.countP fun item => item.1 = userid ∧ item.2.isOk

/-- Some visits, with nobody else coming in. -/
def visits (clock : Clock) : Nat → Process → StateM Site Process
  | 0, p => pure p
  | n + 1, p => do visits clock n (← p.visit clock)

end Process

/-! ## What is reported -/

namespace Process

variable {p : Process}

theorem successes_of_one {strings : Strings} {x : RemoveSubmission.Arguments}
    (h : p.request = .one strings x) (userid : Int) :
    p.successes userid = if x.userid = userid ∧ p.stage.isSuccess then 1 else 0 := by
  rw [successes, h]

theorem successes_of_several {x : RemoveSubmissions.Arguments} (h : p.request = .several x)
    (userid : Int) :
    p.successes userid = p.recorded.countP fun item => item.1 = userid ∧ item.2.isOk := by
  rw [successes, h]

theorem successes_record {x : RemoveSubmissions.Arguments} (h : p.request = .several x)
    (a : Assignment) (userid : Int) (result : Except RemovalRefused Submission) (rest : List Int)
    (other : Int) : (p.record a userid result rest).successes other =
      p.successes other + if userid = other ∧ result.isOk then 1 else 0 := by
  rw [successes_of_several h, successes_of_several (p := p.record a userid result rest) h, record,
    List.countP_append, List.countP_singleton]
  simp only [decide_eq_true_eq]

theorem successes_of_answered {strings : Strings} {x : RemoveSubmission.Arguments}
    {o : Outcome Unit} (h : p.request = .one strings x) (hstage : p.stage = .answered (.ok o)) :
    p.successes x.userid = 1 ↔ statusOf? (.ok o.toResult) = some true := by
  rw [successes_of_one h, hstage, Outcome.statusOf?_toResult]
  cases o <;> simp [Stage.isSuccess, Outcome.isOk]

theorem batch_record (a : Assignment) (userid : Int) (result : Except RemovalRefused Submission)
    (rest : List Int) : (p.record a userid result rest).batch =
      match result with
      | .ok _ => p.batch.success
      | .error refused => p.batch.failure (RemoveSubmissions.warning userid refused) := by
  rw [batch, record, List.foldl_append]
  rfl

theorem batch_succeeded (p : Process) :
    p.batch.succeeded = p.recorded.countP fun item => item.2.isOk := by
  unfold batch
  induction p.recorded using List.reverseRecOn with
  | nil => rfl
  | append_singleton items item ih =>
    rw [List.foldl_append, List.countP_append, List.countP_singleton, ← ih]
    rcases item with ⟨userid, refused | sub⟩ <;> rfl

end Process

/-! ## A call by itself -/

namespace Process

variable {clock : Clock} {p : Process} {s : Site}

theorem visits_succ (n : Nat) : (visits clock (n + 1) p) s =
    (visits clock n ((p.visit clock) s).1) ((p.visit clock) s).2 := rfl

theorem visit_of_answered {answer : Except ExternalError (Outcome Unit)}
    (h : p.stage = .answered answer) : (p.visit clock) s = (p, s) := by
  simp only [visit, h]

theorem visits_of_answered {answer : Except ExternalError (Outcome Unit)}
    (h : p.stage = .answered answer) (n : Nat) : (visits clock n p) s = (p, s) := by
  induction n with
  | zero => rfl
  | succ n ih => rw [visits_succ, visit_of_answered h, ih]

theorem visits_several {x : RemoveSubmissions.Arguments} {a : Assignment} {userids : List Int}
    {b : Batch} (hrequest : p.request = .several x) (hstage : p.stage = .submission a userids)
    (hbatch : p.batch = b) {n : Nat} (hn : 2 * userids.length + 1 ≤ n) :
    ((visits p.ctx.clock n p) s).2 = ((RemoveSubmissions.attemptAll a p.ctx userids b) s).2 ∧
      ((visits p.ctx.clock n p) s).1.stage =
        .answered (.ok ((RemoveSubmissions.attemptAll a p.ctx userids b) s).1.toOutcome) := by
  induction userids generalizing p s b n with
  | nil =>
    obtain ⟨n, rfl⟩ : ∃ k, n = k + 1 := ⟨n - 1, by omega⟩
    have hvisit : (p.visit p.ctx.clock) s =
        ({ p with stage := .answered (.ok p.batch.toOutcome) }, s) := by
      simp only [visit, hstage, hrequest]
    rw [visits_succ, hvisit, visits_of_answered rfl, hbatch]
    exact ⟨rfl, rfl⟩
  | cons userid rest ih =>
    rw [List.length_cons] at hn
    obtain ⟨n, rfl⟩ : ∃ k, n = k + 2 := ⟨n - 2, by omega⟩
    subst hbatch
    rw [RemoveSubmissions.attemptAll_cons, RemoveSubmissions.attempt, visits_succ]
    cases hsub : s.userSubmission? a.id userid with
    | none =>
      have hvisit : (p.visit p.ctx.clock) s =
          (p.record a userid (.error (.noSubmission userid)) rest, s) := by
        simp only [visit, hstage, hrequest, hsub]
      rw [hvisit]
      exact ih (p := p.record a userid _ rest) hrequest rfl (batch_record a userid _ rest)
        (by omega)
    | some sub =>
      have hvisit : (p.visit p.ctx.clock) s = ({ p with stage := .removal a userid rest }, s) := by
        simp only [visit, hstage, hrequest, hsub]
      rw [hvisit, visits_succ]
      dsimp only
      rcases hremove : s.removeSubmission a userid p.ctx with ⟨result, after⟩
      have hremoval : (visit p.ctx.clock { p with stage := .removal a userid rest }) s =
          (p.record a userid result rest, after) := by
        simp only [visit, hrequest, hremove, record]
      rw [hremoval]
      have hrest (b : Batch) (hb : (p.record a userid result rest).batch = b) :=
        ih (p := p.record a userid result rest) (s := after) (n := n) hrequest rfl hb (by omega)
      cases result with
      | error refused => exact hrest _ (batch_record a userid _ rest)
      | ok sub => exact hrest _ (batch_record a userid _ rest)

theorem visits_one {strings : Strings} {x : RemoveSubmission.Arguments} {a : Assignment}
    (ha : s.assignment? x.assignid = some a) (hrequest : p.request = .one strings x)
    (hstage : p.stage = .submission a [x.userid]) (n : Nat) :
    ((visits p.ctx.clock (n + 2) p) s).2 = ((RemoveSubmission.run strings p.ctx x) s).2 ∧
      ((visits p.ctx.clock (n + 2) p) s).1.stage =
        .answered ((RemoveSubmission.run strings p.ctx x) s).1 := by
  rw [visits_succ]
  cases hid : s.removable? a p.ctx x.userid with
  | none =>
    have hvisit : (p.visit p.ctx.clock) s = ({ p with
        stage := .answered (.ok (.failed (RemoveSubmission.objections strings s a x p.ctx))) },
        s) := by
      simp only [visit, hstage, hrequest, RemoveSubmission.isRemovable_and_no_objections, hid,
        Option.isSome_none, Bool.false_eq_true, if_false]
    rw [hvisit, visits_of_answered rfl, RemoveSubmission.run_of_none ha hid]
    exact ⟨rfl, rfl⟩
  | some id =>
    obtain ⟨sub, hremove⟩ := Site.removeSubmission_of_some hid
    have hvisit : (p.visit p.ctx.clock) s = ({ p with stage := .removal a x.userid [] }, s) := by
      simp only [visit, hstage, hrequest, RemoveSubmission.isRemovable_and_no_objections, hid,
        Option.isSome_some, if_true]
    have hremoval : (visit p.ctx.clock { p with stage := .removal a x.userid [] }) s =
        ({ p with stage := .answered (.ok (.ok ())) },
          s.takeBack p.ctx.clock.seconds [id]) := by
      simp only [visit, hrequest, hremove]
    rw [hvisit, visits_succ, hremoval, visits_of_answered rfl, RemoveSubmission.run_of_some ha hid]
    exact ⟨rfl, rfl⟩

theorem visits_alone (ctx : CallContext) (request : Request) (s : Site) {n : Nat}
    (hn : 2 * request.userids.length + 2 ≤ n) :
    ((visits ctx.clock n { ctx, request }) s).2 = ((request.run ctx) s).2 ∧
      ((visits ctx.clock n { ctx, request }) s).1.stage = .answered ((request.run ctx) s).1 := by
  obtain ⟨n, rfl⟩ : ∃ k, n = k + 2 := ⟨n - 2, by omega⟩
  rw [visits_succ]
  cases ha : s.assignment? request.assignid with
  | none =>
    let e : ExternalError := .recordNotFound "assign" (toString request.assignid)
    have hvisit : (visit ctx.clock { ctx, request }) s =
        ({ ctx, request, stage := .answered (.error e) }, s) := by
      simp only [visit, ha, e]
    rw [hvisit, visits_of_answered rfl]
    cases request with
    | one strings x =>
      rw [Request.run, RemoveSubmission.run_of_noAssignment ha]
      exact ⟨rfl, rfl⟩
    | several x =>
      rw [Request.run, RemoveSubmissions.run_of_noAssignment ha]
      exact ⟨rfl, rfl⟩
  | some a =>
    have hvisit : (visit ctx.clock { ctx, request }) s =
        ({ ctx, request, stage := .submission a request.userids }, s) := by
      simp only [visit, ha]
    rw [hvisit]
    let found : Process := { ctx, request, stage := .submission a request.userids }
    cases request with
    | one strings x =>
      rw [show 2 * (Request.one strings x).userids.length = 2 from rfl] at hn
      obtain ⟨n, rfl⟩ : ∃ k, n = k + 1 := ⟨n - 1, by omega⟩
      exact visits_one (p := found) ha rfl rfl n
    | several x =>
      rw [Request.run, RemoveSubmissions.run_of_assignment ha]
      exact visits_several (p := found) rfl rfl rfl (Nat.le_of_succ_le_succ hn)

end Process

/-! ## What a visit does -/

/-- What a visit has done: it looked, or it took back the latest attempt of a user. -/
inductive Visited (clock : Clock) (s : Site) (p : Process) : Process × Site → Prop
  | looked {next : Process} (request : next.request = p.request)
      (found : ∀ a, next.stage.found? = some a → s.assignment? p.request.assignid = some a)
      (successes : ∀ userid, next.successes userid = p.successes userid) :
      Visited clock s p (next, s)
  | removed {next : Process} {a : Assignment} {userid id : Int}
      (request : next.request = p.request)
      (assignment : s.assignment? p.request.assignid = some a)
      (found : ∀ b, next.stage.found? = some b → b = a)
      (removable : s.removable? a { p.ctx with clock } userid = some id)
      (successes : ∀ other, next.successes other =
        p.successes other + if userid = other then 1 else 0) :
      Visited clock s p (next, s.takeBack clock.seconds [id])

namespace Process

variable {clock : Clock} {p : Process} {s : Site}

theorem visited_one {strings : Strings} {x : RemoveSubmission.Arguments}
    (hrequest : p.request = .one strings x)
    (hfound : ∀ a, p.stage.found? = some a → s.assignment? p.request.assignid = some a) :
    Visited clock s p ((p.visit clock) s) := by
  have hlooked (next : Process) (hnext : next.request = p.request)
      (hfound : ∀ a, next.stage.found? = some a → s.assignment? p.request.assignid = some a)
      (hbefore : p.stage.isSuccess = false) (hafter : next.stage.isSuccess = false) :
      Visited clock s p (next, s) := by
    refine .looked hnext hfound fun userid => ?_
    rw [successes_of_one hrequest, successes_of_one (hnext.trans hrequest), hbefore, hafter]
  unfold visit
  cases hstage : p.stage with
  | assignment =>
    dsimp only
    cases ha : s.assignment? p.request.assignid with
    | none => exact hlooked _ rfl nofun (by rw [hstage]; rfl) rfl
    | some a =>
      refine hlooked _ rfl ?_ (by rw [hstage]; rfl) rfl
      rintro _ ⟨⟩
      exact ha
  | submission a userids =>
    rw [hrequest]
    dsimp only
    split
    · refine hlooked _ hrequest.symm ?_ (by rw [hstage]; rfl) rfl
      rintro _ ⟨⟩
      exact hfound a (by rw [hstage]; rfl)
    · exact hlooked _ hrequest.symm nofun (by rw [hstage]; rfl) rfl
  | removal a userid rest =>
    rw [hrequest]
    dsimp only
    cases hid : s.removable? a { p.ctx with clock } x.userid with
    | none =>
      obtain ⟨refused, hremove⟩ := Site.removeSubmission_of_none hid
      rw [hremove]
      exact hlooked _ hrequest.symm nofun (by rw [hstage]; rfl) rfl
    | some id =>
      obtain ⟨sub, hremove⟩ := Site.removeSubmission_of_some hid
      rw [hremove]
      refine .removed hrequest.symm (hfound a (by rw [hstage]; rfl)) nofun hid fun other => ?_
      rw [successes_of_one hrequest, successes_of_one rfl, hstage]
      simp [Stage.isSuccess]
  | answered answer =>
    dsimp only
    exact .looked rfl hfound fun _ => rfl

theorem visited_several {x : RemoveSubmissions.Arguments} (hrequest : p.request = .several x)
    (hfound : ∀ a, p.stage.found? = some a → s.assignment? p.request.assignid = some a) :
    Visited clock s p ((p.visit clock) s) := by
  have hsame (next : Process) (hnext : next.request = p.request)
      (hrecorded : next.recorded = p.recorded) (userid : Int) :
      next.successes userid = p.successes userid := by
    rw [successes_of_several hrequest, successes_of_several (hnext.trans hrequest), hrecorded]
  have ha (a : Assignment) (hstage : p.stage.found? = some a) (b : Assignment)
      (hb : some a = some b) : s.assignment? p.request.assignid = some b := by
    rw [← hb]
    exact hfound a hstage
  unfold visit
  cases hstage : p.stage with
  | assignment =>
    dsimp only
    cases ha : s.assignment? p.request.assignid with
    | none => exact .looked rfl nofun (hsame _ rfl rfl)
    | some a =>
      refine .looked rfl ?_ (hsame _ rfl rfl)
      rintro _ ⟨⟩
      exact ha
  | submission a userids =>
    have hfound := ha a (by rw [hstage]; rfl)
    rw [hrequest]
    cases userids with
    | nil => exact .looked hrequest.symm nofun (hsame _ hrequest.symm rfl)
    | cons userid rest =>
      dsimp only
      cases hsub : s.userSubmission? a.id userid with
      | none =>
        refine .looked rfl hfound fun other => ?_
        rw [successes_record hrequest]
        simp [Except.isOk, Except.toBool]
      | some sub => exact .looked hrequest.symm hfound (hsame _ hrequest.symm rfl)
  | removal a userid rest =>
    have hfound := ha a (by rw [hstage]; rfl)
    rw [hrequest]
    dsimp only
    cases hid : s.removable? a { p.ctx with clock } userid with
    | none =>
      obtain ⟨refused, hremove⟩ := Site.removeSubmission_of_none hid
      rw [hremove]
      refine .looked rfl hfound fun other => ?_
      rw [successes_record hrequest]
      simp [Except.isOk, Except.toBool]
    | some id =>
      obtain ⟨sub, hremove⟩ := Site.removeSubmission_of_some hid
      rw [hremove]
      refine .removed rfl (hfound a rfl) (fun b hb => (Option.some.inj hb).symm) hid fun other => ?_
      rw [successes_record hrequest]
      simp [Except.isOk, Except.toBool]
  | answered answer =>
    dsimp only
    exact .looked rfl hfound fun _ => rfl

theorem visited (hfound : ∀ a, p.stage.found? = some a →
    s.assignment? p.request.assignid = some a) : Visited clock s p ((p.visit clock) s) := by
  cases hrequest : p.request with
  | one strings x => exact visited_one hrequest hfound
  | several x => exact visited_several hrequest hfound

end Process

end Removal

end Campus
