import Campus.Proofs.RemovalCalls

/-!
# Removing for several users at once

Asking for several removals at once leaves the site that asking for one after the other does, up to
the times of the changes. It fails for those users for whom the single removal fails, and has a
warning for each of them, where the single removal may have none.
-/

namespace Campus

/-! ## Sites up to times -/

/-- The site without the times at which submissions changed. -/
def Site.timeless (s : Site) : Site :=
  { s with submissions := s.submissions.mapRows fun _ sub => { sub with timemodified := 0 } }

namespace Site

variable {s t : Site} {a : Assignment} {ctx : CallContext} {userid : Int}

theorem timeless_takeBack (now : Int) (ids : List Int) (s : Site) :
    (s.takeBack now ids).timeless = s.timeless.takeBack 0 ids := by
  simp only [timeless, takeBack, Table.mapRows_mapRows]
  congr 2
  funext id sub
  split <;> rfl

theorem latestAttempt?_timeless (s : Site) (assignment userid : Int) :
    s.timeless.latestAttempt? assignment userid =
      (s.latestAttempt? assignment userid).map fun row =>
        (row.1, { row.2 with timemodified := 0 }) :=
  latestAttempt?_mapRows (fun _ sub => { sub with timemodified := 0 }) s (fun _ _ => rfl)
    (fun _ _ => rfl) (fun _ _ => rfl) assignment userid

theorem removable?_timeless : s.timeless.removable? a ctx userid = s.removable? a ctx userid := by
  ext id
  simp only [removable?_eq_some_iff, latestAttempt?_timeless, Option.map_eq_some_iff,
    Prod.mk.injEq]
  constructor
  · rintro ⟨hedit, _, ⟨⟨_, attempt⟩, hattempt, rfl, rfl⟩, hfull⟩
    exact ⟨hedit, attempt, hattempt, hfull⟩
  · rintro ⟨hedit, attempt, hattempt, hfull⟩
    exact ⟨hedit, _, ⟨_, hattempt, rfl, rfl⟩, hfull⟩

/-- What can be removed does not hang on times: neither on those stored nor on the call's. -/
theorem removable?_congr (h : s.timeless = t.timeless) (ctx : CallContext) (clock : Clock)
    (userid : Int) :
    t.removable? a { ctx with clock } userid = s.removable? a ctx userid := by
  have hclock : t.removable? a { ctx with clock } userid = t.removable? a ctx userid := by
    ext id
    simp only [removable?_eq_some_iff]
    rfl
  rw [hclock, ← removable?_timeless, ← h, removable?_timeless]

theorem assignment?_congr (h : s.timeless = t.timeless) (id : Int) :
    t.assignment? id = s.assignment? id :=
  congrArg (fun site => site.assignments.get? id) h.symm

end Site

/-! ## One removal after the other -/

/-- Asks for one removal after the other, each at its own time. -/
def removeEach (strings : Strings) (ctx : CallContext) (assignid : Int) :
    List (Int × Clock) → Site → List (Except ExternalError Json) × Site
  | [], s => ([], s)
  | (userid, clock) :: rest, s =>
    let (answer, after) :=
      ((removeSubmissionFunction strings).call { ctx with clock } (oneRemoval assignid userid)) s
    let (answers, last) := removeEach strings ctx assignid rest after
    (answer :: answers, last)

/-- The users for whom the answer was that nothing was done. -/
def unremoved (userids : List Int) (answers : List (Except ExternalError Json)) : List Int :=
  ((userids.zip answers).filter fun (_, answer) => statusOf? answer = some false).map Prod.fst

/-- One answer for several users agrees with an answer for each of them. -/
structure AgreesItemwise (userids : List Int) (batch : Except ExternalError Json × Site)
    (each : List (Except ExternalError Json) × Site) : Prop where
  site : batch.2.timeless = each.2.timeless
  length : each.1.length = userids.length
  answered : ∀ answer ∈ each.1, ∃ status, statusOf? answer = some status
  status : statusOf? batch.1 = some (each.1.all fun answer => statusOf? answer = some true)
  /-- There is one warning for each user for whom nothing was done, in the users' order. -/
  warnings : ∃ ws, warningsOf? batch.1 = some ws ∧
    ws.map Json.subject = (unremoved userids each.1).map refusalSubject

/-! ## Lists of answers -/

theorem unremoved_cons (userid : Int) (userids : List Int) (answer : Except ExternalError Json)
    (answers : List (Except ExternalError Json)) :
    unremoved (userid :: userids) (answer :: answers) =
      if statusOf? answer = some false then userid :: unremoved userids answers
      else unremoved userids answers := by
  rw [unremoved, unremoved, List.zip_cons_cons, List.filter_cons]
  by_cases h : statusOf? answer = some false <;> simp [h]

theorem unremoved_isEmpty {userids : List Int} {answers : List (Except ExternalError Json)}
    (hlength : answers.length = userids.length)
    (hanswered : ∀ answer ∈ answers, ∃ status, statusOf? answer = some status) :
    (unremoved userids answers).isEmpty =
      answers.all fun answer => statusOf? answer = some true := by
  induction answers generalizing userids with
  | nil => simp [unremoved]
  | cons answer answers ih =>
    cases userids with
    | nil => cases hlength
    | cons userid userids =>
      rw [List.forall_mem_cons] at hanswered
      obtain ⟨⟨status, hstatus⟩, hanswered⟩ := hanswered
      rw [unremoved_cons, List.all_cons, hstatus]
      cases status with
      | false => simp
      | true => simpa using ih (Nat.succ.inj hlength) hanswered

/-! ## Item by item -/

section Itemwise

variable (strings : Strings) (ctx : CallContext) {assignid : Int}

theorem removeEach_cons {userid : Int} {clock : Clock} {s after : Site}
    {answer : Except ExternalError Json}
    (h : ((removeSubmissionFunction strings).call { ctx with clock }
      (oneRemoval assignid userid)) s = (answer, after)) (rest : List (Int × Clock)) :
    removeEach strings ctx assignid ((userid, clock) :: rest) s =
      (answer :: (removeEach strings ctx assignid rest after).1,
        (removeEach strings ctx assignid rest after).2) := by
  rw [removeEach, h]

theorem removeEach_agrees {a : Assignment} (ha : IsInt64 assignid) (calls : List (Int × Clock))
    (hcalls : ∀ call ∈ calls, IsInt64 call.1) {s t : Site} (h : s.assignment? assignid = some a)
    (hst : s.timeless = t.timeless) (b : Batch) :
    ((RemoveSubmissions.attemptAll a ctx (calls.map Prod.fst) b) s).2.timeless =
        (removeEach strings ctx assignid calls t).2.timeless ∧
      (removeEach strings ctx assignid calls t).1.length = (calls.map Prod.fst).length ∧
      (∀ answer ∈ (removeEach strings ctx assignid calls t).1,
        ∃ status, statusOf? answer = some status) ∧
      unremoved (calls.map Prod.fst) (removeEach strings ctx assignid calls t).1 =
        RemoveSubmissions.refusedUsers a ctx (calls.map Prod.fst) s := by
  induction calls generalizing s t b with
  | nil => exact ⟨hst, rfl, by simp [removeEach], rfl⟩
  | cons call rest ih =>
    obtain ⟨userid, clock⟩ := call
    rw [List.forall_mem_cons] at hcalls
    have ht := (Site.assignment?_congr hst assignid).trans h
    have hone := asksForOne_oneRemoval ha hcalls.1
    have hsame := Site.removable?_congr (a := a) hst ctx clock userid
    rw [List.map_cons, RemoveSubmissions.refusedUsers]
    cases hid : s.removable? a ctx userid with
    | none =>
      obtain ⟨ws, hcall⟩ := call_one_of_none strings hone ht (hsame.trans hid)
      obtain ⟨refused, hcons⟩ :=
        RemoveSubmissions.attemptAll_cons_of_none hid (rest.map Prod.fst) b
      obtain ⟨hsite, hlength, hanswered, hunremoved⟩ :=
        ih hcalls.2 h hst (b.failure (RemoveSubmissions.warning userid refused))
      have hstatus : statusOf? (.ok (Outcome.failed ws).toResult) = some false :=
        Outcome.statusOf?_toResult (.failed ws)
      rw [removeEach_cons strings ctx hcall, hcons]
      refine ⟨hsite, congrArg Nat.succ hlength, ?_, ?_⟩
      · exact List.forall_mem_cons.2 ⟨⟨_, hstatus⟩, hanswered⟩
      · rw [unremoved_cons, if_pos hstatus, hunremoved]
    | some id =>
      have hcall := call_one_of_some strings hone ht (hsame.trans hid)
      have hafter : (s.takeBack ctx.clock.seconds [id]).timeless =
          (t.takeBack clock.seconds [id]).timeless := by
        rw [Site.timeless_takeBack, Site.timeless_takeBack, hst]
      have hkept : (s.takeBack ctx.clock.seconds [id]).assignment? assignid = some a := h
      obtain ⟨hsite, hlength, hanswered, hunremoved⟩ := ih hcalls.2 hkept hafter b.success
      have hstatus : statusOf? (.ok (Outcome.ok ()).toResult) = some true :=
        Outcome.statusOf?_toResult (.ok ())
      rw [removeEach_cons strings ctx hcall, RemoveSubmissions.attemptAll_cons_of_some hid]
      refine ⟨hsite, congrArg Nat.succ hlength, ?_, ?_⟩
      · exact List.forall_mem_cons.2 ⟨⟨_, hstatus⟩, hanswered⟩
      · rw [unremoved_cons, hstatus, if_neg (by decide), hunremoved]

/-- One call for several users does what a call for each of them does. -/
theorem call_severalRemovals_agrees {s : Site} {a : Assignment}
    (h : s.assignment? assignid = some a) (ha : IsInt64 assignid) (calls : List (Int × Clock))
    (hcalls : ∀ call ∈ calls, IsInt64 call.1) :
    AgreesItemwise (calls.map Prod.fst)
      ((removeSubmissionsFunction.call ctx (severalRemovals assignid (calls.map Prod.fst))) s)
      (removeEach strings ctx assignid calls s) := by
  have husers : ∀ userid ∈ calls.map Prod.fst, IsInt64 userid := by simpa using hcalls
  have hrequest := asksForSeveral_severalRemovals ha husers
  obtain ⟨hsite, hlength, hanswered, hunremoved⟩ :=
    removeEach_agrees strings ctx ha calls hcalls h rfl {}
  have hwarnings := RemoveSubmissions.attemptAll_warnings a ctx (calls.map Prod.fst) {} s
  rw [List.map_nil, List.nil_append, ← hunremoved] at hwarnings
  rw [call_several_of_assignment hrequest h]
  refine ⟨hsite, hlength, hanswered, ?_, _, Outcome.warningsOf?_toResult _, ?_⟩
  · have hempty := congrArg List.isEmpty hwarnings
    rw [List.isEmpty_map, List.isEmpty_map, unremoved_isEmpty hlength hanswered] at hempty
    rw [Outcome.statusOf?_toResult, Batch.isOk_toOutcome, hempty]
  · rw [Batch.warnings_toOutcome, List.map_map, ← hwarnings]
    exact List.map_congr_left fun w _ => w.subject_toJson

end Itemwise

/-- A user has handed in an essay. -/
def essaySite : Site where
  assignments := Table.empty.put 1 { id := 1, course := 2, cmid := 3, name := "Essay" }
  submissions := Table.empty.put 1
    { id := 1, assignment := 1, userid := 5, status := .submitted, attemptnumber := 0
      timemodified := 100 }

/-- Whoever may do everything asks. -/
def administratorContext : CallContext where
  caller := 4
  clock := ⟨200, ""⟩
  capabilities := { unrestricted := true }
  features := {}

/-- The essay is removed once, for the one user who is named twice. -/
theorem essay_removals_agree :
    (essaySite.assignment? 1).isSome ∧
      AgreesItemwise [5, 5, 9]
        ((removeSubmissionsFunction.call administratorContext (severalRemovals 1 [5, 5, 9]))
          essaySite)
        (removeEach .english administratorContext 1
          [(5, ⟨200, ""⟩), (5, ⟨201, ""⟩), (9, ⟨202, ""⟩)] essaySite) :=
  ⟨rfl, call_severalRemovals_agrees _ _ rfl (by decide)
    [(5, ⟨200, ""⟩), (5, ⟨201, ""⟩), (9, ⟨202, ""⟩)] (by decide)⟩

end Campus
