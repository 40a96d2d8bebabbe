import Campus.Proofs.Envelope
import Campus.Proofs.Removal
import Campus.Proofs.RemovalArguments
import Campus.Proofs.Run

/-!
# Calls that remove submissions

What a call takes back depends on the assignment and the users only, not on which of the two
functions is called. Its answer tells whether every removal was done.
-/

namespace Campus

/-- What the warning of a refused removal is about. -/
def refusalSubject (userid : Int) : Option Json × Option Json × Option Json :=
  (some (.string "couldnotremovesubmission"), some (.string "user"), some (.int userid))

/-! ## One user -/

section Runs

variable {strings : Strings} {s : Site} {a : Assignment} {ctx : CallContext}

namespace RemoveSubmission

variable {x : Arguments}

theorem isRemovable_and_no_objections :
    ((objections strings s a x ctx).isEmpty && isRemovable s a x.userid) =
      (s.removable? a ctx x.userid).isSome := by
  rw [Bool.eq_iff_iff, Bool.and_eq_true, Option.isSome_iff_exists]
  simp only [Site.removable?_eq_some_iff, objections, isRemovable, Site.userSubmission?]
  rcases (s.latestAttempt? a.id x.userid).eq_none_or_eq_some with h | ⟨⟨id, attempt⟩, h⟩
  · simp [h]
  · cases a.canEdit x.userid ctx <;> simp [h]

theorem run_of_some (h : s.assignment? x.assignid = some a) {id : Int}
    (hid : s.removable? a ctx x.userid = some id) :
    (run strings ctx x) s = (.ok (.ok ()), s.takeBack ctx.clock.seconds [id]) := by
  obtain ⟨sub, hremove⟩ := Site.removeSubmission_of_some hid
  simp only [run, requireAssignment, Run.bind_apply, Run.get_apply, Run.pure_apply, h,
    isRemovable_and_no_objections, hid, Option.isSome_some, if_true, Run.modifyGet_apply, hremove]

theorem run_of_none (h : s.assignment? x.assignid = some a)
    (hid : s.removable? a ctx x.userid = none) :
    (run strings ctx x) s = (.ok (.failed (objections strings s a x ctx)), s) := by
  simp only [run, requireAssignment, Run.bind_apply, Run.get_apply, Run.pure_apply, h,
    isRemovable_and_no_objections, hid, Option.isSome_none, Bool.false_eq_true, if_false]

theorem run_of_noAssignment (h : s.assignment? x.assignid = none) :
    (run strings ctx x) s = (.error (.recordNotFound "assign" (toString x.assignid)), s) := by
  simp only [run, requireAssignment, Run.bind_apply, Run.get_apply, Run.throw_apply, h]

end RemoveSubmission

/-! ## Several users -/

namespace RemoveSubmissions

variable {userid : Int}

theorem attempt_of_some {id : Int} (hid : s.removable? a ctx userid = some id) :
    ∃ sub, attempt a userid ctx s = (.ok sub, s.takeBack ctx.clock.seconds [id]) := by
  obtain ⟨sub, hremove⟩ := Site.removeSubmission_of_some hid
  obtain ⟨-, found, hlatest, -⟩ := Site.removable?_eq_some_iff.1 hid
  refine ⟨sub, ?_⟩
  simp only [attempt, Site.userSubmission?, hlatest, Option.map_some, hremove]

theorem attempt_of_none (hid : s.removable? a ctx userid = none) :
    ∃ refused, attempt a userid ctx s = (.error refused, s) := by
  unfold attempt
  split
  · exact ⟨_, rfl⟩
  · exact Site.removeSubmission_of_none hid

theorem attemptAll_cons (userid : Int) (rest : List Int) (b : Batch) (s : Site) :
    (attemptAll a ctx (userid :: rest) b) s =
      match attempt a userid ctx s with
      | (.ok _, after) => (attemptAll a ctx rest b.success) after
      | (.error refused, after) =>
        (attemptAll a ctx rest (b.failure (warning userid refused))) after := by
  rw [attemptAll, Run.bind_apply_of_state, Run.modifyGet_apply_of_state]
  rcases attempt a userid ctx s with ⟨refused | sub, after⟩ <;> rfl

theorem attemptAll_cons_of_some {id : Int} (hid : s.removable? a ctx userid = some id)
    (rest : List Int) (b : Batch) :
    (attemptAll a ctx (userid :: rest) b) s =
      (attemptAll a ctx rest b.success) (s.takeBack ctx.clock.seconds [id]) := by
  obtain ⟨sub, hattempt⟩ := attempt_of_some hid
  rw [attemptAll_cons, hattempt]

theorem attemptAll_cons_of_none (hid : s.removable? a ctx userid = none) (rest : List Int)
    (b : Batch) :
    ∃ refused, (attemptAll a ctx (userid :: rest) b) s =
      (attemptAll a ctx rest (b.failure (warning userid refused))) s := by
  obtain ⟨refused, hattempt⟩ := attempt_of_none hid
  exact ⟨refused, by rw [attemptAll_cons, hattempt]⟩

theorem attemptAll_site (userids : List Int) (b : Batch) (s : Site) :
    ((attemptAll a ctx userids b) s).2 =
      s.takeBack ctx.clock.seconds (userids.filterMap (s.removable? a ctx)) := by
  induction userids generalizing b s with
  | nil => simp [attemptAll]; rfl
  | cons userid rest ih =>
    cases hid : s.removable? a ctx userid with
    | none =>
      obtain ⟨refused, hcons⟩ := attemptAll_cons_of_none hid rest b
      rw [hcons, ih, List.filterMap_cons_none hid]
    | some id =>
      rw [attemptAll_cons_of_some hid, ih, Site.takeBack_takeBack, List.filterMap_cons_some hid]
      refine Site.takeBack_congr _ _ fun other => ?_
      simp only [Site.removable?_takeBack, List.mem_append, List.mem_filterMap, List.mem_cons,
        Option.filter_eq_some_iff, decide_eq_true_eq]
      by_cases h : other = id <;> simp [h]

/-- The users whose removals are refused, each by what the ones before it left. -/
def refusedUsers (a : Assignment) (ctx : CallContext) : List Int → Site → List Int
  | [], _ => []
  | userid :: rest, s =>
    match s.removable? a ctx userid with
    | some id => refusedUsers a ctx rest (s.takeBack ctx.clock.seconds [id])
    | none => userid :: refusedUsers a ctx rest s

theorem refusedUsers_subset (userids : List Int) (s : Site) :
    refusedUsers a ctx userids s ⊆ userids := by
  induction userids generalizing s with
  | nil => simp [refusedUsers]
  | cons userid rest ih =>
    rw [refusedUsers]
    split
    · exact List.subset_cons_of_subset _ (ih _)
    · exact List.cons_subset_cons _ (ih _)

theorem attemptAll_warnings (a : Assignment) (ctx : CallContext) (userids : List Int) (b : Batch)
    (s : Site) :
    ((attemptAll a ctx userids b) s).1.warnings.map Warning.subject =
      b.warnings.map Warning.subject ++ (refusedUsers a ctx userids s).map refusalSubject := by
  induction userids generalizing b s with
  | nil => simp [attemptAll, refusedUsers]; rfl
  | cons userid rest ih =>
    rw [refusedUsers]
    cases hid : s.removable? a ctx userid with
    | none =>
      obtain ⟨refused, hcons⟩ := attemptAll_cons_of_none hid rest b
      rw [hcons, ih]
      simp [Batch.failure, Warning.subject, warning, refusalSubject]
    | some id =>
      rw [attemptAll_cons_of_some hid, ih]
      simp [Batch.success]

theorem run_of_assignment {x : Arguments} (h : s.assignment? x.assignid = some a) :
    (run ctx x) s = (.ok ((attemptAll a ctx x.userids {}) s).1.toOutcome,
      ((attemptAll a ctx x.userids {}) s).2) := by
  simp only [run, requireAssignment, Run.bind_apply, Run.get_apply, Run.pure_apply, h,
    Run.lift_apply]

theorem run_of_noAssignment {x : Arguments} (h : s.assignment? x.assignid = none) :
    (run ctx x) s = (.error (.recordNotFound "assign" (toString x.assignid)), s) := by
  simp only [run, requireAssignment, Run.bind_apply, Run.get_apply, Run.throw_apply, h]

end RemoveSubmissions

end Runs

/-! ## Calls -/

/-- The site after the removals that a call asks for. -/
def Site.afterRemovals (s : Site) (ctx : CallContext) (assignid : Int) (userids : List Int) :
    Site :=
  match s.assignment? assignid with
  | none => s
  | some a => s.takeBack ctx.clock.seconds (userids.filterMap (s.removable? a ctx))

section Calls

variable {strings : Strings} {s : Site} {a : Assignment} {ctx : CallContext}

theorem objections_isClean (strings : Strings) (s : Site) (a : Assignment) (ctx : CallContext)
    {x : RemoveSubmission.Arguments} (ha : IsInt64 x.assignid) :
    ∀ w ∈ RemoveSubmission.objections strings s a x ctx, w.IsClean := by
  have hclean : ∀ code, code.toList.all isAlphanumeric = true →
      (RemoveSubmission.warning strings code x.assignid).IsClean :=
    fun code hcode => ⟨hcode, by rintro _ ⟨⟩; exact ha⟩
  intro w hw
  rcases List.mem_append.1 hw with hw | hw
  all_goals
    split at hw
    · cases hw
    · rw [List.mem_singleton.1 hw]
      exact hclean _ (by decide)

theorem attemptAll_warnings_isClean (s : Site) (a : Assignment) (ctx : CallContext)
    {userids : List Int}
    (hu : ∀ userid ∈ userids, IsInt64 userid) :
    ∀ w ∈ ((RemoveSubmissions.attemptAll a ctx userids {}) s).1.warnings, w.IsClean := by
  intro w hw
  have hsubject := List.mem_map_of_mem (f := Warning.subject) hw
  rw [RemoveSubmissions.attemptAll_warnings, List.map_nil, List.nil_append,
    List.mem_map] at hsubject
  obtain ⟨userid, hmem, hsubject⟩ := hsubject
  simp only [Warning.subject, refusalSubject, Prod.mk.injEq, Option.some.injEq,
    Json.string.injEq] at hsubject
  obtain ⟨hcode, -, hid⟩ := hsubject
  refine ⟨hcode ▸ by decide, fun id h => ?_⟩
  rw [h] at hid
  cases hid
  exact hu userid (RemoveSubmissions.refusedUsers_subset userids s hmem)

section One

variable {arguments : Json} {assignid userid : Int} (strings)

theorem call_one (h : arguments.AsksForOne assignid userid) :
    ((removeSubmissionFunction strings).call ctx arguments) s =
      match (RemoveSubmission.run strings ctx ⟨assignid, userid⟩) s with
      | (.ok o, after) => (cleanResult (removeSubmissionFunction strings).output o.toResult, after)
      | (.error e, after) => (.error e, after) := by
  have hvalid := (validateArguments_one_iff strings).2 ⟨assignid, userid, h, rfl⟩
  have hread := readArguments_one (Json.isInt64_of_integerAt? h.assignment)
    (Json.isInt64_of_integerAt? h.user)
  rw [ExternalFunction.call_of_ok hvalid]
  simp only [removeSubmissionFunction, Run.bind_apply, Run.liftExcept_apply, hread, Run.pure_apply]
  rcases (RemoveSubmission.run strings ctx ⟨assignid, userid⟩) s with ⟨_ | _, _⟩ <;> rfl

theorem call_one_of_some (h : arguments.AsksForOne assignid userid)
    (ha : s.assignment? assignid = some a) {id : Int} (hid : s.removable? a ctx userid = some id) :
    ((removeSubmissionFunction strings).call ctx arguments) s =
      (.ok (Outcome.ok ()).toResult, s.takeBack ctx.clock.seconds [id]) := by
  rw [call_one strings h, RemoveSubmission.run_of_some ha hid]
  exact congrArg (·, _) (Outcome.cleanResult_toResult (o := .ok ()) (by simp [Outcome.warnings]))

theorem call_one_of_none (h : arguments.AsksForOne assignid userid)
    (ha : s.assignment? assignid = some a) (hid : s.removable? a ctx userid = none) :
    ∃ ws, ((removeSubmissionFunction strings).call ctx arguments) s =
      (.ok (Outcome.failed ws).toResult, s) := by
  have hclean := objections_isClean strings s a ctx (x := ⟨assignid, userid⟩)
    (Json.isInt64_of_integerAt? h.assignment)
  rw [call_one strings h, RemoveSubmission.run_of_none ha hid]
  exact ⟨_, congrArg (·, _) (Outcome.cleanResult_toResult hclean)⟩

theorem call_one_site (h : arguments.AsksForOne assignid userid) :
    (((removeSubmissionFunction strings).call ctx arguments) s).2 =
      s.afterRemovals ctx assignid [userid] := by
  unfold Site.afterRemovals
  cases ha : s.assignment? assignid with
  | none => rw [call_one strings h, RemoveSubmission.run_of_noAssignment ha]
  | some a =>
    cases hid : s.removable? a ctx userid with
    | none =>
      obtain ⟨ws, hcall⟩ := call_one_of_none strings h ha hid
      rw [hcall]
      simp [hid]
    | some id =>
      rw [call_one_of_some strings h ha hid]
      simp [hid]

end One

section Several

variable {arguments : Json} {assignid : Int} {userids : List Int}

theorem call_several (h : arguments.AsksForSeveral assignid userids) :
    (removeSubmissionsFunction.call ctx arguments) s =
      match (RemoveSubmissions.run ctx ⟨assignid, userids⟩) s with
      | (.ok o, after) => (cleanResult removeSubmissionsFunction.output o.toResult, after)
      | (.error e, after) => (.error e, after) := by
  have hvalid := validateArguments_several_iff.2 ⟨assignid, userids, h, rfl⟩
  have hread := readArguments_several (Json.isInt64_of_integerAt? h.assignment)
    (Json.isInt64_of_integersAt? h.users)
  rw [ExternalFunction.call_of_ok hvalid]
  simp only [removeSubmissionsFunction, Run.bind_apply, Run.liftExcept_apply, hread, Run.pure_apply]
  rcases (RemoveSubmissions.run ctx ⟨assignid, userids⟩) s with ⟨_ | _, _⟩ <;> rfl

theorem call_several_of_assignment (h : arguments.AsksForSeveral assignid userids)
    (ha : s.assignment? assignid = some a) :
    (removeSubmissionsFunction.call ctx arguments) s =
      (.ok ((RemoveSubmissions.attemptAll a ctx userids {}) s).1.toOutcome.toResult,
        ((RemoveSubmissions.attemptAll a ctx userids {}) s).2) := by
  have hclean := attemptAll_warnings_isClean s a ctx (Json.isInt64_of_integersAt? h.users)
  rw [call_several h, RemoveSubmissions.run_of_assignment ha]
  rw [← Batch.warnings_toOutcome] at hclean
  exact congrArg (·, _) (Outcome.cleanResult_toResult hclean)

theorem call_several_site (h : arguments.AsksForSeveral assignid userids) :
    ((removeSubmissionsFunction.call ctx arguments) s).2 =
      s.afterRemovals ctx assignid userids := by
  unfold Site.afterRemovals
  cases ha : s.assignment? assignid with
  | none => rw [call_several h, RemoveSubmissions.run_of_noAssignment ha]
  | some a =>
    rw [call_several_of_assignment h ha]
    exact RemoveSubmissions.attemptAll_site userids {} s

end Several

end Calls

end Campus
