import Campus.Proofs.BatchRemoval

/-!
# The order of several removals

In whichever order a call names the users, it leaves the same site, up to the times of the changes,
answers the same status, and warns of the same users for the same reasons.
-/

namespace Campus

namespace RemoveSubmissions

variable {a : Assignment} {ctx : CallContext} {s t : Site} {userid other : Int}

/-! ## One attempt -/

/-- The warnings about one user. -/
def complaint (userid : Int) : Except RemovalRefused Submission → List Warning
  | .ok _ => []
  | .error refused => [warning userid refused]

/-- The state of a user's latest attempt. -/
def latestStatus? (s : Site) (a : Assignment) (userid : Int) : Option SubmissionStatus :=
  (s.userSubmission? a.id userid).map (·.status)

/-- What is said of a user depends on their name, on what the caller may do, and on the state of
their own latest attempt. -/
theorem complaint_attempt (a : Assignment) (userid : Int) (ctx : CallContext) (s : Site) :
    complaint userid (attempt a userid ctx s).1 =
      match latestStatus? s a userid with
      | none => [warning userid (.noSubmission userid)]
      | some status =>
        if a.canEdit userid ctx then
          if status.isRemovable then [] else [warning userid (.nothingToRemove userid)]
        else
          [warning userid (.noPermission
            (((s.user? userid).map User.fullname).getD (toString userid)))] := by
  unfold attempt latestStatus? Site.removeSubmission Site.removal Site.userSubmission?
  cases s.latestAttempt? a.id userid with
  | none => rfl
  | some found =>
    obtain ⟨id, sub⟩ := found
    by_cases hedit : a.canEdit userid ctx = true
    · by_cases hfull : sub.status.isRemovable = true
      · simp [hedit, hfull, complaint]
      · simp [hedit, hfull, complaint]
    · simp [hedit, complaint]

theorem complaint_congr (hstatus : latestStatus? t a userid = latestStatus? s a userid)
    (huser : t.user? userid = s.user? userid) (clock : Clock) :
    complaint userid (attempt a userid { ctx with clock } t).1 =
      complaint userid (attempt a userid ctx s).1 := by
  rw [complaint_attempt, complaint_attempt, hstatus, huser]
  rfl

theorem attempt_site (a : Assignment) (userid : Int) (ctx : CallContext) (s : Site) :
    (attempt a userid ctx s).2 =
      s.takeBack ctx.clock.seconds (s.removable? a ctx userid).toList := by
  cases hid : s.removable? a ctx userid with
  | none =>
    obtain ⟨refused, hattempt⟩ := attempt_of_none hid
    rw [hattempt, Option.toList_none, Site.takeBack_nil]
  | some id =>
    obtain ⟨sub, hattempt⟩ := attempt_of_some hid
    rw [hattempt, Option.toList_some]

/-! ## Two attempts -/

theorem latestStatus?_attempt (hne : userid ≠ other) :
    latestStatus? (attempt a userid ctx s).2 a other = latestStatus? s a other := by
  rw [attempt_site]
  unfold latestStatus? Site.userSubmission?
  rw [Site.takeBack_latestAttempt?]
  cases hother : s.latestAttempt? a.id other with
  | none => rfl
  | some found =>
    obtain ⟨id, sub⟩ := found
    have hfree : s.removable? a ctx userid ≠ some id := by
      intro hmem
      obtain ⟨-, attempt, hlatest, -⟩ := Site.removable?_eq_some_iff.1 hmem
      have hmine := Site.latestAttempt?_eq_some_iff.1 hlatest
      have htheirs := Site.latestAttempt?_eq_some_iff.1 hother
      have hsame := hmine.stored.symm.trans htheirs.stored
      cases hsame
      exact hne (hmine.of_user.symm.trans htheirs.of_user)
    simp [hfree]

theorem complaint_attempt_attempt (hne : userid ≠ other) :
    complaint other (attempt a other ctx (attempt a userid ctx s).2).1 =
      complaint other (attempt a other ctx s).1 := by
  refine complaint_congr (latestStatus?_attempt hne) ?_ ctx.clock
  rw [attempt_site]
  rfl

theorem attempt_comm (a : Assignment) (ctx : CallContext) (userid other : Int) (s : Site) :
    (attempt a other ctx (attempt a userid ctx s).2).2 =
      (attempt a userid ctx (attempt a other ctx s).2).2 := by
  simp only [attempt_site, Site.takeBack_takeBack, Site.removable?_takeBack]
  apply Site.takeBack_congr
  intro id
  simp only [List.mem_append, Option.mem_toList, Option.filter_eq_some_iff,
    decide_eq_true_eq]
  tauto

/-! ## All attempts -/

/-- The warnings about some users, each by what the removals before it left. -/
def complaints (a : Assignment) (ctx : CallContext) : List Int → Site → List Warning
  | [], _ => []
  | userid :: rest, s =>
    complaint userid (attempt a userid ctx s).1
      ++ complaints a ctx rest (attempt a userid ctx s).2

theorem attemptAll_complaints (userids : List Int) (b : Batch) (s : Site) :
    ((attemptAll a ctx userids b) s).1.warnings = b.warnings ++ complaints a ctx userids s := by
  induction userids generalizing b s with
  | nil =>
    rw [complaints, List.append_nil]
    rfl
  | cons userid rest ih =>
    rw [attemptAll_cons, complaints]
    rcases attempt a userid ctx s with ⟨refused | sub, after⟩
    · rw [ih, ← List.append_assoc]
      rfl
    · rw [ih]
      rfl

theorem complaints_perm {userids others : List Int} (h : userids.Perm others) (s : Site) :
    (complaints a ctx userids s).Perm (complaints a ctx others s) := by
  induction h generalizing s with
  | nil => exact .nil
  | cons userid _ ih => exact (ih _).append_left _
  | swap userid other rest =>
    by_cases hne : userid = other
    · rw [hne]
    · simp only [complaints]
      rw [complaint_attempt_attempt hne, complaint_attempt_attempt (Ne.symm hne), attempt_comm]
      exact List.perm_append_comm_assoc _ _ _
  | trans _ _ ih₁ ih₂ => exact (ih₁ s).trans (ih₂ s)

/-! ## At another time -/

theorem latestStatus?_timeless (s : Site) (a : Assignment) (userid : Int) :
    latestStatus? s.timeless a userid = latestStatus? s a userid := by
  unfold latestStatus? Site.userSubmission?
  rw [Site.latestAttempt?_timeless]
  cases s.latestAttempt? a.id userid <;> rfl

theorem complaint_timeless (h : s.timeless = t.timeless) (clock : Clock) :
    complaint userid (attempt a userid { ctx with clock } t).1 =
      complaint userid (attempt a userid ctx s).1 := by
  apply complaint_congr
  · rw [← latestStatus?_timeless, ← h, latestStatus?_timeless]
  · exact congrArg (·.user? userid) h.symm

theorem attempt_timeless (h : s.timeless = t.timeless) (clock : Clock) :
    (attempt a userid ctx s).2.timeless = (attempt a userid { ctx with clock } t).2.timeless := by
  rw [attempt_site, attempt_site, Site.removable?_congr h, Site.timeless_takeBack,
    Site.timeless_takeBack, h]

theorem complaints_timeless (userids : List Int) (h : s.timeless = t.timeless) (clock : Clock) :
    complaints a { ctx with clock } userids t = complaints a ctx userids s := by
  induction userids generalizing s t with
  | nil => rfl
  | cons userid rest ih =>
    rw [complaints, complaints, complaint_timeless h, ih (attempt_timeless h clock)]

theorem attemptAll_site_perm {userids others : List Int} (h : userids.Perm others) (clock : Clock)
    (b : Batch) (s : Site) :
    ((attemptAll a ctx userids b) s).2.timeless =
      ((attemptAll a { ctx with clock } others b) s).2.timeless := by
  have hids (id : Int) : id ∈ userids.filterMap (s.removable? a ctx) ↔
      id ∈ others.filterMap (s.removable? a { ctx with clock }) := by
    rw [funext (Site.removable?_congr rfl ctx clock)]
    exact (h.filterMap _).mem_iff
  rw [attemptAll_site, attemptAll_site, Site.timeless_takeBack, Site.timeless_takeBack]
  exact Site.takeBack_congr 0 _ hids

end RemoveSubmissions

/-! ## Calls -/

/-- Two calls left the same site, up to times, and answered the same status and the same warnings,
up to their order. -/
structure AgreesUpToOrder (first second : Except ExternalError Json × Site) : Prop where
  site : first.2.timeless = second.2.timeless
  answers : ∃ status ws permuted, ws.Perm permuted ∧
    first.1 = .ok (Envelope.toJson { status, warnings := ws }) ∧
    second.1 = .ok (Envelope.toJson { status, warnings := permuted })

theorem Batch.toResult_toOutcome (b : Batch) :
    b.toOutcome.toResult =
      Envelope.toJson { status := b.warnings.isEmpty, warnings := b.warnings } := by
  unfold toOutcome status
  cases hws : b.warnings with
  | nil => rfl
  | cons w ws => rfl

section Calls

variable {s : Site} {a : Assignment} {ctx : CallContext} {assignid : Int}
  {userids others : List Int} {arguments permuted : Json}

/-- The order of the users makes no difference, whenever the two calls are made. -/
theorem call_permutedRemovals_agrees (ha : s.assignment? assignid = some a)
    (harguments : arguments.AsksForSeveral assignid userids)
    (hpermuted : permuted.AsksForSeveral assignid others) (hperm : userids.Perm others)
    (clock : Clock) :
    AgreesUpToOrder ((removeSubmissionsFunction.call ctx arguments) s)
      ((removeSubmissionsFunction.call { ctx with clock } permuted) s) := by
  have hcomplaints : (RemoveSubmissions.complaints a ctx userids s).Perm
      (RemoveSubmissions.complaints a { ctx with clock } others s) := by
    rw [RemoveSubmissions.complaints_timeless others rfl clock]
    exact RemoveSubmissions.complaints_perm hperm s
  rw [call_several_of_assignment harguments ha, call_several_of_assignment hpermuted ha]
  constructor
  · exact RemoveSubmissions.attemptAll_site_perm hperm clock {} s
  · rw [Batch.toResult_toOutcome, Batch.toResult_toOutcome,
      RemoveSubmissions.attemptAll_complaints, RemoveSubmissions.attemptAll_complaints,
      List.nil_append, List.nil_append, hcomplaints.isEmpty_eq]
    exact ⟨_, _, _, hcomplaints, rfl, rfl⟩

/-- One of the two removals for the one user who is named twice is refused, in either order. -/
theorem essay_removals_permuted :
    essaySite.assignment? 1 = some ⟨1, 2, 3, "Essay"⟩ ∧ [5, 5, 9].Perm [9, 5, 5] ∧
      AgreesUpToOrder
        ((removeSubmissionsFunction.call administratorContext (severalRemovals 1 [5, 5, 9]))
          essaySite)
        ((removeSubmissionsFunction.call { administratorContext with clock := ⟨201, ""⟩ }
          (severalRemovals 1 [9, 5, 5])) essaySite) :=
  ⟨rfl, by decide, call_permutedRemovals_agrees rfl
    (asksForSeveral_severalRemovals (by decide) (by decide))
    (asksForSeveral_severalRemovals (by decide) (by decide)) (by decide) ⟨201, ""⟩⟩

end Calls

end Campus
