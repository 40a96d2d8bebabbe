import Campus.Proofs.LatestAttempt
import Campus.Proofs.Sowing.Modules

/-!
# Sowing submissions

An entry about work that an earlier entry was about finds the attempt of that one and changes its
status. So there is one attempt for each work, and its status is that of the last entry.
-/

namespace Campus

open Change

/-! ## Attempts after a write -/

namespace Site

variable {s t u : Site} {now assignment userid id : Int} {status next : SubmissionStatus}
  {status? : Option SubmissionStatus}

theorem attempts_add (hsound : s.submissions.Sound Submission.id) {make : Int → Submission}
    {sub : Submission} (hmake : make s.submissions.nextId = sub) (assignment userid : Int) :
    { s with submissions := (s.submissions.add make).2 }.attempts assignment userid =
      s.attempts assignment userid ++
        if sub.assignment = assignment ∧ sub.userid = userid then [(s.submissions.nextId, sub)]
        else [] := by
  rw [attempts, hsound.rows_add, hmake, List.filter_append, attempts]
  congr 1
  simp [List.filter_cons]

theorem sound_rework {change : Submission → Submission} (hkeeps : KeepsAttempt change)
    (h : s.submissions.Sound Submission.id) (ids : List Int) :
    (s.rework change ids).submissions.Sound Submission.id :=
  h.mapRows fun id sub => by split <;> simp [hkeeps.id]

theorem keepsAttempt_moved (now : Int) (status : SubmissionStatus) :
    KeepsAttempt fun sub => { sub with status, timemodified := now } :=
  ⟨fun _ => rfl, fun _ => rfl, fun _ => rfl, fun _ => rfl⟩

theorem moveLatest_of_some {sub : Submission}
    (h : s.latestAttempt? assignment userid = some (id, sub)) :
    (Fixture.moveLatest now status assignment userid) s =
      (some { sub with status, timemodified := now },
        s.rework (fun sub => { sub with status, timemodified := now }) [id]) := by
  have hput := put_eq_rework (fun sub => { sub with status, timemodified := now })
    (latestAttempt?_eq_some_iff.1 h).stored
  rw [Fixture.moveLatest, h, ← hput]

theorem moveLatest_of_none (h : s.latestAttempt? assignment userid = none) :
    (Fixture.moveLatest now status assignment userid) s = (none, s) := by
  rw [Fixture.moveLatest, h]

theorem addSubmission_of_some {sub : Submission}
    (h : s.latestAttempt? assignment userid = some (id, sub)) :
    (Fixture.addSubmission now assignment userid) s =
      ({ sub with status := .draft, timemodified := now },
        s.rework (fun sub => { sub with status := .draft, timemodified := now }) [id]) := by
  rw [Fixture.addSubmission, Run.bind_apply_of_state, moveLatest_of_some h]
  rfl

theorem addSubmission_of_none (h : s.latestAttempt? assignment userid = none) :
    (Fixture.addSubmission now assignment userid) s =
      (Fixture.addDraft now assignment userid 0) s := by
  rw [Fixture.addSubmission, Run.bind_apply_of_state, moveLatest_of_none h]

theorem keepsAttempt_setStatus (status : SubmissionStatus) :
    KeepsAttempt fun sub => { sub with status } :=
  ⟨fun _ => rfl, fun _ => rfl, fun _ => rfl, fun _ => rfl⟩

theorem setStatus_eq_rework (id : Int) (status : SubmissionStatus) (s : Site) :
    { s with submissions := s.submissions.modify id ({ · with status }) } =
      s.rework ({ · with status }) [id] := by
  simp [rework, Table.modify, Table.mapRows, Keyed.modify]

/-! ## One attempt -/

/-- Of the attempts only those of a user at an assignment have changed: there is now one, the first,
of this status. -/
structure Attempted (now assignment userid : Int) (status : SubmissionStatus) (id : Int)
    (s after : Site) : Prop where
  own : after.attempts assignment userid = [(id, .first now assignment userid status id)]
  others : ∀ assignment' userid', ¬(assignment' = assignment ∧ userid' = userid) →
    after.attempts assignment' userid' = s.attempts assignment' userid'
  sound : after.submissions.Sound Submission.id
  rest : after = { s with submissions := after.submissions }

theorem Attempted.rework (h : s.Attempted now assignment userid status id t)
    {change : Submission → Submission} (hkeeps : KeepsAttempt change) (next : SubmissionStatus)
    (hchange : change (.first now assignment userid status id) =
      .first now assignment userid next id) :
    s.Attempted now assignment userid next id (t.rework change [id]) where
  own := by
    rw [attempts_rework hkeeps, h.own, ← hchange]
    simp [Keyed.mapValues]
  others := by
    intro assignment' userid' hother
    refine (attempts_rework_of_notMem hkeeps fun row hrow hid => ?_).trans
      (h.others assignment' userid' hother)
    -- The changed row belongs to the other attempts, so it is none of these.
    have hown : (id, _) ∈ t.attempts assignment userid := h.own ▸ List.mem_singleton_self _
    rw [← List.mem_singleton.1 hid] at hown
    exact hother (eq_of_mem_attempts hown hrow)
  sound := sound_rework hkeeps h.sound [id]
  rest := by
    rw [h.rest]
    rfl

theorem attempted_add (hsound : s.submissions.Sound Submission.id)
    (hnone : s.attempts assignment userid = []) :
    s.Attempted now assignment userid .draft s.submissions.nextId
      { s with submissions := (s.submissions.add (.first now assignment userid .draft)).2 } where
  own := by
    rw [attempts_add hsound rfl, hnone, if_pos ⟨rfl, rfl⟩]
    rfl
  others := by
    intro assignment' userid' hother
    rw [attempts_add hsound rfl, if_neg fun h => hother ⟨h.1.symm, h.2.symm⟩, List.append_nil]
  sound := hsound.add rfl
  rest := rfl

theorem Attempted.refl (hsound : s.submissions.Sound Submission.id)
    (h : s.attempts assignment userid = [(id, .first now assignment userid status id)]) :
    s.Attempted now assignment userid status id s where
  own := h
  others _ _ _ := rfl
  sound := hsound
  rest := rfl

theorem Attempted.moveLatest (h : s.Attempted now assignment userid status id t)
    (next : SubmissionStatus) : ∃ after,
      Fixture.moveLatest now next assignment userid t =
        (some (.first now assignment userid next id), after) ∧
      s.Attempted now assignment userid next id after := by
  have hlatest : t.latestAttempt? assignment userid =
      some (id, .first now assignment userid status id) := by
    rw [latestAttempt?, h.own]
    rfl
  exact ⟨_, moveLatest_of_some hlatest, h.rework (keepsAttempt_moved now next) next rfl⟩

theorem attempted_addSubmission (hsound : s.submissions.Sound Submission.id)
    (h : ∃ id, s.attempts assignment userid =
      (status?.map fun status => (id, .first now assignment userid status id)).toList) :
    ∃ id after,
      Fixture.addSubmission now assignment userid s =
        (.first now assignment userid .draft id, after) ∧
      s.Attempted now assignment userid .draft id after := by
  obtain ⟨id, h⟩ := h
  cases status? with
  | none =>
    have hlatest : s.latestAttempt? assignment userid = none := by
      rw [latestAttempt?, h]
      rfl
    exact ⟨_, _, (addSubmission_of_none hlatest).trans rfl, attempted_add hsound h⟩
  | some status =>
    obtain ⟨after, hmove, hafter⟩ := (Attempted.refl hsound h).moveLatest .draft
    refine ⟨id, after, ?_, hafter⟩
    rw [Fixture.addSubmission, Run.bind_apply_of_state, hmove]
    rfl

end Site

namespace Seed

variable {ambient : Ambient} {t u : Site} {users : List SeedUser} {roles : List SeedRole}
  {courses : List SeedCourse} {modules : List SeedModule} {before : List SeedSubmission}
  {e : SeedSubmission} {cm : CourseModule}

/-! ## The last status -/

theorem lastStatus?_concat (hmodule : module? { courses, modules } e.module = some cm)
    (assignment userid : Int) :
    lastStatus? { users, roles, courses, modules, submissions := before ++ [e] } assignment userid =
      if assignment = cm.instanceId ∧ userid = userNumber { users } e.user then some e.status
      else lastStatus? { users, roles, courses, modules, submissions := before } assignment
        userid := by
  have hwork : isWork { users, roles, courses, modules, submissions := before ++ [e] } assignment
      userid e = true ↔ assignment = cm.instanceId ∧ userid = userNumber { users } e.user := by
    have hfound : module? { users, roles, courses, modules, submissions := before ++ [e] }
        e.module = some cm := hmodule
    rw [isWork, hfound, Option.any_some, Bool.and_eq_true, beq_iff_eq, beq_iff_eq, eq_comm,
      @eq_comm _ _ userid]
    rfl
  rw [lastStatus?, List.filter_append]
  split
  · next hsame =>
    rw [List.filter_singleton, hwork.2 hsame, cond_true, List.getLast?_concat]
    rfl
  · next hother =>
    rw [List.filter_singleton, Bool.eq_false_iff.2 fun h => hother (hwork.1 h), cond_false,
      List.append_nil]
    rfl

theorem Describes.submit
    (h : Describes ambient { users, roles, courses, modules, submissions := before } t)
    (hmodule : module? { courses, modules } e.module = some cm) {id : Int}
    (hafter : t.Attempted ambient.now cm.instanceId (userNumber { users } e.user) e.status id u) :
    Describes ambient { users, roles, courses, modules, submissions := before ++ [e] } u := by
  have hattempts (assignment userid : Int) : ∃ id, u.attempts assignment userid =
      ((lastStatus? { users, roles, courses, modules, submissions := before ++ [e] } assignment
        userid).map fun status =>
          (id, Submission.first ambient.now assignment userid status id)).toList := by
    rw [lastStatus?_concat hmodule]
    split
    · next hsame =>
      rw [hsame.1, hsame.2]
      exact ⟨id, hafter.own⟩
    · next hother =>
      rw [hafter.others assignment userid hother]
      exact h.attempts assignment userid
  rw [hafter.rest]
  exact { h with attempts := hafter.rest ▸ hattempts }

/-! ## Making submissions -/

theorem one_le_instanceId {s : Seed} {key : String} (h : s.module? key = some cm) :
    1 ≤ cm.instanceId := by
  obtain ⟨before, m, after, -, hm⟩ := mem_inTurn.1 (Keyed.mem_of_get? h)
  cases hm
  simp only [moduleRecord, SeedModule.instanceNumber]
  omega

theorem meets_assignInstance {s : Seed} {key : String} (h : Describes ambient s t)
    (hmodule : s.module? key = some cm) :
    (Fixture.assignInstance cm).Meets t (cm.instanceId ≤ (modulesOf .assign s.modules).length)
      fun a u => u = t ∧ a.id = cm.instanceId := by
  have hthere : (t.assignment? cm.instanceId).isSome = true ↔
      cm.instanceId ≤ (modulesOf .assign s.modules).length := by
    have hone := one_le_instanceId hmodule
    rw [Site.assignment?, h.assignments]
    exact Table.contains_numbered.trans ⟨fun h => h.2, fun h => ⟨hone, h⟩⟩
  unfold Fixture.assignInstance
  apply Meets.get_bind
  refine ((meets_require _ _).congr hthere).imp ?_
  rintro a u ⟨rfl, hget⟩
  rw [Site.assignment?, h.assignments] at hget
  obtain ⟨before, m, after, -, hid, rfl⟩ := Table.get?_numbered_eq_some_iff.1 hget
  exact ⟨rfl, hid⟩

theorem meets_makeSubmission (e : SeedSubmission)
    (h : Describes ambient { users, roles, courses, modules, submissions := before } t)
    (hsound : t.submissions.Sound Submission.id) :
    (makeSubmission ambient.now (names { users, courses, modules }) e).Meets t
      (KnowsSubmission { users, courses, modules } e) fun _ u =>
        Describes ambient { users, roles, courses, modules, submissions := before ++ [e] } u ∧
          u.submissions.Sound Submission.id := by
  have hknown : (e.module ∈ modules.map (·.key) ∧ KnowsSubmission { users, courses, modules } e) ↔
      KnowsSubmission { users, courses, modules } e := by
    refine ⟨And.right, fun hall => ⟨?_, hall⟩⟩
    obtain ⟨⟨cm, hmodule, -⟩, -⟩ := hall
    exact contains_namesOf.1 (Option.isSome_iff_exists.2 ⟨cm, hmodule⟩)
  unfold makeSubmission names
  refine ((meets_lookUp e.module modules).bind ?_).congr hknown
  rintro - cm t ⟨rfl, hmodule⟩
  have hmodule : module? { users, courses, modules } e.module = some cm := hmodule
  have hcond : KnowsSubmission { users, courses, modules } e ↔
      cm.instanceId ≤ (modulesOf .assign modules).length ∧ e.user ∈ users.map (·.username) := by
    rw [KnowsSubmission, hmodule]
    simp
  refine ((meets_assignInstance h hmodule).bind ?_).congr hcond.symm
  rintro - a t ⟨rfl, hid⟩
  refine (meets_lookUp_number e.user users).bind_true ?_
  rintro - _ t ⟨rfl, rfl⟩
  obtain ⟨id, after, hadd, hdraft⟩ := Site.attempted_addSubmission hsound
    (h.attempts cm.instanceId (userNumber { users } e.user))
  have hdone {u : Site} (hu : t.Attempted ambient.now cm.instanceId (userNumber { users } e.user)
      e.status id u) :
      Describes ambient { users, roles, courses, modules, submissions := before ++ [e] } u ∧
        u.submissions.Sound Submission.id :=
    ⟨h.submit hmodule hu, hu.sound⟩
  rw [hid]
  refine Meets.bind_of_true (meets_lift hadd) ?_
  rintro _ drafted ⟨rfl, rfl⟩
  split
  · next hstatus => exact meets_pure (hdone (hstatus ▸ hdraft))
  · next hstatus =>
    obtain ⟨last, hmove, hlast⟩ := hdraft.moveLatest .submitted
    have hsubmit : Meets (Fixture.submitForGrading ambient.now cm.instanceId
        (userNumber { users } e.user) : Fixture (Option Submission)) drafted True _ :=
      meets_lift hmove
    refine (hsubmit.imp ?_).discard
    rintro _ _ ⟨-, rfl⟩
    exact hdone (hstatus ▸ hlast)
  · have hlast := hdraft.rework (Site.keepsAttempt_setStatus e.status) e.status rfl
    rw [← Site.setStatus_eq_rework] at hlast
    exact meets_of_ok (a := ()) rfl trivial (hdone hlast)

theorem meets_makeSubmissions (h : Describes ambient { users, roles, courses, modules } t)
    (submissions : List SeedSubmission) :
    (each (makeSubmission ambient.now (names { users, courses, modules })) submissions).Meets t
      (∀ e ∈ submissions, KnowsSubmission { users, courses, modules } e) fun _ u =>
        Describes ambient { users, roles, courses, modules, submissions } u := by
  -- No work has been handed in yet, so there are no attempts at all.
  have hnone : ∀ id sub, t.submissions.get? id ≠ some sub := by
    intro id sub hget
    have hmem := Site.mem_attempts.2 ⟨hget, rfl, rfl⟩
    obtain ⟨id', hattempts⟩ := h.attempts sub.assignment sub.userid
    rw [hattempts] at hmem
    cases hmem
  have hsound : t.submissions.Sound Submission.id :=
    Table.sound_of_own_of_range (fun id sub hget => absurd hget (hnone id sub))
      fun id sub hget => absurd hget (hnone id sub)
  have hall := meets_each (I := fun before u =>
    Describes ambient { users, roles, courses, modules, submissions := before } u ∧
      u.submissions.Sound Submission.id) submissions ⟨h, hsound⟩
    fun _ e _ _ _ hbefore => meets_makeSubmission e hbefore.1 hbefore.2
  exact hall.imp fun _ _ hafter => hafter.1

end Seed

end Campus
