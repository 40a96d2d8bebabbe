import Campus.Proofs.Operations
import Campus.Proofs.Sowing.Site

/-!
# Locked badges

A badge is locked if it was awarded, or if it was to be awarded to someone who is not known. There
is no other way.
-/

namespace Campus

namespace Operation

variable {s : Site} {badgeid : Int} {op : Operation}

/-- The badge is there, and is to be awarded to someone who is not known. -/
def FailsToAward (badgeid : Int) (op : Operation) (s : Site) : Prop :=
  ∃ ambient userid, op = .issueBadge ambient badgeid userid ∧
    s.badges.contains badgeid = true ∧ s.users.contains userid = false

/-! ## One operation -/

theorem isLocked_of_failsToAward (h : FailsToAward badgeid op s) (hs : s.Unarchived) :
    (op.run s).IsLocked badgeid := by
  obtain ⟨ambient, userid, rfl, hbadge, huser⟩ := h
  obtain ⟨b, hstored⟩ := Table.contains_iff.1 hbadge
  rw [run, Fixture.issueBadge_of_no_user hbadge huser]
  refine ⟨{ b with status := b.status.locked }, ?_, BadgeStatus.isLocked_locked (hs _ b hstored)⟩
  rw [Site.badge?, Table.get?_modify, hstored, Option.map_some, if_pos rfl]

/-- A lock without an award was there before, or is what is left of an award that failed. -/
theorem lockedInVain_run (hs : s.Consistent) (h : (op.run s).LockedInVain badgeid) :
    s.LockedInVain badgeid ∨ FailsToAward badgeid op s := by
  have hsettles (hop : s.Settles [] (op.run s)) : s.LockedInVain badgeid :=
    hop.settled hs (by nofun) badgeid h
  cases op with
  | call features strings clock function token arguments =>
    obtain ⟨submissions, events, hafter⟩ :=
      exists_run_call features strings clock function token arguments s
    rw [hafter] at h
    exact .inl h
  | sow ambient seed => exact .inl (hsettles (Seed.settles_apply ambient seed s))
  | issueBadge ambient issued userid =>
    cases huser : s.users.contains userid with
    | true =>
      have hissue :=
        Fixture.settles_issueBadge ambient issued (List.mem_singleton_self userid) s
      exact .inl (hissue.settled hs (List.forall_mem_singleton.2 huser) badgeid h)
    | false =>
      cases hbadge : s.badges.contains issued with
      | false =>
        rw [run, Fixture.issueBadge_of_no_badge hbadge] at h
        exact .inl h
      | true =>
        by_cases hissued : badgeid = issued
        · subst hissued
          exact .inr ⟨ambient, userid, rfl, hbadge, huser⟩
        · rw [run, Fixture.issueBadge_of_no_user hbadge huser] at h
          exact .inl ⟨Site.isLocked_of_modify_of_ne hissued h.1, h.2⟩
  | assignCapability =>
    exact .inl (hsettles (Fixture.locksNothing_assignCapability _ _ _ _ s).settles)
  | _ => exact .inl (hsettles (plain_run (by exact trivial) s).settles)

/-! ## Any number of operations -/

theorem progresses_runAll (ops : List Operation) (hs : s.Consistent) :
    s.Progresses (runAll ops s) :=
  keeps_runAll ops (fun _ _ ht hwrite hp => hp.trans (hwrite.progresses (ht.consistent hs)))
    (fun _ _ _ hp => hp.trans (Site.progresses_of_eq rfl rfl)) (.refl s)

theorem lockedInVain_runAll (ops : List Operation) (hs : s.Consistent)
    (h : (runAll ops s).LockedInVain badgeid) : s.LockedInVain badgeid ∨
      ∃ before op after, ops = before ++ op :: after ∧
        FailsToAward badgeid op (runAll before s) := by
  induction ops generalizing s with
  | nil => exact .inl h
  | cons op rest ih =>
    rcases ih ((evolves_run op s).consistent hs) h with hmid | ⟨before, other, after, rfl, hfails⟩
    · refine (lockedInVain_run hs hmid).imp_right fun hfails => ?_
      exact ⟨[], op, rest, rfl, hfails⟩
    · exact .inr ⟨op :: before, other, after, rfl, hfails⟩

/-- Whatever was done to a site, a badge is locked if and only if it was awarded, or was at some
time to be awarded to someone who was not known. -/
theorem isLocked_runAll_iff (wwwroot : String) (ops : List Operation) (badgeid : Int) :
    (runAll ops { wwwroot }).IsLocked badgeid ↔
      (runAll ops { wwwroot }).IsAwarded badgeid ∨
        ∃ before ambient userid after, ops = before ++ .issueBadge ambient badgeid userid :: after ∧
          (runAll before { wwwroot }).badges.contains badgeid = true ∧
          (runAll before { wwwroot }).users.contains userid = false := by
  have hconsistent (ops : List Operation) : (runAll ops { wwwroot }).Consistent :=
    (evolves_runAll ops _).consistent (Site.consistent_new wwwroot)
  have hprogresses (ops : List Operation) : ({ wwwroot } : Site).Progresses (runAll ops _) :=
    progresses_runAll ops (Site.consistent_new wwwroot)
  constructor
  · intro hlocked
    by_cases hawarded : (runAll ops { wwwroot }).IsAwarded badgeid
    · exact .inl hawarded
    · have hvain := lockedInVain_runAll ops (Site.consistent_new wwwroot) ⟨hlocked, hawarded⟩
      rcases hvain with ⟨⟨b, hget, -⟩, -⟩ | ⟨before, op, after, rfl, hfails⟩
      · cases hget
      · obtain ⟨ambient, userid, rfl, hbadge, huser⟩ := hfails
        exact .inr ⟨before, ambient, userid, after, rfl, hbadge, huser⟩
  · rintro (hawarded | ⟨before, ambient, userid, after, rfl, hbadge, huser⟩)
    · rcases (hprogresses ops).new (Site.unarchived_new wwwroot) badgeid hawarded with
        hnone | hlocked
      · exact absurd hnone (Site.not_isAwarded_new wwwroot)
      · exact hlocked
    · have hunarchived := (hprogresses before).unarchived (Site.unarchived_new wwwroot)
      have hlocked := isLocked_of_failsToAward ⟨ambient, userid, rfl, hbadge, huser⟩ hunarchived
      rw [runAll_append]
      exact (progresses_runAll after ((evolves_run _ _).consistent (hconsistent before))).locked
        badgeid hlocked

/-- A badge is to be awarded to someone who is not known, and stays locked without an award. -/
theorem isLocked_without_award :
    (runAll [.createBadge 100 {}, .issueBadge Seed.counting 1 9] {}).IsLocked 1 ∧
      ¬(runAll [.createBadge 100 {}, .issueBadge Seed.counting 1 9] {}).IsAwarded 1 := by
  refine ⟨⟨_, rfl, .inr rfl⟩, ?_⟩
  rintro ⟨id, a, hget, -⟩
  cases hget

end Operation

end Campus
