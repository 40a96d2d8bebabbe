import Campus.Proofs.Fixtures

/-!
# What failed fixtures leave

A fixture that fails leaves the site as it was, if it checks all before it writes. Five do not: a
user is made before it is enrolled, the id of a module, an endorsement or an alignment is issued
before the last check, and a badge is locked before it is awarded.
-/

namespace Campus

namespace Change

variable {ε α β : Type} {c : Change ε α} {f : α → Change ε β} {s t u : Site}

/-- If the change fails on the first site, it leaves the second. -/
def Leaves (c : Change ε α) (s t : Site) : Prop := ∀ e u, c s = (.error e, u) → u = t

theorem leaves_of_ok {a : α} (h : c s = (.ok a, u)) : c.Leaves s t := by
  intro e v hrun
  rw [h] at hrun
  cases hrun

theorem leaves_of_site (h : (c s).2 = t) : c.Leaves s t := by
  intro e u hrun
  rw [hrun] at h
  exact h

theorem leaves_throw (e : ε) : (throw e : Change ε α).Leaves s s := by
  intro e' u hrun
  cases hrun
  rfl

theorem leaves_require (e : ε) (a : Option α) : (require e a).Leaves s s := by
  cases a with
  | none => exact leaves_throw e
  | some a => exact leaves_of_ok rfl

theorem leaves_ite {p : Prop} [Decidable p] {d : Change ε α} (hc : c.Leaves s t)
    (hd : d.Leaves s t) : (if p then c else d).Leaves s t := by
  split
  · exact hc
  · exact hd

theorem Leaves.bind (hc : c.Leaves s t) (hf : ∀ a u, c s = (.ok a, u) → (f a).Leaves u t) :
    (c >>= f).Leaves s t := by
  intro e u hrun
  rw [Run.bind_apply] at hrun
  rcases hs : c s with ⟨e' | a, v⟩
  · rw [hs] at hrun
    cases hrun
    exact hc _ _ hs
  · rw [hs] at hrun
    exact hf a v hs e u hrun

theorem Leaves.bind_of_ok {a : α} (hc : c s = (.ok a, u)) (hf : (f a).Leaves u t) :
    (c >>= f).Leaves s t := by
  refine (leaves_of_ok hc).bind fun b v hrun => ?_
  rw [hc] at hrun
  cases hrun
  exact hf

theorem Leaves.require_bind {e : ε} {a : Option α} (h : ∀ b, (f b).Leaves s s) :
    (require e a >>= f).Leaves s s := by
  cases a with
  | none => exact (leaves_throw e).bind fun _ _ hrun => by cases hrun
  | some b => exact .bind_of_ok rfl (h b)

theorem Leaves.discard (hc : c.Leaves s t) : Leaves (discard c : Change ε Unit) s t := by
  have hmap : Leaves ((fun _ => ()) <$> c) s t := by
    rw [map_eq_pure_bind]
    exact hc.bind fun _ _ _ => leaves_of_ok rfl
  exact hmap

end Change

open Change

namespace Fixture

variable {s : Site}

/-! ## Checks before writes -/

theorem leaves_updateUser (u : User) : (updateUser u).Leaves s s := by
  unfold updateUser
  exact .bind_of_ok rfl (leaves_ite (leaves_of_ok rfl) (leaves_throw _))

theorem leaves_roleAssign (roleid userid : Int) (context : Context) :
    (roleAssign roleid userid context).Leaves s s := by
  unfold roleAssign
  refine .bind_of_ok rfl (leaves_ite (leaves_throw _) ?_)
  exact leaves_ite (leaves_throw _) (leaves_of_ok rfl)

theorem leaves_enrol (userid courseid : Int) (role : String) :
    (enrol userid courseid role).Leaves s s := by
  unfold enrol
  refine .bind_of_ok rfl (.require_bind fun r => ?_)
  exact leaves_ite (leaves_throw _) (leaves_roleAssign r.id userid (.course courseid))

theorem leaves_assignInstance (cm : CourseModule) : (assignInstance cm).Leaves s s := by
  unfold assignInstance
  exact .bind_of_ok rfl (leaves_require _ _)

theorem leaves_createBadge (now : Int) (r : NewBadge) : (createBadge now r).Leaves s s := by
  unfold createBadge
  refine .bind_of_ok rfl ?_
  split
  · exact leaves_throw _
  · exact leaves_ite (leaves_throw _) (leaves_of_ok rfl)
  · exact leaves_of_ok rfl

theorem leaves_withBadge (badgeid : Int) (change : Badge → Badge) :
    (withBadge badgeid change).Leaves s s := by
  unfold withBadge
  exact .bind_of_ok rfl (leaves_ite (leaves_of_ok rfl) (leaves_throw _))

theorem leaves_addRelatedBadges (badgeid related : Int) :
    (addRelatedBadges badgeid related).Leaves s s := by
  by_cases hknown : s.badges.contains badgeid = true ∧ s.badges.contains related = true
  · exact leaves_of_ok (addRelatedBadges_of_contains hknown.1 hknown.2)
  · exact leaves_of_site (addRelatedBadges_site_of_not_contains hknown)

theorem leaves_setAwardHash (issuedid : Int) (hash : String) :
    (setAwardHash issuedid hash).Leaves s s := by
  unfold setAwardHash
  exact .bind_of_ok rfl (leaves_ite (leaves_of_ok rfl) (leaves_throw _))

theorem leaves_createFakeBackpack (ambient : Ambient) (userid : Int) (service : Option Int) :
    (createFakeBackpack ambient userid service).Leaves s s := by
  unfold createFakeBackpack
  refine .bind_of_ok rfl (.require_bind fun user => ?_)
  extract_lets next
  have hnext (id : Int) : (next id).Leaves s s := leaves_of_ok rfl
  cases service with
  | none => exact .require_bind hnext
  | some id =>
    refine leaves_ite (.bind_of_ok rfl (hnext id)) ((leaves_throw _).bind fun _ _ hrun => ?_)
    cases hrun

theorem leaves_createFakeCollection (ambient : Ambient) (backpackid : Int) :
    (createFakeCollection ambient backpackid).Leaves s s := by
  unfold createFakeCollection
  exact .bind_of_ok rfl (.require_bind fun _ => leaves_of_ok rfl)

theorem leaves_addExternalBadge (collectionid : Int) (badge : ExternalBadge) :
    (addExternalBadge collectionid badge).Leaves s s := by
  unfold addExternalBadge
  exact .bind_of_ok rfl (leaves_ite (leaves_of_ok rfl) (leaves_throw _))

theorem leaves_setToken (userid : Int) (token : String) : (setToken userid token).Leaves s s := by
  unfold setToken
  exact .bind_of_ok rfl (leaves_ite (leaves_of_ok rfl) (leaves_throw _))

/-! ## Writes before checks -/

theorem leaves_createAndEnrol (courseid : Int) (role : String) :
    (createAndEnrol courseid role).Leaves s (createUser s).2 := by
  unfold createAndEnrol
  exact .bind_of_ok rfl ((leaves_enrol _ courseid role).bind fun _ _ _ => leaves_of_ok rfl)

theorem leaves_createModule (modname : String) (courseid : Int) :
    (createModule modname courseid).Leaves s
      { s with modules := if s.courses.contains courseid then s.modules.skip else s.modules } := by
  unfold createModule
  refine .bind_of_ok rfl ?_
  cases hcourse : s.courses.contains courseid with
  | false => exact leaves_throw _
  | true => exact .bind_of_ok rfl (.require_bind fun _ => leaves_of_ok rfl)

theorem leaves_addEndorsement (now badgeid : Int) :
    (addEndorsement now badgeid).Leaves s
      { s with endorsementsIssued := s.endorsementsIssued + 1 } := by
  unfold addEndorsement
  refine .bind_of_ok rfl (.bind_of_ok rfl ?_)
  exact (leaves_withBadge badgeid _).bind fun _ _ _ => leaves_of_ok rfl

theorem leaves_addAlignment (badgeid : Int) (targetname : String) :
    (addAlignment badgeid targetname).Leaves s
      { s with alignmentsIssued := s.alignmentsIssued + 1 } := by
  unfold addAlignment
  refine .bind_of_ok rfl (.bind_of_ok rfl ?_)
  exact (leaves_withBadge badgeid _).bind fun _ _ _ => leaves_of_ok rfl

theorem leaves_issueBadge (ambient : Ambient) (badgeid userid : Int) :
    (issueBadge ambient badgeid userid).Leaves s { s with
      badges := s.badges.modify badgeid fun b => { b with status := b.status.locked } } := by
  unfold issueBadge
  cases hbadge : s.badges.contains badgeid with
  | false =>
    have hnone : s.badges.modify badgeid (fun b => { b with status := b.status.locked }) =
        s.badges := by
      refine Table.modify_eq_self fun b hget => ?_
      rw [Table.contains_of_get? hget] at hbadge
      cases hbadge
    rw [hnone]
    refine (leaves_withBadge badgeid _).bind fun _ _ hrun => ?_
    rw [withBadge_of_not_contains hbadge] at hrun
    cases hrun
  | true =>
    refine .bind_of_ok (withBadge_of_contains hbadge) (.bind_of_ok rfl ?_)
    exact leaves_ite (leaves_throw _) (leaves_of_ok rfl)

end Fixture

/-! ## All that may fail -/

/-- A fixture whose making may fail. -/
inductive FixtureStep where
  | updateUser (u : User)
  | roleAssign (roleid userid : Int) (context : Context)
  | enrol (userid courseid : Int) (role : String)
  | createAndEnrol (courseid : Int) (role : String)
  | createModule (modname : String) (courseid : Int)
  | assignInstance (cm : CourseModule)
  | createBadge (now : Int) (r : NewBadge)
  | addEndorsement (now badgeid : Int)
  | addAlignment (badgeid : Int) (targetname : String)
  | addRelatedBadges (badgeid related : Int)
  | issueBadge (ambient : Ambient) (badgeid userid : Int)
  | setAwardHash (issuedid : Int) (hash : String)
  | createFakeBackpack (ambient : Ambient) (userid : Int) (service : Option Int)
  | createFakeCollection (ambient : Ambient) (backpackid : Int)
  | addExternalBadge (collectionid : Int) (badge : ExternalBadge)
  | setToken (userid : Int) (token : String)

namespace FixtureStep

def make : FixtureStep → Fixture Unit
  | updateUser u => Fixture.updateUser u
  | roleAssign roleid userid context => Fixture.roleAssign roleid userid context
  | enrol userid courseid role => Fixture.enrol userid courseid role
  | createAndEnrol courseid role => discard (Fixture.createAndEnrol courseid role)
  | createModule modname courseid => discard (Fixture.createModule modname courseid)
  | assignInstance cm => discard (Fixture.assignInstance cm)
  | createBadge now r => discard (Fixture.createBadge now r)
  | addEndorsement now badgeid => discard (Fixture.addEndorsement now badgeid)
  | addAlignment badgeid targetname => discard (Fixture.addAlignment badgeid targetname)
  | addRelatedBadges badgeid related => Fixture.addRelatedBadges badgeid related
  | issueBadge ambient badgeid userid => discard (Fixture.issueBadge ambient badgeid userid)
  | setAwardHash issuedid hash => Fixture.setAwardHash issuedid hash
  | createFakeBackpack ambient userid service =>
    discard (Fixture.createFakeBackpack ambient userid service)
  | createFakeCollection ambient backpackid =>
    discard (Fixture.createFakeCollection ambient backpackid)
  | addExternalBadge collectionid badge => Fixture.addExternalBadge collectionid badge
  | setToken userid token => Fixture.setToken userid token

/-- The site that a step leaves if it fails. -/
def residue : FixtureStep → Site → Site
  | createAndEnrol .., s => (Fixture.createUser s).2
  | createModule _ courseid, s =>
    { s with modules := if s.courses.contains courseid then s.modules.skip else s.modules }
  | addEndorsement .., s => { s with endorsementsIssued := s.endorsementsIssued + 1 }
  | addAlignment .., s => { s with alignmentsIssued := s.alignmentsIssued + 1 }
  | issueBadge _ badgeid _, s =>
    { s with badges := s.badges.modify badgeid fun b => { b with status := b.status.locked } }
  | _, s => s

theorem leaves_make (step : FixtureStep) (s : Site) : step.make.Leaves s (step.residue s) := by
  cases step with
  | updateUser u => exact Fixture.leaves_updateUser u
  | roleAssign roleid userid context => exact Fixture.leaves_roleAssign roleid userid context
  | enrol userid courseid role => exact Fixture.leaves_enrol userid courseid role
  | createAndEnrol courseid role => exact (Fixture.leaves_createAndEnrol courseid role).discard
  | createModule modname courseid => exact (Fixture.leaves_createModule modname courseid).discard
  | assignInstance cm => exact (Fixture.leaves_assignInstance cm).discard
  | createBadge now r => exact (Fixture.leaves_createBadge now r).discard
  | addEndorsement now badgeid => exact (Fixture.leaves_addEndorsement now badgeid).discard
  | addAlignment badgeid targetname =>
    exact (Fixture.leaves_addAlignment badgeid targetname).discard
  | addRelatedBadges badgeid related => exact Fixture.leaves_addRelatedBadges badgeid related
  | issueBadge ambient badgeid userid =>
    exact (Fixture.leaves_issueBadge ambient badgeid userid).discard
  | setAwardHash issuedid hash => exact Fixture.leaves_setAwardHash issuedid hash
  | createFakeBackpack ambient userid service =>
    exact (Fixture.leaves_createFakeBackpack ambient userid service).discard
  | createFakeCollection ambient backpackid =>
    exact (Fixture.leaves_createFakeCollection ambient backpackid).discard
  | addExternalBadge collectionid badge =>
    exact Fixture.leaves_addExternalBadge collectionid badge
  | setToken userid token => exact Fixture.leaves_setToken userid token

/-- All that is written before the last check was so before. -/
def IsClean : FixtureStep → Site → Prop
  | createAndEnrol .., _ => False
  | createModule _ courseid, s => s.courses.contains courseid = false
  | addEndorsement .., _ => False
  | addAlignment .., _ => False
  | issueBadge _ badgeid _, s => ∀ b, s.badges.get? badgeid = some b → b.status.locked = b.status
  | _, _ => True

theorem ne_of_count {s t : Site} (count : Site → Nat) (h : count t = count s + 1) : t ≠ s := by
  rintro rfl
  omega

theorem residue_eq_self_iff (step : FixtureStep) (s : Site) :
    step.residue s = s ↔ step.IsClean s := by
  cases step with
  | createAndEnrol courseid role => exact iff_of_false (ne_of_count (·.users.issued) rfl) id
  | createModule modname courseid =>
    simp only [residue, IsClean]
    cases s.courses.contains courseid with
    | false => exact iff_of_true rfl rfl
    | true => exact iff_of_false (ne_of_count (·.modules.issued) rfl) (by simp)
  | addEndorsement now badgeid =>
    exact iff_of_false (ne_of_count (·.endorsementsIssued) rfl) id
  | addAlignment badgeid targetname =>
    exact iff_of_false (ne_of_count (·.alignmentsIssued) rfl) id
  | issueBadge ambient badgeid userid =>
    constructor
    · intro h b hget
      have hbadge : (s.badges.modify badgeid fun b => { b with status := b.status.locked }).get?
          badgeid = some b := by
        rw [← hget]
        exact congrArg (fun t : Site => t.badges.get? badgeid) h
      rw [Table.get?_modify, hget, Option.map_some, if_pos rfl, Option.some.injEq] at hbadge
      exact congrArg Badge.status hbadge
    · intro hlocked
      have hsame : s.badges.modify badgeid (fun b => { b with status := b.status.locked }) =
          s.badges :=
        Table.modify_eq_self fun b hget => by rw [hlocked b hget]
      exact congrArg (fun badges => { s with badges }) hsame
  | _ => exact iff_of_true rfl trivial

/-- What a failed step leaves is the site as it was, if and only if the step is clean there. -/
theorem site_of_error {step : FixtureStep} {s t : Site} {e : FixtureError}
    (h : step.make s = (.error e, t)) : t = step.residue s ∧ (t = s ↔ step.IsClean s) := by
  have hleft : t = step.residue s := step.leaves_make s e t h
  refine ⟨hleft, ?_⟩
  rw [hleft]
  exact step.residue_eq_self_iff s

/-- There is no badge to endorse, and still an endorsement is counted. -/
theorem endorsing_no_badge : ∃ t,
    (addEndorsement 100 7).make {} = (.error (.site (.badgeNotFound 7)), t) ∧
      t = { endorsementsIssued := 1 } ∧ t ≠ {} := by
  have hrun : (addEndorsement 100 7).make {} =
      (.error (.site (.badgeNotFound 7)), { endorsementsIssued := 1 }) := rfl
  exact ⟨_, hrun, (site_of_error hrun).1, fun hsame => (site_of_error hrun).2.1 hsame⟩

def oneCourse : Site where
  courses := (({} : Table Course).add Course.generated).2

/-- A module of an unknown type uses up the first id. -/
theorem unknown_type_uses_up_id : ∃ t,
    (createModule "forum" 1).make oneCourse = (.error (.site (.unknownModuleType "forum")), t) ∧
      t.modules.nextId = 2 ∧ t ≠ oneCourse :=
  ⟨_, rfl, rfl, ne_of_count (·.modules.issued) rfl⟩

end FixtureStep

end Campus
