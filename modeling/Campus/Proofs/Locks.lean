import Campus.Proofs.Writes

/-!
# Locks and awards

A badge is locked before it is awarded, and neither is ever taken back. So an awarded badge is
locked. A locked one may be without an award, if awarding it has failed.
-/

namespace Campus

namespace BadgeStatus

def IsLocked (status : BadgeStatus) : Prop := status = .inactiveLocked ∨ status = .activeLocked

variable {status : BadgeStatus}

theorem IsLocked.locked (h : status.IsLocked) : status.locked.IsLocked := by
  rcases h with rfl | rfl
  · exact .inl rfl
  · exact .inr rfl

theorem isLocked_locked (h : status ≠ .archived) : status.locked.IsLocked := by
  cases status with
  | archived => exact absurd rfl h
  | inactive | inactiveLocked => exact .inl rfl
  | active | activeLocked => exact .inr rfl

theorem locked_ne_archived (h : status ≠ .archived) : status.locked ≠ .archived := by
  cases status with
  | archived => exact h
  | inactive | inactiveLocked | active | activeLocked => nofun

end BadgeStatus

namespace Site

variable {s t u : Site} {badgeid : Int}

/-- The badge is there, and it is locked. -/
def IsLocked (s : Site) (badgeid : Int) : Prop :=
  ∃ b, s.badge? badgeid = some b ∧ b.status.IsLocked

/-- There is an award of the badge. -/
def IsAwarded (s : Site) (badgeid : Int) : Prop :=
  ∃ id a, s.awards.get? id = some a ∧ a.badgeid = badgeid

/-- Badges are not archived; one that was would not be locked by awarding it. -/
def Unarchived (s : Site) : Prop := s.badges.Every fun _ b => b.status ≠ .archived

theorem unarchived_new (wwwroot : String) : ({ wwwroot } : Site).Unarchived := Table.every_empty

theorem not_isAwarded_new (wwwroot : String) : ¬({ wwwroot } : Site).IsAwarded badgeid := by
  rintro ⟨id, a, hget, -⟩
  cases hget

/-! ## Locks and awards stay -/

/-- Locks and awards stay, and what is awarded from here on is locked. -/
structure Progresses (s t : Site) : Prop where
  locked : ∀ badgeid, s.IsLocked badgeid → t.IsLocked badgeid
  awarded : ∀ badgeid, s.IsAwarded badgeid → t.IsAwarded badgeid
  unarchived : s.Unarchived → t.Unarchived
  new : s.Unarchived → ∀ badgeid, t.IsAwarded badgeid → s.IsAwarded badgeid ∨ t.IsLocked badgeid

theorem Progresses.trans (h : s.Progresses t) (h' : t.Progresses u) : s.Progresses u where
  locked badgeid hlocked := h'.locked badgeid (h.locked badgeid hlocked)
  awarded badgeid hawarded := h'.awarded badgeid (h.awarded badgeid hawarded)
  unarchived hs := h'.unarchived (h.unarchived hs)
  new hs badgeid hawarded := by
    rcases h'.new (h.unarchived hs) badgeid hawarded with hbefore | hlocked
    · exact (h.new hs badgeid hbefore).imp_right (h'.locked badgeid)
    · exact .inr hlocked

theorem progresses_of_eq (hbadges : t.badges = s.badges) (hawards : t.awards = s.awards) :
    s.Progresses t := by
  have hlocked (badgeid : Int) : t.IsLocked badgeid ↔ s.IsLocked badgeid := by
    rw [IsLocked, IsLocked, badge?, badge?, hbadges]
  have hawarded (badgeid : Int) : t.IsAwarded badgeid ↔ s.IsAwarded badgeid := by
    rw [IsAwarded, IsAwarded, hawards]
  exact
    { locked := fun badgeid => (hlocked badgeid).2
      awarded := fun badgeid => (hawarded badgeid).2
      unarchived := fun hs => by rwa [Unarchived, hbadges]
      new := fun _ badgeid h => .inl ((hawarded badgeid).1 h) }

theorem Progresses.refl (s : Site) : s.Progresses s := progresses_of_eq rfl rfl

theorem progresses_modifyBadge {key : Int} {change : Badge → Badge}
    (hstatus : ∀ b, (change b).status = b.status ∨ (change b).status = b.status.locked) :
    s.Progresses { s with badges := s.badges.modify key change } where
  locked badgeid hlocked := by
    obtain ⟨b, hget, hb⟩ := hlocked
    refine ⟨if badgeid = key then change b else b, ?_, ?_⟩
    · rw [badge?, Table.get?_modify, show s.badges.get? badgeid = some b from hget,
        Option.map_some]
    · split
      · rcases hstatus b with h | h
        · exact h ▸ hb
        · exact h ▸ hb.locked
      · exact hb
  awarded _ := id
  unarchived hs := by
    refine Table.Every.modify (P := fun _ (b : Badge) => b.status ≠ .archived) hs fun b hb => ?_
    rcases hstatus b with h | h
    · exact h ▸ hb
    · exact h ▸ BadgeStatus.locked_ne_archived hb
  new _ _ := .inl

theorem status_relate (other : Int) (b : Badge) : (b.relate other).status = b.status := by
  unfold Badge.relate
  split <;> rfl

theorem progresses_addBadge (hsound : s.badges.Sound Badge.id) (now : Int) (r : NewBadge) :
    s.Progresses { s with badges := (s.badges.add (r.toBadge now)).2 } where
  locked badgeid hlocked := by
    obtain ⟨b, hget, hb⟩ := hlocked
    exact ⟨b, hsound.get?_add hget, hb⟩
  awarded _ := id
  unarchived hs :=
    Table.Every.add (P := fun _ (b : Badge) => b.status ≠ .archived) hs (by nofun)
  new _ _ := .inl

theorem progresses_addAward {make : Int → Award} {b : Badge} (hsound : s.awards.Sound Award.id)
    (hbadge : ∀ id, (make id).badgeid = badgeid) (hstored : s.badge? badgeid = some b)
    (hlocked : b.status.locked = b.status) :
    s.Progresses { s with awards := (s.awards.add make).2 } where
  locked _ := id
  awarded other hawarded := by
    obtain ⟨id, a, hget, ha⟩ := hawarded
    exact ⟨id, a, hsound.get?_add hget, ha⟩
  unarchived := id
  new hs other hawarded := by
    obtain ⟨id, a, hget, rfl⟩ := hawarded
    rw [Table.add, Table.get?_put] at hget
    split at hget
    · cases hget
      refine .inr ⟨b, (congrArg s.badge? (hbadge _)).trans hstored, ?_⟩
      exact hlocked ▸ BadgeStatus.isLocked_locked (hs badgeid b hstored)
    · exact .inl ⟨id, a, hget, rfl⟩

theorem progresses_setHash {key : Int} {hash : String} :
    s.Progresses { s with awards := s.awards.modify key ({ · with uniquehash := hash }) } := by
  have hawarded (badgeid : Int) :
      { s with awards := s.awards.modify key ({ · with uniquehash := hash }) }.IsAwarded badgeid ↔
        s.IsAwarded badgeid := by
    simp only [IsAwarded, Table.get?_modify, Option.map_eq_some_iff]
    constructor
    · rintro ⟨id, _, ⟨a, hget, rfl⟩, hbadge⟩
      refine ⟨id, a, hget, ?_⟩
      split at hbadge <;> exact hbadge
    · rintro ⟨id, a, hget, hbadge⟩
      refine ⟨id, _, ⟨a, hget, rfl⟩, ?_⟩
      split <;> exact hbadge
  exact
    { locked := fun _ => id
      awarded := fun badgeid => (hawarded badgeid).2
      unarchived := id
      new := fun _ badgeid h => .inl ((hawarded badgeid).1 h) }

theorem Write.progresses (h : s.Write t) (hs : s.Consistent) : s.Progresses t := by
  cases h with
  | addModule type => cases type <;> exact progresses_of_eq rfl rfl
  | deleteInstance cm =>
    obtain ⟨assignments, chats, hafter⟩ := exists_deleteModuleInstance cm s
    rw [hafter]
    exact progresses_of_eq rfl rfl
  | renameInstance cm name =>
    obtain ⟨assignments, chats, hafter⟩ := exists_renameInstance cm name s
    rw [hafter]
    exact progresses_of_eq rfl rfl
  | moveLatest now assignment userid status =>
    obtain ⟨submissions, hafter⟩ := exists_moveLatest now status assignment userid s
    rw [hafter]
    exact progresses_of_eq rfl rfl
  | addBadge now r => exact progresses_addBadge hs.badges now r
  | endorse => exact progresses_modifyBadge fun _ => .inl rfl
  | align => exact progresses_modifyBadge fun _ => .inl rfl
  | relate badgeid related =>
    exact (progresses_modifyBadge fun b => .inl (status_relate related b)).trans
      (progresses_modifyBadge fun b => .inl (status_relate badgeid b))
  | lock => exact progresses_modifyBadge fun _ => .inr rfl
  | addAward make badgeid b own badge stored locked =>
    exact progresses_addAward hs.awards badge stored locked
  | setHash => exact progresses_setHash
  | _ => exact progresses_of_eq rfl rfl

theorem Writes.progresses (h : s.Writes t) (hs : s.Consistent) : s.Progresses t :=
  h.keeps (fun _ _ ht hwrite hp => hp.trans (hwrite.progresses (ht.consistent hs))) (.refl s)

/-! ## Writes that lock nothing -/

/-- Any number of writes, after which no badge is locked that was not before. -/
structure LocksNothing (s t : Site) : Prop where
  writes : s.Writes t
  locked : ∀ badgeid, t.IsLocked badgeid → s.IsLocked badgeid

/-- Writes that also override no capability of a role. -/
structure PlainWrites (s t : Site) : Prop extends s.LocksNothing t where
  overrides : t.roleOverrides = s.roleOverrides

theorem LocksNothing.refl : s.LocksNothing s := ⟨.refl, fun _ => id⟩

theorem LocksNothing.trans (h : s.LocksNothing t) (h' : t.LocksNothing u) : s.LocksNothing u :=
  ⟨h.writes.trans h'.writes, fun badgeid => h.locked badgeid ∘ h'.locked badgeid⟩

theorem PlainWrites.refl : s.PlainWrites s := ⟨.refl, rfl⟩

theorem PlainWrites.trans (h : s.PlainWrites t) (h' : t.PlainWrites u) : s.PlainWrites u :=
  ⟨h.toLocksNothing.trans h'.toLocksNothing, h'.overrides.trans h.overrides⟩

instance : IsPreorder Site LocksNothing where
  refl _ := .refl
  trans _ _ _ := .trans

instance : IsPreorder Site PlainWrites where
  refl _ := .refl
  trans _ _ _ := .trans

theorem Write.locksNothing (h : s.Write t) (hbadges : t.badges = s.badges) :
    s.LocksNothing t := by
  refine ⟨h.one, fun badgeid hlocked => ?_⟩
  rwa [IsLocked, badge?, hbadges] at hlocked

theorem Write.elsewhere (h : s.Write t) (hbadges : t.badges = s.badges)
    (hoverrides : t.roleOverrides = s.roleOverrides) : s.PlainWrites t :=
  ⟨h.locksNothing hbadges, hoverrides⟩

theorem isLocked_of_modify {key : Int} {change : Badge → Badge}
    (hstatus : ∀ b, (change b).status = b.status)
    (h : { s with badges := s.badges.modify key change }.IsLocked badgeid) :
    s.IsLocked badgeid := by
  obtain ⟨b, hget, hlocked⟩ := h
  rw [badge?, Table.get?_modify] at hget
  obtain ⟨old, hold, rfl⟩ := Option.map_eq_some_iff.1 hget
  refine ⟨old, hold, ?_⟩
  split at hlocked
  · rwa [hstatus] at hlocked
  · exact hlocked

theorem isLocked_of_modify_of_ne {key : Int} {change : Badge → Badge} (hne : badgeid ≠ key)
    (h : { s with badges := s.badges.modify key change }.IsLocked badgeid) :
    s.IsLocked badgeid := by
  obtain ⟨b, hget, hlocked⟩ := h
  simp only [badge?, Table.get?_modify, hne, if_false, Option.map_id'] at hget
  exact ⟨b, hget, hlocked⟩

theorem isLocked_of_addBadge {now : Int} {r : NewBadge}
    (h : { s with badges := (s.badges.add (r.toBadge now)).2 }.IsLocked badgeid) :
    s.IsLocked badgeid := by
  obtain ⟨b, hget, hlocked⟩ := h
  rw [badge?, Table.add, Table.get?_put] at hget
  split at hget
  · cases hget
    rcases hlocked with hstatus | hstatus <;> cases hstatus
  · exact ⟨b, hget, hlocked⟩

/-! ## Locks without an award -/

/-- The badge is locked, but there is no award of it. -/
def LockedInVain (s : Site) (badgeid : Int) : Prop := s.IsLocked badgeid ∧ ¬s.IsAwarded badgeid

theorem lockedInVain_of_award {make : Int → Award} {change : Badge → Badge} {other : Int}
    (hsound : s.awards.Sound Award.id) (hbadge : ∀ id, (make id).badgeid = badgeid)
    (h : { s with
      badges := s.badges.modify badgeid change
      awards := (s.awards.add make).2 }.LockedInVain other) : s.LockedInVain other := by
  obtain ⟨hlocked, hunawarded⟩ := h
  by_cases hother : other = badgeid
  · refine absurd ⟨_, _, Table.get?_add_self make s.awards, ?_⟩ hunawarded
    exact (hbadge _).trans hother.symm
  · refine ⟨isLocked_of_modify_of_ne hother hlocked, fun hawarded => hunawarded ?_⟩
    obtain ⟨id, a, ha, hof⟩ := hawarded
    exact ⟨id, a, hsound.get?_add ha, hof⟩

def KnowsAll (s : Site) (users : List Int) : Prop := ∀ id ∈ users, s.users.contains id = true

/-- Any number of writes, after which no badge is locked in vain that was not before, as long as the
users are known. -/
structure Settles (users : List Int) (s t : Site) : Prop where
  writes : s.Writes t
  settled : s.Consistent → s.KnowsAll users →
    ∀ badgeid, t.LockedInVain badgeid → s.LockedInVain badgeid

variable {users : List Int}

theorem Settles.refl : s.Settles users s := ⟨.refl, fun _ _ _ => id⟩

theorem Settles.trans (h : s.Settles users t) (h' : t.Settles users u) : s.Settles users u where
  writes := h.writes.trans h'.writes
  settled hs hknown badgeid hvain := by
    refine h.settled hs hknown badgeid ?_
    refine h'.settled (h.writes.evolves.consistent hs) (fun id hid => ?_) badgeid hvain
    exact h.writes.within_users id (hknown id hid)

instance : IsPreorder Site (Settles users) where
  refl _ := .refl
  trans _ _ _ := .trans

theorem LocksNothing.settles (h : s.LocksNothing t) : s.Settles users t where
  writes := h.writes
  settled hs _ badgeid hvain := by
    obtain ⟨hlocked, hunawarded⟩ := hvain
    exact ⟨h.locked badgeid hlocked,
      fun hawarded => hunawarded ((h.writes.progresses hs).awarded badgeid hawarded)⟩

theorem Settles.of_knowsAll (hknown : s.KnowsAll users) (h : s.Settles users t) : s.Settles [] t :=
  ⟨h.writes, fun hs _ => h.settled hs hknown⟩

end Site

theorem Change.Follows.settles {ε α : Type} {c : Change ε α} {users : List Int}
    (h : c.Follows Site.PlainWrites) : c.Follows (Site.Settles users) :=
  h.mono fun _ _ h => h.settles

end Campus
