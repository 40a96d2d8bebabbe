import Campus.Proofs.Sowing.Modules

/-!
# Sowing badges and backpacks

A badge is locked by its first award. An award is made with a hash that is drawn, which the hash of
its entry then replaces.
-/

namespace Campus

open Change

/-! ## Single fixtures -/

namespace Fixture

variable {s : Site} {badgeid userid : Int}

theorem meets_createBadge (now : Int) (r : NewBadge)
    (htype : r.type = if r.courseid.isSome then .course else .site)
    (hcourse : ∀ course, r.courseid = some course → s.courses.contains course = true) :
    (createBadge now r).Meets s True fun b u =>
      b = r.toBadge now s.badges.nextId ∧
        u = { s with badges := (s.badges.add (r.toBadge now)).2 } := by
  unfold createBadge
  apply Meets.get_bind
  rw [htype]
  cases hid : r.courseid with
  | none => exact meets_of_ok rfl trivial ⟨rfl, rfl⟩
  | some course =>
    simp only [Option.isSome_some, if_true, hcourse course hid]
    exact meets_of_ok rfl trivial ⟨rfl, rfl⟩

theorem meets_issueBadge (ambient : Ambient) (hbadge : s.badges.contains badgeid = true)
    (huser : s.users.contains userid = true) :
    (issueBadge ambient badgeid userid).Meets s True fun a u =>
      let added := s.awards.add fun id =>
        ⟨id, badgeid, userid, ambient.awardHash id, ambient.now, none, true⟩
      a = added.1 ∧
        u = { s with
          badges := s.badges.modify badgeid fun b => { b with status := b.status.locked }
          awards := added.2 } := by
  refine meets_of_ok ?_ trivial ⟨rfl, rfl⟩
  simp only [issueBadge, Run.bind_apply, withBadge_of_contains hbadge, Run.get_apply, huser]
  rfl

theorem meets_setAwardHash {issuedid : Int} (h : s.awards.contains issuedid = true)
    (hash : String) :
    (setAwardHash issuedid hash).Meets s True fun _ u =>
      u = { s with awards := s.awards.modify issuedid ({ · with uniquehash := hash }) } := by
  refine meets_of_ok (a := ()) ?_ trivial rfl
  simp only [setAwardHash, Run.bind_apply, Run.get_apply, h, if_true]
  rfl

end Fixture

namespace Seed

variable {ambient : Ambient} {s : Seed} {t : Site} {before : List SeedBadge} {e : SeedBadge}
  {done : List SeedAward}

/-! ## Awards -/

theorem awardEntries_new :
    awardEntries (before ++ [{ e with awards := [] }]) = awardEntries before := by
  rw [awardEntries, gather_concat]
  exact List.append_nil _

theorem awardEntries_issue (x : SeedAward) :
    awardEntries (before ++ [{ e with awards := done ++ [x] }]) =
      awardEntries (before ++ [{ e with awards := done }]) ++
        [((before.length + 1 : Int), x)] := by
  rw [awardEntries, gather_concat, List.map_append, gather_concat, ← List.append_assoc]
  rfl

theorem badgeRecord_locked (now : Int) (x : SeedAward) :
    { s.badgeRecord now before { e with awards := done } with
      status := (s.badgeRecord now before { e with awards := done }).status.locked } =
      s.badgeRecord now before { e with awards := done ++ [x] } := by
  cases done <;> rfl

theorem meets_issueBadge (x : SeedAward) (huser : x.user ∈ s.users.map (·.username))
    (h : Describes ambient
      { s with badges := before ++ [{ e with awards := done }], reports := [] } t) :
    (Fixture.issueBadge ambient (before.length + 1) (s.userNumber x.user)).Meets t True fun a u =>
      a.id = (awardEntries (before ++ [{ e with awards := done }])).length + 1 ∧
        Describes ambient
          { s with
            badges := before ++ [{ e with awards := done ++ [{ x with hash := none }] }]
            reports := [] } u := by
  have hbadge : t.badges.contains (before.length + 1) = true := by
    rw [h.badges]
    exact Table.contains_numbered_last
  have hawards : t.awards = .numbered (s.awardRecord ambient)
    (awardEntries (before ++ [{ e with awards := done }])) := h.awards
  refine (Fixture.meets_issueBadge ambient hbadge (h.contains_user huser)).imp ?_
  rintro _ _ ⟨rfl, rfl⟩
  refine ⟨by rw [hawards]; rfl, { h with badges := ?_, awards := ?_ }⟩
  · rw [h.badges]
    exact Table.modify_numbered rfl (badgeRecord_locked ambient.now _)
  · have hadd := Table.add_numbered (s.awardRecord ambient)
      (awardEntries (before ++ [{ e with awards := done }]))
      (before.length + 1, { x with hash := none })
      (fun id => ⟨id, before.length + 1, s.userNumber x.user, ambient.awardHash id,
        ambient.now, none, true⟩) rfl
    rw [awardEntries_issue, hawards]
    exact congrArg Prod.snd hadd

theorem meets_setAwardHash {x : SeedAward} {hash : String} (hhash : x.hash = some hash)
    (h : Describes ambient
      { s with
        badges := before ++ [{ e with awards := done ++ [{ x with hash := none }] }]
        reports := [] } t) :
    (Fixture.setAwardHash
      ((awardEntries (before ++ [{ e with awards := done }])).length + 1)
      hash).Meets t True fun _ u => Describes ambient
        { s with badges := before ++ [{ e with awards := done ++ [x] }], reports := [] } u := by
  have hawards := h.awards
  rw [awardEntries_issue] at hawards
  refine (Fixture.meets_setAwardHash ?_ hash).imp ?_
  · rw [hawards]
    exact Table.contains_numbered_last
  · rintro - _ rfl
    refine { h with badges := ?_, awards := ?_ }
    · refine h.badges.trans (Table.numbered_concat_congr ?_)
      cases done <;> rfl
    · rw [hawards, awardEntries_issue]
      exact Table.modify_numbered rfl (by simp [awardRecord, userNumber, hhash])

theorem meets_makeAward (x : SeedAward)
    (h : Describes ambient
      { s with badges := before ++ [{ e with awards := done }], reports := [] } t) :
    (makeAward ambient (numbersOf (·.username) s.users) (before.length + 1) x).Meets t
      (x.user ∈ s.users.map (·.username)) fun _ u => Describes ambient
        { s with badges := before ++ [{ e with awards := done ++ [x] }], reports := [] } u := by
  unfold makeAward
  refine (meets_lookUp_number x.user s.users).bind_true ?_
  rintro huser _ t ⟨rfl, rfl⟩
  refine (meets_issueBadge x huser h).bind_of_true ?_
  rintro a u ⟨hid, hu⟩
  rw [hid]
  -- The hash was drawn, as if the entry had none; now it is replaced, if the entry has one.
  split
  · next hash hhash => exact meets_setAwardHash hhash hu
  · next hhash =>
    refine meets_pure ?_
    rwa [← hhash] at hu

/-! ## Badges -/

theorem meets_createBadge (e : SeedBadge)
    (hcourse : ∀ shortname, e.course = some shortname →
      shortname ∈ s.courses.map (·.shortname))
    (h : Describes ambient { s with badges := before, reports := [] } t) :
    (Fixture.createBadge ambient.now
      { name := e.name
        description := e.description.getD ({} : NewBadge).description
        type := if (e.course.map s.courseNumber).isSome then .course else .site
        courseid := e.course.map s.courseNumber }).Meets t True fun b u =>
      b.id = before.length + 1 ∧ Describes ambient
        { s with badges := before ++ [{ e with awards := [] }], reports := [] } u := by
  refine (Fixture.meets_createBadge ambient.now _ rfl ?_).imp ?_
  · intro course hid
    obtain ⟨shortname, hshortname, rfl⟩ := Option.map_eq_some_iff.1 hid
    exact h.contains_course (hcourse shortname hshortname)
  · rintro _ _ ⟨rfl, rfl⟩
    have hbadges : t.badges = .numbered (s.badgeRecord ambient.now) before := h.badges
    refine ⟨by rw [hbadges]; rfl, { h with badges := ?_, awards := ?_ }⟩
    · rw [hbadges]
      refine congrArg Prod.snd (Table.add_numbered _ _ _ _ ?_)
      cases e.course <;> rfl
    · rw [awardEntries_new]
      exact h.awards

theorem meets_makeBadge (e : SeedBadge)
    (h : Describes ambient { s with badges := before, reports := [] } t) :
    (makeBadge ambient s.names e).Meets t (s.KnowsBadge e) fun _ u =>
      Describes ambient { s with badges := before ++ [e], reports := [] } u := by
  have hmake (hcourse : ∀ shortname, e.course = some shortname →
      shortname ∈ s.courses.map (·.shortname)) :
      (do
        let b ← Fixture.createBadge ambient.now
          { name := e.name
            description := e.description.getD ({} : NewBadge).description
            type := if (e.course.map s.courseNumber).isSome then .course else .site
            courseid := e.course.map s.courseNumber }
        each (makeAward ambient s.names.users b.id) e.awards : Fixture Unit).Meets t
        (∀ award ∈ e.awards, award.user ∈ s.users.map (·.username)) fun _ u =>
          Describes ambient { s with badges := before ++ [e], reports := [] } u := by
    refine (meets_createBadge e hcourse h).bind_of_true ?_
    rintro b u ⟨hid, hu⟩
    rw [hid]
    exact meets_each (I := fun done => Describes ambient
      { s with badges := before ++ [{ e with awards := done }], reports := [] }) e.awards hu
      fun _ x _ _ _ hdone => meets_makeAward x hdone
  unfold makeBadge KnowsBadge
  cases hcourse : e.course with
  | none =>
    rw [hcourse] at hmake
    exact (hmake (by simp)).congr (by simp)
  | some shortname =>
    rw [hcourse] at hmake
    have hcond : (∀ name, some shortname = some name → name ∈ s.courses.map (·.shortname)) ↔
        shortname ∈ s.courses.map (·.shortname) := by simp
    rw [hcond]
    refine ((meets_lookUp_number shortname s.courses).map _).bind ?_
    rintro hknown _ t ⟨_, rfl, rfl, rfl⟩
    exact hmake (hcond.2 hknown)

theorem meets_makeBadges (h : Describes ambient { s with badges := [], reports := [] } t) :
    (each (makeBadge ambient s.names) s.badges).Meets t (∀ e ∈ s.badges, s.KnowsBadge e)
      fun _ u => Describes ambient { s with reports := [] } u :=
  meets_each (I := fun before => Describes ambient { s with badges := before, reports := [] })
    s.badges h fun _ e _ _ _ hbefore => meets_makeBadge e hbefore

/-! ## Backpacks -/

theorem serviceAt_of_find? {apiurl : String} {b : SiteBackpack}
    (h : t.siteBackpacks.find? (·.apiurl == apiurl) = some b) : serviceAt apiurl t = (b.id, t) := by
  rw [serviceAt, Run.bind_apply_of_state, Run.get_apply_of_state]
  simp only [h]
  rfl

theorem serviceAt_of_find?_none {apiurl : String}
    (h : t.siteBackpacks.find? (·.apiurl == apiurl) = none) :
    serviceAt apiurl t = (t.siteBackpacks.nextId, { t with
      siteBackpacks := (t.siteBackpacks.add
        (⟨·, SiteBackpack.defaultVersion, apiurl, apiurl⟩)).2 }) := by
  rw [serviceAt, Run.bind_apply_of_state, Run.get_apply_of_state]
  simp only [h]
  rfl

theorem serviceAt_spec (apiurl : String) (h : Describes ambient s t) :
    ∃ id u, serviceAt apiurl t = (id, u) ∧ Describes ambient s u ∧
      u.siteBackpacks.contains id = true := by
  cases hfound : t.siteBackpacks.find? (·.apiurl == apiurl) with
  | some b =>
    obtain ⟨row, hrow, rfl⟩ := List.mem_map.1 (List.mem_of_find?_eq_some hfound)
    have hget := Table.get?_eq_some_iff.2 hrow
    refine ⟨row.2.id, t, serviceAt_of_find? hfound, h, ?_⟩
    rw [h.services.own _ _ hget]
    exact Table.contains_of_get? hget
  | none =>
    obtain ⟨id, hid⟩ := h.service
    have hservices : (t.siteBackpacks.add
        (⟨·, SiteBackpack.defaultVersion, apiurl, apiurl⟩)).2.Sound SiteBackpack.id :=
      h.services.add rfl
    refine ⟨_, _, serviceAt_of_find?_none hfound,
      { h with services := hservices, service := ⟨id, ?_⟩ }, ?_⟩
    · simp [Table.contains_add, hid]
    · simp [Table.contains_add]

theorem meets_createFakeBackpack {userid : Int} {service : Option Int}
    (h : Describes ambient s t) (huser : t.users.contains userid = true)
    (hservice : ∀ id, service = some id → t.siteBackpacks.contains id = true) :
    (Fixture.createFakeBackpack ambient userid service).Meets t True fun b u =>
      Describes ambient s u ∧ u.userBackpacks.contains b.id = true := by
  unfold Fixture.createFakeBackpack
  apply Meets.get_bind
  refine (meets_require_of_isSome (a := t.user? userid) huser).bind_of_true ?_
  rintro user t ⟨rfl, -⟩
  cases service with
  | some id =>
    simp only [hservice id rfl]
    exact meets_of_ok rfl trivial ⟨{ h with }, Table.contains_add_own UserBackpack.id rfl⟩
  | none =>
    obtain ⟨id, hid⟩ := h.service
    have hhead : (t.siteBackpacks.rows.head?.map (·.1)).isSome = true := by
      obtain ⟨b, hget⟩ := Table.contains_iff.1 hid
      rw [Option.isSome_map, List.isSome_head?]
      exact List.ne_nil_of_mem (Table.get?_eq_some_iff.1 hget)
    refine (meets_require_of_isSome hhead).bind_of_true ?_
    rintro first t ⟨rfl, -⟩
    dsimp only
    exact meets_of_ok rfl trivial ⟨{ h with }, Table.contains_add_own UserBackpack.id rfl⟩

theorem meets_createFakeCollection {backpackid : Int} (h : Describes ambient s t)
    (hbackpack : t.userBackpacks.contains backpackid = true) :
    (Fixture.createFakeCollection ambient backpackid).Meets t True fun c u =>
      Describes ambient s u ∧ u.userBackpacks = t.userBackpacks ∧
        t.collections.Within u.collections ∧ u.collections.contains c.id = true := by
  unfold Fixture.createFakeCollection
  apply Meets.get_bind
  refine (meets_require_of_isSome (a := t.userBackpacks.get? backpackid) hbackpack).bind_of_true ?_
  rintro backpack t ⟨rfl, -⟩
  dsimp only
  refine meets_of_ok rfl trivial ⟨{ h with }, rfl, fun id hid => ?_,
    Table.contains_add_own Collection.id rfl⟩
  simp [Table.contains_add, hid]

theorem meets_addExternalBadge {collectionid : Int} (h : Describes ambient s t)
    (hcollection : t.collections.contains collectionid = true) (badge : ExternalBadge) :
    (Fixture.addExternalBadge collectionid badge).Meets t True fun _ u =>
      Describes ambient s u ∧ u.collections = t.collections := by
  unfold Fixture.addExternalBadge
  apply Meets.get_bind
  rw [hcollection]
  exact meets_of_ok rfl trivial ⟨{ h with }, rfl⟩

/-- What is said of the answers has to stay true while further ones come. -/
theorem meets_times {α : Type} {I : Site → Prop} {P : α → Site → Prop} (act : Fixture α)
    (hstep : ∀ u, I u → act.Meets u True fun a v => I v ∧ P a v ∧ ∀ b, P b u → P b v)
    (n : Nat) (ht : I t) :
    (times act n).Meets t True fun as u =>
      I u ∧ (∀ a ∈ as, P a u) ∧ ∀ b, P b t → P b u := by
  induction n generalizing t with
  | zero => exact meets_pure ⟨ht, by simp, fun _ hb => hb⟩
  | succ n ih =>
    refine (hstep t ht).bind_of_true ?_
    rintro a u ⟨hu, ha, hkeep⟩
    refine (ih hu).bind_of_true ?_
    rintro as v ⟨hv, has, hkeep'⟩
    refine meets_pure ⟨hv, List.forall_mem_cons.2 ⟨hkeep' a ha, has⟩, ?_⟩
    exact fun b hb => hkeep' b (hkeep b hb)

theorem meets_fillBackpack {backpackid : Int} (h : Describes ambient s t)
    (hbackpack : t.userBackpacks.contains backpackid = true) (count : Nat)
    (badges : List ExternalBadge) :
    (do
      match ← times (Fixture.createFakeCollection ambient backpackid) count with
      | first :: _ => Change.each (Fixture.addExternalBadge first.id) badges
      | [] => pure () : Fixture Unit).Meets t True fun _ u => Describes ambient s u := by
  have hcollections := meets_times
    (I := fun u => Describes ambient s u ∧ u.userBackpacks.contains backpackid = true)
    (P := fun c u => u.collections.contains c.id = true)
    (Fixture.createFakeCollection ambient backpackid)
    (fun u hu => (meets_createFakeCollection hu.1 hu.2).imp fun c v hv =>
      ⟨⟨hv.1, by rw [hv.2.1]; exact hu.2⟩, hv.2.2.2, fun b hb => hv.2.2.1 b.id hb⟩)
    count ⟨h, hbackpack⟩
  refine hcollections.bind_of_true ?_
  rintro collections u ⟨⟨hu, -⟩, hthere, -⟩
  cases collections with
  | nil => exact meets_pure hu
  | cons first rest =>
    have hadded := meets_each_of_true
      (I := fun v => Describes ambient s v ∧ v.collections.contains first.id = true)
      (Fixture.addExternalBadge first.id) badges
      ⟨hu, hthere first (by simp)⟩ fun badge _ v hv =>
        (meets_addExternalBadge hv.1 hv.2 badge).imp fun _ w hw => ⟨hw.1, by rw [hw.2]; exact hv.2⟩
    exact hadded.imp fun _ _ hv => hv.1

theorem meets_makeBackpack (e : SeedBackpack) (h : Describes ambient s t) :
    (makeBackpack ambient (numbersOf (·.username) s.users) e).Meets t
      (e.user ∈ s.users.map (·.username)) fun _ u => Describes ambient s u := by
  have hbackpack {user : Int} {v : Site} (service : Option Int) (hv : Describes ambient s v)
      (huser : v.users.contains user = true)
      (hservice : ∀ id, service = some id → v.siteBackpacks.contains id = true) :
      (do
        let b ← Fixture.createFakeBackpack ambient user service
        let count := if e.badges.isEmpty then e.collections else max e.collections 1
        match ← times (Fixture.createFakeCollection ambient b.id) count with
        | first :: _ => Change.each (Fixture.addExternalBadge first.id) e.badges
        | [] => pure () : Fixture Unit).Meets v True fun _ u => Describes ambient s u := by
    refine (meets_createFakeBackpack hv huser hservice).bind_of_true ?_
    rintro b u ⟨hu, hb⟩
    exact meets_fillBackpack hu hb _ e.badges
  unfold makeBackpack
  refine (meets_lookUp_number e.user s.users).bind_true ?_
  rintro huser _ t ⟨rfl, rfl⟩
  cases e.site with
  | some apiurl =>
    obtain ⟨id, u, hrun, hu, hid⟩ := serviceAt_spec apiurl h
    refine ((meets_lift hrun).map _).bind_of_true ?_
    rintro _ _ ⟨_, rfl, rfl, rfl⟩
    refine hbackpack _ hu (hu.contains_user huser) ?_
    rintro _ ⟨⟩
    exact hid
  | none => exact hbackpack none h (h.contains_user huser) (by simp)

theorem meets_makeBackpacks (h : Describes ambient s t) :
    (each (makeBackpack ambient s.names.users) s.backpacks).Meets t
      (∀ e ∈ s.backpacks, e.user ∈ s.users.map (·.username)) fun _ u => Describes ambient s u :=
  meets_each (I := fun _ => Describes ambient s) s.backpacks h
    fun _ e _ _ _ ht => meets_makeBackpack e ht

end Seed

end Campus
