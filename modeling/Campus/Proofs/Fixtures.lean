import Campus.Proofs.Locks

/-!
# Fixtures only write

Whatever is made, and whether or not the making fails half-way, all that happens to the site is
writes. A record that names another is written once the other was found. Only awarding a badge locks
it.
-/

namespace Campus

open Change

namespace Site

variable {s : Site}

theorem contains_user? {id : Int} {u : User} (h : s.user? id = some u) :
    s.users.contains id = true :=
  Table.contains_of_get? h

/-! ## Defaults -/

theorem plain_addBuiltinRoles (s : Site) : s.PlainWrites s.addBuiltinRoles := by
  unfold addBuiltinRoles
  induction Role.builtin generalizing s with
  | nil => exact .refl
  | cons shortname rest ih =>
    rw [List.foldl_cons]
    refine PlainWrites.trans ?_ (ih _)
    split
    · exact .refl
    · exact (Write.addRole _ fun _ => rfl).elsewhere rfl rfl

theorem plain_withDefaults (s : Site) : s.PlainWrites s.withDefaults := by
  refine (plain_addBuiltinRoles s).trans ?_
  unfold withDefaults addDefaultBackpack
  split
  · exact (Write.addSiteBackpack _ fun _ => rfl).elsewhere rfl rfl
  · exact .refl

end Site

namespace Fixture

open Site

/-! ## People, roles and courses -/

theorem plain_addUser (change : User → User) (hid : ∀ u, (change u).id = u.id) (s : Site) :
    s.PlainWrites ((addUser change) s).2 :=
  (Write.addUser (fun id => change (User.generated id)) fun _ => hid _).elsewhere rfl rfl

theorem contains_addUser (change : User → User) (hid : ∀ u, (change u).id = u.id) (s : Site) :
    ((addUser change) s).2.users.contains ((addUser change) s).1.id = true := by
  have hnew : ((addUser change) s).1.id = s.users.nextId := hid _
  rw [hnew]
  exact Table.contains_of_get?
    (Table.get?_add_self (fun id => change (User.generated id)) s.users)

theorem plain_updateUser (u : User) : (updateUser u).Follows PlainWrites := by
  refine follows_get_bind fun s => ?_
  split
  · next hid => exact (Write.putUser u hid).elsewhere rfl rfl
  · exact .refl

theorem plain_addCourse (change : Course → Course) (hid : ∀ c, (change c).id = c.id)
    (s : Site) : s.PlainWrites ((addCourse change) s).2 :=
  (Write.addCourse (fun id => change (Course.generated id)) fun _ => hid _).elsewhere rfl rfl

theorem plain_createRole (shortname : Option String) (capabilities : List String)
    (s : Site) : s.PlainWrites ((createRole shortname capabilities) s).2 := by
  have hadd : s.Write ((createRole shortname capabilities) s).2 :=
    Write.addRole (fun id => ⟨id, shortname.getD s!"role{id}", capabilities⟩) fun _ => rfl
  exact hadd.elsewhere rfl rfl

theorem plain_roleAssign (roleid userid : Int) (context : Context) :
    (roleAssign roleid userid context).Follows PlainWrites := by
  refine follows_get_bind fun s => ?_
  cases hrole : s.roles.contains roleid with
  | false => exact .refl
  | true =>
    cases huser : s.users.contains userid with
    | false => exact .refl
    | true => exact (Write.assignRole ⟨roleid, userid, context⟩ hrole huser).elsewhere rfl rfl

theorem locksNothing_assignCapability (capability : String) (permission : Permission) (roleid : Int)
    (context : Context) (s : Site) :
    s.LocksNothing ((assignCapability capability permission roleid context) s).2 :=
  (Write.override roleid capability permission context).locksNothing rfl

theorem plain_enrol (userid courseid : Int) (role : String) :
    (enrol userid courseid role).Follows PlainWrites := by
  refine follows_get.bind fun s => (follows_require _ _).bind fun r => ?_
  split
  · exact follows_throw _
  · exact plain_roleAssign _ _ _

theorem plain_createAndEnrol (courseid : Int) (role : String) :
    (createAndEnrol courseid role).Follows PlainWrites :=
  (follows_lift (plain_addUser id fun _ => rfl)).bind fun u =>
    (plain_enrol u.id courseid role).bind fun _ => follows_pure u

theorem plain_setToken (userid : Int) (token : String) :
    (setToken userid token).Follows PlainWrites := by
  refine follows_get_bind fun s => ?_
  split
  · next huser => exact (Write.putToken token userid huser).elsewhere rfl rfl
  · exact .refl

theorem plain_createToken (ambient : Ambient) (userid : Int) :
    (createToken ambient userid).Follows PlainWrites :=
  follows_get.bind fun _ => (plain_setToken _ _).bind fun _ => follows_pure _

/-! ## Modules -/

theorem name_of_ofName? {modname : String} {type : ModuleType}
    (h : ModuleType.ofName? modname = some type) : modname = type.name := by
  unfold ModuleType.ofName? at h
  split at h
  · next hname => cases h; exact hname
  · split at h
    · next hname => cases h; exact hname
    · cases h

theorem plain_createModule (modname : String) (courseid : Int) :
    (createModule modname courseid).Follows PlainWrites := by
  refine follows_get_bind fun s => ?_
  cases hcourse : s.courses.contains courseid with
  | false => exact .refl
  | true =>
    cases htype : ModuleType.ofName? modname with
    | none =>
      -- The type is looked at only after an id was issued.
      exact Write.skipModule.elsewhere rfl rfl
    | some type =>
      rw [name_of_ofName? htype]
      have hadd := Write.addModule type courseid hcourse
      cases type <;> exact hadd.elsewhere rfl rfl

theorem plain_deleteModuleInstance (cm : CourseModule) (s : Site) :
    s.PlainWrites ((deleteModuleInstance cm) s).2 := by
  refine (Write.deleteInstance cm).elsewhere ?_ ?_
  all_goals
    obtain ⟨assignments, chats, hafter⟩ := exists_deleteModuleInstance cm s
    rw [hafter]

theorem plain_renameInstance (cm : CourseModule) (name : String) (s : Site) :
    s.PlainWrites ((renameInstance cm name) s).2 := by
  refine (Write.renameInstance cm name).elsewhere ?_ ?_
  all_goals
    obtain ⟨assignments, chats, hafter⟩ := exists_renameInstance cm name s
    rw [hafter]

theorem plain_assignInstance (cm : CourseModule) :
    (assignInstance cm).Follows PlainWrites :=
  follows_get.bind fun _ => follows_require _ _

/-! ## Submissions -/

theorem plain_moveLatest (now : Int) (status : SubmissionStatus) (assignment userid : Int)
    (s : Site) : s.PlainWrites ((moveLatest now status assignment userid) s).2 := by
  refine (Write.moveLatest now assignment userid status).elsewhere ?_ ?_
  all_goals
    obtain ⟨submissions, hafter⟩ := exists_moveLatest now status assignment userid s
    rw [hafter]

theorem plain_addSubmission (now assignment userid : Int) (s : Site) :
    s.PlainWrites ((addSubmission now assignment userid) s).2 := by
  rw [addSubmission, Run.bind_apply_of_state]
  cases hlatest : s.latestAttempt? assignment userid with
  | none =>
    have hmove : (moveLatest now .draft assignment userid) s = (none, s) := by
      unfold moveLatest
      rw [hlatest]
    rw [hmove]
    refine (Write.addDraft now assignment userid 0 ?_).elsewhere rfl rfl
    rw [userSubmission?, hlatest]
    rfl
  | some found =>
    have hmove : ∃ sub after, (moveLatest now .draft assignment userid) s = (some sub, after) := by
      unfold moveLatest
      rw [hlatest]
      exact ⟨_, _, rfl⟩
    obtain ⟨sub, after, hmove⟩ := hmove
    have hmoved := plain_moveLatest now .draft assignment userid s
    rw [hmove] at hmoved ⊢
    exact hmoved

theorem plain_submitForGrading (now assignment userid : Int) (s : Site) :
    s.PlainWrites ((submitForGrading now assignment userid) s).2 :=
  plain_moveLatest now .submitted assignment userid s

theorem plain_addAttempt (now assignment userid : Int) (s : Site) :
    s.PlainWrites ((addAttempt now assignment userid) s).2 :=
  (Write.addDraft now assignment userid _ rfl).elsewhere rfl rfl

/-! ## Badges -/

theorem plain_createBadge (now : Int) (r : NewBadge) :
    (createBadge now r).Follows PlainWrites := by
  refine follows_get_bind fun s => ?_
  have hadd (hcourse : ∀ course, r.courseid = some course → s.courses.contains course = true)
      (htype : r.type = .course → r.courseid.isSome = true) :
      s.PlainWrites ((createBadge.add now r s) s).2 :=
    ⟨⟨(Write.addBadge now r hcourse htype).one, fun _ => isLocked_of_addBadge⟩, rfl⟩
  cases hid : r.courseid with
  | none =>
    cases htype : r.type with
    | course => exact .refl
    | site => exact hadd (by simp [hid]) (by simp [htype])
  | some course =>
    cases r.type
    all_goals
      dsimp only
      cases hcourse : s.courses.contains course with
      | false => exact .refl
      | true => exact hadd (by simp [hid, hcourse]) (by simp [hid])

section Badges

variable {badgeid : Int} {change : Badge → Badge} {s : Site}

theorem withBadge_of_contains (h : s.badges.contains badgeid = true) :
    (withBadge badgeid change) s =
      (.ok (), { s with badges := s.badges.modify badgeid change }) := by
  simp only [withBadge, Run.bind_apply, Run.get_apply, h, if_true]
  rfl

theorem withBadge_of_not_contains (h : s.badges.contains badgeid = false) :
    (withBadge badgeid change) s = (.error (.site (.badgeNotFound badgeid)), s) := by
  simp only [withBadge, Run.bind_apply, Run.get_apply, h]
  rfl

theorem plain_withBadge
    (h : ∀ s : Site, s.badges.contains badgeid = true →
      s.Write { s with badges := s.badges.modify badgeid change })
    (hstatus : ∀ b, (change b).status = b.status) :
    (withBadge badgeid change).Follows PlainWrites := by
  intro s
  cases hbadge : s.badges.contains badgeid with
  | false =>
    rw [withBadge_of_not_contains hbadge]
    exact .refl
  | true =>
    rw [withBadge_of_contains hbadge]
    exact ⟨⟨(h s hbadge).one, fun _ => isLocked_of_modify hstatus⟩, rfl⟩

end Badges

theorem plain_addEndorsement (now badgeid : Int) :
    (addEndorsement now badgeid).Follows PlainWrites := by
  have hcount : (modify fun s => { s with endorsementsIssued := s.endorsementsIssued + 1 } :
      Fixture PUnit).Follows PlainWrites := fun _ => Write.countEndorsement.elsewhere rfl rfl
  exact hcount.bind fun _ => follows_get.bind fun _ =>
    (plain_withBadge (fun s => Write.endorse badgeid _) fun _ => rfl).bind fun _ =>
      follows_pure _

theorem plain_addAlignment (badgeid : Int) (targetname : String) :
    (addAlignment badgeid targetname).Follows PlainWrites := by
  have hcount : (modify fun s => { s with alignmentsIssued := s.alignmentsIssued + 1 } :
      Fixture PUnit).Follows PlainWrites := fun _ => Write.countAlignment.elsewhere rfl rfl
  exact hcount.bind fun _ => follows_get.bind fun _ =>
    (plain_withBadge (fun s => Write.align badgeid _) fun _ => rfl).bind fun _ =>
      follows_pure _

section Relate

variable {badgeid related : Int} {s : Site}

theorem addRelatedBadges_of_contains (hbadge : s.badges.contains badgeid = true)
    (hrelated : s.badges.contains related = true) : (addRelatedBadges badgeid related) s =
      (.ok (), { s with
        badges := (s.badges.modify badgeid (Badge.relate related)).modify related
          (Badge.relate badgeid) }) := by
  have hsame : s.badges.modify related id = s.badges := Table.modify_id related s.badges
  have hkept := Table.within_modify badgeid (Badge.relate related) s.badges related hrelated
  rw [addRelatedBadges, Run.bind_apply, withBadge_of_contains hrelated, hsame]
  dsimp only
  rw [Run.bind_apply, withBadge_of_contains hbadge]
  dsimp only
  rw [withBadge_of_contains hkept]

/-- Both badges are looked for before either is related. -/
theorem addRelatedBadges_site_of_not_contains
    (h : ¬(s.badges.contains badgeid = true ∧ s.badges.contains related = true)) :
    ((addRelatedBadges badgeid related) s).2 = s := by
  unfold addRelatedBadges
  cases hrelated : s.badges.contains related with
  | false => rw [Run.bind_apply, withBadge_of_not_contains hrelated]
  | true =>
    have hbadge : s.badges.contains badgeid = false :=
      Bool.eq_false_iff.2 fun hbadge => h ⟨hbadge, hrelated⟩
    have hsame : s.badges.modify related id = s.badges := Table.modify_id related s.badges
    rw [Run.bind_apply, withBadge_of_contains hrelated, hsame]
    dsimp only
    rw [Run.bind_apply, withBadge_of_not_contains hbadge]

end Relate

theorem plain_addRelatedBadges (badgeid related : Int) :
    (addRelatedBadges badgeid related).Follows PlainWrites := by
  intro s
  by_cases hknown : s.badges.contains badgeid = true ∧ s.badges.contains related = true
  · obtain ⟨hbadge, hrelated⟩ := hknown
    rw [addRelatedBadges_of_contains hbadge hrelated]
    refine ⟨⟨(Write.relate badgeid related hbadge hrelated).one, fun id hlocked => ?_⟩, rfl⟩
    have hfirst : { s with badges := s.badges.modify badgeid (Badge.relate related) }.IsLocked
        id := isLocked_of_modify (status_relate badgeid) hlocked
    exact isLocked_of_modify (status_relate related) hfirst
  · rw [addRelatedBadges_site_of_not_contains hknown]
    exact .refl

theorem locked_locked (status : BadgeStatus) : status.locked.locked = status.locked := by
  cases status <;> rfl

section Awards

variable {ambient : Ambient} {badgeid userid : Int} {s : Site}

theorem issueBadge_of_no_badge (h : s.badges.contains badgeid = false) :
    (issueBadge ambient badgeid userid) s = (.error (.site (.badgeNotFound badgeid)), s) := by
  unfold issueBadge
  rw [Run.bind_apply, withBadge_of_not_contains h]

theorem issueBadge_of_no_user (hbadge : s.badges.contains badgeid = true)
    (huser : s.users.contains userid = false) :
    (issueBadge ambient badgeid userid) s = (.error (.site (.userNotFound userid)), { s with
      badges := s.badges.modify badgeid fun b => { b with status := b.status.locked } }) := by
  unfold issueBadge
  rw [Run.bind_apply, withBadge_of_contains hbadge]
  simp only [Run.bind_apply, Run.get_apply, huser]
  rfl

theorem issueBadge_of_contains (ambient : Ambient) (hbadge : s.badges.contains badgeid = true)
    (huser : s.users.contains userid = true) : ∃ make : Int → Award,
      (∀ id, (make id).id = id) ∧ (∀ id, (make id).badgeid = badgeid) ∧
        (∀ id, (make id).userid = userid) ∧
        (issueBadge ambient badgeid userid) s = (.ok (make s.awards.nextId), { s with
          badges := s.badges.modify badgeid fun b => { b with status := b.status.locked }
          awards := (s.awards.add make).2 }) := by
  refine ⟨fun id => ⟨id, badgeid, userid, ambient.awardHash id, ambient.now, none, true⟩,
    fun _ => rfl, fun _ => rfl, fun _ => rfl, ?_⟩
  unfold issueBadge
  rw [Run.bind_apply, withBadge_of_contains hbadge]
  simp only [Run.bind_apply, Run.get_apply, huser]
  rfl

end Awards

theorem settles_issueBadge (ambient : Ambient) (badgeid : Int) {userid : Int} {users : List Int}
    (huser : userid ∈ users) : (issueBadge ambient badgeid userid).Follows (Settles users) := by
  intro s
  cases hbadge : s.badges.contains badgeid with
  | false =>
    rw [issueBadge_of_no_badge hbadge]
    exact .refl
  | true =>
    have hlock := Write.lock badgeid hbadge
    cases hknown : s.users.contains userid with
    | false =>
      rw [issueBadge_of_no_user hbadge hknown]
      refine ⟨hlock.one, fun _ hall => ?_⟩
      rw [hall userid huser] at hknown
      cases hknown
    | true =>
      obtain ⟨make, hown, hmake, hmakeUser, hrun⟩ :=
        issueBadge_of_contains ambient hbadge hknown
      rw [hrun]
      obtain ⟨b, hstored⟩ := Table.contains_iff.1 hbadge
      have hlocked : (s.badges.modify badgeid fun b => { b with status := b.status.locked }).get?
          badgeid = some { b with status := b.status.locked } := by
        rw [Table.get?_modify, hstored, Option.map_some, if_pos rfl]
      refine ⟨.tail hlock.one (Write.addAward make badgeid _ hown hmake hlocked
        (locked_locked b.status) fun id => (hmakeUser id).symm ▸ hknown), ?_⟩
      exact fun hs _ other => lockedInVain_of_award hs.awards hmake

theorem writing_issueBadge (ambient : Ambient) (badgeid userid : Int) :
    (issueBadge ambient badgeid userid).Follows Writes :=
  (settles_issueBadge ambient badgeid (List.mem_singleton_self userid)).mono fun _ _ h => h.writes

theorem plain_setAwardHash (issuedid : Int) (hash : String) :
    (setAwardHash issuedid hash).Follows PlainWrites := by
  refine follows_get_bind fun s => ?_
  split
  · next hid => exact (Write.setHash issuedid hash hid).elsewhere rfl rfl
  · exact .refl

/-! ## Backpacks -/

theorem plain_createSiteBackpack (apiversion apiurl weburl : String) (s : Site) :
    s.PlainWrites ((createSiteBackpack apiversion apiurl weburl) s).2 :=
  (Write.addSiteBackpack (⟨·, apiversion, apiurl, weburl⟩) fun _ => rfl).elsewhere rfl rfl

theorem contains_of_head? {α : Type} {t : Table α} {id : Int}
    (h : (t.rows.head?).map (·.1) = some id) : t.contains id = true := by
  obtain ⟨row, hrow, rfl⟩ := Option.map_eq_some_iff.1 h
  exact Table.contains_of_get? (Table.get?_eq_some_iff.2 (List.mem_of_mem_head? hrow))

theorem plain_createFakeBackpack (ambient : Ambient) (userid : Int) (service : Option Int) :
    (createFakeBackpack ambient userid service).Follows PlainWrites := by
  refine follows_get_bind fun s => ?_
  cases huser : s.user? userid with
  | none => exact .refl
  | some user =>
    have hadd (service : Int) (hservice : s.siteBackpacks.contains service = true) :
        s.PlainWrites { s with
          userBackpacks := (s.userBackpacks.add fun id =>
            { id, userid, externalbackpackid := service, email := user.email
              backpackuid := ambient.backpackUid id }).2 } :=
      (Write.addUserBackpack _ (fun _ => rfl) (fun _ => contains_user? huser)
        fun _ => hservice).elsewhere rfl rfl
    cases service with
    | some id =>
      dsimp only
      cases hservice : s.siteBackpacks.contains id with
      | false => exact .refl
      | true => exact hadd id hservice
    | none =>
      cases hfirst : (s.siteBackpacks.rows.head?).map (·.1) with
      | none => exact .refl
      | some id => exact hadd id (contains_of_head? hfirst)

theorem plain_createFakeCollection (ambient : Ambient) (backpackid : Int) :
    (createFakeCollection ambient backpackid).Follows PlainWrites := by
  refine follows_get_bind fun s => ?_
  rw [Run.bind_apply]
  cases hbackpack : s.userBackpacks.get? backpackid with
  | none => exact .refl
  | some backpack =>
    simp only [Run.bind_apply]
    exact (Write.addCollection _ _ (fun _ => rfl)
      fun _ => Table.contains_of_get? hbackpack).elsewhere rfl rfl

theorem plain_addExternalBadge (collectionid : Int) (badge : ExternalBadge) :
    (addExternalBadge collectionid badge).Follows PlainWrites := by
  refine follows_get_bind fun s => ?_
  split
  · next hid => exact (Write.collect collectionid badge hid).elsewhere rfl rfl
  · exact .refl

end Fixture

/-! ## Reports -/

namespace Site

theorem plain_addColumn (reportid : Int) (identifier : String) :
    (addColumn reportid identifier).Follows PlainWrites := by
  refine follows_get_bind fun s => ?_
  rw [Run.bind_apply, Run.liftExcept_apply]
  cases hsource : s.sourceOf reportid with
  | error e => exact .refl
  | ok source =>
    dsimp only
    cases hcolumn : source.hasColumn identifier with
    | false => exact .refl
    | true => exact (Write.addColumn reportid identifier source hsource hcolumn).elsewhere rfl rfl

theorem plain_addFilter (iscondition : Bool) (reportid : Int) (identifier : String) :
    (addFilter iscondition reportid identifier).Follows PlainWrites := by
  refine follows_get_bind fun s => ?_
  rw [Run.bind_apply, Run.liftExcept_apply]
  cases hsource : s.sourceOf reportid with
  | error e => exact .refl
  | ok source =>
    dsimp only
    cases hfilter : source.hasFilter identifier with
    | false => exact .refl
    | true =>
      have hadd := Write.addFilter iscondition reportid identifier source hsource hfilter
      exact hadd.elsewhere rfl rfl

theorem plain_addReport (now : Int) (name source : String) (default : Bool) (userid : Int) :
    (addReport now name source default userid).Follows PlainWrites := by
  refine (follows_require _ _).bind fun d s => ?_
  have hreport : s.PlainWrites { s with
      reports := (s.reports.add fun id =>
        { id, name, source, usercreated := userid, timecreated := now }).2 } :=
    (Write.addReport _ fun _ => rfl).elsewhere rfl rfl
  simp only [Run.bind_apply, Run.get_apply, Run.set_apply]
  refine hreport.trans ?_
  cases default with
  | false => exact .refl
  | true =>
    refine Follows.bind ?_ (fun _ => .bind ?_ fun _ => .bind ?_ fun _ => follows_pure _) _
    · exact follows_each (fun c => (plain_addColumn _ c).map _) _
    · exact follows_each (fun f => (plain_addFilter false _ f).map _) _
    · exact follows_each (fun f => (plain_addFilter true _ f).map _) _

end Site

namespace Fixture

theorem plain_createReport (now userid : Int) (record : Json) :
    (createReport now userid record).Follows Site.PlainWrites :=
  (follows_liftExcept _).bind fun _ => (follows_liftExcept _).bind fun _ =>
    (follows_liftExcept _).bind fun _ => (follows_liftExcept _).bind fun _ =>
      (Site.plain_addReport _ _ _ _ _).adapt _

theorem plain_createColumn (record : Json) :
    (createColumn record).Follows Site.PlainWrites :=
  (follows_liftExcept _).bind fun _ => (Site.plain_addColumn _ _).adapt _

theorem plain_createFilter (iscondition : Bool) (record : Json) :
    (createFilter iscondition record).Follows Site.PlainWrites :=
  (follows_liftExcept _).bind fun _ => (Site.plain_addFilter _ _ _).adapt _

end Fixture

end Campus
