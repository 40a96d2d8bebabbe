import Campus.Proofs.Records
import Campus.Site.Basic

/-!
# Consistent sites

Records refer to records that are there. A write to one table has to look at what the table refers
to, and at what refers to the table: a table that only grows keeps all references to it.
-/

namespace Campus

/-- The module places a record of a type, by the record's course and id. -/
structure CourseModule.Places (modname : String) (course id : Int) (cm : CourseModule) : Prop where
  modname : cm.modname = modname
  course : cm.course = course
  instanceId : cm.instanceId = id

namespace Site

/-- All tables are sound, and records refer to records that are there. -/
structure Consistent (s : Site) : Prop where
  users : s.users.Sound User.id
  courses : s.courses.Sound Course.id
  modules : s.modules.Sound CourseModule.id
  roles : s.roles.Sound Role.id
  assignments : s.assignments.Sound Assignment.id
  submissions : s.submissions.Sound Submission.id
  chats : s.chats.Sound Chat.id
  badges : s.badges.Sound Badge.id
  awards : s.awards.Sound Award.id
  siteBackpacks : s.siteBackpacks.Sound SiteBackpack.id
  userBackpacks : s.userBackpacks.Sound UserBackpack.id
  collections : s.collections.Sound Collection.id
  reports : s.reports.Sound Report.id
  columns : s.columns.Sound ReportColumn.id
  filters : s.filters.Sound ReportFilter.id
  moduleCourse : s.modules.Every fun _ cm => s.courses.contains cm.course = true
  /-- A module names the assignment that names it; it may lose the record, but not the reverse. -/
  assignmentModule : s.assignments.Every fun _ a =>
    ∃ cm, s.modules.get? a.cmid = some cm ∧ cm.Places "assign" a.course a.id
  chatModule : s.chats.Every fun _ c =>
    ∃ cmid cm, s.modules.get? cmid = some cm ∧ cm.Places "chat" c.course c.id
  roleAssignment : ∀ a ∈ s.roleAssignments,
    s.roles.contains a.roleid = true ∧ s.users.contains a.userid = true
  badgeCourse : s.badges.Every fun _ b =>
    (∀ course, b.courseid = some course → s.courses.contains course = true) ∧
      (b.type = .course → b.courseid.isSome = true)
  award : s.awards.Every fun _ a =>
    s.badges.contains a.badgeid = true ∧ s.users.contains a.userid = true
  userBackpack : s.userBackpacks.Every fun _ b =>
    s.users.contains b.userid = true ∧ s.siteBackpacks.contains b.externalbackpackid = true
  collection : s.collections.Every fun _ c => s.userBackpacks.contains c.backpackid = true
  collected : ∀ id, Keyed.contains id s.collected = s.collections.contains id
  token : ∀ token userid, s.userForToken? token = some userid → s.users.contains userid = true

/-- Every table of a site is related to the same table of another. -/
structure Tablewise (R : ∀ {α : Type}, Table α → Table α → Prop) (s after : Site) : Prop where
  users : R s.users after.users
  courses : R s.courses after.courses
  modules : R s.modules after.modules
  roles : R s.roles after.roles
  assignments : R s.assignments after.assignments
  submissions : R s.submissions after.submissions
  chats : R s.chats after.chats
  badges : R s.badges after.badges
  awards : R s.awards after.awards
  siteBackpacks : R s.siteBackpacks after.siteBackpacks
  userBackpacks : R s.userBackpacks after.userBackpacks
  collections : R s.collections after.collections
  reports : R s.reports after.reports
  columns : R s.columns after.columns
  filters : R s.filters after.filters

/-- No table of the other site has issued fewer ids. -/
abbrev IssuesFrom (s after : Site) : Prop :=
  s.Tablewise (fun t u => t.issued ≤ u.issued) after

/-- No id in use is one that the other site has yet to issue. -/
abbrev SpendsIdsOf (after s : Site) : Prop :=
  s.Tablewise (fun t u => ∀ id, t.contains id = true → id < u.nextId) after

/-- What a change may lead to: a consistent site stays consistent, and counts of ids never fall. -/
structure Evolves (s after : Site) : Prop where
  consistent : s.Consistent → after.Consistent
  issued : s.IssuesFrom after

variable {s t u : Site}

theorem consistent_new (wwwroot : String) : ({ wwwroot } : Site).Consistent := by
  constructor
  case roleAssignment => exact fun _ ha => nomatch ha
  case collected => exact fun _ => rfl
  case token => exact fun _ _ h => nomatch h
  all_goals first | exact Table.sound_empty | exact Table.every_empty

theorem IssuesFrom.refl (s : Site) : s.IssuesFrom s := by
  constructor <;> exact Nat.le_refl _

theorem IssuesFrom.trans (h : s.IssuesFrom t) (h' : t.IssuesFrom u) : s.IssuesFrom u where
  users := Nat.le_trans h.users h'.users
  courses := Nat.le_trans h.courses h'.courses
  modules := Nat.le_trans h.modules h'.modules
  roles := Nat.le_trans h.roles h'.roles
  assignments := Nat.le_trans h.assignments h'.assignments
  submissions := Nat.le_trans h.submissions h'.submissions
  chats := Nat.le_trans h.chats h'.chats
  badges := Nat.le_trans h.badges h'.badges
  awards := Nat.le_trans h.awards h'.awards
  siteBackpacks := Nat.le_trans h.siteBackpacks h'.siteBackpacks
  userBackpacks := Nat.le_trans h.userBackpacks h'.userBackpacks
  collections := Nat.le_trans h.collections h'.collections
  reports := Nat.le_trans h.reports h'.reports
  columns := Nat.le_trans h.columns h'.columns
  filters := Nat.le_trans h.filters h'.filters

theorem IssuesFrom.spendsIdsOf (hissued : s.IssuesFrom t) (h : s.Consistent) :
    t.SpendsIdsOf s where
  users _ hid := h.users.lt_nextId hid hissued.users
  courses _ hid := h.courses.lt_nextId hid hissued.courses
  modules _ hid := h.modules.lt_nextId hid hissued.modules
  roles _ hid := h.roles.lt_nextId hid hissued.roles
  assignments _ hid := h.assignments.lt_nextId hid hissued.assignments
  submissions _ hid := h.submissions.lt_nextId hid hissued.submissions
  chats _ hid := h.chats.lt_nextId hid hissued.chats
  badges _ hid := h.badges.lt_nextId hid hissued.badges
  awards _ hid := h.awards.lt_nextId hid hissued.awards
  siteBackpacks _ hid := h.siteBackpacks.lt_nextId hid hissued.siteBackpacks
  userBackpacks _ hid := h.userBackpacks.lt_nextId hid hissued.userBackpacks
  collections _ hid := h.collections.lt_nextId hid hissued.collections
  reports _ hid := h.reports.lt_nextId hid hissued.reports
  columns _ hid := h.columns.lt_nextId hid hissued.columns
  filters _ hid := h.filters.lt_nextId hid hissued.filters

theorem Evolves.refl (s : Site) : s.Evolves s := ⟨id, .refl s⟩

theorem Evolves.trans (h : s.Evolves t) (h' : t.Evolves u) : s.Evolves u :=
  ⟨h'.consistent ∘ h.consistent, h.issued.trans h'.issued⟩

/-! ## People, roles and courses -/

theorem evolves_users {users : Table User}
    (hsound : s.users.Sound User.id → users.Sound User.id) (hwithin : s.users.Within users)
    (hissued : s.users.issued ≤ users.issued) : s.Evolves { s with users } where
  consistent h := { h with
    users := hsound h.users
    roleAssignment := fun a ha => (h.roleAssignment a ha).imp_right (hwithin _)
    award := h.award.imp fun _ _ => And.imp_right (hwithin _)
    userBackpack := h.userBackpack.imp fun _ _ => And.imp_left (hwithin _)
    token := fun token userid hget => hwithin _ (h.token token userid hget) }
  issued := { IssuesFrom.refl s with users := hissued }

theorem evolves_tokens {token : String} {userid : Int} (huser : s.users.contains userid = true) :
    s.Evolves { s with tokens := Keyed.insert token userid s.tokens } where
  consistent h := { h with
    token := by
      intro other found hget
      by_cases heq : token = other
      · subst heq
        rw [userForToken?, Keyed.get?_insert_self] at hget
        cases hget
        exact huser
      · rw [userForToken?, Keyed.get?_insert_of_ne heq] at hget
        exact h.token other found hget }
  issued := { IssuesFrom.refl s with }

theorem evolves_addCourse {make : Int → Course} (hmake : ∀ id, (make id).id = id) :
    s.Evolves { s with courses := (s.courses.add make).2 } where
  consistent h := { h with
    courses := h.courses.add (hmake _)
    moduleCourse := h.moduleCourse.imp fun _ _ => Table.within_add make s.courses _
    badgeCourse := h.badgeCourse.imp fun _ _ =>
      And.imp_left fun hcourse course hid =>
        Table.within_add make s.courses _ (hcourse course hid) }
  issued := { IssuesFrom.refl s with courses := Nat.le_succ _ }

theorem evolves_addRole {make : Int → Role} (hmake : ∀ id, (make id).id = id) :
    s.Evolves { s with roles := (s.roles.add make).2 } where
  consistent h := { h with
    roles := h.roles.add (hmake _)
    roleAssignment := fun a ha =>
      (h.roleAssignment a ha).imp_left (Table.within_add make s.roles _) }
  issued := { IssuesFrom.refl s with roles := Nat.le_succ _ }

theorem evolves_assignRole {a : RoleAssignment} (hrole : s.roles.contains a.roleid = true)
    (huser : s.users.contains a.userid = true) :
    s.Evolves { s with roleAssignments := s.roleAssignments ++ [a] } where
  consistent h := { h with
    roleAssignment := by
      intro b hb
      rcases List.mem_append.1 hb with hb | hb
      · exact h.roleAssignment b hb
      · rw [List.mem_singleton.1 hb]
        exact ⟨hrole, huser⟩ }
  issued := { IssuesFrom.refl s with }

theorem evolves_roleOverrides (roleOverrides : List RoleOverride) :
    s.Evolves { s with roleOverrides } where
  consistent h := { h with }
  issued := { IssuesFrom.refl s with }

/-! ## Modules -/

theorem evolves_skipModule : s.Evolves { s with modules := s.modules.skip } where
  consistent h := { h with modules := h.modules.skip }
  issued := { IssuesFrom.refl s with modules := Nat.le_succ _ }

theorem evolves_addModule {make : Int → CourseModule} (hmake : ∀ id, (make id).id = id)
    (hcourse : ∀ id, s.courses.contains (make id).course = true) :
    s.Evolves { s with modules := (s.modules.add make).2 } where
  consistent h := by
    -- The id is new, so the modules that records are placed by are not overwritten.
    have hkept : ∀ {id cm}, s.modules.get? id = some cm →
        (s.modules.add make).2.get? id = some cm := h.modules.get?_add
    refine { h with
      modules := h.modules.add (hmake _)
      moduleCourse := h.moduleCourse.add (hcourse _)
      assignmentModule := h.assignmentModule.imp fun _ _ => ?_
      chatModule := h.chatModule.imp fun _ _ => ?_ }
    · rintro ⟨cm, hget, hplaces⟩
      exact ⟨cm, hkept hget, hplaces⟩
    · rintro ⟨cmid, cm, hget, hplaces⟩
      exact ⟨cmid, cm, hkept hget, hplaces⟩
  issued := { IssuesFrom.refl s with modules := Nat.le_succ _ }

theorem evolves_assignments {assignments : Table Assignment}
    (hsound : s.assignments.Sound Assignment.id → assignments.Sound Assignment.id)
    (hplaced : s.assignments.Every (fun _ a =>
        ∃ cm, s.modules.get? a.cmid = some cm ∧ cm.Places "assign" a.course a.id) →
      assignments.Every fun _ a =>
        ∃ cm, s.modules.get? a.cmid = some cm ∧ cm.Places "assign" a.course a.id)
    (hissued : s.assignments.issued ≤ assignments.issued) : s.Evolves { s with assignments } where
  consistent h := { h with
    assignments := hsound h.assignments
    assignmentModule := hplaced h.assignmentModule }
  issued := { IssuesFrom.refl s with assignments := hissued }

theorem evolves_chats {chats : Table Chat}
    (hsound : s.chats.Sound Chat.id → chats.Sound Chat.id)
    (hplaced : s.chats.Every (fun _ c =>
        ∃ cmid cm, s.modules.get? cmid = some cm ∧ cm.Places "chat" c.course c.id) →
      chats.Every fun _ c =>
        ∃ cmid cm, s.modules.get? cmid = some cm ∧ cm.Places "chat" c.course c.id)
    (hissued : s.chats.issued ≤ chats.issued) : s.Evolves { s with chats } where
  consistent h := { h with chats := hsound h.chats, chatModule := hplaced h.chatModule }
  issued := { IssuesFrom.refl s with chats := hissued }

theorem evolves_submissions {submissions : Table Submission}
    (hsound : s.submissions.Sound Submission.id → submissions.Sound Submission.id)
    (hissued : s.submissions.issued ≤ submissions.issued) : s.Evolves { s with submissions } where
  consistent h := { h with submissions := hsound h.submissions }
  issued := { IssuesFrom.refl s with submissions := hissued }

theorem evolves_events (events : List Event) : s.Evolves { s with events } where
  consistent h := { h with }
  issued := { IssuesFrom.refl s with }

/-! ## Badges -/

theorem evolves_addBadge {make : Int → Badge} (hmake : ∀ id, (make id).id = id)
    (hcourse : ∀ id course, (make id).courseid = some course → s.courses.contains course = true)
    (htype : ∀ id, (make id).type = .course → (make id).courseid.isSome = true) :
    s.Evolves { s with badges := (s.badges.add make).2 } where
  consistent h := { h with
    badges := h.badges.add (hmake _)
    badgeCourse := h.badgeCourse.add ⟨hcourse _, htype _⟩
    award := h.award.imp fun _ _ => And.imp_left (Table.within_add make s.badges _) }
  issued := { IssuesFrom.refl s with badges := Nat.le_succ _ }

theorem evolves_modifyBadge {id : Int} {change : Badge → Badge}
    (hid : ∀ b, (change b).id = b.id) (htype : ∀ b, (change b).type = b.type)
    (hcourse : ∀ b, (change b).courseid = b.courseid) :
    s.Evolves { s with badges := s.badges.modify id change } where
  consistent h := { h with
    badges := h.badges.modify hid
    badgeCourse := h.badgeCourse.modify fun b hb => by rwa [htype, hcourse]
    award := h.award.imp fun _ _ => And.imp_left (Table.within_modify id change s.badges _) }
  issued := { IssuesFrom.refl s with }

theorem evolves_endorsementsIssued (endorsementsIssued : Nat) :
    s.Evolves { s with endorsementsIssued } where
  consistent h := { h with }
  issued := { IssuesFrom.refl s with }

theorem evolves_alignmentsIssued (alignmentsIssued : Nat) :
    s.Evolves { s with alignmentsIssued } where
  consistent h := { h with }
  issued := { IssuesFrom.refl s with }

theorem evolves_addAward {make : Int → Award} (hmake : ∀ id, (make id).id = id)
    (hbadge : ∀ id, s.badges.contains (make id).badgeid = true)
    (huser : ∀ id, s.users.contains (make id).userid = true) :
    s.Evolves { s with awards := (s.awards.add make).2 } where
  consistent h := { h with
    awards := h.awards.add (hmake _)
    award := h.award.add ⟨hbadge _, huser _⟩ }
  issued := { IssuesFrom.refl s with awards := Nat.le_succ _ }

theorem evolves_modifyAward {id : Int} {change : Award → Award}
    (hid : ∀ a, (change a).id = a.id) (hbadge : ∀ a, (change a).badgeid = a.badgeid)
    (huser : ∀ a, (change a).userid = a.userid) :
    s.Evolves { s with awards := s.awards.modify id change } where
  consistent h := { h with
    awards := h.awards.modify hid
    award := h.award.modify fun a ha => by rwa [hbadge, huser] }
  issued := { IssuesFrom.refl s with }

/-! ## Backpacks -/

theorem evolves_addSiteBackpack {make : Int → SiteBackpack} (hmake : ∀ id, (make id).id = id) :
    s.Evolves { s with siteBackpacks := (s.siteBackpacks.add make).2 } where
  consistent h := { h with
    siteBackpacks := h.siteBackpacks.add (hmake _)
    userBackpack := h.userBackpack.imp fun _ _ =>
      And.imp_right (Table.within_add make s.siteBackpacks _) }
  issued := { IssuesFrom.refl s with siteBackpacks := Nat.le_succ _ }

theorem evolves_addUserBackpack {make : Int → UserBackpack} (hmake : ∀ id, (make id).id = id)
    (huser : ∀ id, s.users.contains (make id).userid = true)
    (hservice : ∀ id, s.siteBackpacks.contains (make id).externalbackpackid = true) :
    s.Evolves { s with userBackpacks := (s.userBackpacks.add make).2 } where
  consistent h := { h with
    userBackpacks := h.userBackpacks.add (hmake _)
    userBackpack := h.userBackpack.add ⟨huser _, hservice _⟩
    collection := h.collection.imp fun _ _ => Table.within_add make s.userBackpacks _ }
  issued := { IssuesFrom.refl s with userBackpacks := Nat.le_succ _ }

theorem contains_insert_collected {id : Int} {badges : List ExternalBadge}
    {collected : Keyed Int (List ExternalBadge)} (key : Int) :
    Keyed.contains key (Keyed.insert id badges collected) =
      (decide (id = key) || Keyed.contains key collected) := by
  unfold Keyed.contains
  by_cases hkey : id = key
  · subst hkey
    simp [Keyed.get?_insert_self]
  · simp [Keyed.get?_insert_of_ne hkey, hkey]

theorem evolves_addCollection {make : Int → Collection} (hmake : ∀ id, (make id).id = id)
    (hbackpack : ∀ id, s.userBackpacks.contains (make id).backpackid = true)
    (badges : List ExternalBadge) :
    s.Evolves { s with
      collections := (s.collections.add make).2
      collected := Keyed.insert s.collections.nextId badges s.collected } where
  consistent h := { h with
    collections := h.collections.add (hmake _)
    collection := h.collection.add (hbackpack _)
    collected := fun id => by
      rw [contains_insert_collected, h.collected]
      exact (Table.contains_add make s.collections id).symm }
  issued := { IssuesFrom.refl s with collections := Nat.le_succ _ }

theorem evolves_collected {id : Int} (hid : s.collections.contains id = true)
    (badges : List ExternalBadge) :
    s.Evolves { s with collected := Keyed.insert id badges s.collected } where
  consistent h := { h with
    collected := fun key => by
      rw [contains_insert_collected, h.collected]
      by_cases hkey : id = key
      · subst hkey
        simp [hid]
      · simp [hkey] }
  issued := { IssuesFrom.refl s with }

/-! ## Reports -/

theorem evolves_addReport {make : Int → Report} (hmake : ∀ id, (make id).id = id) :
    s.Evolves { s with reports := (s.reports.add make).2 } where
  consistent h := { h with reports := h.reports.add (hmake _) }
  issued := { IssuesFrom.refl s with reports := Nat.le_succ _ }

theorem evolves_addColumn {make : Int → ReportColumn} (hmake : ∀ id, (make id).id = id) :
    s.Evolves { s with columns := (s.columns.add make).2 } where
  consistent h := { h with columns := h.columns.add (hmake _) }
  issued := { IssuesFrom.refl s with columns := Nat.le_succ _ }

theorem evolves_addFilter {make : Int → ReportFilter} (hmake : ∀ id, (make id).id = id) :
    s.Evolves { s with filters := (s.filters.add make).2 } where
  consistent h := { h with filters := h.filters.add (hmake _) }
  issued := { IssuesFrom.refl s with filters := Nat.le_succ _ }

end Site

end Campus
