import Campus.Fixture.Badges
import Campus.Fixture.Modules
import Campus.Fixture.Reports
import Campus.Proofs.Changes
import Campus.Proofs.Consistency
import Campus.Proofs.LatestAttempt

/-!
# Writes

All that fixtures, reports and seeds do to a site is one write after another, also where they fail
half-way. What every write preserves is preserved by all of them.
-/

namespace Campus

namespace Site

/-- A write touches one table, or those that are only ever written together. It says what the site
was asked before it. -/
inductive Write (s : Site) : Site → Prop
  | addUser (make : Int → User) (own : ∀ id, (make id).id = id) :
      Write s { s with users := (s.users.add make).2 }
  | putUser (u : User) (known : s.users.contains u.id = true) :
      Write s { s with users := s.users.put u.id u }
  | putToken (token : String) (userid : Int) (user : s.users.contains userid = true) :
      Write s { s with tokens := Keyed.insert token userid s.tokens }
  | addCourse (make : Int → Course) (own : ∀ id, (make id).id = id) :
      Write s { s with courses := (s.courses.add make).2 }
  | addRole (make : Int → Role) (own : ∀ id, (make id).id = id) :
      Write s { s with roles := (s.roles.add make).2 }
  | assignRole (a : RoleAssignment) (role : s.roles.contains a.roleid = true)
      (user : s.users.contains a.userid = true) :
      Write s { s with roleAssignments := s.roleAssignments ++ [a] }
  | override (roleid : Int) (capability : String) (permission : Permission) (context : Context) :
      Write s ((Fixture.assignCapability capability permission roleid context) s).2
  | skipModule : Write s { s with modules := s.modules.skip }
  /-- A module and the record that it places. -/
  | addModule (type : ModuleType) (course : Int) (known : s.courses.contains course = true) :
      Write s
        { ((Fixture.addInstance type course s.modules.nextId) s).2 with
          modules := (s.modules.add fun id =>
            { id, course, modname := type.name
              instanceId := ((Fixture.addInstance type course s.modules.nextId) s).1 }).2 }
  | deleteInstance (cm : CourseModule) : Write s ((Fixture.deleteModuleInstance cm) s).2
  | renameInstance (cm : CourseModule) (name : String) :
      Write s ((Fixture.renameInstance cm name) s).2
  | addDraft (now assignment userid : Int) (attemptnumber : Nat)
      (number : attemptnumber =
        ((s.userSubmission? assignment userid).map (·.attemptnumber + 1)).getD 0) :
      Write s ((Fixture.addDraft now assignment userid attemptnumber) s).2
  | moveLatest (now assignment userid : Int) (status : SubmissionStatus) :
      Write s ((Fixture.moveLatest now status assignment userid) s).2
  | setStatus (id : Int) (status : SubmissionStatus) :
      Write s { s with submissions := s.submissions.modify id ({ · with status }) }
  | addBadge (now : Int) (r : NewBadge)
      (course : ∀ course, r.courseid = some course → s.courses.contains course = true)
      (type : r.type = .course → r.courseid.isSome = true) :
      Write s { s with badges := (s.badges.add (r.toBadge now)).2 }
  | countEndorsement : Write s { s with endorsementsIssued := s.endorsementsIssued + 1 }
  | countAlignment : Write s { s with alignmentsIssued := s.alignmentsIssued + 1 }
  | endorse (badgeid : Int) (e : Endorsement) (known : s.badges.contains badgeid = true) :
      Write s { s with
        badges := s.badges.modify badgeid ({ · with endorsement := some e }) }
  | align (badgeid : Int) (a : Alignment) (known : s.badges.contains badgeid = true) :
      Write s { s with
        badges := s.badges.modify badgeid fun b => { b with alignments := b.alignments ++ [a] } }
  /-- Badges are related both ways. -/
  | relate (badgeid related : Int) (known : s.badges.contains badgeid = true)
      (relatedKnown : s.badges.contains related = true) :
      Write s { s with
        badges := (s.badges.modify badgeid (Badge.relate related)).modify related
          (Badge.relate badgeid) }
  | lock (badgeid : Int) (known : s.badges.contains badgeid = true) :
      Write s { s with
        badges := s.badges.modify badgeid fun b => { b with status := b.status.locked } }
  /-- A badge is locked before it is awarded. -/
  | addAward (make : Int → Award) (badgeid : Int) (b : Badge) (own : ∀ id, (make id).id = id)
      (badge : ∀ id, (make id).badgeid = badgeid) (stored : s.badges.get? badgeid = some b)
      (locked : b.status.locked = b.status)
      (user : ∀ id, s.users.contains (make id).userid = true) :
      Write s { s with awards := (s.awards.add make).2 }
  | setHash (id : Int) (hash : String) (known : s.awards.contains id = true) :
      Write s { s with awards := s.awards.modify id ({ · with uniquehash := hash }) }
  | addSiteBackpack (make : Int → SiteBackpack) (own : ∀ id, (make id).id = id) :
      Write s { s with siteBackpacks := (s.siteBackpacks.add make).2 }
  | addUserBackpack (make : Int → UserBackpack) (own : ∀ id, (make id).id = id)
      (user : ∀ id, s.users.contains (make id).userid = true)
      (service : ∀ id, s.siteBackpacks.contains (make id).externalbackpackid = true) :
      Write s { s with userBackpacks := (s.userBackpacks.add make).2 }
  | addCollection (make : Int → Collection) (badges : List ExternalBadge)
      (own : ∀ id, (make id).id = id)
      (backpack : ∀ id, s.userBackpacks.contains (make id).backpackid = true) :
      Write s { s with
        collections := (s.collections.add make).2
        collected := Keyed.insert s.collections.nextId badges s.collected }
  | collect (collectionid : Int) (badge : ExternalBadge)
      (known : s.collections.contains collectionid = true) :
      Write s { s with
        collected :=
          Keyed.insert collectionid (s.collectedBadges collectionid ++ [badge]) s.collected }
  | addReport (make : Int → Report) (own : ∀ id, (make id).id = id) :
      Write s { s with reports := (s.reports.add make).2 }
  | addColumn (reportid : Int) (identifier : String) (source : Datasource)
      (stored : s.sourceOf reportid = .ok source) (offered : source.hasColumn identifier = true) :
      Write s { s with
        columns := (s.columns.add fun id =>
          { id, reportid, uniqueidentifier := identifier
            columnorder := nextOrder
              ((s.columns.records.filter (·.reportid == reportid)).map (·.columnorder)) }).2 }
  | addFilter (iscondition : Bool) (reportid : Int) (identifier : String) (source : Datasource)
      (stored : s.sourceOf reportid = .ok source) (offered : source.hasFilter identifier = true) :
      Write s { s with
        filters := (s.filters.add fun id =>
          { id, reportid, uniqueidentifier := identifier, iscondition
            filterorder := nextOrder
              ((s.filters.records.filter fun f =>
                f.reportid == reportid && f.iscondition == iscondition).map
                (·.filterorder)) }).2 }

/-- Any number of writes, one after another. -/
abbrev Writes : Site → Site → Prop := Relation.ReflTransGen Write

theorem Write.one {s t : Site} (h : s.Write t) : s.Writes t := .single h

/-! ## Writes keep the site consistent -/

variable {s t : Site}

theorem evolves_addInstance (type : ModuleType) {courseid cmid : Int} {s : Site}
    {cm : CourseModule} (hget : s.modules.get? cmid = some cm)
    (hplaces : cm.Places type.name courseid ((Fixture.addInstance type courseid cmid) s).1) :
    s.Evolves ((Fixture.addInstance type courseid cmid) s).2 := by
  cases type with
  | chat =>
    show s.Evolves { s with
      chats := (s.chats.add fun id => { id, course := courseid, name := s!"Chat {id}" }).2 }
    exact evolves_chats (·.add rfl) (·.add ⟨cmid, cm, hget, hplaces⟩) (Nat.le_succ _)
  | assign =>
    show s.Evolves { s with
      assignments := (s.assignments.add fun id =>
        { id, course := courseid, cmid, name := s!"Assignment {id}" }).2 }
    exact evolves_assignments (·.add rfl) (·.add ⟨cm, hget, hplaces⟩) (Nat.le_succ _)

theorem addInstance_modules (type : ModuleType) (courseid cmid : Int) (s : Site)
    (modules : Table CourseModule) :
    (Fixture.addInstance type courseid cmid) { s with modules } =
      (((Fixture.addInstance type courseid cmid) s).1,
        { ((Fixture.addInstance type courseid cmid) s).2 with modules }) := by
  cases type <;> rfl

/-- The module is put there before the record that it places: in this order both are consistent. -/
theorem evolves_createdModule (type : ModuleType) {courseid : Int} {s : Site}
    (hcourse : s.courses.contains courseid = true) :
    let placed := (Fixture.addInstance type courseid s.modules.nextId) s
    let make : Int → CourseModule := fun id =>
      { id, course := courseid, modname := type.name, instanceId := placed.1 }
    s.Evolves { placed.2 with modules := (s.modules.add make).2 } := by
  intro placed make
  have hmodule : s.Evolves { s with modules := (s.modules.add make).2 } :=
    evolves_addModule (fun _ => rfl) fun _ => hcourse
  have hplaces : (make s.modules.nextId).Places type.name courseid
      ((Fixture.addInstance type courseid s.modules.nextId)
        { s with modules := (s.modules.add make).2 }).1 :=
    ⟨rfl, rfl, by rw [addInstance_modules]⟩
  have hrecord := evolves_addInstance type (Table.get?_add_self make s.modules) hplaces
  rw [addInstance_modules] at hrecord
  exact hmodule.trans hrecord

theorem evolves_deleteModuleInstance (cm : CourseModule) (s : Site) :
    s.Evolves ((Fixture.deleteModuleInstance cm) s).2 := by
  rw [Fixture.deleteModuleInstance, Run.modify_apply_of_state]
  dsimp only
  -- The module stays: only the record that names it has to go.
  split
  · exact evolves_chats (·.erase _) (·.erase _) (Nat.le_refl _)
  · exact evolves_assignments (·.erase _) (·.erase _) (Nat.le_refl _)
  · exact .refl s

theorem evolves_renameInstance (cm : CourseModule) (name : String) (s : Site) :
    s.Evolves ((Fixture.renameInstance cm name) s).2 := by
  rw [Fixture.renameInstance, Run.modify_apply_of_state]
  dsimp only
  split
  · exact evolves_chats (·.modify fun _ => rfl) (·.modify fun _ h => h) (Nat.le_refl _)
  · exact evolves_assignments (·.modify fun _ => rfl) (·.modify fun _ h => h) (Nat.le_refl _)
  · exact .refl s

theorem evolves_addDraft (now assignment userid : Int) (attemptnumber : Nat) (s : Site) :
    s.Evolves ((Fixture.addDraft now assignment userid attemptnumber) s).2 := by
  show s.Evolves { s with
    submissions := (s.submissions.add fun id =>
      { id, assignment, userid, status := .draft, attemptnumber, timemodified := now }).2 }
  exact evolves_submissions (·.add rfl) (Nat.le_succ _)

theorem evolves_moveLatest (now : Int) (status : SubmissionStatus) (assignment userid : Int)
    (s : Site) : s.Evolves ((Fixture.moveLatest now status assignment userid) s).2 := by
  unfold Fixture.moveLatest
  cases hlatest : s.latestAttempt? assignment userid with
  | none => exact .refl s
  | some found =>
    obtain ⟨id, sub⟩ := found
    have hstored := (latestAttempt?_eq_some_iff.1 hlatest).stored
    refine evolves_submissions (fun hsound => ?_) (Nat.le_refl _)
    exact hsound.replace (Table.contains_of_get? hstored) (hsound.own id sub hstored)

theorem evolves_relate (id other : Int) (s : Site) :
    s.Evolves { s with badges := s.badges.modify id (Badge.relate other) } :=
  evolves_modifyBadge (fun b => by unfold Badge.relate; split <;> rfl)
    (fun b => by unfold Badge.relate; split <;> rfl)
    fun b => by unfold Badge.relate; split <;> rfl

theorem Write.evolves (h : s.Write t) : s.Evolves t := by
  cases h with
  | addUser make own =>
    exact evolves_users (·.add (own _)) (Table.within_add _ s.users) (Nat.le_succ _)
  | putUser u known =>
    exact evolves_users (·.replace known rfl) (Table.within_put u.id u s.users) (Nat.le_refl _)
  | putToken token userid user => exact evolves_tokens user
  | addCourse make own => exact evolves_addCourse own
  | addRole make own => exact evolves_addRole own
  | assignRole a role user => exact evolves_assignRole role user
  | override => exact evolves_roleOverrides _
  | skipModule => exact evolves_skipModule
  | addModule type course known => exact evolves_createdModule type known
  | deleteInstance cm => exact evolves_deleteModuleInstance cm s
  | renameInstance cm name => exact evolves_renameInstance cm name s
  | addDraft => exact evolves_addDraft _ _ _ _ s
  | moveLatest => exact evolves_moveLatest _ _ _ _ s
  | setStatus => exact evolves_submissions (·.modify fun _ => rfl) (Nat.le_refl _)
  | addBadge now r course type =>
    exact evolves_addBadge (fun _ => rfl) (fun _ => course) fun _ => type
  | countEndorsement => exact evolves_endorsementsIssued _
  | countAlignment => exact evolves_alignmentsIssued _
  | endorse => exact evolves_modifyBadge (fun _ => rfl) (fun _ => rfl) fun _ => rfl
  | align => exact evolves_modifyBadge (fun _ => rfl) (fun _ => rfl) fun _ => rfl
  | relate badgeid related => exact (evolves_relate badgeid related s).trans (evolves_relate _ _ _)
  | lock => exact evolves_modifyBadge (fun _ => rfl) (fun _ => rfl) fun _ => rfl
  | addAward make badgeid b own badge stored locked user =>
    exact evolves_addAward own (fun id => badge id ▸ Table.contains_of_get? stored) user
  | setHash => exact evolves_modifyAward (fun _ => rfl) (fun _ => rfl) fun _ => rfl
  | addSiteBackpack make own => exact evolves_addSiteBackpack own
  | addUserBackpack make own user service => exact evolves_addUserBackpack own user service
  | addCollection make badges own backpack => exact evolves_addCollection own backpack badges
  | collect collectionid badge known => exact evolves_collected known _
  | addReport make own => exact evolves_addReport own
  | addColumn => exact evolves_addColumn fun _ => rfl
  | addFilter => exact evolves_addFilter fun _ => rfl

theorem Writes.evolves (h : s.Writes t) : s.Evolves t := by
  induction h with
  | refl => exact .refl s
  | tail _ hwrite ih => exact ih.trans hwrite.evolves

/-- What each write keeps is kept by any number of them. Each may rely on what came before it. -/
theorem Writes.keeps {P : Site → Prop} (h : s.Writes t)
    (hwrite : ∀ t u : Site, s.Evolves t → t.Write u → P t → P u) (hp : P s) : P t := by
  induction h with
  | refl => exact hp
  | tail hbefore hlast ih => exact hwrite _ _ (Writes.evolves hbefore) hlast ih

/-! ## What writes leave -/

theorem exists_deleteModuleInstance (cm : CourseModule) (s : Site) : ∃ assignments chats,
    ((Fixture.deleteModuleInstance cm) s).2 = { s with assignments, chats } := by
  rw [Fixture.deleteModuleInstance, Run.modify_apply_of_state]
  dsimp only
  split <;> exact ⟨_, _, rfl⟩

theorem exists_renameInstance (cm : CourseModule) (name : String) (s : Site) :
    ∃ assignments chats,
      ((Fixture.renameInstance cm name) s).2 = { s with assignments, chats } := by
  rw [Fixture.renameInstance, Run.modify_apply_of_state]
  dsimp only
  split <;> exact ⟨_, _, rfl⟩

theorem exists_moveLatest (now : Int) (status : SubmissionStatus) (assignment userid : Int)
    (s : Site) : ∃ submissions,
      ((Fixture.moveLatest now status assignment userid) s).2 = { s with submissions } := by
  unfold Fixture.moveLatest
  split <;> exact ⟨_, rfl⟩

theorem Write.within_users (h : s.Write t) : s.users.Within t.users := by
  cases h with
  | addUser make => exact Table.within_add make s.users
  | putUser u => exact Table.within_put u.id u s.users
  | addModule type => cases type <;> exact .refl _
  | deleteInstance cm =>
    obtain ⟨assignments, chats, hafter⟩ := exists_deleteModuleInstance cm s
    rw [hafter]
    exact .refl _
  | renameInstance cm name =>
    obtain ⟨assignments, chats, hafter⟩ := exists_renameInstance cm name s
    rw [hafter]
    exact .refl _
  | moveLatest now assignment userid status =>
    obtain ⟨submissions, hafter⟩ := exists_moveLatest now status assignment userid s
    rw [hafter]
    exact .refl _
  | _ => exact .refl _

theorem Writes.within_users (h : s.Writes t) : s.users.Within t.users := by
  induction h with
  | refl => exact .refl _
  | tail _ hwrite ih => exact fun id hid => hwrite.within_users id (ih id hid)

theorem Write.events (h : s.Write t) : t.events = s.events := by
  cases h with
  | addModule type => cases type <;> rfl
  | deleteInstance cm =>
    obtain ⟨assignments, chats, hafter⟩ := exists_deleteModuleInstance cm s
    rw [hafter]
  | renameInstance cm name =>
    obtain ⟨assignments, chats, hafter⟩ := exists_renameInstance cm name s
    rw [hafter]
  | moveLatest now assignment userid status =>
    obtain ⟨submissions, hafter⟩ := exists_moveLatest now status assignment userid s
    rw [hafter]
  | _ => rfl

theorem Writes.events (h : s.Writes t) : t.events = s.events := by
  induction h with
  | refl => rfl
  | tail _ hwrite ih => exact hwrite.events.trans ih

end Site

end Campus
