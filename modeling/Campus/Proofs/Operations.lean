import Campus.Proofs.Effects
import Campus.Proofs.Fixtures
import Campus.Seed.Apply

/-!
# Every site is consistent

A site starts empty and is changed by fixtures, reports, seeds and calls only, any of which may
fail. Each keeps the site consistent, so every site that can be reached is.
-/

namespace Campus

open Change

/-! ## Seeds -/

namespace Seed

section Parts

variable {ε α : Type} {R : Site → Site → Prop} [IsPreorder Site R]

theorem follows_makeAll {make : ε → Names α → Fixture (Names α)}
    (h : ∀ e names, (make e names).Follows R) (es : List ε) (names : Names α) :
    (makeAll make es names).Follows R := by
  induction es generalizing names with
  | nil => exact follows_pure names
  | cons e rest ih => exact (h e names).bind ih

theorem follows_times {act : Fixture α} (h : act.Follows R) (n : Nat) :
    (times act n).Follows R := by
  induction n with
  | zero => exact follows_pure []
  | succ n ih => exact h.bind fun a => ih.bind fun rest => follows_pure (a :: rest)

theorem follows_lookUp (kind name : String) (names : Names α) :
    (lookUp kind name names).Follows R :=
  follows_require _ _

theorem follows_note (kind name : String) (a : α) (names : Names α) :
    (note kind name a names).Follows R := by
  unfold note
  split
  · exact follows_throw _
  · exact follows_pure _

theorem follows_roleId (shortname : String) : (roleId shortname).Follows R :=
  follows_get.bind fun _ => (follows_require _ _).bind fun r => follows_pure r.id

end Parts

theorem plain_makeUser (e : SeedUser) (users : Names Int) :
    (makeUser e users).Follows Site.PlainWrites := by
  refine Follows.bind (follows_lift (Fixture.plain_addUser _ ?_)) fun u => ?_
  · exact fun _ => rfl
  · cases e.token with
    | none => exact (follows_pure ()).bind fun _ => follows_note _ _ _ _
    | some token =>
      exact (Fixture.plain_setToken u.id token).bind fun _ => follows_note _ _ _ _

theorem plain_makeCourse (users : Names Int) (e : SeedCourse) (courses : Names Int) :
    (makeCourse users e courses).Follows Site.PlainWrites := by
  refine Follows.bind (follows_lift (Fixture.plain_addCourse _ ?_)) fun c => ?_
  · exact fun _ => rfl
  · refine (follows_each (fun enrolment => ?_) e.enrol).bind fun _ => follows_note _ _ _ _
    exact (follows_lookUp _ _ _).bind fun user =>
      Fixture.plain_enrol user c.id enrolment.role

theorem plain_makeModule (users courses : Names Int) (e : SeedModule)
    (modules : Names CourseModule) :
    (makeModule users courses e modules).Follows Site.PlainWrites := by
  refine (follows_lookUp _ _ _).bind fun course => ?_
  refine (Fixture.plain_createModule e.modname course).bind fun cm => ?_
  have hroles : (each (fun assignment : SeedEnrolment => do
      let role ← roleId assignment.role
      let user ← lookUp "user" assignment.user users
      Fixture.roleAssign role user (.module cm.id)) e.roles).Follows Site.PlainWrites :=
    follows_each (fun assignment => (follows_roleId _).bind fun role =>
      (follows_lookUp _ _ _).bind fun user => Fixture.plain_roleAssign _ _ _) _
  cases e.name with
  | none => exact (follows_pure ()).bind fun _ => hroles.bind fun _ => follows_note _ _ _ _
  | some name =>
    exact (follows_lift (Fixture.plain_renameInstance cm name)).bind fun _ =>
      hroles.bind fun _ => follows_note _ _ _ _

theorem locksNothing_makeOverride (made : Made) (e : SeedOverride) :
    (makeOverride made e).Follows Site.LocksNothing := by
  unfold makeOverride
  -- What follows the choice of a context is the same in all cases.
  extract_lets rest
  have hrest (context : Context) : (rest context).Follows Site.LocksNothing :=
    (follows_roleId _).bind fun role =>
      follows_lift (Fixture.locksNothing_assignCapability _ _ role context)
  split
  · exact ((follows_lookUp _ _ _).map _).bind hrest
  · exact ((follows_lookUp _ _ _).map _).bind hrest
  · exact (follows_pure _).bind hrest

theorem plain_makeSubmission (now : Int) (made : Made) (e : SeedSubmission) :
    (makeSubmission now made e).Follows Site.PlainWrites := by
  refine (follows_lookUp _ _ _).bind fun cm => ?_
  refine (Fixture.plain_assignInstance cm).bind fun a => ?_
  refine (follows_lookUp _ _ _).bind fun user => ?_
  refine (follows_lift (Fixture.plain_addSubmission now a.id user)).bind fun sub => ?_
  have hstatus (status : SubmissionStatus) : Follows Site.PlainWrites (modify fun s => { s with
      submissions := s.submissions.modify sub.id ({ · with status }) } : Fixture Unit) :=
    fun _ => (Site.Write.setStatus sub.id status).elsewhere rfl rfl
  cases e.status with
  | draft => exact follows_pure ()
  | submitted =>
    exact (follows_lift (Fixture.plain_submitForGrading now a.id user)).map _
  | new => exact hstatus .new
  | reopened => exact hstatus .reopened

theorem mem_of_lookUp {α : Type} {kind name : String} {names : Names α} {a : α} {s t : Site}
    (h : (lookUp kind name names) s = (.ok a, t)) : a ∈ names.map (·.2) := by
  unfold lookUp at h
  cases hget : Keyed.get? name names with
  | none =>
    rw [hget] at h
    cases h
  | some found =>
    rw [hget] at h
    cases h
    exact List.mem_map.2 ⟨_, Keyed.mem_of_get? hget, rfl⟩

theorem settles_makeAward (ambient : Ambient) (users : Names Int) (badgeid : Int)
    (e : SeedAward) :
    (makeAward ambient users badgeid e).Follows (Site.Settles (users.map (·.2))) := by
  refine (follows_lookUp _ _ _).bind_of_ok fun s user after hrun => ?_
  have huser : user ∈ users.map (·.2) := mem_of_lookUp hrun
  refine ((Fixture.settles_issueBadge ambient badgeid huser).bind fun a => ?_) after
  cases e.hash with
  | none => exact follows_pure ()
  | some hash => exact (Fixture.plain_setAwardHash a.id hash).settles

theorem settles_makeBadge (ambient : Ambient) (made : Made) (e : SeedBadge) :
    (makeBadge ambient made e).Follows (Site.Settles (made.users.map (·.2))) := by
  unfold makeBadge
  extract_lets start rest
  have hrest (courseid : Option Int) :
      (rest courseid).Follows (Site.Settles (made.users.map (·.2))) := by
    refine (Fixture.plain_createBadge _ _).settles.bind fun b => ?_
    exact follows_each (settles_makeAward ambient made.users b.id) _
  cases e.course with
  | none => exact (follows_pure none).bind hrest
  | some c => exact ((follows_lookUp _ _ _).map _).bind hrest

theorem plain_serviceAt (apiurl : String) (s : Site) :
    s.PlainWrites ((serviceAt apiurl) s).2 := by
  unfold serviceAt
  rw [Run.bind_apply_of_state]
  dsimp only [get, getThe, MonadStateOf.get, StateT.get, pure]
  cases s.siteBackpacks.find? fun b : SiteBackpack => b.apiurl == apiurl with
  | some b => exact .refl
  | none => exact Fixture.plain_createSiteBackpack _ _ _ s

theorem plain_makeBackpack (ambient : Ambient) (users : Names Int) (e : SeedBackpack) :
    (makeBackpack ambient users e).Follows Site.PlainWrites := by
  refine (follows_lookUp _ _ _).bind fun user => ?_
  extract_lets count rest
  have hrest (service : Option Int) : (rest service).Follows Site.PlainWrites := by
    refine (Fixture.plain_createFakeBackpack ambient user service).bind fun b => ?_
    refine (follows_times (Fixture.plain_createFakeCollection ambient b.id) count).bind ?_
    intro collections
    cases collections with
    | nil => exact follows_pure ()
    | cons first _ => exact follows_each (Fixture.plain_addExternalBadge first.id) _
  cases e.site with
  | none => exact (follows_pure none).bind hrest
  | some apiurl => exact ((follows_lift (plain_serviceAt apiurl)).map _).bind hrest

theorem eq_of_note {α : Type} {kind name : String} {a : α} {names names' : Names α} {s t : Site}
    (h : (note kind name a names) s = (.ok names', t)) : names' = names ++ [(name, a)] ∧ t = s := by
  unfold note at h
  split at h
  · cases h
  · cases h
    exact ⟨rfl, rfl⟩

theorem knowsAll_of_makeUser {e : SeedUser} {users users' : Names Int} {s t : Site}
    (hknown : s.KnowsAll (users.map (·.2))) (hrun : (makeUser e users) s = (.ok users', t)) :
    t.KnowsAll (users'.map (·.2)) := by
  -- Whatever is written, nobody is removed.
  have hwithin : s.users.Within t.users := by
    have hwrites := (plain_makeUser e users s).writes
    rw [hrun] at hwrites
    exact hwrites.within_users
  obtain ⟨u, added, hadd, hrest⟩ := Run.bind_eq_ok_iff.1 hrun
  have hadded : added.users.contains u.id = true := by
    obtain ⟨hu, hafter⟩ := Run.lift_eq_ok hadd
    rw [← hu, ← hafter]
    refine Fixture.contains_addUser _ ?_ s
    exact fun _ => rfl
  have hnew : users' = users ++ [(e.username, u.id)] ∧ t.users.contains u.id = true := by
    cases htoken : e.token with
    | none =>
      rw [htoken] at hrest
      obtain ⟨rfl, rfl⟩ := eq_of_note hrest
      exact ⟨rfl, hadded⟩
    | some token =>
      rw [htoken] at hrest
      obtain ⟨_, mid, hset, hnote⟩ := Run.bind_eq_ok_iff.1 hrest
      obtain ⟨rfl, rfl⟩ := eq_of_note hnote
      have hwrites := (Fixture.plain_setToken u.id token added).writes
      rw [hset] at hwrites
      exact ⟨rfl, hwrites.within_users _ hadded⟩
  obtain ⟨rfl, hthere⟩ := hnew
  intro id hid
  rw [List.map_append, List.mem_append] at hid
  rcases hid with hold | hnew
  · exact hwithin id (hknown id hold)
  · rwa [List.mem_singleton.1 hnew]

theorem knowsAll_of_makeUsers {es : List SeedUser} {users users' : Names Int} {s t : Site}
    (hknown : s.KnowsAll (users.map (·.2)))
    (hrun : (makeAll makeUser es users) s = (.ok users', t)) : t.KnowsAll (users'.map (·.2)) := by
  induction es generalizing users s with
  | nil =>
    cases hrun
    exact hknown
  | cons e rest ih =>
    obtain ⟨made, mid, hmake, hrest⟩ := Run.bind_eq_ok_iff.1 hrun
    exact ih (knowsAll_of_makeUser hknown hmake) hrest

theorem settles_apply (ambient : Ambient) (s : Seed) :
    (s.apply ambient).Follows (Site.Settles []) := by
  refine (follows_makeAll plain_makeUser s.users []).settles.bind_of_ok ?_
  intro _ users start hrun
  refine (knowsAll_of_makeUsers (by nofun) hrun |> Site.Settles.of_knowsAll) ?_
  refine Follows.bind ?_ (fun _ => ?_) start
  · exact (follows_each (fun e =>
      (follows_lift (Fixture.plain_createRole _ _)).map _) s.roles).settles
  refine (follows_makeAll (plain_makeCourse users) s.courses []).settles.bind ?_
  intro courses
  refine (follows_makeAll (plain_makeModule users courses) s.modules []).settles.bind ?_
  intro modules
  refine ((follows_each (locksNothing_makeOverride _) s.overrides).mono fun _ _ h =>
    h.settles).bind fun _ => ?_
  refine (follows_each (plain_makeSubmission _ _) s.submissions).settles.bind fun _ => ?_
  refine (follows_each (settles_makeBadge ambient { users, courses, modules }) s.badges).bind ?_
  intro _
  refine (follows_each (plain_makeBackpack _ _) s.backpacks).settles.bind fun _ => ?_
  exact (follows_each (fun record =>
    (Fixture.plain_createReport _ _ record).map _) s.reports).settles

end Seed

/-! ## Calls -/

theorem Site.evolves_afterRemovals (s : Site) (ctx : CallContext) (assignid : Int)
    (userids : List Int) : s.Evolves (s.afterRemovals ctx assignid userids) := by
  unfold afterRemovals
  cases s.assignment? assignid with
  | none => exact .refl s
  | some a =>
    refine evolves_submissions (·.mapRows fun id sub => ?_) (Nat.le_refl _)
    split <;> rfl

theorem Service.evolves_call (s : Service) (clock : Clock) (function token : String)
    (arguments : Json) : s.site.Evolves (s.call clock function token arguments).2.site := by
  rw [call_site]
  -- A call changes nothing, takes submissions back, or adds an event.
  rcases run_site_cases s clock function token arguments with
    hsame | ⟨caller, assignid, userids, -, -, hafter⟩ | ⟨-, -, e, hafter⟩
  · rw [hsame]
    exact .refl s.site
  · rw [hafter]
    exact Site.evolves_afterRemovals _ _ _ _
  · rw [hafter]
    exact Site.evolves_events _

/-! ## Operations -/

/-- All that may be done to a site. What comes from outside is given: the time, and chance. -/
inductive Operation where
  | addDefaults
  | createUser
  | createNamedUser (username : String)
  | createAdmin
  | updateUser (u : User)
  | createCourse
  | createRole (shortname : Option String) (capabilities : List String)
  | roleAssign (roleid userid : Int) (context : Context)
  | assignCapability (capability : String) (permission : Permission) (roleid : Int)
      (context : Context)
  | enrol (userid courseid : Int) (role : String)
  | createAndEnrol (courseid : Int) (role : String)
  | createModule (modname : String) (courseid : Int)
  | deleteModuleInstance (cm : CourseModule)
  | assignInstance (cm : CourseModule)
  | addSubmission (now assignment userid : Int)
  | submitForGrading (now assignment userid : Int)
  | addAttempt (now assignment userid : Int)
  | createBadge (now : Int) (r : NewBadge)
  | addEndorsement (now badgeid : Int)
  | addAlignment (badgeid : Int) (targetname : String)
  | addRelatedBadges (badgeid related : Int)
  | issueBadge (ambient : Ambient) (badgeid userid : Int)
  | setAwardHash (issuedid : Int) (hash : String)
  | createSiteBackpack (apiversion apiurl weburl : String)
  | createFakeBackpack (ambient : Ambient) (userid : Int) (service : Option Int)
  | createFakeCollection (ambient : Ambient) (backpackid : Int)
  | addExternalBadge (collectionid : Int) (badge : ExternalBadge)
  | createToken (ambient : Ambient) (userid : Int)
  | setToken (userid : Int) (token : String)
  | addReport (now : Int) (name source : String) (default : Bool) (userid : Int)
  | addColumn (reportid : Int) (identifier : String)
  | addFilter (iscondition : Bool) (reportid : Int) (identifier : String)
  | createReport (now userid : Int) (record : Json)
  | createColumn (record : Json)
  | createFilter (iscondition : Bool) (record : Json)
  | sow (ambient : Ambient) (seed : Seed)
  | call (features : Features) (strings : Strings) (clock : Clock) (function token : String)
      (arguments : Json)

namespace Operation

/-- The site after the operation, whether it fails or not. -/
def run : Operation → Site → Site
  | addDefaults, s => s.withDefaults
  | createUser, s => (Fixture.createUser s).2
  | createNamedUser username, s => (Fixture.createNamedUser username s).2
  | createAdmin, s => (Fixture.createAdmin s).2
  | updateUser u, s => (Fixture.updateUser u s).2
  | createCourse, s => (Fixture.createCourse s).2
  | createRole shortname capabilities, s => (Fixture.createRole shortname capabilities s).2
  | roleAssign roleid userid context, s => (Fixture.roleAssign roleid userid context s).2
  | assignCapability capability permission roleid context, s =>
    (Fixture.assignCapability capability permission roleid context s).2
  | enrol userid courseid role, s => (Fixture.enrol userid courseid role s).2
  | createAndEnrol courseid role, s => (Fixture.createAndEnrol courseid role s).2
  | createModule modname courseid, s => (Fixture.createModule modname courseid s).2
  | deleteModuleInstance cm, s => (Fixture.deleteModuleInstance cm s).2
  | assignInstance cm, s => (Fixture.assignInstance cm s).2
  | addSubmission now assignment userid, s => (Fixture.addSubmission now assignment userid s).2
  | submitForGrading now assignment userid, s =>
    (Fixture.submitForGrading now assignment userid s).2
  | addAttempt now assignment userid, s => (Fixture.addAttempt now assignment userid s).2
  | createBadge now r, s => (Fixture.createBadge now r s).2
  | addEndorsement now badgeid, s => (Fixture.addEndorsement now badgeid s).2
  | addAlignment badgeid targetname, s => (Fixture.addAlignment badgeid targetname s).2
  | addRelatedBadges badgeid related, s => (Fixture.addRelatedBadges badgeid related s).2
  | issueBadge ambient badgeid userid, s => (Fixture.issueBadge ambient badgeid userid s).2
  | setAwardHash issuedid hash, s => (Fixture.setAwardHash issuedid hash s).2
  | createSiteBackpack apiversion apiurl weburl, s =>
    (Fixture.createSiteBackpack apiversion apiurl weburl s).2
  | createFakeBackpack ambient userid service, s =>
    (Fixture.createFakeBackpack ambient userid service s).2
  | createFakeCollection ambient backpackid, s =>
    (Fixture.createFakeCollection ambient backpackid s).2
  | addExternalBadge collectionid badge, s => (Fixture.addExternalBadge collectionid badge s).2
  | createToken ambient userid, s => (Fixture.createToken ambient userid s).2
  | setToken userid token, s => (Fixture.setToken userid token s).2
  | addReport now name source default userid, s =>
    (Site.addReport now name source default userid s).2
  | addColumn reportid identifier, s => (Site.addColumn reportid identifier s).2
  | addFilter iscondition reportid identifier, s =>
    (Site.addFilter iscondition reportid identifier s).2
  | createReport now userid record, s => (Fixture.createReport now userid record s).2
  | createColumn record, s => (Fixture.createColumn record s).2
  | createFilter iscondition record, s => (Fixture.createFilter iscondition record s).2
  | sow ambient seed, s => (seed.apply ambient s).2
  | call features strings clock function token arguments, s =>
    (Service.call { site := s, features, strings } clock function token arguments).2.site

/-- One operation after the other. -/
def runAll (ops : List Operation) (s : Site) : Site := ops.foldl (fun s op => op.run s) s

/-- A fixture, a report or a seed: anything but a call. -/
def IsFixture : Operation → Prop
  | call .. => False
  | _ => True

/-- A fixture or a report that awards no badge and overrides no role. -/
def IsPlain : Operation → Prop
  | assignCapability .. | issueBadge .. | sow .. | call .. => False
  | _ => True

theorem plain_run {op : Operation} (h : op.IsPlain) (s : Site) : s.PlainWrites (op.run s) := by
  cases op with
  | addDefaults => exact Site.plain_withDefaults s
  | createUser => exact Fixture.plain_addUser id (fun _ => rfl) s
  | createNamedUser username =>
    exact Fixture.plain_addUser ({ · with username }) (fun _ => rfl) s
  | createAdmin =>
    exact Fixture.plain_addUser ({ · with username := "admin", siteadmin := true })
      (fun _ => rfl) s
  | updateUser u => exact Fixture.plain_updateUser u s
  | createCourse => exact Fixture.plain_addCourse id (fun _ => rfl) s
  | createRole => exact Fixture.plain_createRole _ _ s
  | roleAssign => exact Fixture.plain_roleAssign _ _ _ s
  | assignCapability => exact h.elim
  | enrol => exact Fixture.plain_enrol _ _ _ s
  | createAndEnrol => exact Fixture.plain_createAndEnrol _ _ s
  | createModule => exact Fixture.plain_createModule _ _ s
  | deleteModuleInstance cm => exact Fixture.plain_deleteModuleInstance cm s
  | assignInstance cm => exact Fixture.plain_assignInstance cm s
  | addSubmission => exact Fixture.plain_addSubmission _ _ _ s
  | submitForGrading => exact Fixture.plain_submitForGrading _ _ _ s
  | addAttempt => exact Fixture.plain_addAttempt _ _ _ s
  | createBadge => exact Fixture.plain_createBadge _ _ s
  | addEndorsement => exact Fixture.plain_addEndorsement _ _ s
  | addAlignment => exact Fixture.plain_addAlignment _ _ s
  | addRelatedBadges => exact Fixture.plain_addRelatedBadges _ _ s
  | issueBadge => exact h.elim
  | setAwardHash => exact Fixture.plain_setAwardHash _ _ s
  | createSiteBackpack => exact Fixture.plain_createSiteBackpack _ _ _ s
  | createFakeBackpack => exact Fixture.plain_createFakeBackpack _ _ _ s
  | createFakeCollection => exact Fixture.plain_createFakeCollection _ _ s
  | addExternalBadge => exact Fixture.plain_addExternalBadge _ _ s
  | createToken => exact Fixture.plain_createToken _ _ s
  | setToken => exact Fixture.plain_setToken _ _ s
  | addReport => exact Site.plain_addReport _ _ _ _ _ s
  | addColumn => exact Site.plain_addColumn _ _ s
  | addFilter => exact Site.plain_addFilter _ _ _ s
  | createReport => exact Fixture.plain_createReport _ _ _ s
  | createColumn => exact Fixture.plain_createColumn _ s
  | createFilter => exact Fixture.plain_createFilter _ _ s
  | sow => exact h.elim
  | call => exact h.elim

theorem writes_run {op : Operation} (h : op.IsFixture) (s : Site) : s.Writes (op.run s) := by
  cases op with
  | assignCapability => exact (Fixture.locksNothing_assignCapability _ _ _ _ s).writes
  | issueBadge => exact Fixture.writing_issueBadge _ _ _ s
  | sow ambient seed => exact (Seed.settles_apply ambient seed s).writes
  | call => exact h.elim
  | _ => exact (plain_run (by exact trivial) s).writes

theorem exists_run_call (features : Features) (strings : Strings) (clock : Clock)
    (function token : String) (arguments : Json) (s : Site) : ∃ submissions events,
      (call features strings clock function token arguments).run s =
        { s with submissions, events } := by
  obtain ⟨submissions, events, -, -, hafter⟩ :=
    Service.run_site_frame { site := s, features, strings } clock function token arguments
  exact ⟨submissions, events, by rw [run, Service.call_site, hafter]⟩

theorem evolves_run (op : Operation) (s : Site) : s.Evolves (op.run s) := by
  cases op with
  | call features strings => exact Service.evolves_call { site := s, features, strings } _ _ _ _
  | _ => exact Site.Writes.evolves (writes_run (by exact trivial) s)

theorem evolves_runAll (ops : List Operation) (s : Site) : s.Evolves (runAll ops s) := by
  induction ops generalizing s with
  | nil => exact .refl s
  | cons op rest ih => exact (evolves_run op s).trans (ih (op.run s))

theorem runAll_append (ops more : List Operation) (s : Site) :
    runAll (ops ++ more) s = runAll more (runAll ops s) :=
  List.foldl_append

/-- What every write keeps, and every change to the submissions and events, is kept by an operation.
A write may rely on what came before it. -/
theorem keeps_run {P : Site → Prop} (op : Operation) {s : Site}
    (hwrite : ∀ t u : Site, s.Evolves t → t.Write u → P t → P u)
    (hcall : ∀ (t : Site) submissions events, P t → P { t with submissions, events }) (h : P s) :
    P (op.run s) := by
  cases op with
  | call features strings clock function token arguments =>
    obtain ⟨submissions, events, hafter⟩ :=
      exists_run_call features strings clock function token arguments s
    rw [hafter]
    exact hcall s submissions events h
  | _ => exact (writes_run (by exact trivial) s).keeps hwrite h

theorem keeps_runAll {P : Site → Prop} (ops : List Operation) {s : Site}
    (hwrite : ∀ t u : Site, s.Evolves t → t.Write u → P t → P u)
    (hcall : ∀ (t : Site) submissions events, P t → P { t with submissions, events }) (h : P s) :
    P (runAll ops s) := by
  induction ops generalizing s with
  | nil => exact h
  | cons op rest ih =>
    exact ih (fun t u ht => hwrite t u ((evolves_run op s).trans ht))
      (keeps_run op hwrite hcall h)

/-- Every site that operations lead to is consistent, and no id that is in use there is ever issued
again, whatever is done from then on. -/
theorem runAll_consistent (wwwroot : String) (ops : List Operation) :
    (runAll ops { wwwroot }).Consistent ∧
      ∀ more, (runAll (ops ++ more) { wwwroot }).SpendsIdsOf (runAll ops { wwwroot }) := by
  have hconsistent := (evolves_runAll ops _).consistent (Site.consistent_new wwwroot)
  refine ⟨hconsistent, fun more => ?_⟩
  rw [runAll_append]
  exact Site.IssuesFrom.spendsIdsOf (evolves_runAll more _).issued hconsistent

end Operation

end Campus
