import Campus.Seed.Basic

/-!
# Sowing a seed

The fixtures of a seed are made in the order of its lists. References are to entries before them; an
entry that repeats a name fails, once it is made.
-/

namespace Campus

namespace Seed

/-- What the names of entries stand for, oldest first. -/
abbrev Names (α : Type) := List (String × α)

/-- The ids of users and courses, and the modules, made so far. -/
structure Made where
  users : Names Int := []
  courses : Names Int := []
  modules : Names CourseModule := []

def lookUp {α : Type} (kind name : String) (names : Names α) : Fixture α :=
  Change.require (.invalidProperty kind s!"no {kind} named '{name}' in seed")
    (Keyed.get? name names)

/-- Notes what a name stands for. The name must be new. -/
def note {α : Type} (kind name : String) (a : α) (names : Names α) : Fixture (Names α) :=
  if Keyed.contains name names then Fixture.fail (.duplicate kind name)
  else pure (names ++ [(name, a)])

/-- Makes the entries of a list one after the other, collecting what their names stand for. -/
def makeAll {ε α : Type} (make : ε → Names α → Fixture (Names α)) :
    List ε → Names α → Fixture (Names α)
  | [], names => pure names
  | a :: rest, names => do makeAll make rest (← make a names)

/-- Does something a number of times and collects the answers. -/
def times {α : Type} (act : Fixture α) : Nat → Fixture (List α)
  | 0 => pure []
  | n + 1 => do
    let a ← act
    return a :: (← times act n)

def roleId (shortname : String) : Fixture Int := do
  let r ← Change.require (.site (.roleNotFound shortname)) ((← get).roleNamed? shortname)
  return r.id

/-! ## Entries -/

def makeUser (e : SeedUser) (users : Names Int) : Fixture (Names Int) := do
  let u ← Fixture.addUser fun u =>
    { u with
      username := e.username
      firstname := e.firstname.getD u.firstname
      lastname := e.lastname.getD u.lastname
      email := e.email.getD u.email
      siteadmin := e.siteadmin }
  match e.token with
  | some token => Fixture.setToken u.id token
  | none => pure ()
  note "user" e.username u.id users

def makeCourse (users : Names Int) (e : SeedCourse) (courses : Names Int) :
    Fixture (Names Int) := do
  let c ← Fixture.addCourse fun c =>
    { c with shortname := e.shortname, fullname := e.fullname.getD c.fullname }
  Change.each (fun enrolment => do
    let user ← lookUp "user" enrolment.user users
    Fixture.enrol user c.id enrolment.role) e.enrol
  note "course" e.shortname c.id courses

def makeModule (users courses : Names Int) (e : SeedModule) (modules : Names CourseModule) :
    Fixture (Names CourseModule) := do
  let course ← lookUp "course" e.course courses
  let cm ← Fixture.createModule e.modname course
  match e.name with
  | some name => Fixture.renameInstance cm name
  | none => pure ()
  Change.each (fun assignment => do
    let role ← roleId assignment.role
    let user ← lookUp "user" assignment.user users
    Fixture.roleAssign role user (.module cm.id)) e.roles
  note "module" e.key cm modules

def makeOverride (made : Made) (e : SeedOverride) : Fixture Unit := do
  let context ←
    match e.module, e.course with
    | some m, _ => (Context.module ·.id) <$> lookUp "module" m made.modules
    | none, some c => Context.course <$> lookUp "course" c made.courses
    | none, none => pure Context.system
  let role ← roleId e.role
  Fixture.assignCapability e.capability e.permission role context

def makeSubmission (now : Int) (made : Made) (e : SeedSubmission) : Fixture Unit := do
  let cm ← lookUp "module" e.module made.modules
  let a ← Fixture.assignInstance cm
  let user ← lookUp "user" e.user made.users
  let sub ← Fixture.addSubmission now a.id user
  match e.status with
  | .draft => pure ()
  | .submitted => discard (Fixture.submitForGrading now a.id user)
  | status =>
    modify fun s => { s with submissions := s.submissions.modify sub.id ({ · with status }) }

def makeAward (ambient : Ambient) (users : Names Int) (badgeid : Int) (e : SeedAward) :
    Fixture Unit := do
  let a ← Fixture.issueBadge ambient badgeid (← lookUp "user" e.user users)
  match e.hash with
  | some hash => Fixture.setAwardHash a.id hash
  | none => pure ()

def makeBadge (ambient : Ambient) (made : Made) (e : SeedBadge) : Fixture Unit := do
  let courseid ←
    match e.course with
    | some c => some <$> lookUp "course" c made.courses
    | none => pure none
  let start : NewBadge := {}
  let b ← Fixture.createBadge ambient.now
    { name := e.name
      description := e.description.getD start.description
      type := if courseid.isSome then .course else .site
      courseid }
  Change.each (makeAward ambient made.users b.id) e.awards

/-- The service at an interface address, which is added if the site does not know it. -/
def serviceAt (apiurl : String) : StateM Site Int := do
  match (← get).siteBackpacks.find? (·.apiurl == apiurl) with
  | some b => return b.id
  | none => return (← Fixture.createSiteBackpack SiteBackpack.defaultVersion apiurl apiurl).id

def makeBackpack (ambient : Ambient) (users : Names Int) (e : SeedBackpack) : Fixture Unit := do
  let user ← lookUp "user" e.user users
  let service ←
    match e.site with
    | some apiurl => some <$> (serviceAt apiurl : Fixture Int)
    | none => pure none
  let b ← Fixture.createFakeBackpack ambient user service
  let count := if e.badges.isEmpty then e.collections else max e.collections 1
  match ← times (Fixture.createFakeCollection ambient b.id) count with
  | first :: _ => Change.each (Fixture.addExternalBadge first.id) e.badges
  | [] => pure ()

/-- The first administrator among the entries, as author of the reports. -/
def author (s : Seed) (users : Names Int) : Int :=
  (((s.users.find? (·.siteadmin)).bind fun e => Keyed.get? e.username users)).getD 0

def apply (ambient : Ambient) (s : Seed) : Fixture Unit := do
  let users ← makeAll makeUser s.users []
  Change.each
    (fun e => discard (Fixture.createRole (some e.shortname) e.capabilities : Fixture Role))
    s.roles
  let courses ← makeAll (makeCourse users) s.courses []
  let modules ← makeAll (makeModule users courses) s.modules []
  let made : Made := { users, courses, modules }
  Change.each (makeOverride made) s.overrides
  Change.each (makeSubmission ambient.now made) s.submissions
  Change.each (makeBadge ambient made) s.badges
  Change.each (makeBackpack ambient users) s.backpacks
  Change.each (fun record => discard (Fixture.createReport ambient.now (s.author users) record))
    s.reports

def build (ambient : Ambient) (s : Seed) : Except FixtureError Site :=
  let start : Site :=
    match s.wwwroot with
    | some wwwroot => { wwwroot }
    | none => {}
  match (s.apply ambient) start.withDefaults with
  | (.ok (), site) => .ok site
  | (.error e, _) => .error e

end Seed

end Campus
