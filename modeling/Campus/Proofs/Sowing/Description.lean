import Campus.Proofs.Outcomes

/-!
# What a seed describes

A seed describes a site that has a record for each of its entries, numbered by position. An entry
refers to another by its name, which stands for the number of the first entry of that name.
-/

namespace Campus

/-! ## Records of entries -/

section Entries

def SeedUser.record (before : List SeedUser) (e : SeedUser) : User :=
  let generated := User.generated (before.length + 1)
  { generated with
    username := e.username
    firstname := e.firstname.getD generated.firstname
    lastname := e.lastname.getD generated.lastname
    email := e.email.getD generated.email
    siteadmin := e.siteadmin }

/-- The entry's token, if it has one, with the user that it is declared for. -/
def SeedUser.credential (before : List SeedUser) (e : SeedUser) : List (String × Int) :=
  e.token.toList.map (·, (before.length + 1 : Int))

def SeedRole.record (before : List SeedRole) (e : SeedRole) : Role :=
  ⟨before.length + 1, e.shortname, e.capabilities⟩

def SeedCourse.record (before : List SeedCourse) (e : SeedCourse) : Course :=
  let generated := Course.generated (before.length + 1)
  { generated with
    shortname := e.shortname
    fullname := e.fullname.getD generated.fullname }

/-- The number of a module among those of its type. -/
def SeedModule.instanceNumber (before : List SeedModule) (e : SeedModule) : Int :=
  before.countP (·.modname == e.modname) + 1

/-- The modules of a type, with their numbers among all modules. -/
def modulesOf (type : ModuleType) : List SeedModule → List (Int × SeedModule) :=
  gather fun before m => if m.modname = type.name then [((before.length + 1 : Int), m)] else []

/-- A user's first attempt at an assignment. -/
def Submission.first (now assignment userid : Int) (status : SubmissionStatus) (id : Int) :
    Submission :=
  ⟨id, assignment, userid, status, 0, now⟩

/-- The awards of all badges, each with the number of its badge. -/
def awardEntries : List SeedBadge → List (Int × SeedAward) :=
  gather fun before b => b.awards.map ((before.length + 1 : Int), ·)

/-- A text in the record of a report. -/
def reportText (name : String) (record : Json) : String :=
  ((record.get? name).bind Json.string?).getD ""

/-- A truth value as a record may write it. -/
def IsTruth (v : Json) : Prop :=
  (∃ b, v = .bool b) ∨ v = .int 0 ∨ v = .int 1 ∨ ∃ text ∈ ["0", "1", "true", "false"],
    v = .string text

/-- The record is one of a report on a known source, which may say whether to start with the
source's defaults. -/
def KnowsReport (record : Json) : Prop :=
  ∃ properties, record = .object properties ∧
    (∃ name, Keyed.get? "name" properties = some (.string name)) ∧
    (∃ source ∈ Datasource.all.map (·.name),
      Keyed.get? "source" properties = some (.string source)) ∧
    ∀ v, Keyed.get? "default" properties = some v → v = .null ∨ IsTruth v

end Entries

namespace Seed

variable (s : Seed)

/-! ## Numbers of names -/

/-- The roles of a site that a seed is sown on: the builtin ones and its own. -/
def allRoles : List SeedRole :=
  Role.builtin.map (fun shortname => ⟨shortname, Role.archetype shortname⟩) ++ s.roles

def userNumber (username : String) : Int := numberOf (s.users.map (·.username)) username

def roleNumber (shortname : String) : Int := numberOf (s.allRoles.map (·.shortname)) shortname

def courseNumber (shortname : String) : Int := numberOf (s.courses.map (·.shortname)) shortname

/-- The user and the role of the entry are known. -/
def Knows (e : SeedEnrolment) : Prop :=
  e.user ∈ s.users.map (·.username) ∧ e.role ∈ s.allRoles.map (·.shortname)

/-- The role and the place of the entry are known. The course is not looked at if there is a
module. -/
def KnowsOverride (e : SeedOverride) : Prop :=
  (match e.module, e.course with
    | some key, _ => key ∈ s.modules.map (·.key)
    | none, some shortname => shortname ∈ s.courses.map (·.shortname)
    | none, none => True) ∧ e.role ∈ s.allRoles.map (·.shortname)

/-! ## Records that refer to others -/

def roleIn (context : Context) (e : SeedEnrolment) : RoleAssignment :=
  ⟨s.roleNumber e.role, s.userNumber e.user, context⟩

def courseRoles : List RoleAssignment :=
  gather (fun before c => c.enrol.map (s.roleIn (.course (before.length + 1)))) s.courses

def moduleRoles : List RoleAssignment :=
  gather (fun before m => m.roles.map (s.roleIn (.module (before.length + 1)))) s.modules

def moduleRecord (before : List SeedModule) (e : SeedModule) : CourseModule :=
  ⟨before.length + 1, s.courseNumber e.course, e.modname, e.instanceNumber before⟩

def assignmentRecord (before : List (Int × SeedModule)) (placed : Int × SeedModule) :
    Assignment where
  id := before.length + 1
  course := s.courseNumber placed.2.course
  cmid := placed.1
  name := placed.2.name.getD s!"Assignment {(before.length + 1 : Int)}"

def chatRecord (before : List (Int × SeedModule)) (placed : Int × SeedModule) : Chat where
  id := before.length + 1
  course := s.courseNumber placed.2.course
  name := placed.2.name.getD s!"Chat {(before.length + 1 : Int)}"

/-- The module that a key stands for. -/
def module? (key : String) : Option CourseModule :=
  Keyed.get? key (namesOf (·.key) s.moduleRecord s.modules)

/-- The user and the module of the entry are known, and the module's record is one of an
assignment. -/
def KnowsSubmission (e : SeedSubmission) : Prop :=
  (∃ cm, s.module? e.module = some cm ∧ cm.instanceId ≤ (modulesOf .assign s.modules).length) ∧
    e.user ∈ s.users.map (·.username)

/-- The entry is about a user's work on an assignment. -/
def isWork (assignment userid : Int) (e : SeedSubmission) : Bool :=
  (s.module? e.module).any (·.instanceId == assignment) && s.userNumber e.user == userid

/-- The status that the last entry about a user's work on an assignment gives it. -/
def lastStatus? (assignment userid : Int) : Option SubmissionStatus :=
  (s.submissions.filter (s.isWork assignment userid)).getLast?.map (·.status)

def badgeRecord (now : Int) (before : List SeedBadge) (e : SeedBadge) : Badge :=
  let start : NewBadge := {}
  let made : NewBadge :=
    { name := e.name
      description := e.description.getD start.description
      type := if e.course.isSome then .course else .site
      courseid := e.course.map s.courseNumber }
  { made.toBadge now (before.length + 1) with
    status := if e.awards.isEmpty then .active else .activeLocked }

/-- The course of the entry, if it names one, and the users of its awards are known. -/
def KnowsBadge (e : SeedBadge) : Prop :=
  (∀ shortname, e.course = some shortname → shortname ∈ s.courses.map (·.shortname)) ∧
    ∀ award ∈ e.awards, award.user ∈ s.users.map (·.username)

def awardRecord (ambient : Ambient) (before : List (Int × SeedAward)) (award : Int × SeedAward) :
    Award where
  id := before.length + 1
  badgeid := award.1
  userid := s.userNumber award.2.user
  uniquehash := award.2.hash.getD (ambient.awardHash (before.length + 1))
  dateissued := ambient.now
  dateexpire := none
  visible := true

/-- The first administrator; 0 if there is none. -/
def authorNumber : Int :=
  ((s.users.find? (·.siteadmin)).map fun e => s.userNumber e.username).getD 0

def reportRecord (now : Int) (before : List Json) (record : Json) : Report where
  id := before.length + 1
  name := reportText "name" record
  source := reportText "source" record
  usercreated := s.authorNumber
  timecreated := now

/-- The site holds the records of the seed's entries, numbered by position, and has a service to
keep backpacks at. -/
structure Describes (ambient : Ambient) (s : Seed) (site : Site) : Prop where
  users : site.users = .numbered SeedUser.record s.users
  tokens : site.tokens = Keyed.ofList (gather SeedUser.credential s.users)
  roles : site.roles = .numbered SeedRole.record s.allRoles
  courses : site.courses = .numbered SeedCourse.record s.courses
  modules : site.modules = .numbered s.moduleRecord s.modules
  assignments : site.assignments = .numbered s.assignmentRecord (modulesOf .assign s.modules)
  chats : site.chats = .numbered s.chatRecord (modulesOf .chat s.modules)
  roleAssignments : site.roleAssignments = s.courseRoles ++ s.moduleRoles
  attempts : ∀ assignment userid, ∃ id, site.attempts assignment userid =
    ((s.lastStatus? assignment userid).map fun status =>
      (id, .first ambient.now assignment userid status id)).toList
  badges : site.badges = .numbered (s.badgeRecord ambient.now) s.badges
  awards : site.awards = .numbered (s.awardRecord ambient) (awardEntries s.badges)
  reports : site.reports = .numbered (s.reportRecord ambient.now) s.reports
  services : site.siteBackpacks.Sound SiteBackpack.id
  service : ∃ id, site.siteBackpacks.contains id = true

end Seed

end Campus
