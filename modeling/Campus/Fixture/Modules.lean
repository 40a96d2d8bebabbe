import Campus.Fixture.People

/-!
# Making modules and submissions
-/

namespace Campus

inductive ModuleType where
  | chat | assign
deriving DecidableEq, Repr

def ModuleType.name : ModuleType → String
  | .chat => "chat"
  | .assign => "assign"

def ModuleType.ofName? (name : String) : Option ModuleType :=
  if name = "chat" then some .chat else if name = "assign" then some .assign else none

namespace Fixture

def addInstance (type : ModuleType) (courseid cmid : Int) : StateM Site Int := fun s =>
  match type with
  | .chat =>
    let (c, chats) := s.chats.add fun id =>
      { id, course := courseid, name := s!"Chat {id}" }
    (c.id, { s with chats })
  | .assign =>
    let (a, assignments) := s.assignments.add fun id =>
      { id, course := courseid, cmid, name := s!"Assignment {id}" }
    (a.id, { s with assignments })

/-- Adds a module to a course. An unknown type of module has used up an id. -/
def createModule (modname : String) (courseid : Int) : Fixture CourseModule := do
  let s ← get
  if !s.courses.contains courseid then fail (.courseNotFound courseid)
  else
    let cmid := s.modules.nextId
    set { s with modules := s.modules.skip }
    let type ← Change.require (.site (.unknownModuleType modname)) (ModuleType.ofName? modname)
    let instanceId ← addInstance type courseid cmid
    let cm : CourseModule := { id := cmid, course := courseid, modname, instanceId }
    modify fun s => { s with modules := s.modules.put cmid cm }
    return cm

/-- Removes the record behind a module and leaves the module. -/
def deleteModuleInstance (cm : CourseModule) : StateM Site Unit :=
  modify fun s =>
    match ModuleType.ofName? cm.modname with
    | some .chat => { s with chats := s.chats.erase cm.instanceId }
    | some .assign => { s with assignments := s.assignments.erase cm.instanceId }
    | none => s

def renameInstance (cm : CourseModule) (name : String) : StateM Site Unit :=
  modify fun s =>
    match ModuleType.ofName? cm.modname with
    | some .chat => { s with chats := s.chats.modify cm.instanceId ({ · with name }) }
    | some .assign =>
      { s with assignments := s.assignments.modify cm.instanceId ({ · with name }) }
    | none => s

def assignInstance (cm : CourseModule) : Fixture Assignment := do
  Change.require (.site (.moduleNotFound cm.id)) ((← get).assignment? cm.instanceId)

/-! ## Submissions -/

def addDraft (now assignment userid : Int) (attemptnumber : Nat) : StateM Site Submission :=
  fun s =>
    let (sub, submissions) := s.submissions.add fun id =>
      { id, assignment, userid, status := .draft, attemptnumber, timemodified := now }
    (sub, { s with submissions })

def moveLatest (now : Int) (status : SubmissionStatus) (assignment userid : Int) :
    StateM Site (Option Submission) := fun s =>
  match s.latestAttempt? assignment userid with
  | some (id, sub) =>
    let sub := { sub with status, timemodified := now }
    (some sub, { s with submissions := s.submissions.put id sub })
  | none => (none, s)

/-- Takes the latest attempt to draft, or adds the first one. -/
def addSubmission (now assignment userid : Int) : StateM Site Submission := do
  match ← moveLatest now .draft assignment userid with
  | some sub => return sub
  | none => addDraft now assignment userid 0

def submitForGrading (now assignment userid : Int) : StateM Site (Option Submission) :=
  moveLatest now .submitted assignment userid

def addAttempt (now assignment userid : Int) : StateM Site Submission := do
  let latest := (← get).userSubmission? assignment userid
  addDraft now assignment userid ((latest.map (·.attemptnumber + 1)).getD 0)

end Fixture

end Campus
