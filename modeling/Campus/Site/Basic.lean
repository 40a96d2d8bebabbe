import Campus.Access.Role
import Campus.Site.Assignment
import Campus.Site.Backpack
import Campus.Site.Chat
import Campus.Site.Export
import Campus.Site.Report
import Campus.Table

/-!
# The site

All records of one site, and the look-ups on them.
-/

namespace Campus

structure Site where
  wwwroot : String := "https://lms.example.com"
  users : Table User := {}
  /-- The users that tokens stand for. -/
  tokens : Keyed String Int := []
  courses : Table Course := {}
  modules : Table CourseModule := {}
  roles : Table Role := {}
  roleAssignments : List RoleAssignment := []
  roleOverrides : List RoleOverride := []
  assignments : Table Assignment := {}
  submissions : Table Submission := {}
  chats : Table Chat := {}
  badges : Table Badge := {}
  /-- Endorsements and alignments have ids, but are kept in their badges. -/
  endorsementsIssued : Nat := 0
  alignmentsIssued : Nat := 0
  awards : Table Award := {}
  siteBackpacks : Table SiteBackpack := {}
  userBackpacks : Table UserBackpack := {}
  collections : Table Collection := {}
  /-- The badges of collections. -/
  collected : Keyed Int (List ExternalBadge) := []
  reports : Table Report := {}
  columns : Table ReportColumn := {}
  filters : Table ReportFilter := {}
  events : List Event := []

namespace Site

variable (s : Site)

/-! ## People -/

def user? (id : Int) : Option User := s.users.get? id

def userForToken? (token : String) : Option Int := Keyed.get? token s.tokens

def roleNamed? (shortname : String) : Option Role := s.roles.find? (·.shortname == shortname)

def courseOfModule (cmid : Int) : Option Int := (s.modules.get? cmid).map (·.course)

/-- Administrators may do everything, others what their roles give them. -/
def capabilitiesFor (userid : Int) : Capabilities :=
  if (s.user? userid).any (·.siteadmin) then { unrestricted := true }
  else
    resolveCapabilities userid s.roles.records s.roleAssignments s.roleOverrides s.courseOfModule

/-! ## Courses and modules -/

def course? (id : Int) : Option Course := s.courses.get? id

def courseModule? (cmid : Int) : Option CourseModule := s.modules.get? cmid

/-- The module, if it is of a type. -/
def courseModuleOf? (modname : String) (cmid : Int) : Option CourseModule :=
  (s.courseModule? cmid).filter (·.modname == modname)

def chat? (id : Int) : Option Chat := s.chats.get? id

/-! ## Submissions -/

def assignment? (id : Int) : Option Assignment := s.assignments.get? id

def submission? (id : Int) : Option Submission := s.submissions.get? id

/-- The attempts of a user at an assignment, with their ids. -/
def attempts (assignment userid : Int) : List (Int × Submission) :=
  s.submissions.rows.filter fun (_, sub) => sub.assignment == assignment && sub.userid == userid

/-- The attempt with the greatest number; of several the one stored last. -/
def latestOf (attempts : List (Int × Submission)) : Option (Int × Submission) :=
  attempts.foldl (fun best row =>
    match best with
    | some b => if row.2.attemptnumber < b.2.attemptnumber then some b else some row
    | none => some row) none

/-- A user's latest attempt at an assignment, with its id. -/
def latestAttempt? (assignment userid : Int) : Option (Int × Submission) :=
  latestOf (s.attempts assignment userid)

def userSubmission? (assignment userid : Int) : Option Submission :=
  (s.latestAttempt? assignment userid).map (·.2)

/-! ## Badges and backpacks -/

def badge? (id : Int) : Option Badge := s.badges.get? id

def awardByHash? (hash : String) : Option Award := s.awards.find? (·.uniquehash == hash)

def awardSource : AwardSource where
  awardByHash := s.awardByHash?
  user := s.user?
  exported a owner ctx := a.exported s.badge? owner s.wwwroot ctx

/-- The backpack of a user, of several the first. -/
def userBackpack? (userid : Int) : Option UserBackpack := s.userBackpacks.find? (·.userid == userid)

/-- The service that a user's backpack is kept at. -/
def connectedBackpack? (userid : Int) : Option SiteBackpack :=
  (s.userBackpack? userid).bind fun b => s.siteBackpacks.get? b.externalbackpackid

def collectionsOf (backpack : Int) : List Collection :=
  s.collections.records.filter (·.backpackid == backpack)

def collectedBadges (collection : Int) : List ExternalBadge :=
  (Keyed.get? collection s.collected).getD []

/-! ## Reports -/

def report? (id : Int) : Option Report := s.reports.get? id

def columnsOf (report : Int) : List ReportColumn :=
  (s.columns.records.filter (·.reportid == report)).mergeSort
    fun a b => a.columnorder ≤ b.columnorder

/-- The filters or, with `iscondition`, the conditions of a report. -/
def filtersOf (report : Int) (iscondition : Bool) : List ReportFilter :=
  (s.filters.records.filter fun f => f.reportid == report && f.iscondition == iscondition).mergeSort
    fun a b => a.filterorder ≤ b.filterorder

end Site

end Campus
