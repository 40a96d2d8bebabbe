import Campus.Fixture.Badges
import Campus.Fixture.Modules
import Campus.Fixture.Reports

/-!
# Seeds

A seed describes the fixtures that a site starts with. Its entries refer to one another by username,
course shortname and module key, not by id.
-/

namespace Campus

structure SeedUser where
  username : String
  firstname : Option String := none
  lastname : Option String := none
  email : Option String := none
  siteadmin : Bool := false
  token : Option String := none
deriving DecidableEq, Repr

namespace SeedUser

def reader : Reader SeedUser :=
  .record "SeedUser" <| SeedUser.mk <$> .required "username" .string
    <*> .optional "firstname" .string <*> .optional "lastname" .string
    <*> .optional "email" .string <*> .withDefault "siteadmin" .bool false
    <*> .optional "token" .string

def toJson (u : SeedUser) : Json :=
  .ofMembers [("username", .string u.username), ("firstname", .ofOption .string u.firstname),
    ("lastname", .ofOption .string u.lastname), ("email", .ofOption .string u.email),
    ("siteadmin", .bool u.siteadmin), ("token", .ofOption .string u.token)]

end SeedUser

structure SeedRole where
  shortname : String
  capabilities : List String := []
deriving DecidableEq, Repr

namespace SeedRole

def reader : Reader SeedRole :=
  .record "SeedRole" <| SeedRole.mk <$> .required "shortname" .string
    <*> .withDefault "capabilities" (.list .string) []

def toJson (r : SeedRole) : Json :=
  .ofMembers [("shortname", .string r.shortname), ("capabilities", .strings r.capabilities)]

end SeedRole

/-- A user, and a role by its shortname. -/
structure SeedEnrolment where
  user : String
  role : String
deriving DecidableEq, Repr

namespace SeedEnrolment

def reader : Reader SeedEnrolment :=
  .record "SeedEnrolment" <| SeedEnrolment.mk <$> .required "user" .string
    <*> .required "role" .string

def toJson (e : SeedEnrolment) : Json :=
  .ofMembers [("user", .string e.user), ("role", .string e.role)]

end SeedEnrolment

structure SeedCourse where
  shortname : String
  fullname : Option String := none
  enrol : List SeedEnrolment := []
deriving DecidableEq, Repr

namespace SeedCourse

def reader : Reader SeedCourse :=
  .record "SeedCourse" <| SeedCourse.mk <$> .required "shortname" .string
    <*> .optional "fullname" .string <*> .withDefault "enrol" (.list SeedEnrolment.reader) []

def toJson (c : SeedCourse) : Json :=
  .ofMembers [("shortname", .string c.shortname), ("fullname", .ofOption .string c.fullname),
    ("enrol", .array (c.enrol.map SeedEnrolment.toJson))]

end SeedCourse

structure SeedModule where
  /-- What other entries call the module. -/
  key : String
  modname : String
  course : String
  name : Option String := none
  /-- Roles assigned in the module. -/
  roles : List SeedEnrolment := []
deriving DecidableEq, Repr

namespace SeedModule

def reader : Reader SeedModule :=
  .record "SeedModule" <| SeedModule.mk <$> .required "key" .string <*> .required "modname" .string
    <*> .required "course" .string <*> .optional "name" .string
    <*> .withDefault "roles" (.list SeedEnrolment.reader) []

def toJson (m : SeedModule) : Json :=
  .ofMembers [("key", .string m.key), ("modname", .string m.modname), ("course", .string m.course),
    ("name", .ofOption .string m.name), ("roles", .array (m.roles.map SeedEnrolment.toJson))]

end SeedModule

/-- An override in a module or, if it names none, in a course or, if it names none, everywhere. -/
structure SeedOverride where
  role : String
  capability : String
  permission : Permission
  course : Option String := none
  module : Option String := none
deriving DecidableEq, Repr

namespace SeedOverride

def reader : Reader SeedOverride :=
  .record "SeedOverride" <| SeedOverride.mk <$> .required "role" .string
    <*> .required "capability" .string <*> .required "permission" Permission.reader
    <*> .optional "course" .string <*> .optional "module" .string

def toJson (o : SeedOverride) : Json :=
  .ofMembers [("role", .string o.role), ("capability", .string o.capability),
    ("permission", .string o.permission.name), ("course", .ofOption .string o.course),
    ("module", .ofOption .string o.module)]

end SeedOverride

structure SeedSubmission where
  module : String
  user : String
  status : SubmissionStatus := .submitted
deriving DecidableEq, Repr

namespace SeedSubmission

def reader : Reader SeedSubmission :=
  .record "SeedSubmission" <| SeedSubmission.mk <$> .required "module" .string
    <*> .required "user" .string <*> .withDefault "status" SubmissionStatus.reader .submitted

def toJson (s : SeedSubmission) : Json :=
  .ofMembers [("module", .string s.module), ("user", .string s.user),
    ("status", .string s.status.name)]

end SeedSubmission

structure SeedAward where
  user : String
  /-- The award's hash, if it is not left to chance. -/
  hash : Option String := none
deriving DecidableEq, Repr

namespace SeedAward

def reader : Reader SeedAward :=
  .record "SeedAward" <| SeedAward.mk <$> .required "user" .string <*> .optional "hash" .string

def toJson (a : SeedAward) : Json :=
  .ofMembers [("user", .string a.user), ("hash", .ofOption .string a.hash)]

end SeedAward

/-- A badge of a course or, if it names none, of the site. -/
structure SeedBadge where
  name : String
  description : Option String := none
  course : Option String := none
  awards : List SeedAward := []
deriving DecidableEq, Repr

namespace SeedBadge

def reader : Reader SeedBadge :=
  .record "SeedBadge" <| SeedBadge.mk <$> .required "name" .string
    <*> .optional "description" .string <*> .optional "course" .string
    <*> .withDefault "awards" (.list SeedAward.reader) []

def toJson (b : SeedBadge) : Json :=
  .ofMembers [("name", .string b.name), ("description", .ofOption .string b.description),
    ("course", .ofOption .string b.course), ("awards", .array (b.awards.map SeedAward.toJson))]

end SeedBadge

structure SeedBackpack where
  user : String
  /-- The service's interface address; the default service if there is none. -/
  site : Option String := none
  /-- How many collections are made up. -/
  collections : Nat := 0
  /-- Further badges of the first collection. -/
  badges : List ExternalBadge := []

namespace SeedBackpack

def reader : Reader SeedBackpack :=
  .record "SeedBackpack" <| SeedBackpack.mk <$> .required "user" .string
    <*> .optional "site" .string <*> .withDefault "collections" .word32 0
    <*> .withDefault "badges" (.list ExternalBadge.reader) []

def toJson (b : SeedBackpack) : Json :=
  .ofMembers [("user", .string b.user), ("site", .ofOption .string b.site),
    ("collections", .int b.collections), ("badges", .array (b.badges.map ExternalBadge.toJson))]

end SeedBackpack

structure Seed where
  wwwroot : Option String := none
  users : List SeedUser := []
  roles : List SeedRole := []
  courses : List SeedCourse := []
  modules : List SeedModule := []
  overrides : List SeedOverride := []
  submissions : List SeedSubmission := []
  badges : List SeedBadge := []
  backpacks : List SeedBackpack := []
  reports : List Json := []

namespace Seed

def reader : Reader Seed :=
  .record "SiteSeed" <| Seed.mk <$> .optional "wwwroot" .string
    <*> .withDefault "users" (.list SeedUser.reader) []
    <*> .withDefault "roles" (.list SeedRole.reader) []
    <*> .withDefault "courses" (.list SeedCourse.reader) []
    <*> .withDefault "modules" (.list SeedModule.reader) []
    <*> .withDefault "overrides" (.list SeedOverride.reader) []
    <*> .withDefault "submissions" (.list SeedSubmission.reader) []
    <*> .withDefault "badges" (.list SeedBadge.reader) []
    <*> .withDefault "backpacks" (.list SeedBackpack.reader) []
    <*> .withDefault "reports" (.list .json) []

def toJson (s : Seed) : Json :=
  .ofMembers [("wwwroot", .ofOption .string s.wwwroot),
    ("users", .array (s.users.map SeedUser.toJson)),
    ("roles", .array (s.roles.map SeedRole.toJson)),
    ("courses", .array (s.courses.map SeedCourse.toJson)),
    ("modules", .array (s.modules.map SeedModule.toJson)),
    ("overrides", .array (s.overrides.map SeedOverride.toJson)),
    ("submissions", .array (s.submissions.map SeedSubmission.toJson)),
    ("badges", .array (s.badges.map SeedBadge.toJson)),
    ("backpacks", .array (s.backpacks.map SeedBackpack.toJson)),
    ("reports", .array s.reports)]

end Seed

end Campus
