import Campus.Access.Capability

/-!
# Roles

A role lists capabilities. A user holds them in the contexts where the role is assigned. An override
allows or prohibits one capability of a role in a context.
-/

namespace Campus

structure Role where
  id : Int
  shortname : String
  capabilities : List String
deriving DecidableEq, Repr

namespace Role

def reader : Reader Role :=
  .record "Role" <| Role.mk <$> .required "id" .int64 <*> .required "shortname" .string
    <*> .withDefault "capabilities" (.list .string) []

def toJson (r : Role) : Json :=
  .ofMembers [("id", .int r.id), ("shortname", .string r.shortname),
    ("capabilities", .strings r.capabilities)]

def archetype (shortname : String) : List String :=
  match shortname with
  | "student" => [Capability.submitAssignment, Capability.chat, Capability.readChatLog]
  | "teacher" => [Capability.gradeAssignment, Capability.chat, Capability.readChatLog]
  | "editingteacher" =>
    [Capability.gradeAssignment, Capability.chat, Capability.readChatLog,
      Capability.configureBadges]
  | "manager" =>
    [Capability.gradeAssignment, Capability.editOtherSubmission, Capability.chat,
      Capability.readChatLog, Capability.configureBadges]
  | _ => []

/-- The roles of every site, most powerful first. -/
def builtin : List String := ["manager", "editingteacher", "teacher", "student"]

end Role

inductive Permission where
  | allow | prohibit
deriving DecidableEq, Repr

namespace Permission

def name : Permission → String
  | .allow => "allow"
  | .prohibit => "prohibit"

def reader : Reader Permission := .oneOf [("allow", .allow), ("prohibit", .prohibit)]

end Permission

structure RoleAssignment where
  roleid : Int
  userid : Int
  context : Context
deriving DecidableEq, Repr

structure RoleOverride where
  roleid : Int
  capability : String
  permission : Permission
  context : Context
deriving DecidableEq, Repr

/-- Where an override of an assigned role holds: in the deeper of the two contexts, if one contains
the other. -/
def overrideContext? (courseOf : Int → Option Int) (assigned overridden : Context) :
    Option Context :=
  if assigned.contains courseOf overridden then some overridden
  else if overridden.contains courseOf assigned then some assigned
  else none

/-- The overrides with a permission that one assignment of a role brings. -/
def overrideGrants (courseOf : Int → Option Int) (overrides : List RoleOverride) (role : Role)
    (assigned : Context) (permission : Permission) : List (String × Context) :=
  overrides.filterMap fun o =>
    if o.roleid = role.id ∧ o.permission = permission then
      (overrideContext? courseOf assigned o.context).map (o.capability, ·)
    else none

/-- The assignments of a user to roles that exist, each with its role. -/
def assignedRoles (userid : Int) (roles : List Role) (assignments : List RoleAssignment) :
    List (Role × Context) :=
  assignments.filterMap fun a =>
    if a.userid = userid then (roles.find? (·.id == a.roleid)).map (·, a.context) else none

def resolveCapabilities (userid : Int) (roles : List Role) (assignments : List RoleAssignment)
    (overrides : List RoleOverride) (courseOf : Int → Option Int) : Capabilities where
  allowed :=
    (assignedRoles userid roles assignments).flatMap fun (role, context) =>
      role.capabilities.map (·, context) ++ overrideGrants courseOf overrides role context .allow
  prohibited :=
    (assignedRoles userid roles assignments).flatMap fun (role, context) =>
      overrideGrants courseOf overrides role context .prohibit

end Campus
