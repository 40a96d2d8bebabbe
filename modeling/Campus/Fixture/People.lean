import Campus.Site.Ambient
import Campus.Site.Change

/-!
# Making people, courses and roles

Fixtures are records made with sensible content. Every site has the roles of `Role.builtin` and a
backpack service, which are put there before the first fixture.
-/

namespace Campus

/-- The making of a fixture. -/
abbrev Fixture (α : Type) := Change FixtureError α

def Fixture.fail {α : Type} (e : SiteError) : Fixture α := throw (.site e)

/-- A change by the site's own rules, as the making of a fixture. -/
def Fixture.ofChange {α : Type} (c : Change SiteError α) : Fixture α :=
  ExceptT.adapt FixtureError.site c

def User.generated (id : Int) : User where
  id := id
  username := s!"user{id}"
  firstname := s!"Firstname{id}"
  lastname := s!"Lastname{id}"
  email := s!"user{id}@example.com"

def Course.generated (id : Int) : Course where
  id := id
  fullname := s!"Test course {id}"
  shortname := s!"tc_{id}"

namespace Site

/-- Adds the builtin roles that are missing. -/
def addBuiltinRoles (s : Site) : Site :=
  Role.builtin.foldl (fun s shortname =>
    if (s.roleNamed? shortname).isSome then s
    else
      { s with
        roles := (s.roles.add fun id => ⟨id, shortname, Role.archetype shortname⟩).2 }) s

/-- Adds the default backpack service, if there is none at all. -/
def addDefaultBackpack (s : Site) : Site :=
  if s.siteBackpacks.rows.isEmpty then
    { s with
      siteBackpacks := (s.siteBackpacks.add fun id =>
        ⟨id, SiteBackpack.defaultVersion, SiteBackpack.defaultApiUrl,
          SiteBackpack.defaultWebUrl⟩).2 }
  else s

def withDefaults (s : Site) : Site := s.addBuiltinRoles.addDefaultBackpack

end Site

namespace Fixture

def addUser (change : User → User) : StateM Site User := fun s =>
  let (u, users) := s.users.add fun id => change (User.generated id)
  (u, { s with users })

def createUser : StateM Site User := addUser id

def createNamedUser (username : String) : StateM Site User := addUser ({ · with username })

def createAdmin : StateM Site User := addUser ({ · with username := "admin", siteadmin := true })

def updateUser (u : User) : Fixture Unit := do
  if (← get).users.contains u.id then
    modify fun s => { s with users := s.users.put u.id u }
  else fail (.userNotFound u.id)

def addCourse (change : Course → Course) : StateM Site Course := fun s =>
  let (c, courses) := s.courses.add fun id => change (Course.generated id)
  (c, { s with courses })

def createCourse : StateM Site Course := addCourse id

/-- Adds a role, named by its id if it has no name. -/
def createRole (shortname : Option String) (capabilities : List String) : StateM Site Role :=
  fun s =>
    let (r, roles) := s.roles.add fun id => ⟨id, shortname.getD s!"role{id}", capabilities⟩
    (r, { s with roles })

def roleAssign (roleid userid : Int) (context : Context) : Fixture Unit := do
  let s ← get
  if !s.roles.contains roleid then fail (.roleNotFound (toString roleid))
  else if !s.users.contains userid then fail (.userNotFound userid)
  else
    let assignment := RoleAssignment.mk roleid userid context
    set { s with roleAssignments := s.roleAssignments ++ [assignment] }

/-- Overrides a capability of a role in a context; an earlier override of the three is dropped. -/
def assignCapability (capability : String) (permission : Permission) (roleid : Int)
    (context : Context) : StateM Site Unit :=
  modify fun s =>
    { s with
      roleOverrides :=
        (s.roleOverrides.filter fun o =>
          !(o.roleid == roleid && o.capability == capability && o.context == context))
        ++ [RoleOverride.mk roleid capability permission context] }

def enrol (userid courseid : Int) (role : String) : Fixture Unit := do
  let s ← get
  let r ← Change.require (.site (.roleNotFound role)) (s.roleNamed? role)
  if !s.courses.contains courseid then fail (.courseNotFound courseid)
  else roleAssign r.id userid (.course courseid)

def createAndEnrol (courseid : Int) (role : String) : Fixture User := do
  let u ← createUser
  enrol u.id courseid role
  return u

/-! ## Tokens -/

def setToken (userid : Int) (token : String) : Fixture Unit := do
  if (← get).users.contains userid then
    modify fun s => { s with tokens := Keyed.insert token userid s.tokens }
  else fail (.userNotFound userid)

def createToken (ambient : Ambient) (userid : Int) : Fixture String := do
  let token := ambient.token (← get).tokens.length
  setToken userid token
  return token

end Fixture

end Campus
