import Campus.Access.Role

/-!
# What roles allow on a path

A user may do something at the end of a path if a role assigned on the path allows it, by its own
list or by an override on the path, and no role assigned on the path has it prohibited on the path.
Which of the two contexts is the deeper one never matters.
-/

namespace Campus

/-! ## Paths of the context tree -/

/-- The paths that lead from the site to a context, given the courses that modules stand in. -/
inductive ContextPath.InTree (courseOf : Int → Option Int) : ContextPath → Prop
  | system : InTree courseOf .system
  | course (id : Int) : InTree courseOf (.course id)
  | module {course id : Int} (h : courseOf id = some course) : InTree courseOf (.module course id)

section Tree

variable {courseOf : Int → Option Int} {path : ContextPath}

theorem mem_of_contains (hpath : path.InTree courseOf) {outer inner : Context}
    (h : outer.contains courseOf inner = true) (hinner : inner ∈ path) : outer ∈ path := by
  cases hpath with
  | system =>
    simp only [ContextPath.system, List.mem_singleton] at hinner ⊢
    subst hinner
    cases outer <;> simp_all [Context.contains]
  | course id =>
    simp only [ContextPath.course, List.mem_cons, List.not_mem_nil, or_false] at hinner ⊢
    rcases hinner with rfl | rfl <;> cases outer <;> simp_all [Context.contains]
  | module hcourse =>
    simp only [ContextPath.module, List.mem_cons, List.not_mem_nil, or_false] at hinner ⊢
    rcases hinner with rfl | rfl | rfl <;> cases outer <;> simp_all [Context.contains]

theorem contains_or_contains (hpath : path.InTree courseOf) {a b : Context} (ha : a ∈ path)
    (hb : b ∈ path) : a.contains courseOf b = true ∨ b.contains courseOf a = true := by
  cases hpath with
  | system => simp_all [ContextPath.system, Context.contains]
  | course id =>
    simp only [ContextPath.course, List.mem_cons, List.not_mem_nil, or_false] at ha hb
    rcases ha with rfl | rfl <;> rcases hb with rfl | rfl <;> simp [Context.contains]
  | module hcourse =>
    simp only [ContextPath.module, List.mem_cons, List.not_mem_nil, or_false] at ha hb
    rcases ha with rfl | rfl | rfl <;> rcases hb with rfl | rfl | rfl <;>
      simp [Context.contains, hcourse]

theorem overrideContext?_mem_iff (hpath : path.InTree courseOf) {assigned overridden : Context} :
    (∃ place ∈ path, overrideContext? courseOf assigned overridden = some place) ↔
      assigned ∈ path ∧ overridden ∈ path := by
  unfold overrideContext?
  constructor
  · rintro ⟨place, hplace, h⟩
    split at h
    · next hdown =>
      cases h
      exact ⟨mem_of_contains hpath hdown hplace, hplace⟩
    · split at h
      · next hup =>
        cases h
        exact ⟨hplace, mem_of_contains hpath hup hplace⟩
      · cases h
  · rintro ⟨hassigned, hoverridden⟩
    split
    · exact ⟨overridden, hoverridden, rfl⟩
    · next hdown =>
      have hup := (contains_or_contains hpath hassigned hoverridden).resolve_left hdown
      exact ⟨assigned, hassigned, if_pos hup⟩

end Tree

/-! ## Grants on a path -/

theorem Capabilities.onPath_iff {capability : String} {path : ContextPath}
    {grants : List (String × Context)} :
    onPath capability path grants = true ↔ ∃ place ∈ path, (capability, place) ∈ grants := by
  simp [onPath]

theorem Capabilities.onPath_append (capability : String) (path : ContextPath)
    (a b : List (String × Context)) :
    onPath capability path (a ++ b) = (onPath capability path a || onPath capability path b) := by
  rw [Bool.eq_iff_iff, Bool.or_eq_true]
  simp only [onPath_iff, List.mem_append, and_or_left, exists_or]

/-- The user has the role by an assignment on the path. Of roles with one id the first counts. -/
def AssignedOn (userid : Int) (roles : List Role) (assignments : List RoleAssignment)
    (path : ContextPath) (role : Role) : Prop :=
  ∃ a ∈ assignments, a.userid = userid ∧ roles.find? (·.id == a.roleid) = some role ∧
    a.context ∈ path

/-- An override on the path gives the role's capability a permission. -/
def OverriddenOn (overrides : List RoleOverride) (path : ContextPath) (role : Role)
    (capability : String) (permission : Permission) : Prop :=
  ∃ o ∈ overrides, o.roleid = role.id ∧ o.capability = capability ∧ o.permission = permission ∧
    o.context ∈ path

theorem mem_assignedRoles {userid : Int} {roles : List Role} {assignments : List RoleAssignment}
    {role : Role} {context : Context} :
    (role, context) ∈ assignedRoles userid roles assignments ↔
      ∃ a ∈ assignments, a.userid = userid ∧ roles.find? (·.id == a.roleid) = some role ∧
        a.context = context := by
  simp only [assignedRoles, List.mem_filterMap]
  constructor
  · rintro ⟨a, ha, h⟩
    split at h
    · next huser =>
      obtain ⟨r, hr, heq⟩ := Option.map_eq_some_iff.1 h
      cases heq
      exact ⟨a, ha, huser, hr, rfl⟩
    · cases h
  · rintro ⟨a, ha, huser, hr, rfl⟩
    exact ⟨a, ha, by rw [if_pos huser, hr]; rfl⟩

section Overrides

variable {courseOf : Int → Option Int} {path : ContextPath} (overrides : List RoleOverride)
  (role : Role) (assigned : Context) (capability : String) (permission : Permission)

theorem mem_overrideGrants {place : Context} :
    (capability, place) ∈ overrideGrants courseOf overrides role assigned permission ↔
      ∃ o ∈ overrides, o.roleid = role.id ∧ o.capability = capability ∧
        o.permission = permission ∧ overrideContext? courseOf assigned o.context = some place := by
  simp only [overrideGrants, List.mem_filterMap]
  constructor
  · rintro ⟨o, ho, h⟩
    split at h
    · next hrole =>
      obtain ⟨p, hp, heq⟩ := Option.map_eq_some_iff.1 h
      cases heq
      exact ⟨o, ho, hrole.1, rfl, hrole.2, hp⟩
    · cases h
  · rintro ⟨o, ho, hid, rfl, hpermission, hplace⟩
    exact ⟨o, ho, by rw [if_pos ⟨hid, hpermission⟩, hplace]; rfl⟩

theorem onPath_overrideGrants (hpath : path.InTree courseOf) :
    Capabilities.onPath capability path
        (overrideGrants courseOf overrides role assigned permission) = true ↔
      assigned ∈ path ∧ OverriddenOn overrides path role capability permission := by
  simp only [Capabilities.onPath_iff, mem_overrideGrants]
  constructor
  · rintro ⟨place, hplace, o, ho, hid, hcap, hpermission, hat⟩
    obtain ⟨hassigned, hcontext⟩ := (overrideContext?_mem_iff hpath).1 ⟨place, hplace, hat⟩
    exact ⟨hassigned, o, ho, hid, hcap, hpermission, hcontext⟩
  · rintro ⟨hassigned, o, ho, hid, hcap, hpermission, hcontext⟩
    obtain ⟨place, hplace, hat⟩ := (overrideContext?_mem_iff hpath).2 ⟨hassigned, hcontext⟩
    exact ⟨place, hplace, o, ho, hid, hcap, hpermission, hat⟩

theorem onPath_ownCapabilities :
    Capabilities.onPath capability path (role.capabilities.map (·, assigned)) = true ↔
      assigned ∈ path ∧ capability ∈ role.capabilities := by
  rw [Capabilities.onPath_iff]
  constructor
  · rintro ⟨place, hplace, hgrant⟩
    obtain ⟨c, hc, heq⟩ := List.mem_map.1 hgrant
    cases heq
    exact ⟨hplace, hc⟩
  · rintro ⟨hassigned, hown⟩
    exact ⟨assigned, hassigned, List.mem_map.2 ⟨capability, hown, rfl⟩⟩

end Overrides

/-! ## Resolved capabilities -/

section Resolve

variable {userid : Int} {roles : List Role} {assignments : List RoleAssignment}
  {overrides : List RoleOverride} {courseOf : Int → Option Int} {path : ContextPath}
  {capability : String}

theorem onPath_flatMap_assignedRoles {grants : Role × Context → List (String × Context)}
    {Gives : Role → Prop}
    (h : ∀ role context, Capabilities.onPath capability path (grants (role, context)) = true ↔
      context ∈ path ∧ Gives role) :
    Capabilities.onPath capability path
        ((assignedRoles userid roles assignments).flatMap grants) = true ↔
      ∃ role, AssignedOn userid roles assignments path role ∧ Gives role := by
  simp only [Capabilities.onPath_iff, List.mem_flatMap] at h ⊢
  constructor
  · rintro ⟨place, hplace, ⟨role, context⟩, hrole, hgrant⟩
    obtain ⟨a, ha, huser, hfind, rfl⟩ := mem_assignedRoles.1 hrole
    obtain ⟨hassigned, hgives⟩ := (h role a.context).1 ⟨place, hplace, hgrant⟩
    exact ⟨role, ⟨a, ha, huser, hfind, hassigned⟩, hgives⟩
  · rintro ⟨role, ⟨a, ha, huser, hfind, hassigned⟩, hgives⟩
    obtain ⟨place, hplace, hgrant⟩ := (h role a.context).2 ⟨hassigned, hgives⟩
    exact ⟨place, hplace, (role, a.context), mem_assignedRoles.2 ⟨a, ha, huser, hfind, rfl⟩, hgrant⟩

theorem onPath_prohibited (hpath : path.InTree courseOf) :
    Capabilities.onPath capability path
        (resolveCapabilities userid roles assignments overrides courseOf).prohibited = true ↔
      ∃ role, AssignedOn userid roles assignments path role ∧
        OverriddenOn overrides path role capability .prohibit :=
  onPath_flatMap_assignedRoles fun role context =>
    onPath_overrideGrants overrides role context capability .prohibit hpath

theorem onPath_allowed (hpath : path.InTree courseOf) :
    Capabilities.onPath capability path
        (resolveCapabilities userid roles assignments overrides courseOf).allowed = true ↔
      ∃ role, AssignedOn userid roles assignments path role ∧
        (capability ∈ role.capabilities ∨
          OverriddenOn overrides path role capability .allow) := by
  apply onPath_flatMap_assignedRoles
  intro role context
  rw [Capabilities.onPath_append, Bool.or_eq_true, onPath_ownCapabilities,
    onPath_overrideGrants overrides role context capability .allow hpath, ← and_or_left]

theorem has_resolveCapabilities_nil_iff (hpath : path.InTree courseOf) :
    (resolveCapabilities userid roles assignments [] courseOf).has capability path = true ↔
      ∃ role, AssignedOn userid roles assignments path role ∧ capability ∈ role.capabilities := by
  have hnone (role : Role) (permission : Permission) :
      ¬OverriddenOn [] path role capability permission := by
    rintro ⟨o, ho, -⟩
    cases ho
  have hprohibited : Capabilities.onPath capability path
      (resolveCapabilities userid roles assignments [] courseOf).prohibited = false := by
    rw [← Bool.not_eq_true, onPath_prohibited hpath]
    rintro ⟨role, -, hoverridden⟩
    exact hnone role .prohibit hoverridden
  have hallowed : Capabilities.onPath capability path
      (resolveCapabilities userid roles assignments [] courseOf).allowed = true ↔
        ∃ role, AssignedOn userid roles assignments path role ∧ capability ∈ role.capabilities := by
    rw [onPath_allowed hpath]
    exact exists_congr fun role => and_congr_right fun _ => or_iff_left (hnone role .allow)
  rw [← hallowed, Capabilities.has, hprohibited]
  exact Iff.rfl

/-- A capability holds at the end of a path exactly if a role assigned on the path lists it or has
it allowed on the path, and no role assigned on the path has it prohibited on the path. -/
theorem has_resolveCapabilities_iff (hpath : path.InTree courseOf) :
    (resolveCapabilities userid roles assignments overrides courseOf).has capability path = true ↔
      (∃ role, AssignedOn userid roles assignments path role ∧
        (capability ∈ role.capabilities ∨
          OverriddenOn overrides path role capability .allow)) ∧
      ¬∃ role, AssignedOn userid roles assignments path role ∧
        OverriddenOn overrides path role capability .prohibit := by
  rw [← onPath_allowed hpath, ← onPath_prohibited hpath]
  simp [Capabilities.has, resolveCapabilities, and_comm]

end Resolve

/-- An override of a course counts for a role that is assigned in a module of the course. -/
theorem has_resolveCapabilities_in_module :
    ContextPath.InTree (fun m => if m = 50 then some 5 else none) (.module 5 50) ∧
      (resolveCapabilities 8 [⟨2, "custom", []⟩] [⟨2, 8, .module 50⟩]
        [⟨2, "mod/chat:readlog", .allow, .course 5⟩, ⟨2, "mod/chat:chat", .prohibit, .system⟩]
        fun m => if m = 50 then some 5 else none).has "mod/chat:readlog" (.module 5 50) = true := by
  have hpath : ContextPath.InTree (fun m => if m = 50 then some 5 else none) (.module 5 50) :=
    .module rfl
  refine ⟨hpath, (has_resolveCapabilities_iff hpath).2 ⟨?_, ?_⟩⟩
  · exact ⟨⟨2, "custom", []⟩, ⟨_, List.mem_singleton_self _, rfl, rfl, by decide⟩,
      .inr ⟨_, List.mem_cons_self, rfl, rfl, rfl, by decide⟩⟩
  · rintro ⟨role, -, o, ho, -, hcap, hpermission, -⟩
    simp only [List.mem_cons, List.not_mem_nil, or_false] at ho
    rcases ho with rfl | rfl
    · cases hpermission
    · exact absurd hcap (by decide)

end Campus
