import Mathlib.Data.List.Induction
import Campus.Proofs.Fixtures
import Campus.Proofs.Sowing.People

/-!
# Sowing modules and overrides

A module is made without a name and without roles, which are then added one by one. Overrides touch
no record that a seed describes.
-/

namespace Campus

open Change

namespace Seed

variable {ambient : Ambient} {t : Site} {users : List SeedUser} {roles : List SeedRole}
  {courses : List SeedCourse} {before : List SeedModule} {done : List SeedEnrolment}
  {e : SeedModule} {type : ModuleType}

/-! ## Modules of a type -/

theorem modulesOf_concat_of_type (h : e.modname = type.name) :
    modulesOf type (before ++ [e]) = modulesOf type before ++ [((before.length + 1 : Int), e)] := by
  rw [modulesOf, gather_concat, if_pos h]

theorem modulesOf_concat_of_ne (h : e.modname ≠ type.name) :
    modulesOf type (before ++ [e]) = modulesOf type before := by
  rw [modulesOf, gather_concat, if_neg h, List.append_nil]

theorem numbered_modulesOf_congr {α : Type} {make : List (Int × SeedModule) → Int × SeedModule → α}
    {e' : SeedModule} (hmodname : e.modname = e'.modname)
    (hmake : ∀ es cmid, make es (cmid, e) = make es (cmid, e')) :
    Table.numbered make (modulesOf type (before ++ [e])) =
      .numbered make (modulesOf type (before ++ [e'])) := by
  by_cases h : e.modname = type.name
  · rw [modulesOf_concat_of_type h, modulesOf_concat_of_type (hmodname ▸ h)]
    exact Table.numbered_concat_congr (hmake _ _)
  · rw [modulesOf_concat_of_ne h, modulesOf_concat_of_ne (hmodname ▸ h)]

theorem length_modulesOf (type : ModuleType) (modules : List SeedModule) :
    (modulesOf type modules).length = modules.countP (·.modname == type.name) := by
  rw [modulesOf]
  induction modules using List.reverseRecOn with
  | nil => rfl
  | append_singleton before e ih =>
    rw [gather_concat, List.length_append, ih, List.countP_append, List.countP_singleton]
    by_cases h : e.modname = type.name <;> simp [h]

theorem instanceNumber_eq (h : e.modname = type.name) :
    e.instanceNumber before = (modulesOf type before).length + 1 := by
  rw [SeedModule.instanceNumber, length_modulesOf, h]

/-! ## Roles in a module -/

theorem moduleRoles_new :
    moduleRoles { users, roles, courses, modules := before ++ [{ e with roles := [] }] } =
      moduleRoles { users, roles, courses, modules := before } := by
  rw [moduleRoles, gather_concat]
  exact List.append_nil _

theorem moduleRoles_assign (x : SeedEnrolment) :
    moduleRoles { users, roles, courses, modules := before ++ [{ e with roles := done ++ [x] }] } =
      moduleRoles { users, roles, courses, modules := before ++ [{ e with roles := done }] } ++
        [roleIn { users, roles, courses } (.module (before.length + 1)) x] := by
  rw [moduleRoles, gather_concat, List.map_append, moduleRoles, gather_concat,
    ← List.append_assoc]
  rfl

/-! ## Making a module -/

theorem addInstance_apply {s : Seed} {v : Site}
    (hassignments : v.assignments = .numbered s.assignmentRecord (modulesOf .assign before))
    (hchats : v.chats = .numbered s.chatRecord (modulesOf .chat before))
    (htype : e.modname = type.name) (hname : e.name = none) :
    Fixture.addInstance type (s.courseNumber e.course) (before.length + 1) v =
      (e.instanceNumber before,
        { v with
          assignments := .numbered s.assignmentRecord (modulesOf .assign (before ++ [e]))
          chats := .numbered s.chatRecord (modulesOf .chat (before ++ [e])) }) := by
  rw [instanceNumber_eq htype]
  cases type with
  | assign =>
    have hchat : e.modname ≠ ModuleType.chat.name := by rw [htype]; decide
    have hadd := Table.add_numbered s.assignmentRecord (modulesOf .assign before)
      (before.length + 1, e)
      (fun id => ⟨id, s.courseNumber e.course, before.length + 1, s!"Assignment {id}"⟩)
      (by rw [assignmentRecord, hname]; rfl)
    rw [modulesOf_concat_of_type htype, modulesOf_concat_of_ne hchat, ← hchats]
    simp only [Fixture.addInstance, hassignments, hadd]
    rfl
  | chat =>
    have hassign : e.modname ≠ ModuleType.assign.name := by rw [htype]; decide
    have hadd := Table.add_numbered s.chatRecord (modulesOf .chat before)
      (before.length + 1, e)
      (fun id => { id, course := s.courseNumber e.course, name := s!"Chat {id}" })
      (by rw [chatRecord, hname]; rfl)
    rw [modulesOf_concat_of_type htype, modulesOf_concat_of_ne hassign, ← hassignments]
    simp only [Fixture.addInstance, hchats, hadd]
    rfl

theorem Describes.addModule (e : SeedModule)
    (h : Describes ambient { users, roles, courses, modules := before } t) :
    Describes ambient
      { users, roles, courses, modules := before ++ [{ e with roles := [] }] }
      { t with
        modules := .numbered (moduleRecord { courses }) (before ++ [{ e with roles := [] }])
        assignments := .numbered (assignmentRecord { courses })
          (modulesOf .assign (before ++ [{ e with roles := [] }]))
        chats := .numbered (chatRecord { courses })
          (modulesOf .chat (before ++ [{ e with roles := [] }])) } :=
  { h with
    modules := rfl
    assignments := rfl
    chats := rfl
    roleAssignments := h.roleAssignments.trans (congrArg _ moduleRoles_new.symm) }

theorem meets_createModule (e : SeedModule)
    (h : Describes ambient { users, roles, courses, modules := before } t)
    (hcourse : e.course ∈ courses.map (·.shortname)) :
    (Fixture.createModule e.modname (courseNumber { courses } e.course)).Meets t
      ((ModuleType.ofName? e.modname).isSome = true) fun cm u =>
        cm = moduleRecord { courses } before e ∧ Describes ambient
          { users, roles, courses, modules := before ++ [{ e with name := none, roles := [] }] }
          u := by
  have hthere : t.courses.contains (courseNumber { courses } e.course) = true :=
    h.contains_course hcourse
  have hmodules : t.modules = .numbered (moduleRecord { courses }) before := h.modules
  have hnext : t.modules.nextId = before.length + 1 := by rw [hmodules, Table.nextId_numbered]
  have hput : t.modules.skip.put t.modules.nextId (moduleRecord { courses } before e) =
      .numbered (moduleRecord { courses }) (before ++ [{ e with name := none, roles := [] }]) := by
    have hadd := Table.add_numbered (moduleRecord { courses }) before
      { e with name := none, roles := [] }
      (fun _ => moduleRecord { courses } before e) rfl
    rw [hmodules]
    exact congrArg Prod.snd hadd
  have hafter := h.addModule { e with name := none }
  rw [← hput, hnext] at hafter
  unfold Fixture.createModule
  apply Meets.get_bind
  rw [hthere, hnext]
  apply Meets.set_bind
  refine (meets_require _ _).bind_true ?_
  rintro - type _ ⟨rfl, htype⟩
  have hadd := addInstance_apply (s := { users, roles, courses, modules := before })
    (v := { t with modules := t.modules.skip }) (e := { e with name := none, roles := [] })
    h.assignments h.chats (Fixture.name_of_ofName? htype) rfl
  refine Meets.bind_of_true (meets_lift hadd) ?_
  rintro _ _ ⟨rfl, rfl⟩
  apply Meets.modify_bind
  exact meets_pure ⟨rfl, hafter⟩

theorem renameInstance_apply {s : Seed} {v : Site} {name : String}
    (hassignments : v.assignments = .numbered s.assignmentRecord
      (modulesOf .assign (before ++ [{ e with name := none }])))
    (hchats : v.chats = .numbered s.chatRecord
      (modulesOf .chat (before ++ [{ e with name := none }])))
    (htype : ModuleType.ofName? e.modname = some type) (hname : e.name = some name) :
    Fixture.renameInstance (s.moduleRecord before e) name v =
      ((),
        { v with
          assignments := .numbered s.assignmentRecord (modulesOf .assign (before ++ [e]))
          chats := .numbered s.chatRecord (modulesOf .chat (before ++ [e])) }) := by
  have hmodname := Fixture.name_of_ofName? htype
  have hid : (s.moduleRecord before e).instanceId = (modulesOf type before).length + 1 :=
    instanceNumber_eq hmodname
  rw [Fixture.renameInstance, Run.modify_apply_of_state]
  cases type with
  | assign =>
    have hchat : e.modname ≠ ModuleType.chat.name := by rw [hmodname]; decide
    have hrename : v.assignments.modify (s.moduleRecord before e).instanceId ({ · with name }) =
        .numbered s.assignmentRecord (modulesOf .assign (before ++ [e])) := by
      rw [hassignments, modulesOf_concat_of_type (e := { e with name := none }) hmodname,
        modulesOf_concat_of_type hmodname]
      exact Table.modify_numbered hid (by simp [assignmentRecord, hname])
    rw [modulesOf_concat_of_ne (e := { e with name := none }) hchat,
      ← modulesOf_concat_of_ne hchat] at hchats
    rw [← hrename, ← hchats, moduleRecord, htype]
  | chat =>
    have hassign : e.modname ≠ ModuleType.assign.name := by rw [hmodname]; decide
    have hrename : v.chats.modify (s.moduleRecord before e).instanceId ({ · with name }) =
        .numbered s.chatRecord (modulesOf .chat (before ++ [e])) := by
      rw [hchats, modulesOf_concat_of_type (e := { e with name := none }) hmodname,
        modulesOf_concat_of_type hmodname]
      exact Table.modify_numbered hid (by simp [chatRecord, hname])
    rw [modulesOf_concat_of_ne (e := { e with name := none }) hassign,
      ← modulesOf_concat_of_ne hassign] at hassignments
    rw [← hrename, ← hassignments, moduleRecord, htype]

theorem meets_renameInstance {name : String}
    (htype : (ModuleType.ofName? e.modname).isSome = true) (hname : e.name = some name)
    (h : Describes ambient
      { users, roles, courses, modules := before ++ [{ e with name := none, roles := [] }] } t) :
    Meets (Fixture.renameInstance (moduleRecord { courses } before e) name : Fixture Unit) t True
      fun _ u => Describes ambient
        { users, roles, courses, modules := before ++ [{ e with roles := [] }] } u := by
  obtain ⟨type, htype⟩ := Option.isSome_iff_exists.1 htype
  have hrename := renameInstance_apply (e := { e with roles := [] }) h.assignments h.chats htype
    hname
  refine (meets_lift hrename).imp ?_
  rintro - _ ⟨-, rfl⟩
  exact { h with
    modules := h.modules.trans (Table.numbered_concat_congr rfl)
    assignments := rfl
    chats := rfl
    roleAssignments := by
      rw [h.roleAssignments, moduleRoles_new (e := { e with name := none }),
        moduleRoles_new (e := e)]
      rfl }

theorem Describes.assignInModule (x : SeedEnrolment)
    (h : Describes ambient
      { users, roles, courses, modules := before ++ [{ e with roles := done }] } t) :
    Describes ambient
      { users, roles, courses, modules := before ++ [{ e with roles := done ++ [x] }] }
      { t with
        roleAssignments := t.roleAssignments ++
          [roleIn { users, roles, courses } (.module (before.length + 1)) x] } :=
  { h with
    modules := h.modules.trans (Table.numbered_concat_congr rfl)
    assignments := h.assignments.trans (numbered_modulesOf_congr rfl fun _ _ => rfl)
    chats := h.chats.trans (numbered_modulesOf_congr rfl fun _ _ => rfl)
    roleAssignments := by
      rw [h.roleAssignments, moduleRoles_assign, ← List.append_assoc]
      rfl }

theorem meets_assignInModule (x : SeedEnrolment)
    (h : Describes ambient
      { users, roles, courses, modules := before ++ [{ e with roles := done }] } t) :
    (do
      let role ← roleId x.role
      let user ← lookUp "user" x.user (numbersOf (·.username) users)
      Fixture.roleAssign role user (.module (before.length + 1)) : Fixture Unit).Meets t
      (Knows { users, roles } x) fun _ u => Describes ambient
        { users, roles, courses, modules := before ++ [{ e with roles := done ++ [x] }] } u := by
  refine Meets.congr ((h.meets_roleId x.role).bind ?_) and_comm
  rintro hrole _ t ⟨rfl, rfl⟩
  refine (meets_lookUp_number x.user users).bind_true ?_
  rintro huser _ t ⟨rfl, rfl⟩
  refine (Fixture.meets_roleAssign _ (h.contains_role hrole) (h.contains_user huser)).imp ?_
  rintro - _ rfl
  exact h.assignInModule x

theorem meets_makeModule (e : SeedModule)
    (h : Describes ambient { users, roles, courses, modules := before } t) :
    (makeModule (numbersOf (·.username) users) (numbersOf (·.shortname) courses) e
      (namesOf (·.key) (moduleRecord { courses }) before)).Meets t
      ((e.course ∈ courses.map (·.shortname) ∧ (ModuleType.ofName? e.modname).isSome = true ∧
        ∀ x ∈ e.roles, Knows { users, roles } x) ∧ e.key ∉ before.map (·.key))
      fun names u => names = namesOf (·.key) (moduleRecord { courses }) (before ++ [e]) ∧
        Describes ambient { users, roles, courses, modules := before ++ [e] } u := by
  unfold makeModule
  refine Meets.congr ((meets_lookUp_number e.course courses).bind ?_) and_assoc.symm
  rintro hcourse _ t ⟨rfl, rfl⟩
  refine Meets.congr ((meets_createModule e h hcourse).bind ?_) and_assoc.symm
  rintro htype _ u ⟨rfl, hu⟩
  have hroles (v : Site) (hv : Describes ambient
      { users, roles, courses, modules := before ++ [{ e with roles := [] }] } v) :=
    meets_each (I := fun done => Describes ambient
      { users, roles, courses, modules := before ++ [{ e with roles := done }] }) e.roles hv
      fun _ x _ _ _ hdone => meets_assignInModule x hdone
  split
  · next name hname =>
    refine (meets_renameInstance htype hname hu).bind_of_true ?_
    exact fun _ v hv => (hroles v hv).bind fun _ _ w hw => meets_note hw before e
  · next hname =>
    refine (hroles u ?_).bind fun _ _ w hw => meets_note hw before e
    rw [hname]
    exact hu

theorem meets_makeModules (h : Describes ambient { users, roles, courses } t)
    (modules : List SeedModule) :
    (makeAll (makeModule (numbersOf (·.username) users) (numbersOf (·.shortname) courses)) modules
      []).Meets t
      ((∀ e ∈ modules, e.course ∈ courses.map (·.shortname) ∧
        (ModuleType.ofName? e.modname).isSome = true ∧
        ∀ x ∈ e.roles, Knows { users, roles } x) ∧ (modules.map (·.key)).Nodup)
      fun names u => names = namesOf (·.key) (moduleRecord { courses }) modules ∧
        Describes ambient { users, roles, courses, modules } u :=
  meets_makeAll modules h fun _ e _ _ _ hbefore => meets_makeModule e hbefore

/-! ## Overrides -/

/-- What the names of a seed stand for, once all are made. -/
def names (s : Seed) : Made where
  users := numbersOf (·.username) s.users
  courses := numbersOf (·.shortname) s.courses
  modules := namesOf (·.key) s.moduleRecord s.modules

theorem meets_makeOverride {s : Seed} (h : Describes ambient s t) (e : SeedOverride) :
    (makeOverride s.names e).Meets t (s.KnowsOverride e) fun _ u => Describes ambient s u := by
  have hassign (context : Context) :
      (do
        let role ← roleId e.role
        Fixture.assignCapability e.capability e.permission role context : Fixture Unit).Meets t
        (e.role ∈ s.allRoles.map (·.shortname)) fun _ u => Describes ambient s u := by
    refine (h.meets_roleId e.role).bind_true ?_
    rintro - role _ ⟨rfl, -⟩
    exact meets_of_ok (a := ()) rfl trivial { h with }
  unfold makeOverride KnowsOverride names
  cases e.module with
  | some key =>
    refine ((meets_lookUp key s.modules).map _).bind ?_
    rintro - context _ ⟨cm, -, rfl, -⟩
    exact hassign context
  | none =>
    cases e.course with
    | some shortname =>
      dsimp only
      refine ((meets_lookUp_number shortname s.courses).map _).bind ?_
      rintro - context _ ⟨id, -, rfl, -⟩
      exact hassign context
    | none => exact (hassign .system).congr (true_and _).symm.to_iff

theorem meets_makeOverrides {s : Seed} (h : Describes ambient s t) :
    (each (makeOverride s.names) s.overrides).Meets t (∀ e ∈ s.overrides, s.KnowsOverride e)
      fun _ u => Describes ambient s u :=
  meets_each (I := fun _ => Describes ambient s) s.overrides h
    fun _ e _ _ _ ht => meets_makeOverride ht e

end Seed

end Campus
