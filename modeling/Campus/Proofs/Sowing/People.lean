import Campus.Proofs.Sowing.Description

/-!
# Sowing users, roles and courses

Users come first, then roles, then courses with their enrolments. Making an entry succeeds exactly
if its name is new and it names what was made before; the site then holds one more entry.
-/

namespace Campus

open Change

/-! ## Single fixtures -/

namespace Fixture

variable {s : Site} {userid : Int}

theorem addUser_apply {es : List SeedUser} {e : SeedUser} {change : User → User}
    (hmake : change (User.generated (es.length + 1)) = SeedUser.record es e)
    (h : s.users = .numbered SeedUser.record es) :
    addUser change s =
      (SeedUser.record es e, { s with users := .numbered SeedUser.record (es ++ [e]) }) := by
  have hadd := Table.add_numbered _ _ _ (fun id => change (User.generated id)) hmake
  simp only [addUser, h, hadd]

theorem createRole_apply {es : List SeedRole} (h : s.roles = .numbered SeedRole.record es)
    (e : SeedRole) :
    createRole (some e.shortname) e.capabilities s =
      (SeedRole.record es e, { s with roles := .numbered SeedRole.record (es ++ [e]) }) := by
  have hadd := Table.add_numbered SeedRole.record es e
    (fun id => ⟨id, e.shortname, e.capabilities⟩) rfl
  simp only [createRole, Option.getD_some, h, hadd]

theorem addCourse_apply {es : List SeedCourse} {e : SeedCourse} {change : Course → Course}
    (hmake : change (Course.generated (es.length + 1)) = SeedCourse.record es e)
    (h : s.courses = .numbered SeedCourse.record es) :
    addCourse change s =
      (SeedCourse.record es e, { s with courses := .numbered SeedCourse.record (es ++ [e]) }) := by
  have hadd := Table.add_numbered _ _ _ (fun id => change (Course.generated id)) hmake
  simp only [addCourse, h, hadd]

theorem meets_setToken (token : String) (huser : s.users.contains userid = true) :
    (setToken userid token).Meets s True fun _ t =>
      t = { s with tokens := Keyed.insert token userid s.tokens } := by
  refine meets_of_ok (a := ()) ?_ trivial rfl
  simp only [setToken, Run.bind_apply, Run.get_apply, huser, if_true]
  rfl

theorem meets_roleAssign {roleid : Int} (context : Context)
    (hrole : s.roles.contains roleid = true) (huser : s.users.contains userid = true) :
    (roleAssign roleid userid context).Meets s True fun _ t =>
      t = { s with roleAssignments := s.roleAssignments ++ [⟨roleid, userid, context⟩] } := by
  refine meets_of_ok (a := ()) ?_ trivial rfl
  simp only [roleAssign, Run.bind_apply, Run.get_apply, hrole, huser]
  rfl

end Fixture

/-! ## Builtin roles -/

namespace Site

variable {s : Site} {es : List SeedRole} {name : String}

theorem isSome_roleNamed?_of_numbered (h : s.roles = .numbered SeedRole.record es) :
    (s.roleNamed? name).isSome = true ↔ name ∈ es.map (·.shortname) := by
  have hnames : (inTurn SeedRole.record es).map (·.shortname) = es.map (·.shortname) := by
    rw [map_inTurn]
    exact inTurn_eq_map (f := SeedRole.shortname) (fun _ _ => rfl) _
  rw [roleNamed?, h, Table.find?, Table.records_numbered, ← hnames, List.find?_isSome,
    List.mem_map]
  simp only [beq_iff_eq]

theorem addBuiltinRoles_of_roles (h : s.roles = {}) :
    s.addBuiltinRoles = { s with roles := .numbered SeedRole.record (Seed.allRoles {}) } := by
  have hrest (before rest : List String) (t : Site) (hdistinct : (before ++ rest).Nodup)
      (ht : t.roles = .numbered SeedRole.record (before.map fun n => ⟨n, Role.archetype n⟩)) :
      rest.foldl (fun s shortname =>
        if (s.roleNamed? shortname).isSome then s
        else
          { s with
            roles := (s.roles.add fun id => ⟨id, shortname, Role.archetype shortname⟩).2 }) t =
        { t with
          roles := .numbered SeedRole.record
            ((before ++ rest).map fun n => ⟨n, Role.archetype n⟩) } := by
    induction rest generalizing before t with
    | nil => rw [List.append_nil, ← ht, List.foldl_nil]
    | cons shortname rest ih =>
      have hnew : ¬(t.roleNamed? shortname).isSome = true := by
        rw [isSome_roleNamed?_of_numbered ht, List.map_map]
        have hbefore := (List.nodup_append.1 hdistinct).2.2
        simpa using fun h => hbefore _ h _ List.mem_cons_self rfl
      have hadd := Table.add_numbered SeedRole.record
        (before.map fun n => ⟨n, Role.archetype n⟩) ⟨shortname, Role.archetype shortname⟩
        (fun id => ⟨id, shortname, Role.archetype shortname⟩) rfl
      rw [List.append_cons] at hdistinct ⊢
      rw [List.foldl_cons, if_neg hnew, ih _ _ hdistinct]
      rw [ht, hadd, List.map_append]
      rfl
  exact hrest [] Role.builtin s (by decide) h

end Site

namespace Seed

variable {ambient : Ambient} {t : Site}

/-! ## Users -/

theorem Describes.addUser {before : List SeedUser} (h : Describes ambient { users := before } t)
    (e : SeedUser) :
    Describes ambient { users := before ++ [e] }
      { t with
        users := .numbered SeedUser.record (before ++ [e])
        tokens := Keyed.ofList (gather SeedUser.credential (before ++ [e])) } :=
  { h with
    users := rfl
    tokens := rfl }

theorem ofList_gather_credential (before : List SeedUser) (e : SeedUser) :
    Keyed.ofList (gather SeedUser.credential (before ++ [e])) =
      match e.token with
      | some token =>
        Keyed.insert token (before.length + 1 : Int)
          (Keyed.ofList (gather SeedUser.credential before))
      | none => Keyed.ofList (gather SeedUser.credential before) := by
  rw [gather_concat, SeedUser.credential, Keyed.ofList, List.foldl_append]
  cases e.token <;> rfl

theorem meets_makeUser {before : List SeedUser} (h : Describes ambient { users := before } t)
    (e : SeedUser) :
    (makeUser e (numbersOf (·.username) before)).Meets t
      (e.username ∉ before.map (·.username)) fun names u =>
        names = numbersOf (·.username) (before ++ [e]) ∧
          Describes ambient { users := before ++ [e] } u := by
  have hafter := h.addUser e
  rw [ofList_gather_credential, ← h.tokens] at hafter
  unfold makeUser
  refine Meets.bind_of_true (meets_lift (Fixture.addUser_apply rfl h.users)) ?_
  rintro _ _ ⟨rfl, rfl⟩
  cases he : e.token with
  | none =>
    rw [he] at hafter
    exact meets_note hafter before e
  | some token =>
    rw [he] at hafter
    refine Meets.bind_of_true (Fixture.meets_setToken token Table.contains_numbered_last) ?_
    rintro - _ rfl
    exact meets_note hafter before e

theorem meets_makeUsers (h : Describes ambient {} t) (users : List SeedUser) :
    (makeAll makeUser users []).Meets t (users.map (·.username)).Nodup fun names u =>
      names = numbersOf (·.username) users ∧ Describes ambient { users } u := by
  have hstep (before : List SeedUser) (e : SeedUser) (u : Site)
      (hu : Describes ambient { users := before } u) :=
    (meets_makeUser hu e).congr (true_and _).symm.to_iff
  exact (meets_makeAll users h fun before e _ u _ hu => hstep before e u hu).congr (by simp)

/-! ## Roles -/

theorem meets_createRole {users : List SeedUser} {before : List SeedRole}
    (h : Describes ambient { users, roles := before } t) (e : SeedRole) :
    (discard (Fixture.createRole (some e.shortname) e.capabilities : Fixture Role) :
      Fixture Unit).Meets t True fun _ u =>
        Describes ambient { users, roles := before ++ [e] } u := by
  refine ((meets_lift (Fixture.createRole_apply h.roles e)).imp ?_).discard
  rintro _ _ ⟨-, rfl⟩
  exact { h with roles := by rw [allRoles, allRoles, List.append_assoc] }

theorem meets_createRoles {users : List SeedUser} (h : Describes ambient { users } t)
    (roles : List SeedRole) :
    (each (fun e => discard (Fixture.createRole (some e.shortname) e.capabilities : Fixture Role))
      roles : Fixture Unit).Meets t True fun _ u => Describes ambient { users, roles } u :=
  (meets_each (I := fun before => Describes ambient { users, roles := before }) roles h
    fun _ e _ _ _ hbefore => meets_createRole hbefore e).congr (by simp)

/-! ## What names stand for -/

namespace Describes

variable {s : Seed} {name : String}

theorem contains_user (h : Describes ambient s t) (hname : name ∈ s.users.map (·.username)) :
    t.users.contains (s.userNumber name) = true := by
  rw [h.users]
  exact Table.contains_numberOf hname

theorem contains_role (h : Describes ambient s t) (hname : name ∈ s.allRoles.map (·.shortname)) :
    t.roles.contains (s.roleNumber name) = true := by
  rw [h.roles]
  exact Table.contains_numberOf hname

theorem contains_course (h : Describes ambient s t)
    (hname : name ∈ s.courses.map (·.shortname)) :
    t.courses.contains (s.courseNumber name) = true := by
  rw [h.courses]
  exact Table.contains_numberOf hname

theorem isSome_roleNamed? (h : Describes ambient s t) :
    (t.roleNamed? name).isSome = true ↔ name ∈ s.allRoles.map (·.shortname) :=
  Site.isSome_roleNamed?_of_numbered h.roles

theorem id_of_roleNamed? {r : Role} (h : Describes ambient s t)
    (hget : t.roleNamed? name = some r) : r.id = s.roleNumber name := by
  have hname : name ∈ s.allRoles.map (·.shortname) := by
    apply h.isSome_roleNamed?.1
    rw [hget]
    rfl
  obtain ⟨before, e, after, hsplit, he, hbefore⟩ := exists_first hname
  have hfind : t.roleNamed? name = some (SeedRole.record before e) := by
    rw [Site.roleNamed?, h.roles, Table.find?, Table.records_numbered, hsplit]
    exact find?_inTurn_of_name (fun _ _ => rfl) he hbefore
  rw [Option.some.inj (hget.symm.trans hfind), roleNumber, hsplit, numberOf_of_first he hbefore]
  rfl

theorem meets_roleNamed (h : Describes ambient s t) (error : FixtureError) :
    (require error (t.roleNamed? name)).Meets t (name ∈ s.allRoles.map (·.shortname)) fun r u =>
      u = t ∧ r.id = s.roleNumber name :=
  ((meets_require error _).congr h.isSome_roleNamed?).imp fun _ _ hfound =>
    ⟨hfound.1, h.id_of_roleNamed? hfound.2⟩

theorem meets_roleId (h : Describes ambient s t) (name : String) :
    (roleId name).Meets t (name ∈ s.allRoles.map (·.shortname)) fun id u =>
      u = t ∧ id = s.roleNumber name := by
  unfold roleId
  apply Meets.get_bind
  refine (h.meets_roleNamed _).bind_true ?_
  rintro - r _ ⟨rfl, hr⟩
  exact meets_pure ⟨rfl, hr⟩

end Describes

/-! ## Courses -/

section Courses

variable {users : List SeedUser} {roles : List SeedRole} {before : List SeedCourse}
  {done : List SeedEnrolment} {e : SeedCourse}

theorem courseRoles_new :
    courseRoles { users, roles, courses := before ++ [{ e with enrol := [] }] } =
      courseRoles { users, roles, courses := before } := by
  rw [courseRoles, gather_concat]
  exact List.append_nil _

theorem courseRoles_enrol (x : SeedEnrolment) :
    courseRoles { users, roles, courses := before ++ [{ e with enrol := done ++ [x] }] } =
      courseRoles { users, roles, courses := before ++ [{ e with enrol := done }] } ++
        [roleIn { users, roles } (.course (before.length + 1)) x] := by
  rw [courseRoles, gather_concat, List.map_append, courseRoles, gather_concat,
    ← List.append_assoc]
  rfl

theorem Describes.enrol (x : SeedEnrolment)
    (h : Describes ambient { users, roles, courses := before ++ [{ e with enrol := done }] } t) :
    Describes ambient { users, roles, courses := before ++ [{ e with enrol := done ++ [x] }] }
      { t with
        roleAssignments := t.roleAssignments ++
          [roleIn { users, roles } (.course (before.length + 1)) x] } :=
  { h with
    courses := h.courses.trans (Table.numbered_concat_congr rfl)
    roleAssignments := by
      -- No module has been made yet, so there are no roles of modules to come after these.
      have hroles := h.roleAssignments.trans (List.append_nil _)
      rw [hroles, ← courseRoles_enrol]
      exact (List.append_nil _).symm }

theorem meets_enrol (x : SeedEnrolment)
    (h : Describes ambient { users, roles, courses := before ++ [{ e with enrol := done }] } t) :
    (do
      let user ← lookUp "user" x.user (numbersOf (·.username) users)
      Fixture.enrol user (before.length + 1) x.role : Fixture Unit).Meets t
      (Knows { users, roles } x) fun _ u =>
        Describes ambient { users, roles, courses := before ++ [{ e with enrol := done ++ [x] }] }
          u := by
  refine (meets_lookUp_number x.user users).bind ?_
  rintro huser _ t ⟨rfl, rfl⟩
  have hcourse : t.courses.contains (before.length + 1) = true := by
    rw [h.courses]
    exact Table.contains_numbered_last
  unfold Fixture.enrol
  apply Meets.get_bind
  refine (h.meets_roleNamed _).bind_true ?_
  rintro hrole r _ ⟨rfl, hr⟩
  rw [hcourse, hr]
  refine (Fixture.meets_roleAssign _ (h.contains_role hrole) (h.contains_user huser)).imp ?_
  rintro - _ rfl
  exact h.enrol x

theorem meets_makeCourse (e : SeedCourse)
    (h : Describes ambient { users, roles, courses := before } t) :
    (makeCourse (numbersOf (·.username) users) e (numbersOf (·.shortname) before)).Meets t
      ((∀ x ∈ e.enrol, Knows { users, roles } x) ∧ e.shortname ∉ before.map (·.shortname))
      fun names u => names = numbersOf (·.shortname) (before ++ [e]) ∧
        Describes ambient { users, roles, courses := before ++ [e] } u := by
  unfold makeCourse
  refine Meets.bind_of_true (meets_lift (Fixture.addCourse_apply (e := e) rfl h.courses)) ?_
  rintro _ _ ⟨rfl, rfl⟩
  -- The new course starts without enrolments.
  have hstart : Describes ambient
      { users, roles, courses := before ++ [{ e with enrol := [] }] }
      { t with courses := .numbered SeedCourse.record (before ++ [e]) } :=
    { h with
      courses := Table.numbered_concat_congr rfl
      roleAssignments := by
        rw [h.roleAssignments, courseRoles_new]
        rfl }
  refine (meets_each (I := fun done => Describes ambient
    { users, roles, courses := before ++ [{ e with enrol := done }] }) e.enrol hstart
    fun _ x _ _ _ hdone => meets_enrol x hdone).bind ?_
  exact fun _ _ u hu => meets_note hu before e

theorem meets_makeCourses (h : Describes ambient { users, roles } t) (courses : List SeedCourse) :
    (makeAll (makeCourse (numbersOf (·.username) users)) courses []).Meets t
      ((∀ e ∈ courses, ∀ x ∈ e.enrol, Knows { users, roles } x) ∧
        (courses.map (·.shortname)).Nodup)
      fun names u => names = numbersOf (·.shortname) courses ∧
        Describes ambient { users, roles, courses } u :=
  meets_makeAll courses h fun _ e _ _ _ hbefore => meets_makeCourse e hbefore

end Courses

end Seed

end Campus
