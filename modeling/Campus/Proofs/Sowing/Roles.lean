import Mathlib.Data.List.Nodup
import Campus.Proofs.Dispatch
import Campus.Proofs.Operations
import Campus.Proofs.Resolution
import Campus.Proofs.Sowing.Site

/-!
# What enrolments allow

The roles of a seed come after those that every site has, and a name stands for the first role that
has it. What an entry lists is given to nobody if the name was taken.
-/

namespace Campus

open Change

/-! ## Sites without overrides -/

namespace Site

variable {s t : Site}

def KeepsOverrides (s t : Site) : Prop := t.roleOverrides = s.roleOverrides

instance : IsPreorder Site KeepsOverrides where
  refl _ := rfl
  trans _ _ _ h h' := h'.trans h

theorem PlainWrites.keepsOverrides (h : s.PlainWrites t) : s.KeepsOverrides t := h.overrides

/-- The user may do something in a course and in every module of it. -/
def AllowsIn (s : Site) (userid course : Int) (capability : String) : Prop :=
  (s.capabilitiesFor userid).has capability (.course course) = true ∧
    ∀ cmid cm, s.courseModule? cmid = some cm → cm.course = course →
      (s.capabilitiesFor userid).has capability (.module course cmid) = true

theorem allowsIn_iff (hoverrides : s.roleOverrides = []) {userid course : Int}
    {capability : String} : s.AllowsIn userid course capability ↔
      (s.capabilitiesFor userid).has capability (.course course) = true := by
  refine ⟨And.left, fun hhas => ⟨hhas, fun cmid cm hcm hcourse => ?_⟩⟩
  have hplace : s.courseOfModule cmid = some course := by
    rw [← hcourse]
    exact congrArg (Option.map CourseModule.course) hcm
  rw [has_capabilitiesFor_iff, Permits, hoverrides] at hhas ⊢
  refine hhas.imp_right fun hroles => ?_
  obtain ⟨role, ⟨a, ha, huser, hfind, hcontext⟩, hlists⟩ :=
    (has_resolveCapabilities_nil_iff (.course course)).1 hroles
  refine (has_resolveCapabilities_nil_iff (.module hplace)).2
    ⟨role, ⟨a, ha, huser, hfind, ?_⟩, hlists⟩
  exact List.mem_append_left [Context.module cmid] hcontext

end Site

open Site

theorem Change.Follows.keepsOverrides {ε α : Type} {c : Change ε α}
    (h : c.Follows PlainWrites) : c.Follows KeepsOverrides :=
  h.mono fun _ _ h => h.keepsOverrides

theorem Fixture.keepsOverrides_issueBadge (ambient : Ambient) (badgeid userid : Int) :
    (issueBadge ambient badgeid userid).Follows KeepsOverrides := by
  intro s
  cases hbadge : s.badges.contains badgeid with
  | false =>
    rw [issueBadge_of_no_badge hbadge]
    exact refl_of KeepsOverrides s
  | true =>
    cases huser : s.users.contains userid with
    | false =>
      rw [issueBadge_of_no_user hbadge huser]
      exact refl_of KeepsOverrides s
    | true =>
      obtain ⟨make, -, -, -, hrun⟩ := issueBadge_of_contains ambient hbadge huser
      rw [hrun]
      exact refl_of KeepsOverrides s

namespace Seed

theorem keepsOverrides_makeAward (ambient : Ambient) (users : Names Int) (badgeid : Int)
    (e : SeedAward) : (makeAward ambient users badgeid e).Follows KeepsOverrides := by
  refine (follows_lookUp _ _ _).bind fun user => ?_
  refine (Fixture.keepsOverrides_issueBadge ambient badgeid user).bind fun a => ?_
  cases e.hash with
  | none => exact follows_pure ()
  | some hash => exact (Fixture.plain_setAwardHash a.id hash).keepsOverrides

theorem keepsOverrides_makeBadge (ambient : Ambient) (made : Made) (e : SeedBadge) :
    (makeBadge ambient made e).Follows KeepsOverrides := by
  unfold makeBadge
  extract_lets start rest
  have hrest (courseid : Option Int) : (rest courseid).Follows KeepsOverrides :=
    (Fixture.plain_createBadge _ _).keepsOverrides.bind fun b =>
      follows_each (keepsOverrides_makeAward ambient made.users b.id) _
  cases e.course with
  | none => exact (follows_pure none).bind hrest
  | some c => exact ((follows_lookUp _ _ _).map _).bind hrest

/-! ## Before and after the overrides of a seed -/

/-- Makes the users, roles, courses and modules. -/
def prepare (s : Seed) : Fixture Made := do
  let users ← makeAll makeUser s.users []
  each (fun e => discard (Fixture.createRole (some e.shortname) e.capabilities : Fixture Role))
    s.roles
  let courses ← makeAll (makeCourse users) s.courses []
  let modules ← makeAll (makeModule users courses) s.modules []
  return { users, courses, modules }

/-- Makes the submissions, badges, backpacks and reports. -/
def finish (ambient : Ambient) (s : Seed) (made : Made) : Fixture Unit := do
  each (makeSubmission ambient.now made) s.submissions
  each (makeBadge ambient made) s.badges
  each (makeBackpack ambient made.users) s.backpacks
  each (fun record => discard (Fixture.createReport ambient.now (s.author made.users) record))
    s.reports

theorem apply_eq (ambient : Ambient) (s : Seed) : s.apply ambient = (do
    let made ← s.prepare
    each (makeOverride made) s.overrides
    s.finish ambient made) := by
  simp only [apply, prepare, finish, bind_assoc, pure_bind]

theorem keepsOverrides_prepare (s : Seed) : s.prepare.Follows KeepsOverrides := by
  refine (follows_makeAll plain_makeUser s.users []).keepsOverrides.bind fun users => ?_
  refine (follows_each (fun e =>
    (follows_lift (Fixture.plain_createRole _ _)).map _) s.roles).keepsOverrides.bind fun _ => ?_
  refine (follows_makeAll (plain_makeCourse users) s.courses []).keepsOverrides.bind ?_
  intro courses
  refine (follows_makeAll (plain_makeModule users courses) s.modules []).keepsOverrides.bind ?_
  exact fun modules => follows_pure _

theorem keepsOverrides_finish (ambient : Ambient) (s : Seed) (made : Made) :
    (s.finish ambient made).Follows KeepsOverrides := by
  refine (follows_each (plain_makeSubmission _ _) s.submissions).keepsOverrides.bind fun _ => ?_
  refine (follows_each (keepsOverrides_makeBadge _ _) s.badges).bind fun _ => ?_
  refine (follows_each (plain_makeBackpack _ _) s.backpacks).keepsOverrides.bind fun _ => ?_
  exact (follows_each (fun record =>
    (Fixture.plain_createReport _ _ record).map _) s.reports).keepsOverrides

theorem keepsOverrides_apply {s : Seed} (ambient : Ambient) (h : s.overrides = []) :
    (s.apply ambient).Follows KeepsOverrides := by
  rw [apply_eq, h]
  exact (keepsOverrides_prepare s).bind fun made =>
    (follows_pure ()).bind fun _ => keepsOverrides_finish ambient s made

theorem roleOverrides_of_build {ambient : Ambient} {s : Seed} {site : Site}
    (hbuild : s.build ambient = .ok site) (h : s.overrides = []) : site.roleOverrides = [] := by
  obtain ⟨wwwroot, hrun⟩ := build_eq ambient s
  have hkept := trans_of KeepsOverrides (plain_withDefaults { wwwroot }).keepsOverrides
    (keepsOverrides_apply ambient h ({ wwwroot } : Site).withDefaults)
  rw [hbuild] at hrun
  split at hrun
  · next hsite =>
    rw [hsite] at hkept
    rw [Except.ok.inj hrun]
    exact hkept
  · cases hrun

/-! ## Roles in force -/

/-- What the role of a name lists: the first of the roles that every site has and the seed's own. -/
def capabilitiesOf (s : Seed) (shortname : String) : List String :=
  ((s.allRoles.find? (·.shortname == shortname)).map (·.capabilities)).getD []

/-- The user is an administrator, or a role in force that the course gives the user lists the
capability. -/
def Grants (s : Seed) (c : SeedCourse) (username capability : String) : Prop :=
  (∃ u ∈ s.users, u.username = username ∧ u.siteadmin = true) ∨
    ∃ x ∈ c.enrol, x.user = username ∧ capability ∈ s.capabilitiesOf x.role

variable {ambient : Ambient} {s : Seed} {site : Site} {name capability : String}

theorem Describes.capabilities_of_roleNumber (h : Describes ambient s site)
    (hname : name ∈ s.allRoles.map (·.shortname)) : ∃ role,
      site.roles.records.find? (·.id == s.roleNumber name) = some role ∧
        role.capabilities = s.capabilitiesOf name := by
  obtain ⟨before, e, after, hsplit, he, hbefore⟩ := exists_first hname
  have hnumber : s.roleNumber name = before.length + 1 := by
    rw [roleNumber, hsplit]
    exact numberOf_of_first he hbefore
  refine ⟨SeedRole.record before e, ?_, ?_⟩
  · rw [h.roles, Table.records_numbered, hsplit, hnumber]
    refine find?_inTurn_of_first (fun first x rest hfirst => ?_) (beq_self_eq_true _)
    have hlt : first.length < before.length := by
      rw [hfirst, List.length_append, List.length_cons]
      omega
    refine beq_eq_false_iff_ne.2 fun heq => ?_
    simp only [SeedRole.record] at heq
    omega
  · have hfind : s.allRoles.find? (·.shortname == name) = some e := by
      refine List.find?_eq_some_iff_append.2 ⟨beq_iff_eq.2 he, before, after, hsplit, ?_⟩
      intro r hr
      simpa using fun heq => hbefore (List.mem_map.2 ⟨r, hr, heq⟩)
    rw [capabilitiesOf, hfind]
    rfl

theorem Describes.isAdmin_iff (hsowable : s.Sowable) (h : Describes ambient s site)
    (hname : name ∈ s.users.map (·.username)) :
    (∃ user, site.user? (s.userNumber name) = some user ∧ user.siteadmin = true) ↔
      ∃ u ∈ s.users, u.username = name ∧ u.siteadmin = true := by
  obtain ⟨before, e, after, hsplit, he, hbefore⟩ := exists_first hname
  have huser : site.user? (s.userNumber name) = some (SeedUser.record before e) := by
    rw [Site.user?, h.users, userNumber, hsplit, numberOf_of_first he hbefore]
    exact Table.get?_numbered_eq_some_iff.2 ⟨before, e, after, rfl, rfl, rfl⟩
  have hmem : e ∈ s.users := by rw [hsplit]; simp
  constructor
  · rintro ⟨user, hget, hadmin⟩
    rw [huser] at hget
    cases hget
    exact ⟨e, hmem, he, hadmin⟩
  · rintro ⟨u, hu, husername, hadmin⟩
    have hsame : u = e :=
      List.inj_on_of_nodup_map hsowable.usernames hu hmem (husername.trans he.symm)
    exact ⟨_, huser, hsame ▸ hadmin⟩

/-! ## What a course gives -/

theorem Describes.assignedOn_course_iff (hsowable : s.Sowable) (h : Describes ambient s site)
    {before after : List SeedCourse} {c : SeedCourse} (hsplit : s.courses = before ++ c :: after)
    (hname : name ∈ s.users.map (·.username)) {role : Role} :
    AssignedOn (s.userNumber name) site.roles.records site.roleAssignments
        (.course (before.length + 1)) role ↔
      ∃ x ∈ c.enrol, x.user = name ∧
        site.roles.records.find? (·.id == s.roleNumber x.role) = some role := by
  unfold AssignedOn
  rw [h.roleAssignments]
  constructor
  · rintro ⟨a, ha, huser, hfind, hcontext⟩
    rcases List.mem_append.1 ha with hcourse | hmodule
    · obtain ⟨before', c', after', hsplit', hmem⟩ := mem_gather.1 hcourse
      obtain ⟨x, hx, rfl⟩ := List.mem_map.1 hmem
      have hlength : before'.length = before.length := by
        simpa [roleIn, ContextPath.course, Int.natCast_inj] using hcontext
      -- Entries at one place of the list are one entry.
      obtain ⟨-, hrest⟩ := List.append_inj (hsplit'.symm.trans hsplit) hlength
      obtain ⟨rfl, -⟩ := List.cons.inj hrest
      have hknown : s.Knows x := hsowable.enrolments c' (by rw [hsplit']; simp) x hx
      exact ⟨x, hx, numberOf_inj hknown.1 huser, hfind⟩
    · obtain ⟨before', m, after', -, hmem⟩ := mem_gather.1 hmodule
      obtain ⟨x, hx, rfl⟩ := List.mem_map.1 hmem
      simp [roleIn, ContextPath.course] at hcontext
  · rintro ⟨x, hx, rfl, hfind⟩
    refine ⟨s.roleIn (.course (before.length + 1)) x, List.mem_append_left _ ?_, rfl, hfind, ?_⟩
    · exact mem_gather.2 ⟨before, c, after, hsplit, List.mem_map_of_mem hx⟩
    · simp [roleIn, ContextPath.course]

theorem Describes.has_course_iff (hsowable : s.Sowable) (h : Describes ambient s site)
    (hoverrides : site.roleOverrides = []) {before after : List SeedCourse} {c : SeedCourse}
    (hsplit : s.courses = before ++ c :: after) (hname : name ∈ s.users.map (·.username)) :
    (site.capabilitiesFor (s.userNumber name)).has capability (.course (before.length + 1)) = true ↔
      s.Grants c name capability := by
  have hrole (x : SeedEnrolment) (hx : x ∈ c.enrol) : x.role ∈ s.allRoles.map (·.shortname) :=
    (hsowable.enrolments c (by rw [hsplit]; simp) x hx).2
  rw [Site.has_capabilitiesFor_iff, Site.Permits, h.isAdmin_iff hsowable hname, hoverrides,
    has_resolveCapabilities_nil_iff (.course _)]
  refine or_congr_right ?_
  constructor
  · rintro ⟨role, hassigned, hlists⟩
    obtain ⟨x, hx, hxname, hfind⟩ := (h.assignedOn_course_iff hsowable hsplit hname).1 hassigned
    obtain ⟨found, hfound, hcapabilities⟩ := h.capabilities_of_roleNumber (hrole x hx)
    rw [Option.some.inj (hfind.symm.trans hfound), hcapabilities] at hlists
    exact ⟨x, hx, hxname, hlists⟩
  · rintro ⟨x, hx, hxname, hlists⟩
    obtain ⟨found, hfound, hcapabilities⟩ := h.capabilities_of_roleNumber (hrole x hx)
    refine ⟨found, (h.assignedOn_course_iff hsowable hsplit hname).2 ⟨x, hx, hxname, hfound⟩, ?_⟩
    rwa [hcapabilities]

/-- Who is enrolled with a role has what every entry of the role's name lists. -/
def GivesListed (s : Seed) (site : Site) : Prop :=
  ∀ c ∈ s.courses, ∀ x ∈ c.enrol, ∀ r ∈ s.roles, r.shortname = x.role →
    ∀ capability ∈ r.capabilities,
      site.AllowsIn (s.userNumber x.user) (s.courseNumber c.shortname) capability

/-- Whatever an entry of the role's name lists, the course grants it to those enrolled. -/
def ListsInForce (s : Seed) : Prop :=
  ∀ c ∈ s.courses, ∀ x ∈ c.enrol, ∀ r ∈ s.roles, r.shortname = x.role →
    ∀ capability ∈ r.capabilities, s.Grants c x.user capability

theorem Sowable.courseNumber_eq (h : s.Sowable) {before after : List SeedCourse} {c : SeedCourse}
    (hsplit : s.courses = before ++ c :: after) :
    s.courseNumber c.shortname = before.length + 1 := by
  have hdistinct := h.shortnames
  rw [hsplit, List.map_append, List.map_cons] at hdistinct
  rw [courseNumber, hsplit]
  refine numberOf_of_first rfl fun hbefore => ?_
  exact (List.nodup_append.1 hdistinct).2.2 _ hbefore _ List.mem_cons_self rfl

theorem Describes.allowsIn_iff (hsowable : s.Sowable) (h : Describes ambient s site)
    (hoverrides : site.roleOverrides = []) {c : SeedCourse} (hc : c ∈ s.courses)
    (hname : name ∈ s.users.map (·.username)) :
    site.AllowsIn (s.userNumber name) (s.courseNumber c.shortname) capability ↔
      s.Grants c name capability := by
  obtain ⟨before, after, hsplit⟩ := List.append_of_mem hc
  rw [Site.allowsIn_iff hoverrides, hsowable.courseNumber_eq hsplit,
    h.has_course_iff hsowable hoverrides hsplit hname]

theorem capabilitiesOf_of_nodup (h : (s.allRoles.map (·.shortname)).Nodup) {r : SeedRole}
    (hr : r ∈ s.allRoles) : s.capabilitiesOf r.shortname = r.capabilities := by
  have hsome : (s.allRoles.find? (·.shortname == r.shortname)).isSome = true :=
    List.find?_isSome.2 ⟨r, hr, beq_self_eq_true _⟩
  obtain ⟨e, he⟩ := Option.isSome_iff_exists.1 hsome
  have hname : e.shortname = r.shortname := by simpa using List.find?_some he
  have hsame : e = r := List.inj_on_of_nodup_map h (List.mem_of_find?_eq_some he) hr hname
  rw [capabilitiesOf, he, hsame]
  rfl

/-- Of a seed without overrides, what the entries of a role's name list is given to those who are
enrolled with it if and only if it is in force for them anyway. That is so if no two roles have one
name, counting those that every site has. -/
theorem build_givesListed_iff (hbuild : s.build ambient = .ok site)
    (hoverrides : s.overrides = []) :
    (s.GivesListed site ↔ s.ListsInForce) ∧
      ((s.allRoles.map (·.shortname)).Nodup → s.GivesListed site) := by
  obtain ⟨hsowable, hsite⟩ := describes_of_build hbuild
  have hgives : s.GivesListed site ↔ s.ListsInForce := by
    refine forall₂_congr fun c hc => forall₂_congr fun x hx => forall₂_congr fun r _ =>
      forall_congr' fun _ => forall₂_congr fun capability _ => ?_
    have hknown : s.Knows x := hsowable.enrolments c hc x hx
    exact hsite.allowsIn_iff hsowable (roleOverrides_of_build hbuild hoverrides) hc hknown.1
  refine ⟨hgives, fun hnodup => hgives.2 fun c hc x hx r hr hname capability hlists => ?_⟩
  refine .inr ⟨x, hx, rfl, ?_⟩
  rwa [← hname, capabilitiesOf_of_nodup hnodup (List.mem_append_right _ hr)]

/-- A marker is enrolled in a course. -/
def marking : Seed where
  users := [{ username := "ada" }]
  roles := [{ shortname := "marker", capabilities := [Capability.gradeAssignment] }]
  courses := [{ shortname := "writing", enrol := [⟨"ada", "marker"⟩] }]
  modules := [⟨"essay", "assign", "writing", none, []⟩]

theorem marking_sowable : marking.Sowable where
  usernames := by decide
  enrolments := by simp [marking, Knows, allRoles]
  shortnames := by decide
  modules := by simp [marking, ModuleType.ofName?]
  keys := by decide
  overrides := by simp [marking]
  submissions := by simp [marking]
  badges := by simp [marking]
  backpacks := by simp [marking]
  reports := by simp [marking]

theorem marking_givesListed : ∃ site, marking.build counting = .ok site ∧
    marking.overrides = [] ∧ marking.GivesListed site := by
  obtain ⟨site, hbuild⟩ := (exists_build_iff counting marking).2 marking_sowable
  exact ⟨site, hbuild, rfl, (build_givesListed_iff hbuild rfl).2 (by decide)⟩

/-- An entry has the name of a builtin role. -/
def gradingStudent : Seed where
  users := [{ username := "ada" }]
  roles := [{ shortname := "student", capabilities := [Capability.gradeAssignment] }]
  courses := [{ shortname := "writing", enrol := [⟨"ada", "student"⟩] }]

theorem gradingStudent_sowable : gradingStudent.Sowable where
  usernames := by decide
  enrolments := by simp [gradingStudent, Knows, allRoles]
  shortnames := by decide
  modules := by simp [gradingStudent]
  keys := by decide
  overrides := by simp [gradingStudent]
  submissions := by simp [gradingStudent]
  badges := by simp [gradingStudent]
  backpacks := by simp [gradingStudent]
  reports := by simp [gradingStudent]

/-- What the entry lists is not given to the student. -/
theorem gradingStudent_not_givesListed : ∃ site, gradingStudent.build counting = .ok site ∧
    gradingStudent.overrides = [] ∧
    (site.capabilitiesFor 1).has Capability.gradeAssignment (.course 1) = false ∧
    ¬gradingStudent.GivesListed site := by
  obtain ⟨site, hbuild⟩ := (exists_build_iff counting gradingStudent).2 gradingStudent_sowable
  obtain ⟨hsowable, hsite⟩ := describes_of_build hbuild
  have hnot : ¬gradingStudent.Grants ⟨"writing", none, [⟨"ada", "student"⟩]⟩ "ada"
      Capability.gradeAssignment := by
    rintro (⟨u, hu, -, hadmin⟩ | ⟨x, hx, -, hlists⟩)
    · rw [List.mem_singleton.1 hu] at hadmin
      cases hadmin
    · rw [List.mem_singleton.1 hx] at hlists
      exact absurd hlists (by decide)
  have hada : gradingStudent.userNumber "ada" = 1 := by decide
  have hcourse : (site.capabilitiesFor (gradingStudent.userNumber "ada")).has
      Capability.gradeAssignment (.course 1) = true ↔ gradingStudent.Grants
        ⟨"writing", none, [⟨"ada", "student"⟩]⟩ "ada" Capability.gradeAssignment :=
    hsite.has_course_iff hsowable (roleOverrides_of_build hbuild rfl)
      (show gradingStudent.courses = [] ++ _ :: [] from rfl) (List.mem_singleton_self "ada")
  rw [hada] at hcourse
  have hhas : (site.capabilitiesFor 1).has Capability.gradeAssignment (.course 1) = false :=
    Bool.eq_false_iff.2 fun hhas => hnot (hcourse.1 hhas)
  refine ⟨site, hbuild, rfl, hhas, fun hgives => ?_⟩
  have hall := hgives _ (List.mem_singleton_self _) _ (List.mem_singleton_self _) _
    (List.mem_singleton_self _) rfl _ (List.mem_singleton_self Capability.gradeAssignment)
  have hwriting : gradingStudent.courseNumber "writing" = 1 := by decide
  have hgiven := hall.1
  rw [hada, hwriting, hhas] at hgiven
  cases hgiven

end Seed

end Campus
