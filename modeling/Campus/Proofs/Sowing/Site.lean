import Campus.Proofs.Sowing.Badges
import Campus.Proofs.Sowing.Reports
import Campus.Proofs.Sowing.Submissions

/-!
# Sowing a site

A seed is sown if and only if all that it names is known, and then describes the site.
-/

namespace Campus

open Change

namespace Seed

variable {ambient : Ambient} {s : Seed}

theorem describes_withDefaults (ambient : Ambient) (wwwroot : String) :
    Describes ambient {} ({ wwwroot } : Site).withDefaults := by
  have hservice : (({} : Table SiteBackpack).add fun id => ⟨id, SiteBackpack.defaultVersion,
      SiteBackpack.defaultApiUrl, SiteBackpack.defaultWebUrl⟩).2.Sound SiteBackpack.id :=
    Table.sound_empty.add rfl
  rw [Site.withDefaults, Site.addBuiltinRoles_of_roles rfl]
  exact
    { users := rfl
      tokens := rfl
      roles := rfl
      courses := rfl
      modules := rfl
      assignments := rfl
      chats := rfl
      roleAssignments := rfl
      attempts := fun _ _ => ⟨0, rfl⟩
      badges := rfl
      awards := rfl
      reports := rfl
      services := hservice
      service := ⟨1, rfl⟩ }

/-- All that the seed names is known, and names are used once. -/
structure Sowable (s : Seed) : Prop where
  usernames : (s.users.map (·.username)).Nodup
  enrolments : ∀ c ∈ s.courses, ∀ x ∈ c.enrol, s.Knows x
  shortnames : (s.courses.map (·.shortname)).Nodup
  modules : ∀ m ∈ s.modules, m.course ∈ s.courses.map (·.shortname) ∧
    (ModuleType.ofName? m.modname).isSome = true ∧ ∀ x ∈ m.roles, s.Knows x
  keys : (s.modules.map (·.key)).Nodup
  overrides : ∀ e ∈ s.overrides, s.KnowsOverride e
  submissions : ∀ e ∈ s.submissions, s.KnowsSubmission e
  badges : ∀ e ∈ s.badges, s.KnowsBadge e
  backpacks : ∀ e ∈ s.backpacks, e.user ∈ s.users.map (·.username)
  reports : ∀ record ∈ s.reports, KnowsReport record

theorem sowable_iff : s.Sowable ↔
    (s.users.map (·.username)).Nodup ∧
      ((∀ c ∈ s.courses, ∀ x ∈ c.enrol, s.Knows x) ∧ (s.courses.map (·.shortname)).Nodup) ∧
      ((∀ m ∈ s.modules, m.course ∈ s.courses.map (·.shortname) ∧
        (ModuleType.ofName? m.modname).isSome = true ∧ ∀ x ∈ m.roles, s.Knows x) ∧
        (s.modules.map (·.key)).Nodup) ∧
      (∀ e ∈ s.overrides, s.KnowsOverride e) ∧ (∀ e ∈ s.submissions, s.KnowsSubmission e) ∧
      (∀ e ∈ s.badges, s.KnowsBadge e) ∧
      (∀ e ∈ s.backpacks, e.user ∈ s.users.map (·.username)) ∧
      ∀ record ∈ s.reports, KnowsReport record :=
  ⟨fun ⟨usernames, enrolments, shortnames, modules, keys, overrides, submissions, badges,
    backpacks, reports⟩ => ⟨usernames, ⟨enrolments, shortnames⟩, ⟨modules, keys⟩, overrides,
      submissions, badges, backpacks, reports⟩,
    fun ⟨usernames, ⟨enrolments, shortnames⟩, ⟨modules, keys⟩, overrides, submissions, badges,
      backpacks, reports⟩ => ⟨usernames, enrolments, shortnames, modules, keys, overrides,
        submissions, badges, backpacks, reports⟩⟩

theorem meets_apply (s : Seed) {t : Site} (h : Describes ambient {} t) :
    (s.apply ambient).Meets t s.Sowable fun _ u => Describes ambient s u := by
  rw [sowable_iff]
  unfold apply
  refine (meets_makeUsers h s.users).bind ?_
  rintro - _ t₁ ⟨rfl, h₁⟩
  refine (meets_createRoles h₁ s.roles).bind_of_true ?_
  rintro - t₂ h₂
  refine (meets_makeCourses h₂ s.courses).bind ?_
  rintro - _ t₃ ⟨rfl, h₃⟩
  refine (meets_makeModules h₃ s.modules).bind ?_
  rintro - _ t₄ ⟨rfl, h₄⟩
  -- From here on nothing is looked up but what the names stand for now.
  have hmade : Describes ambient { s with submissions := [], badges := [], reports := [] } t₄ :=
    { h₄ with }
  refine (meets_makeOverrides hmade).bind ?_
  rintro - _ t₅ h₅
  refine (meets_makeSubmissions { h₅ with } s.submissions).bind ?_
  rintro - _ t₆ h₆
  have hdone : Describes ambient { s with badges := [], reports := [] } t₆ := { h₆ with }
  refine (meets_makeBadges hdone).bind ?_
  rintro - _ t₇ h₇
  refine (meets_makeBackpacks h₇).bind ?_
  rintro - _ t₈ h₈
  rw [author_eq]
  exact meets_createReports h₈

theorem build_eq (ambient : Ambient) (s : Seed) : ∃ wwwroot, s.build ambient =
    match s.apply ambient ({ wwwroot } : Site).withDefaults with
    | (.ok (), site) => .ok site
    | (.error e, _) => .error e := by
  unfold build
  cases s.wwwroot <;> exact ⟨_, rfl⟩

theorem build_spec (ambient : Ambient) (s : Seed) :
    match s.build ambient with
    | .ok site => s.Sowable ∧ Describes ambient s site
    | .error _ => ¬s.Sowable := by
  obtain ⟨wwwroot, hbuild⟩ := build_eq ambient s
  rw [hbuild]
  rcases (meets_apply s (describes_withDefaults ambient wwwroot)).cases with
    ⟨hsowable, _, site, hrun, hsite⟩ | ⟨hnot, e, site, hrun⟩
  · rw [hrun]
    exact ⟨hsowable, hsite⟩
  · rw [hrun]
    exact hnot

theorem exists_build_iff (ambient : Ambient) (s : Seed) :
    (∃ site, s.build ambient = .ok site) ↔ s.Sowable := by
  have hspec := build_spec ambient s
  cases hbuild : s.build ambient with
  | ok site =>
    rw [hbuild] at hspec
    simpa using hspec.1
  | error e =>
    rw [hbuild] at hspec
    simpa using hspec

theorem describes_of_build {site : Site} (hbuild : s.build ambient = .ok site) :
    s.Sowable ∧ Describes ambient s site := by
  have hspec := build_spec ambient s
  rwa [hbuild] at hspec

/-! ## Seeds whose names resolve -/

/-- Names that others refer to are used once, and all references are to entries or to what every
site has. -/
structure Resolves (s : Seed) : Prop where
  usernames : (s.users.map (·.username)).Nodup
  shortnames : (s.courses.map (·.shortname)).Nodup
  keys : (s.modules.map (·.key)).Nodup
  enrolments : ∀ c ∈ s.courses, ∀ x ∈ c.enrol, s.Knows x
  moduleRoles : ∀ m ∈ s.modules, ∀ x ∈ m.roles, s.Knows x
  modules : ∀ m ∈ s.modules,
    m.course ∈ s.courses.map (·.shortname) ∧ (m.modname = "chat" ∨ m.modname = "assign")
  overrides : ∀ e ∈ s.overrides, s.KnowsOverride e
  submissions : ∀ e ∈ s.submissions,
    e.module ∈ s.modules.map (·.key) ∧ e.user ∈ s.users.map (·.username)
  badges : ∀ e ∈ s.badges, s.KnowsBadge e
  backpacks : ∀ e ∈ s.backpacks, e.user ∈ s.users.map (·.username)
  reports : ∀ record ∈ s.reports, KnowsReport record

theorem isSome_ofName? {modname : String} :
    (ModuleType.ofName? modname).isSome = true ↔ modname = "chat" ∨ modname = "assign" := by
  unfold ModuleType.ofName?
  split
  · next h => simp [h]
  · next h =>
    split
    · next h' => simp [h']
    · next h' => simp [h, h']

theorem exists_module? {key : String} (h : key ∈ s.modules.map (·.key)) :
    ∃ before m after, s.modules = before ++ m :: after ∧ m.key = key ∧
      s.module? key = some (s.moduleRecord before m) := by
  obtain ⟨before, m, after, hsplit, hkey, hfirst⟩ := exists_first h
  refine ⟨before, m, after, hsplit, hkey, ?_⟩
  rw [module?, hsplit]
  exact get?_namesOf_of_first hkey hfirst

theorem knowsSubmission_iff {e : SeedSubmission}
    (hassign : ∀ m ∈ s.modules, m.key = e.module → m.modname = "assign") :
    s.KnowsSubmission e ↔
      e.module ∈ s.modules.map (·.key) ∧ e.user ∈ s.users.map (·.username) := by
  refine and_congr_left' ⟨?_, ?_⟩
  · rintro ⟨cm, hmodule, -⟩
    exact contains_namesOf.1 (Option.isSome_iff_exists.2 ⟨cm, hmodule⟩)
  · intro hkey
    obtain ⟨before, m, after, hsplit, hm, hmodule⟩ := exists_module? hkey
    refine ⟨_, hmodule, ?_⟩
    have hname : m.modname = ModuleType.assign.name := hassign m (by rw [hsplit]; simp) hm
    rw [moduleRecord, SeedModule.instanceNumber, length_modulesOf, hsplit, List.countP_append,
      List.countP_cons, hname, if_pos (beq_self_eq_true _)]
    dsimp only
    omega

theorem sowable_iff_resolves
    (hchat : ∀ e ∈ s.submissions, ∀ m ∈ s.modules, m.key = e.module → m.modname ≠ "chat") :
    s.Sowable ↔ s.Resolves := by
  have hsubmissions (htype : ∀ m ∈ s.modules, m.modname = "chat" ∨ m.modname = "assign") :
      (∀ e ∈ s.submissions, s.KnowsSubmission e) ↔ ∀ e ∈ s.submissions,
        e.module ∈ s.modules.map (·.key) ∧ e.user ∈ s.users.map (·.username) :=
    forall₂_congr fun e he => knowsSubmission_iff fun m hm hkey =>
      (htype m hm).resolve_left (hchat e he m hm hkey)
  constructor
  · intro h
    have htype m (hm : m ∈ s.modules) := isSome_ofName?.1 (h.modules m hm).2.1
    exact
      { usernames := h.usernames
        shortnames := h.shortnames
        keys := h.keys
        enrolments := h.enrolments
        moduleRoles := fun m hm => (h.modules m hm).2.2
        modules := fun m hm => ⟨(h.modules m hm).1, htype m hm⟩
        overrides := h.overrides
        submissions := (hsubmissions htype).1 h.submissions
        badges := h.badges
        backpacks := h.backpacks
        reports := h.reports }
  · intro h
    exact
      { usernames := h.usernames
        enrolments := h.enrolments
        shortnames := h.shortnames
        modules := fun m hm =>
          ⟨(h.modules m hm).1, isSome_ofName?.2 (h.modules m hm).2, h.moduleRoles m hm⟩
        keys := h.keys
        overrides := h.overrides
        submissions := (hsubmissions fun m hm => (h.modules m hm).2).2 h.submissions
        badges := h.badges
        backpacks := h.backpacks
        reports := h.reports }

/-- A seed whose submissions are not about chats is built if and only if it resolves. -/
theorem build_isOk_iff_resolves (ambient : Ambient) (s : Seed)
    (hchat : ∀ e ∈ s.submissions, ∀ m ∈ s.modules, m.key = e.module → m.modname ≠ "chat") :
    (∃ site, s.build ambient = .ok site) ↔ s.Resolves := by
  rw [exists_build_iff, sowable_iff_resolves hchat]

/-- A student hands in an essay, and is given a badge for it. -/
def essay : Seed where
  users := [{ username := "ada", siteadmin := true }, { username := "ben", token := some "key" }]
  roles := [{ shortname := "marker" }]
  courses := [{ shortname := "writing", enrol := [⟨"ben", "student"⟩] }]
  modules := [⟨"essay", "assign", "writing", none, [⟨"ada", "marker"⟩]⟩]
  overrides := [⟨"marker", "mod/assign:grade", .allow, none, some "essay"⟩]
  submissions := [⟨"essay", "ben", .draft⟩, ⟨"essay", "ben", .submitted⟩]
  badges := [{ name := "Writer", course := some "writing", awards := [⟨"ben", some "hash"⟩] }]
  backpacks := [{ user := "ben", collections := 1 }]
  reports := [.object [("name", .string "Users"), ("source", .string Datasource.users.name)]]

/-- Texts that are drawn are counted. -/
def counting : Ambient where
  clock := ⟨100, ""⟩
  awardHash id := s!"award {id}"
  backpackUid id := s!"backpack {id}"
  entityId id := s!"entity {id}"
  token n := s!"token {n}"

theorem essay_resolves : essay.Resolves where
  usernames := by decide
  shortnames := by decide
  keys := by decide
  enrolments := by simp [essay, Knows, allRoles, Role.builtin]
  moduleRoles := by simp [essay, Knows, allRoles]
  modules := by simp [essay]
  overrides := by simp [essay, KnowsOverride, allRoles]
  submissions := by simp [essay]
  badges := by simp [essay, KnowsBadge]
  backpacks := by simp [essay]
  reports := by simp [essay, KnowsReport, Keyed.get?_cons, Datasource.all]

theorem essay_names_no_chat : ∀ e ∈ essay.submissions, ∀ m ∈ essay.modules,
    m.key = e.module → m.modname ≠ "chat" := by
  simp [essay]

theorem essay_sowable : essay.Sowable :=
  (sowable_iff_resolves essay_names_no_chat).2 essay_resolves

theorem essay_isOk : ∃ site, essay.build counting = .ok site :=
  (build_isOk_iff_resolves counting essay essay_names_no_chat).2 essay_resolves

/-! ## What a site is built with -/

theorem instanceNumber_inj {before before' after after' : List SeedModule} {m m' : SeedModule}
    (h : before ++ m :: after = before' ++ m' :: after') (hname : m.modname = m'.modname)
    (hnumber : m.instanceNumber before = m'.instanceNumber before') : m = m' := by
  unfold SeedModule.instanceNumber at hnumber
  rcases List.append_eq_append_iff.1 h with ⟨between, rfl, hrest⟩ | ⟨between, rfl, hrest⟩
  · cases between with
    | nil => exact (List.cons.inj hrest).1
    | cons x between =>
      obtain ⟨rfl, -⟩ := List.cons.inj hrest
      rw [List.countP_append, List.countP_cons, hname, if_pos (beq_self_eq_true _)] at hnumber
      omega
  · cases between with
    | nil => exact (List.cons.inj hrest).1.symm
    | cons x between =>
      obtain ⟨rfl, -⟩ := List.cons.inj hrest
      rw [List.countP_append, List.countP_cons, hname, if_pos (beq_self_eq_true _)] at hnumber
      omega

theorem isWork_iff (hsowable : s.Sowable)
    (hassign : ∀ e ∈ s.submissions, ∀ m ∈ s.modules, m.key = e.module → m.modname = "assign")
    {e x : SeedSubmission} (he : e ∈ s.submissions) (hx : x ∈ s.submissions) {cm : CourseModule}
    (hmodule : s.module? e.module = some cm) :
    s.isWork cm.instanceId (s.userNumber e.user) x = true ↔
      x.module = e.module ∧ x.user = e.user := by
  have hknown {y : SeedSubmission} (hy : y ∈ s.submissions) :=
    (knowsSubmission_iff (hassign y hy)).1 (hsowable.submissions y hy)
  constructor
  · intro hwork
    obtain ⟨before, m, after, hsplit, hkey, hm⟩ := exists_module? (hknown he).1
    obtain ⟨before', m', after', hsplit', hkey', hm'⟩ := exists_module? (hknown hx).1
    rw [hmodule] at hm
    rw [isWork, hm', Option.any_some, Bool.and_eq_true, beq_iff_eq, beq_iff_eq] at hwork
    obtain ⟨hnumber, huser⟩ := hwork
    have hname : m.modname = m'.modname := by
      rw [hassign e he m (by rw [hsplit]; simp) hkey,
        hassign x hx m' (by rw [hsplit']; simp) hkey']
    cases hm
    have hsame : m' = m :=
      instanceNumber_inj (hsplit'.symm.trans hsplit) hname.symm hnumber
    exact ⟨by rw [← hkey', ← hkey, hsame], numberOf_inj (hknown hx).2 huser⟩
  · rintro ⟨hm, hu⟩
    rw [isWork, hm, hu, hmodule]
    simp

theorem Describes.courseModule? {site : Site} {key : String} {cm : CourseModule}
    (h : Describes ambient s site) (hmodule : s.module? key = some cm) :
    site.courseModule? cm.id = some cm := by
  obtain ⟨before, m, after, hsplit, hm⟩ := mem_inTurn.1 (Keyed.mem_of_get? hmodule)
  cases hm
  rw [Site.courseModule?, h.modules]
  exact Table.get?_numbered_eq_some_iff.2 ⟨before, m, after, hsplit, rfl, rfl⟩

/-- A built site holds the seed's records, numbered by position. For each work that the submissions
are about there is one attempt, with the status of the last entry about it. -/
theorem build_describes {site : Site} (hbuild : s.build ambient = .ok site)
    (hassign : ∀ e ∈ s.submissions, ∀ m ∈ s.modules, m.key = e.module → m.modname = "assign") :
    s.Describes ambient site ∧
      ∀ before e after, s.submissions = before ++ e :: after →
        (∀ x ∈ after, ¬(x.module = e.module ∧ x.user = e.user)) →
        ∃ cm id, s.module? e.module = some cm ∧ site.courseModule? cm.id = some cm ∧
          site.attempts cm.instanceId (s.userNumber e.user) =
            [(id, .first ambient.now cm.instanceId (s.userNumber e.user) e.status id)] := by
  obtain ⟨hsowable, hsite⟩ := describes_of_build hbuild
  refine ⟨hsite, fun before e after hsplit hlast => ?_⟩
  have he : e ∈ s.submissions := by rw [hsplit]; simp
  obtain ⟨⟨cm, hmodule, -⟩, -⟩ := hsowable.submissions e he
  have hwork {x : SeedSubmission} (hx : x ∈ s.submissions) :=
    isWork_iff hsowable hassign he hx hmodule
  -- The entry is about this work, and those after it are not.
  have hafter : after.filter (s.isWork cm.instanceId (s.userNumber e.user)) = [] := by
    refine List.filter_eq_nil_iff.2 fun x hx h => hlast x hx ?_
    exact (hwork (by rw [hsplit]; simp [hx])).1 h
  have hstatus : s.lastStatus? cm.instanceId (s.userNumber e.user) = some e.status := by
    rw [lastStatus?, hsplit, List.filter_append, List.filter_cons_of_pos ((hwork he).2 ⟨rfl, rfl⟩),
      hafter, List.getLast?_concat, Option.map_some]
  obtain ⟨id, hattempts⟩ := hsite.attempts cm.instanceId (s.userNumber e.user)
  rw [hstatus] at hattempts
  exact ⟨cm, id, hmodule, hsite.courseModule? hmodule, hattempts⟩

/-- The essay counts as handed in, as the later of its two entries says. -/
theorem essay_describes : ∃ site, essay.build counting = .ok site ∧
    essay.Describes counting site ∧
    ∃ cm id, essay.module? "essay" = some cm ∧ site.courseModule? cm.id = some cm ∧
      site.attempts cm.instanceId 2 = [(id, .first 100 cm.instanceId 2 .submitted id)] := by
  have hassign : ∀ e ∈ essay.submissions, ∀ m ∈ essay.modules, m.key = e.module →
      m.modname = "assign" := by
    simp [essay]
  obtain ⟨site, hbuild⟩ := (exists_build_iff counting essay).2 essay_sowable
  obtain ⟨hsite, hwork⟩ := build_describes hbuild hassign
  exact ⟨site, hbuild, hsite, hwork [⟨"essay", "ben", .draft⟩] ⟨"essay", "ben", .submitted⟩ [] rfl
    (by simp)⟩

end Seed

end Campus
