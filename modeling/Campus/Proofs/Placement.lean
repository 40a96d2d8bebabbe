import Campus.Proofs.Operations
import Campus.Proofs.Sowing.Site

/-!
# Modules and the assignments they place

Chats and assignments are numbered apart, so a chat and an assignment may have the same number. The
assignment of a module is looked up by the number alone. For an assignment this is the one that the
module places; for a chat it is one that another module places.
-/

namespace Campus

/-- How many records of the type were made. -/
def ModuleType.issued (type : ModuleType) (s : Site) : Nat :=
  match type with
  | .chat => s.chats.issued
  | .assign => s.assignments.issued

theorem ModuleType.name_injective {type type' : ModuleType} (h : type.name = type'.name) :
    type = type' := by
  cases type <;> cases type' <;> first | rfl | exact absurd h (by decide)

namespace Site

variable {s t : Site}

/-! ## Modules of one type place different records -/

/-- Each module has a number that its type has issued, and of one type no two have the same. -/
structure PlacesApart (s : Site) : Prop where
  made : s.modules.Every fun _ cm =>
    ∃ type : ModuleType, cm.modname = type.name ∧ cm.instanceId ≤ (type.issued s : Int)
  apart : ∀ id id' cm cm', s.courseModule? id = some cm → s.courseModule? id' = some cm' →
    cm.modname = cm'.modname → cm.instanceId = cm'.instanceId → id = id'

theorem placesApart_new (wwwroot : String) : ({ wwwroot } : Site).PlacesApart where
  made := Table.every_empty
  apart := nofun

theorem ModuleType.issued_le (type : ModuleType) (h : s.IssuesFrom t) :
    type.issued s ≤ type.issued t := by
  cases type with
  | chat => exact h.chats
  | assign => exact h.assignments

theorem PlacesApart.of_modules (hs : s.PlacesApart) (hmodules : t.modules.rows = s.modules.rows)
    (hissued : s.IssuesFrom t) : t.PlacesApart := by
  have hget (id : Int) : t.courseModule? id = s.courseModule? id :=
    congrArg (Keyed.get? id) hmodules
  constructor
  · intro id cm hcm
    obtain ⟨type, hname, hle⟩ := hs.made id cm ((hget id).symm.trans hcm)
    have := ModuleType.issued_le type hissued
    exact ⟨type, hname, by omega⟩
  · intro id id' cm cm' hcm hcm'
    exact hs.apart id id' cm cm' ((hget id).symm.trans hcm) ((hget id').symm.trans hcm')

theorem addInstance_number (type : ModuleType) (course cmid : Int) (s : Site) :
    ((Fixture.addInstance type course cmid) s).1 = type.issued s + 1 := by
  cases type <;> rfl

theorem issued_addInstance (type other : ModuleType) (course cmid : Int) (s : Site) :
    other.issued ((Fixture.addInstance type course cmid) s).2 =
      other.issued s + if other = type then 1 else 0 := by
  cases type <;> cases other <;> rfl

theorem PlacesApart.add (hs : s.PlacesApart) {type : ModuleType} {make : Int → CourseModule}
    (hname : (make s.modules.nextId).modname = type.name)
    (hnumber : (make s.modules.nextId).instanceId = (type.issued s : Int) + 1)
    (hmodules : t.modules = (s.modules.add make).2)
    (hissued : ∀ other : ModuleType,
      other.issued t = other.issued s + if other = type then 1 else 0) :
    t.PlacesApart := by
  have hget (id : Int) : t.courseModule? id =
      if s.modules.nextId = id then some (make s.modules.nextId) else s.courseModule? id := by
    rw [courseModule?, hmodules]
    exact Table.get?_put s.modules.nextId _ s.modules.skip id
  have hnew : ∀ id cm, s.courseModule? id = some cm →
      cm.modname = (make s.modules.nextId).modname →
      cm.instanceId ≠ (make s.modules.nextId).instanceId := by
    intro id cm hcm hsame
    obtain ⟨other, hother, hle⟩ := hs.made id cm hcm
    obtain rfl := ModuleType.name_injective (hname.symm.trans (hsame.symm.trans hother))
    omega
  constructor
  · rw [hmodules]
    refine Table.Every.add ?_ ⟨type, hname, ?_⟩
    · refine hs.made.imp fun id cm hmade => ?_
      obtain ⟨other, hother, hle⟩ := hmade
      have := hissued other
      exact ⟨other, hother, by omega⟩
    · have := hissued type
      rw [if_pos rfl] at this
      omega
  · intro id id' cm cm' hcm hcm' hname hinstance
    rw [hget] at hcm hcm'
    split at hcm <;> split at hcm'
    · next hid hid' => exact hid.symm.trans hid'
    · cases hcm
      exact absurd hinstance.symm (hnew id' cm' hcm' hname.symm)
    · cases hcm'
      exact absurd hinstance (hnew id cm hcm hname)
    · exact hs.apart id id' cm cm' hcm hcm' hname hinstance

theorem Write.modules_cases (h : s.Write t) : t.modules.rows = s.modules.rows ∨
    ∃ (type : ModuleType) (make : Int → CourseModule),
      (make s.modules.nextId).modname = type.name ∧
      (make s.modules.nextId).instanceId = (type.issued s : Int) + 1 ∧
      t.modules = (s.modules.add make).2 ∧
      ∀ other : ModuleType, other.issued t = other.issued s + if other = type then 1 else 0 := by
  cases h with
  | addModule type course =>
    let make (id : Int) : CourseModule :=
      { id, course, modname := type.name
        instanceId := ((Fixture.addInstance type course s.modules.nextId) s).1 }
    exact .inr ⟨type, make, rfl, addInstance_number type course s.modules.nextId s, rfl,
      fun other => issued_addInstance type other course s.modules.nextId s⟩
  | deleteInstance cm =>
    obtain ⟨assignments, chats, hafter⟩ := exists_deleteModuleInstance cm s
    rw [hafter]
    exact .inl rfl
  | renameInstance cm name =>
    obtain ⟨assignments, chats, hafter⟩ := exists_renameInstance cm name s
    rw [hafter]
    exact .inl rfl
  | moveLatest now assignment userid status =>
    obtain ⟨submissions, hafter⟩ := exists_moveLatest now status assignment userid s
    rw [hafter]
    exact .inl rfl
  | _ => exact .inl rfl

theorem Write.placesApart (h : s.Write t) (hs : s.PlacesApart) : t.PlacesApart := by
  rcases h.modules_cases with hmodules | ⟨type, make, hname, hnumber, hmodules, hissued⟩
  · exact hs.of_modules hmodules h.evolves.issued
  · exact hs.add hname hnumber hmodules hissued

end Site

namespace Operation

theorem placesApart_runAll (ops : List Operation) {s : Site} (hs : s.PlacesApart) :
    (runAll ops s).PlacesApart :=
  keeps_runAll ops (fun _ _ _ hwrite => hwrite.placesApart)
    (fun _ _ _ h => ⟨h.made, h.apart⟩) hs

end Operation

/-! ## Looking up by the number -/

namespace Site

variable {s : Site} {id : Int} {cm : CourseModule} {a : Assignment}

theorem PlacesApart.cmid_eq_iff (hp : s.PlacesApart) (hs : s.Consistent)
    (hcm : s.courseModule? id = some cm) (ha : s.assignment? cm.instanceId = some a) :
    a.cmid = cm.id ↔ cm.modname = "assign" := by
  have hid : cm.id = id := hs.modules.own id cm hcm
  have hnumber : a.id = cm.instanceId := hs.assignments.own _ a ha
  obtain ⟨placing, hplacing, hplaces⟩ := hs.assignmentModule _ a ha
  constructor
  · intro hcmid
    rw [hcmid, hid] at hplacing
    rw [← hplaces.modname, Option.some.inj (hcm.symm.trans hplacing)]
  · intro hname
    rw [hid]
    exact hp.apart a.cmid id placing cm hplacing hcm (hplaces.modname.trans hname.symm)
      (hplaces.instanceId.trans hnumber)

theorem Consistent.assignment_of_cmid (hs : s.Consistent) (hcm : s.courseModule? id = some cm)
    (ha : s.assignment? a.id = some a) (hcmid : a.cmid = cm.id) :
    s.assignment? cm.instanceId = some a := by
  obtain ⟨placing, hplacing, hplaces⟩ := hs.assignmentModule _ a ha
  rw [hcmid, hs.modules.own id cm hcm] at hplacing
  rwa [Option.some.inj (hcm.symm.trans hplacing), hplaces.instanceId]

/-- Looking up changes nothing. It finds the assignment of the number, which is the module's own if
and only if the module is an assignment; or the module has none. -/
theorem PlacesApart.assignInstance_cases (hp : s.PlacesApart) (hs : s.Consistent)
    (hcm : s.courseModule? id = some cm) :
    (∃ a, Fixture.assignInstance cm s = (.ok a, s) ∧ s.assignment? cm.instanceId = some a ∧
      (a.cmid = cm.id ↔ cm.modname = "assign")) ∨
    (Fixture.assignInstance cm s = (.error (.site (.moduleNotFound cm.id)), s) ∧
      ∀ number a, s.assignment? number = some a → a.cmid ≠ cm.id) := by
  cases ha : s.assignment? cm.instanceId with
  | some a =>
    refine .inl ⟨a, ?_, rfl, hp.cmid_eq_iff hs hcm ha⟩
    rw [Fixture.assignInstance, Run.bind_apply, Run.get_apply]
    simp only [ha]
    rfl
  | none =>
    refine .inr ⟨?_, fun number a hnumber hcmid => ?_⟩
    · rw [Fixture.assignInstance, Run.bind_apply, Run.get_apply]
      simp only [ha]
      rfl
    · have hid : a.id = number := hs.assignments.own number a hnumber
      rw [hs.assignment_of_cmid hcm (hid ▸ hnumber) hcmid] at ha
      cases ha

end Site

/-! ## Submissions of a seed -/

namespace Seed

variable {ambient : Ambient} {seed : Seed} {site : Site}

theorem exists_runAll_of_build (hbuild : seed.build ambient = .ok site) :
    ∃ wwwroot, site = Operation.runAll [.addDefaults, .sow ambient seed] { wwwroot } := by
  obtain ⟨wwwroot, hrun⟩ := build_eq ambient seed
  refine ⟨wwwroot, ?_⟩
  rw [hbuild] at hrun
  show site = ((seed.apply ambient) ({ wwwroot } : Site).withDefaults).2
  split at hrun
  · next hsite =>
    rw [hsite]
    exact Except.ok.inj hrun
  · cases hrun

theorem exists_attempts_of_build (hbuild : seed.build ambient = .ok site) {e : SeedSubmission}
    (he : e ∈ seed.submissions) : ∃ cm a id sub, seed.module? e.module = some cm ∧
      site.courseModule? cm.id = some cm ∧ site.assignment? cm.instanceId = some a ∧
      site.attempts a.id (seed.userNumber e.user) = [(id, sub)] := by
  obtain ⟨hsowable, hsite⟩ := describes_of_build hbuild
  obtain ⟨⟨cm, hmodule, hle⟩, -⟩ := hsowable.submissions e he
  have hthere : site.assignments.contains cm.instanceId = true := by
    rw [hsite.assignments]
    exact Table.contains_numbered.2 ⟨one_le_instanceId hmodule, hle⟩
  obtain ⟨a, ha⟩ := Table.contains_iff.1 hthere
  -- The entry itself is about this work.
  have hwork : seed.isWork cm.instanceId (seed.userNumber e.user) e = true := by
    rw [isWork, hmodule]
    simp
  have hstatus : (seed.lastStatus? cm.instanceId (seed.userNumber e.user)).isSome = true := by
    rw [lastStatus?, Option.isSome_map, List.getLast?_isSome]
    exact List.ne_nil_of_mem (List.mem_filter.2 ⟨he, hwork⟩)
  obtain ⟨status, hstatus⟩ := Option.isSome_iff_exists.1 hstatus
  obtain ⟨id, hattempts⟩ := hsite.attempts cm.instanceId (seed.userNumber e.user)
  rw [hstatus] at hattempts
  have hnumber : a.id = cm.instanceId := by
    rw [hsite.assignments] at ha
    obtain ⟨before, placed, after, -, hid, rfl⟩ := Table.get?_numbered_eq_some_iff.1 ha
    exact hid
  exact ⟨cm, a, id, _, hmodule, hsite.courseModule? hmodule, ha, hnumber ▸ hattempts⟩

end Seed

/-! ## Looking up the assignment behind a module -/

/-- Whatever was done to a site, the assignment that is looked up for one of its modules is the
module's own if and only if the module is an assignment, and if there is none to give the module has
none. So work that a seed stores is at the assignment of the module that its entry names if and only
if that module is an assignment. -/
theorem assignInstance_finds_own_iff (wwwroot : String) (ops : List Operation) (ambient : Ambient)
    (seed : Seed) :
    (∀ s, s = Operation.runAll ops { wwwroot } → ∀ id cm, s.courseModule? id = some cm →
      (∃ a, Fixture.assignInstance cm s = (.ok a, s) ∧ s.assignment? cm.instanceId = some a ∧
        (a.cmid = cm.id ↔ cm.modname = "assign")) ∨
      (Fixture.assignInstance cm s = (.error (.site (.moduleNotFound cm.id)), s) ∧
        ∀ number a, s.assignment? number = some a → a.cmid ≠ cm.id)) ∧
    ∀ site, seed.build ambient = .ok site → ∀ e ∈ seed.submissions,
      ∃ cm a id sub, seed.module? e.module = some cm ∧ site.courseModule? cm.id = some cm ∧
        site.assignment? cm.instanceId = some a ∧
        site.attempts a.id (seed.userNumber e.user) = [(id, sub)] ∧
        (a.cmid = cm.id ↔ cm.modname = "assign") := by
  have hconsistent (wwwroot : String) (ops : List Operation) :
      (Operation.runAll ops { wwwroot }).Consistent :=
    (Operation.evolves_runAll ops _).consistent (Site.consistent_new wwwroot)
  have happart (wwwroot : String) (ops : List Operation) :
      (Operation.runAll ops { wwwroot }).PlacesApart :=
    Operation.placesApart_runAll ops (Site.placesApart_new wwwroot)
  constructor
  · rintro s rfl id cm hcm
    exact (happart wwwroot ops).assignInstance_cases (hconsistent wwwroot ops) hcm
  · intro site hbuild e he
    obtain ⟨cm, a, id, sub, hmodule, hcm, ha, hattempts⟩ := Seed.exists_attempts_of_build hbuild he
    obtain ⟨wwwroot, rfl⟩ := Seed.exists_runAll_of_build hbuild
    exact ⟨cm, a, id, sub, hmodule, hcm, ha, hattempts,
      (happart wwwroot _).cmid_eq_iff (hconsistent wwwroot _) hcm ha⟩

/-- A chat and an assignment, each the first of its type. -/
def chatAndAssignment : List Operation :=
  [.createCourse, .createModule "chat" 1, .createModule "assign" 1]

theorem second_module_finds_own :
    (∃ a, Fixture.assignInstance ⟨2, 1, "assign", 1⟩ (Operation.runAll chatAndAssignment {}) =
      (.ok a, Operation.runAll chatAndAssignment {}) ∧ a.cmid = 2) ∧
    ∃ site, Seed.essay.build Seed.counting = .ok site ∧
      ∃ cm a id sub, Seed.essay.module? "essay" = some cm ∧
        site.assignment? cm.instanceId = some a ∧ site.attempts a.id 2 = [(id, sub)] ∧
        a.cmid = cm.id := by
  obtain ⟨hops, hseed⟩ := assignInstance_finds_own_iff ({} : Site).wwwroot chatAndAssignment
    Seed.counting Seed.essay
  obtain ⟨site, hbuild⟩ := (Seed.exists_build_iff Seed.counting Seed.essay).2 Seed.essay_sowable
  refine ⟨?_, site, hbuild, ?_⟩
  · rcases hops _ rfl 2 ⟨2, 1, "assign", 1⟩ rfl with ⟨a, hrun, -, hown⟩ | ⟨hrun, -⟩
    · exact ⟨a, hrun, hown.2 rfl⟩
    · cases hrun
  · obtain ⟨cm, a, id, sub, hmodule, -, ha, hattempts, hown⟩ :=
      hseed site hbuild ⟨"essay", "ben", .submitted⟩ (by simp [Seed.essay])
    have hname : cm.modname = "assign" := by
      have hessay : Seed.essay.module? "essay" = some ⟨1, 1, "assign", 1⟩ := by decide
      rw [Option.some.inj (hmodule.symm.trans hessay)]
    exact ⟨cm, a, id, sub, hmodule, ha, hattempts, hown.2 hname⟩

/-- Work is handed in at a chat, which has the number of an assignment. -/
def Seed.talk : Seed where
  users := [{ username := "ada" }]
  courses := [{ shortname := "writing" }]
  modules := [⟨"talk", "chat", "writing", none, []⟩, ⟨"essay", "assign", "writing", none, []⟩]
  submissions := [⟨"talk", "ada", .draft⟩]

theorem Seed.talk_sowable : talk.Sowable where
  usernames := by decide
  enrolments := by simp [talk]
  shortnames := by decide
  modules := by simp [talk, ModuleType.ofName?]
  keys := by decide
  overrides := by simp [talk]
  submissions := by simp [talk, KnowsSubmission]; decide
  badges := by simp [talk]
  backpacks := by simp [talk]
  reports := by simp [talk]

/-- For the chat the assignment of the other module is found, and there the work is stored. -/
theorem chat_finds_assignment_of_other :
    (∃ a, (Operation.runAll chatAndAssignment {}).courseModule? 1 = some ⟨1, 1, "chat", 1⟩ ∧
      (Fixture.assignInstance ⟨1, 1, "chat", 1⟩ (Operation.runAll chatAndAssignment {})).1 =
        .ok a ∧ a.cmid = 2) ∧
    ∃ site, Seed.talk.build Seed.counting = .ok site ∧
      ∃ a id sub, Seed.talk.module? "talk" = some ⟨1, 1, "chat", 1⟩ ∧
        site.assignment? a.id = some a ∧ site.attempts a.id 1 = [(id, sub)] ∧ a.cmid = 2 := by
  refine ⟨⟨⟨1, 1, 2, "Assignment 1"⟩, rfl, rfl, rfl⟩, ?_⟩
  obtain ⟨site, hbuild⟩ := (Seed.exists_build_iff Seed.counting Seed.talk).2 Seed.talk_sowable
  obtain ⟨cm, a, id, sub, hmodule, -, ha, hattempts⟩ :=
    Seed.exists_attempts_of_build hbuild (e := ⟨"talk", "ada", .draft⟩) (by simp [Seed.talk])
  have htalk : Seed.talk.module? "talk" = some ⟨1, 1, "chat", 1⟩ := by decide
  obtain rfl := Option.some.inj (htalk.symm.trans hmodule)
  have hfirst : site.assignment? 1 = some ⟨1, 1, 2, "Assignment 1"⟩ := by
    rw [Site.assignment?, (Seed.describes_of_build hbuild).2.assignments]
    rfl
  obtain rfl := Option.some.inj (hfirst.symm.trans ha)
  exact ⟨site, hbuild, _, id, sub, htalk, hfirst, hattempts, rfl⟩

end Campus
