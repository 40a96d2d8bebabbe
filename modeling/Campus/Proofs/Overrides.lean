import Campus.Proofs.Sowing.Roles

/-!
# Overrides

An override is about one capability of one role in one context. Of the calls that make one, only the
latest about the same counts, whatever else was done to the site in between: a later call withdraws
what an earlier one allowed and lifts what it prohibited.
-/

namespace Campus

open Change Site

/-! ## The latest calls -/

namespace RoleOverride

variable {o x : RoleOverride} {made overrides : List RoleOverride} {p : RoleOverride → Bool}

/-- What an override is about. -/
def target (o : RoleOverride) : Int × String × Context := (o.roleid, o.capability, o.context)

/-- An override takes the place of those about the same, as the last one. -/
def put (overrides : List RoleOverride) (o : RoleOverride) : List RoleOverride :=
  overrides.filter (·.target ≠ o.target) ++ [o]

/-- No later call is about the same. -/
def IsLatestIn (made : List RoleOverride) (o : RoleOverride) : Prop :=
  ∃ before after, made = before ++ o :: after ∧ ∀ later ∈ after, later.target ≠ o.target

/-- The calls that no later one is about the same as, in their order. -/
def latest : List RoleOverride → List RoleOverride
  | [] => []
  | o :: rest => if o.target ∈ rest.map target then latest rest else o :: latest rest

theorem latest_sublist (made : List RoleOverride) : (latest made).Sublist made := by
  induction made with
  | nil => exact .slnil
  | cons o rest ih =>
    unfold latest
    split
    · exact ih.cons o
    · exact ih.cons_cons o

theorem nodup_latest (made : List RoleOverride) : ((latest made).map target).Nodup := by
  induction made with
  | nil => exact .nil
  | cons o rest ih =>
    unfold latest
    split
    · exact ih
    · next hlast =>
      refine List.nodup_cons.2 ⟨fun hagain => hlast ?_, ih⟩
      exact ((latest_sublist rest).map target).subset hagain

theorem isLatestIn_cons :
    o.IsLatestIn (x :: made) ↔ (o = x ∧ o.target ∉ made.map target) ∨ o.IsLatestIn made := by
  constructor
  · rintro ⟨before, after, hmade, hlast⟩
    cases before with
    | nil =>
      obtain ⟨rfl, rfl⟩ := List.cons.inj hmade
      refine .inl ⟨rfl, fun hagain => ?_⟩
      obtain ⟨later, hlater, hsame⟩ := List.mem_map.1 hagain
      exact hlast later hlater hsame
    | cons _ before => exact .inr ⟨before, after, (List.cons.inj hmade).2, hlast⟩
  · rintro (⟨rfl, hlast⟩ | ⟨before, after, rfl, hlast⟩)
    · exact ⟨[], made, rfl, fun later hlater hsame =>
        hlast (List.mem_map.2 ⟨later, hlater, hsame⟩)⟩
    · exact ⟨x :: before, after, rfl, hlast⟩

theorem mem_latest_iff : o ∈ latest made ↔ o.IsLatestIn made := by
  induction made with
  | nil =>
    refine ⟨nofun, ?_⟩
    rintro ⟨before, after, hmade, -⟩
    cases before <;> cases hmade
  | cons x rest ih =>
    rw [isLatestIn_cons, ← ih, latest]
    split
    · next hagain =>
      refine (or_iff_right ?_).symm
      rintro ⟨rfl, hlast⟩
      exact hlast hagain
    · next hlast =>
      rw [List.mem_cons]
      refine or_congr_left (and_iff_left_of_imp ?_).symm
      rintro rfl
      exact hlast

theorem latest_concat (made : List RoleOverride) (o : RoleOverride) :
    latest (made ++ [o]) = put (latest made) o := by
  induction made with
  | nil => rfl
  | cons x rest ih =>
    have hlater : x.target ∈ (rest ++ [o]).map target ↔
        x.target ∈ rest.map target ∨ x.target = o.target := by
      rw [List.map_append, List.mem_append, List.map_singleton, List.mem_singleton]
    rw [List.cons_append, latest, latest, ih]
    by_cases hagain : x.target ∈ rest.map target
    · rw [if_pos (hlater.2 (.inl hagain)), if_pos hagain]
    · rw [if_neg hagain]
      by_cases hsame : x.target = o.target
      · rw [if_pos (hlater.2 (.inr hsame)), put, put,
          List.filter_cons_of_neg (by simpa using hsame)]
      · rw [if_neg (hlater.not.2 (not_or.2 ⟨hagain, hsame⟩)), put, put,
          List.filter_cons_of_pos (by simpa using hsame), List.cons_append]

theorem foldl_put_latest (made more : List RoleOverride) :
    more.foldl put (latest made) = latest (made ++ more) := by
  induction more generalizing made with
  | nil => rw [List.append_nil, List.foldl_nil]
  | cons o rest ih =>
    rw [List.foldl_cons, ← latest_concat, ih, List.append_assoc, List.singleton_append]

theorem filter_put (h : ∀ x : RoleOverride, x.target = o.target → p x = false) :
    (put overrides o).filter p = overrides.filter p := by
  rw [put, List.filter_append, List.filter_cons_of_neg (by simp [h o rfl]), List.filter_nil,
    List.append_nil, List.filter_filter]
  refine List.filter_congr fun x _ => ?_
  by_cases hsame : x.target = o.target
  · simp [h x hsame]
  · simp [hsame]

theorem filter_foldl_put
    (h : ∀ x : RoleOverride, x.target ∈ made.map target → p x = false) :
    (made.foldl put overrides).filter p = overrides.filter p := by
  induction made generalizing overrides with
  | nil => rfl
  | cons o rest ih =>
    rw [List.foldl_cons, ih fun x hx => h x (List.mem_cons_of_mem _ hx)]
    refine filter_put fun x hsame => h x ?_
    rw [hsame]
    exact List.mem_cons_self

theorem filter_put_self (overrides : List RoleOverride) (o : RoleOverride) :
    (put overrides o).filter (·.target = o.target) = [o] := by
  rw [put, List.filter_append, List.filter_filter]
  simp

end RoleOverride

/-! ## Calls of fixtures and seeds -/

theorem Fixture.assignCapability_site (capability : String) (permission : Permission)
    (roleid : Int) (context : Context) (s : Site) :
    (assignCapability capability permission roleid context s).2 =
      { s with
        roleOverrides := RoleOverride.put s.roleOverrides
          ⟨roleid, capability, permission, context⟩ } := by
  have hkept (o : RoleOverride) :
      (!(o.roleid == roleid && o.capability == capability && o.context == context)) =
        decide (o.target ≠ (roleid, capability, context)) := by
    rw [Bool.eq_iff_iff]
    simp [RoleOverride.target, or_assoc]
  exact congrArg
    (fun overrides => { s with
      roleOverrides := overrides ++ [RoleOverride.mk roleid capability permission context] })
    (List.filter_congr fun o _ => hkept o)

namespace Seed

/-- The context that an entry names, if what it names has been made. -/
def contextOf? (made : Made) (e : SeedOverride) : Option Context :=
  match e.module, e.course with
  | some m, _ => (Keyed.get? m made.modules).map (Context.module ·.id)
  | none, some c => (Keyed.get? c made.courses).map Context.course
  | none, none => some .system

/-- The override that an entry stands for, if what it names is there. -/
def override? (made : Made) (s : Site) (e : SeedOverride) : Option RoleOverride :=
  match contextOf? made e, s.roleNamed? e.role with
  | some context, some role => some ⟨role.id, e.capability, e.permission, context⟩
  | _, _ => none

/-- The overrides of the entries before the first that fails. -/
def overridesUpTo (made : Made) (s : Site) : List SeedOverride → List RoleOverride
  | [] => []
  | e :: rest =>
    match override? made s e with
    | some o => o :: overridesUpTo made s rest
    | none => []

/-- The overrides that a seed makes on a site. There are none if something before them fails. -/
def overridesMade (seed : Seed) (s : Site) : List RoleOverride :=
  match seed.prepare s with
  | (.ok made, t) => overridesUpTo made t seed.overrides
  | (.error _, _) => []

variable {made : Made} {e : SeedOverride} {s : Site} {o : RoleOverride}

theorem map_require {ε α β : Type} (error : ε) (a : Option α) (f : α → β) :
    f <$> require error a = require error (a.map f) := by
  cases a <;> rfl

theorem exists_makeOverride_eq (made : Made) (e : SeedOverride) : ∃ error,
    makeOverride made e = (do
      let context ← require error (contextOf? made e)
      let role ← roleId e.role
      Fixture.assignCapability e.capability e.permission role context) := by
  unfold makeOverride contextOf? lookUp
  cases e.module with
  | some m => exact ⟨_, by rw [← map_require]⟩
  | none =>
    cases e.course with
    | some c => exact ⟨_, by rw [← map_require]⟩
    | none => exact ⟨.missingProperty "course", rfl⟩

theorem makeOverride_of_some (h : override? made s e = some o) :
    (makeOverride made e) s =
      (.ok (), { s with roleOverrides := RoleOverride.put s.roleOverrides o }) := by
  obtain ⟨error, heq⟩ := exists_makeOverride_eq made e
  unfold override? at h
  split at h
  · next context role hcontext hrole =>
    cases h
    rw [heq, hcontext, ← Fixture.assignCapability_site]
    simp only [Run.bind_apply, require, roleId, Run.pure_apply, Run.get_apply, hrole]
    rfl
  · cases h

theorem exists_makeOverride_of_none (h : override? made s e = none) :
    ∃ error, (makeOverride made e) s = (.error error, s) := by
  obtain ⟨error, heq⟩ := exists_makeOverride_eq made e
  unfold override? at h
  cases hcontext : contextOf? made e with
  | none =>
    rw [heq, hcontext]
    exact ⟨error, rfl⟩
  | some context =>
    cases hrole : s.roleNamed? e.role with
    | none =>
      rw [heq, hcontext]
      simp only [Run.bind_apply, require, roleId, Run.pure_apply, Run.get_apply, hrole]
      exact ⟨_, rfl⟩
    | some role =>
      rw [hcontext, hrole] at h
      cases h

/-- Overrides leave the roles alone, so an entry stands for the same before and after others. -/
theorem overridesUpTo_of_roleOverrides (made : Made) (s : Site) (overrides : List RoleOverride)
    (es : List SeedOverride) :
    overridesUpTo made { s with roleOverrides := overrides } es = overridesUpTo made s es := by
  induction es with
  | nil => rfl
  | cons e rest ih =>
    unfold overridesUpTo
    rw [ih]
    rfl

theorem each_makeOverride_site (made : Made) (es : List SeedOverride) (s : Site) :
    ((each (makeOverride made) es) s).2 =
      { s with
        roleOverrides := (overridesUpTo made s es).foldl RoleOverride.put s.roleOverrides } := by
  induction es generalizing s with
  | nil => rfl
  | cons e rest ih =>
    unfold each overridesUpTo
    rw [Run.bind_apply]
    cases ho : override? made s e with
    | none =>
      obtain ⟨error, hfails⟩ := exists_makeOverride_of_none ho
      rw [hfails]
      rfl
    | some o =>
      rw [makeOverride_of_some ho]
      dsimp only
      rw [ih, overridesUpTo_of_roleOverrides, List.foldl_cons]

theorem roleOverrides_apply (ambient : Ambient) (seed : Seed) (s : Site) :
    ((seed.apply ambient) s).2.roleOverrides =
      (seed.overridesMade s).foldl RoleOverride.put s.roleOverrides := by
  have hprepare : s.KeepsOverrides (seed.prepare s).2 := keepsOverrides_prepare seed s
  rw [apply_eq, Run.bind_apply, overridesMade]
  rcases hmade : seed.prepare s with ⟨error | made, t⟩
  · rw [hmade] at hprepare
    exact hprepare
  · rw [hmade] at hprepare
    have hfinish : ((each (makeOverride made) seed.overrides) t).2.KeepsOverrides
        ((each (makeOverride made) seed.overrides >>= fun _ => seed.finish ambient made) t).2 :=
      bind_site_of_follows _ (fun _ => keepsOverrides_finish ambient seed made) t
    rw [each_makeOverride_site] at hfinish
    have hbefore : t.roleOverrides = s.roleOverrides := hprepare
    rw [hbefore] at hfinish
    exact hfinish

end Seed

/-! ## What overrides bring -/

namespace Site

variable {s : Site} {userid : Int} {path : ContextPath} {capability : String}

/-- The override is of a role of the user's and holds at a place of the path. -/
def Concerns (s : Site) (userid : Int) (path : ContextPath) (o : RoleOverride) : Prop :=
  ∃ role assigned, (role, assigned) ∈ assignedRoles userid s.roles.records s.roleAssignments ∧
    o.roleid = role.id ∧
      ∃ place ∈ path, overrideContext? s.courseOfModule assigned o.context = some place

/-- An override that concerns the user on the path gives a permission. -/
def Overrides (s : Site) (userid : Int) (path : ContextPath) (capability : String)
    (permission : Permission) (o : RoleOverride) : Prop :=
  s.Concerns userid path o ∧ o.capability = capability ∧ o.permission = permission

theorem onPath_flatMap_overrideGrants (permission : Permission) :
    Capabilities.onPath capability path
        ((assignedRoles userid s.roles.records s.roleAssignments).flatMap fun (role, assigned) =>
          overrideGrants s.courseOfModule s.roleOverrides role assigned permission) = true ↔
      ∃ o ∈ s.roleOverrides, s.Overrides userid path capability permission o := by
  simp only [Capabilities.onPath_iff, List.mem_flatMap, mem_overrideGrants]
  constructor
  · rintro ⟨place, hplace, ⟨role, assigned⟩, hrole, o, ho, hid, hcapability, hpermission, hat⟩
    exact ⟨o, ho, ⟨role, assigned, hrole, hid, place, hplace, hat⟩, hcapability, hpermission⟩
  · rintro ⟨o, ho, ⟨role, assigned, hrole, hid, place, hplace, hat⟩, hcapability, hpermission⟩
    exact ⟨place, hplace, (role, assigned), hrole, o, ho, hid, hcapability, hpermission, hat⟩

theorem onPath_flatMap_append {α : Type} (grants more : α → List (String × Context))
    (as : List α) :
    Capabilities.onPath capability path (as.flatMap fun a => grants a ++ more a) = true ↔
      Capabilities.onPath capability path (as.flatMap grants) = true ∨
        Capabilities.onPath capability path (as.flatMap more) = true := by
  simp only [Capabilities.onPath_iff, List.mem_flatMap, List.mem_append, and_or_left, exists_or]

theorem has_capabilitiesFor_iff_overrides :
    (s.capabilitiesFor userid).has capability path = true ↔
      (∃ user, s.user? userid = some user ∧ user.siteadmin = true) ∨
        ((∃ role, AssignedOn userid s.roles.records s.roleAssignments path role ∧
            capability ∈ role.capabilities) ∨
          ∃ o ∈ s.roleOverrides, s.Overrides userid path capability .allow o) ∧
        ¬∃ o ∈ s.roleOverrides, s.Overrides userid path capability .prohibit o := by
  have hlisted : Capabilities.onPath capability path
      ((assignedRoles userid s.roles.records s.roleAssignments).flatMap fun (role, assigned) =>
        role.capabilities.map (·, assigned)) = true ↔
        ∃ role, AssignedOn userid s.roles.records s.roleAssignments path role ∧
          capability ∈ role.capabilities :=
    onPath_flatMap_assignedRoles fun role context => onPath_ownCapabilities role context capability
  rw [has_capabilitiesFor_iff, Permits, ← onPath_flatMap_overrideGrants,
    ← onPath_flatMap_overrideGrants, ← hlisted, ← onPath_flatMap_append]
  refine or_congr_right ?_
  simp only [Capabilities.has, resolveCapabilities, Bool.false_or, Bool.and_eq_true,
    Bool.not_eq_true', Bool.not_eq_true, and_comm]

/-- Of the calls made, those that no later one is about the same as are the overrides, in their
order, and nothing else decides what users may do beyond what their roles list. -/
structure HoldsLatest (s : Site) (made : List RoleOverride) : Prop where
  overrides : s.roleOverrides = RoleOverride.latest made
  single : (s.roleOverrides.map (·.target)).Nodup
  isLatest : ∀ o, o ∈ s.roleOverrides ↔ o.IsLatestIn made
  has_iff : ∀ userid capability path, (s.capabilitiesFor userid).has capability path = true ↔
    (∃ user, s.user? userid = some user ∧ user.siteadmin = true) ∨
      ((∃ role, AssignedOn userid s.roles.records s.roleAssignments path role ∧
          capability ∈ role.capabilities) ∨
        ∃ o, o.IsLatestIn made ∧ s.Overrides userid path capability .allow o) ∧
      ¬∃ o, o.IsLatestIn made ∧ s.Overrides userid path capability .prohibit o

theorem holdsLatest_of_overrides {made : List RoleOverride}
    (h : s.roleOverrides = RoleOverride.latest made) : s.HoldsLatest made where
  overrides := h
  single := by
    rw [h]
    exact RoleOverride.nodup_latest made
  isLatest o := by rw [h, RoleOverride.mem_latest_iff]
  has_iff userid capability path := by
    rw [has_capabilitiesFor_iff_overrides, h]
    simp only [RoleOverride.mem_latest_iff]

end Site

/-! ## Operations -/

namespace Operation

/-- The overrides that an operation calls for. -/
def overridesMade : Operation → Site → List RoleOverride
  | assignCapability capability permission roleid context, _ =>
    [⟨roleid, capability, permission, context⟩]
  | sow _ seed, s => seed.overridesMade s
  | _, _ => []

/-- The overrides that operations call for, one after the other. -/
def allOverridesMade : List Operation → Site → List RoleOverride
  | [], _ => []
  | op :: rest, s => op.overridesMade s ++ allOverridesMade rest (op.run s)

theorem roleOverrides_run (op : Operation) (s : Site) :
    (op.run s).roleOverrides = (op.overridesMade s).foldl RoleOverride.put s.roleOverrides := by
  cases op with
  | assignCapability capability permission roleid context =>
    exact congrArg Site.roleOverrides
      (Fixture.assignCapability_site capability permission roleid context s)
  | issueBadge ambient badgeid userid =>
    exact Fixture.keepsOverrides_issueBadge ambient badgeid userid s
  | sow ambient seed => exact Seed.roleOverrides_apply ambient seed s
  | call features strings clock function token arguments =>
    obtain ⟨submissions, events, hafter⟩ :=
      exists_run_call features strings clock function token arguments s
    rw [hafter]
    rfl
  | _ => exact (plain_run (by exact trivial) s).overrides

theorem roleOverrides_runAll (ops : List Operation) (s : Site) :
    (runAll ops s).roleOverrides =
      (allOverridesMade ops s).foldl RoleOverride.put s.roleOverrides := by
  induction ops generalizing s with
  | nil => rfl
  | cons op rest ih =>
    rw [allOverridesMade, List.foldl_append, ← roleOverrides_run, ← ih]
    rfl

/-- Whatever was done to a site, of the calls about the same only the latest counts. What an
operation calls for leaves the overrides about anything else as they are, in their order, and what a
call says is all that is left about the same. -/
theorem holdsLatest_runAll (wwwroot : String) (ops : List Operation) :
    let s := runAll ops { wwwroot }
    s.HoldsLatest (allOverridesMade ops { wwwroot }) ∧
      (∀ op : Operation,
        (op.run s).roleOverrides.filter (·.target ∉ (op.overridesMade s).map (·.target)) =
          s.roleOverrides.filter (·.target ∉ (op.overridesMade s).map (·.target))) ∧
      ∀ capability permission roleid context,
        ((assignCapability capability permission roleid context).run s).roleOverrides.filter
            (·.target = (roleid, capability, context)) =
          [⟨roleid, capability, permission, context⟩] := by
  intro s
  refine ⟨Site.holdsLatest_of_overrides ?_, fun op => ?_, ?_⟩
  · rw [roleOverrides_runAll]
    exact RoleOverride.foldl_put_latest [] _
  · rw [roleOverrides_run]
    exact RoleOverride.filter_foldl_put fun x hx => by simpa using hx
  · intro capability permission roleid context
    rw [roleOverrides_run]
    exact RoleOverride.filter_put_self _ ⟨roleid, capability, permission, context⟩

/-- What is prohibited and then allowed holds. -/
example : ([.prohibit, .allow].map fun last =>
    let s := runAll [.createUser, .createRole none [], .roleAssign 1 1 (.course 5),
      .assignCapability "mod/chat:chat" .allow 1 .system,
      .assignCapability "mod/chat:chat" .prohibit 1 .system,
      .assignCapability "mod/chat:chat" last 1 .system] {}
    (s.capabilitiesFor 1).has "mod/chat:chat" (.course 5)) = [false, true] := by
  rfl

end Operation

end Campus
