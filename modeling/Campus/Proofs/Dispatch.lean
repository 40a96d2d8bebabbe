import Mathlib.Data.List.Induction
import Campus.Proofs.Run
import Campus.Service.Basic

/-!
# From a name to a function

Functions of distinct names are found by their names. What the service does is what the named
function does for the caller that the token stands for, or nothing.
-/

namespace Campus

/-! ## Finding functions -/

namespace Registry

variable {σ : Type}

theorem ofList_append_singleton (fs : List (ExternalFunction σ)) (f : ExternalFunction σ) :
    ofList (fs ++ [f]) = Keyed.insert f.name f (ofList fs) := by
  rw [ofList, List.foldl_append]
  rfl

theorem get?_ofList_eq_some_iff {fs : List (ExternalFunction σ)}
    (h : fs.Pairwise (·.name ≠ ·.name)) {name : String} {f : ExternalFunction σ} :
    Keyed.get? name (ofList fs) = some f ↔ f ∈ fs ∧ f.name = name := by
  induction fs using List.reverseRecOn with
  | nil => simp [ofList]
  | append_singleton fs g ih =>
    obtain ⟨hfs, -, hg⟩ := List.pairwise_append.1 h
    have hdistinct : ∀ f ∈ fs, f.name ≠ g.name := fun f hf => hg f hf g (by simp)
    rw [ofList_append_singleton]
    by_cases hname : g.name = name
    · subst hname
      rw [Keyed.get?_insert_self]
      constructor
      · intro heq
        cases heq
        simp
      · rintro ⟨hmem, heq⟩
        rcases List.mem_append.1 hmem with hmem | hmem
        · exact absurd heq (hdistinct f hmem)
        · rw [List.mem_singleton.1 hmem]
    · rw [Keyed.get?_insert_of_ne hname, ih hfs]
      constructor
      · rintro ⟨hmem, heq⟩
        exact ⟨List.mem_append_left _ hmem, heq⟩
      · rintro ⟨hmem, heq⟩
        rcases List.mem_append.1 hmem with hmem | hmem
        · exact ⟨hmem, heq⟩
        · exact absurd (List.mem_singleton.1 hmem ▸ heq) hname

end Registry

/-! ## Calling the service -/

theorem bundledFunctions_distinct (strings : Strings) :
    (bundledFunctions strings).Pairwise (·.name ≠ ·.name) := by
  simp [bundledFunctions, userBadgeByHashFunction, externalBadgesFunction,
    removeSubmissionFunction, removeSubmissionsFunction, viewSessionsFunction]

namespace Service

variable {s : Service} {clock : Clock} {function token : String} {arguments : Json}

theorem registry_get?_eq_some_iff {f : ExternalFunction Site} :
    Keyed.get? function s.registry = some f ↔ f ∈ bundledFunctions s.strings ∧ f.name = function :=
  Registry.get?_ofList_eq_some_iff (bundledFunctions_distinct s.strings)

theorem call_site : (s.call clock function token arguments).2.site =
    (s.run clock function token arguments).2 := by
  unfold call
  split <;> simp [*]

theorem call_answer : (s.call clock function token arguments).1 =
    (s.run clock function token arguments).1 := by
  unfold call
  split <;> simp [*]

theorem run_of_unknownToken (h : s.caller? token = none) :
    s.run clock function token arguments = (.error .invalidToken, s.site) := by
  simp [run, context, h]

theorem run_of_caller {caller : Int} {f : ExternalFunction Site} (h : s.caller? token = some caller)
    (hf : f ∈ bundledFunctions s.strings) (clock : Clock) (arguments : Json) :
    s.run clock f.name token arguments = (f.call (s.contextOf clock caller) arguments) s.site := by
  have hget := (registry_get?_eq_some_iff (s := s)).2 ⟨hf, rfl⟩
  simp [run, context, h, Registry.call, hget]

theorem run_cases (s : Service) (clock : Clock) (function token : String) (arguments : Json) :
    (∃ e, s.run clock function token arguments = (.error e, s.site)) ∨
      ∃ caller f, s.caller? token = some caller ∧ f ∈ bundledFunctions s.strings ∧
        f.name = function ∧ s.run clock function token arguments =
          (f.call (s.contextOf clock caller) arguments) s.site := by
  cases hcaller : s.caller? token with
  | none => exact .inl ⟨_, run_of_unknownToken hcaller⟩
  | some caller =>
    cases hget : Keyed.get? function s.registry with
    | none =>
      refine .inl ⟨.unknownFunction function, ?_⟩
      simp [run, context, hcaller, Registry.call, hget]
    | some f =>
      obtain ⟨hf, rfl⟩ := registry_get?_eq_some_iff.1 hget
      exact .inr ⟨caller, f, rfl, hf, rfl, run_of_caller hcaller hf clock arguments⟩

end Service

/-! ## What callers may do -/

namespace Site

/-- The user may do something at the end of a path: as an administrator or by roles. -/
def Permits (s : Site) (userid : Int) (capability : String) (path : ContextPath) : Prop :=
  (∃ user, s.user? userid = some user ∧ user.siteadmin = true) ∨
    (resolveCapabilities userid s.roles.records s.roleAssignments s.roleOverrides
      s.courseOfModule).has capability path = true

theorem has_capabilitiesFor_iff {s : Site} {userid : Int} {capability : String}
    {path : ContextPath} :
    (s.capabilitiesFor userid).has capability path = true ↔ s.Permits userid capability path := by
  have hadmin : (∃ user, s.user? userid = some user ∧ user.siteadmin = true) ↔
      (s.user? userid).any (·.siteadmin) = true := by
    cases s.user? userid <;> simp
  unfold Permits capabilitiesFor
  rw [hadmin]
  split
  · next h => simp [Capabilities.has, h]
  · next h => simp [h]

end Site

end Campus
