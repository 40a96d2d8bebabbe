import Campus.Proofs.Dispatch
import Campus.Proofs.Fitting

/-!
# How calls fail

A call of a function that exists fails in few ways: its arguments or its result do not fit, the
token or a record is unknown, a feature is off. What names the error comes from one short list.
-/

namespace Campus

/-! ## Runs that fail in some ways only -/

namespace Run

variable {σ α β : Type} {P : ExternalError → Prop}

/-- The run fails with such errors only. -/
def FailsWith (P : ExternalError → Prop) (x : Run σ α) : Prop :=
  ∀ s e after, x s = (.error e, after) → P e

theorem failsWith_pure (a : α) : FailsWith P (pure a : Run σ α) := nofun

theorem failsWith_get : FailsWith P (get : Run σ σ) := nofun

theorem failsWith_modify (f : σ → σ) : FailsWith P (modify f : Run σ PUnit) := nofun

theorem failsWith_modifyGet (f : σ → α × σ) : FailsWith P (modifyGet f : Run σ α) := nofun

theorem failsWith_lift (x : StateM σ α) : FailsWith P (monadLift x : Run σ α) := nofun

theorem failsWith_throw {e : ExternalError} (h : P e) : FailsWith P (throw e : Run σ α) := by
  intro s e' after heq
  cases heq
  exact h

theorem failsWith_liftExcept {x : Except ExternalError α} (h : ∀ e, x = .error e → P e) :
    FailsWith P (liftExcept x : Run σ α) := by
  intro s e after heq
  rw [liftExcept_apply] at heq
  exact h e (congrArg Prod.fst heq)

theorem FailsWith.bind {x : Run σ α} {f : α → Run σ β} (hx : FailsWith P x)
    (hf : ∀ a, FailsWith P (f a)) : FailsWith P (x >>= f) := by
  intro s e after h
  rw [bind_apply] at h
  split at h
  · exact hf _ _ _ _ h
  · next hfail =>
    cases h
    exact hx _ _ _ hfail

end Run

/-! ## The list -/

namespace ExternalError

/-- What names an error: its category, code and component. -/
def kind (e : ExternalError) : ErrorCategory × String × String :=
  (e.category, e.errorcode, e.component)

/-- The ways in which a call of a function fails. -/
def kindsOfCalls : List (ErrorCategory × String × String) :=
  [(.invalidInput, "invalidparameter", "core"), (.invalidInput, "missingparam", "core"),
    (.internal, "invalidresponse", "core"), (.notFound, "invalidrecord", "core"),
    (.internal, "internalerror", "core"), (.accessDenied, "invalidtoken", "webservice"),
    (.featureDisabled, "badgesdisabled", "badges"),
    (.featureDisabled, "externalbackpackdisabled", "badges"),
    (.notFound, "invalidcoursemodule", "error")]

/-- A call of a function may fail with the error. -/
def IsOfCall (e : ExternalError) : Prop := e.kind ∈ kindsOfCalls

theorem IsOfCall.errorcode_ne {e : ExternalError} (h : e.IsOfCall) :
    e.errorcode ≠ "invalidfunction" := by
  have hlist : ∀ kind ∈ kindsOfCalls, kind.2.1 ≠ "invalidfunction" := by decide
  exact hlist _ h

end ExternalError

open ExternalError

theorem isOfCall_localized {category : ErrorCategory} {errorcode component : String}
    (strings : Strings) (h : (category, errorcode, component) ∈ kindsOfCalls) :
    (localized category errorcode component strings).IsOfCall := h

theorem isOfCall_of_ne {e : ExternalError} (hunknown : ∀ name, e ≠ .unknownFunction name)
    (hexception : ∀ category errorcode component message,
      e ≠ .exception category errorcode component message) : e.IsOfCall := by
  cases e with
  | unknownFunction name => exact absurd rfl (hunknown name)
  | exception => exact absurd rfl (hexception _ _ _ _)
  | _ => simp [IsOfCall, kind, category, errorcode, component, kindsOfCalls]

theorem Misfit.toError_isOfCall (direction : Direction) (m : Misfit) :
    (m.toError direction).IsOfCall := by
  obtain ⟨path, fault⟩ := m
  cases direction <;> cases fault <;> exact isOfCall_of_ne nofun nofun

theorem SiteError.toExternal_isOfCall (e : SiteError) : e.toExternal.IsOfCall := by
  cases e <;> exact isOfCall_of_ne nofun nofun

/-! ## Arguments and results -/

section Fitting

variable {e : ExternalError}

theorem validateArguments_error_isOfCall {d : Description} {arguments : Json}
    (h : validateArguments d arguments = .error e) : e.IsOfCall := by
  unfold validateArguments at h
  split at h
  · simp only at h
    split at h
    · cases h
      exact Misfit.toError_isOfCall _ _
    · cases h
    · cases h
      exact isOfCall_of_ne nofun nofun
  · cases h
    exact isOfCall_of_ne nofun nofun

theorem cleanResult_error_isOfCall {d : Description} {result : Json}
    (h : cleanResult d result = .error e) : e.IsOfCall := by
  unfold cleanResult at h
  split at h
  · cases h
    exact Misfit.toError_isOfCall _ _
  · cases h

theorem readArguments_error_isOfCall {α : Type} {r : Reader α} {members : List (String × Json)}
    (h : readArguments r members = .error e) : e.IsOfCall := by
  unfold readArguments at h
  split at h
  · cases h
  · cases h
    exact isOfCall_of_ne nofun nofun

end Fitting

/-! ## Functions -/

section Functions

variable {strings : Strings} {ctx : CallContext} {e : ExternalError}

theorem requireBadges_error_isOfCall {features : Features}
    (h : requireBadges strings features = .error e) : e.IsOfCall := by
  unfold requireBadges at h
  split at h
  · cases h
  · cases h
    exact isOfCall_localized strings (by decide)

theorem requireBackpacks_error_isOfCall {features : Features}
    (h : requireBackpacks strings features = .error e) : e.IsOfCall := by
  unfold requireBackpacks at h
  cases hbadges : requireBadges strings features with
  | error e' =>
    rw [hbadges] at h
    cases h
    exact requireBadges_error_isOfCall hbadges
  | ok _ =>
    rw [hbadges] at h
    simp only [bind, Except.bind] at h
    split at h
    · cases h
    · cases h
      exact isOfCall_localized strings (by decide)

theorem find_error_isOfCall {source : AwardSource} {hash : String}
    (h : UserBadgeByHash.find strings source ctx hash = .error e) : e.IsOfCall := by
  unfold UserBadgeByHash.find at h
  cases hbadges : requireBadges strings ctx.features with
  | error e' =>
    rw [hbadges] at h
    cases h
    exact requireBadges_error_isOfCall hbadges
  | ok _ =>
    rw [hbadges] at h
    simp only [bind, Except.bind] at h
    split at h
    · cases h
    · split at h
      · cases h
        exact isOfCall_of_ne nofun nofun
      · next award _ _ owner _ =>
        cases hexported : (source.exported award owner ctx).mapError SiteError.toExternal with
        | ok b =>
          rw [hexported] at h
          cases h
        | error e' =>
          rw [hexported] at h
          cases h
          obtain ⟨cause, -, rfl⟩ := mapError_eq_error_iff.1 hexported
          exact cause.toExternal_isOfCall

open Run

theorem requireAssignment_failsWith (id : Int) :
    FailsWith IsOfCall (requireAssignment id) := by
  refine failsWith_get.bind fun s => ?_
  split
  · exact failsWith_pure _
  · exact failsWith_throw (isOfCall_of_ne nofun nofun)

theorem removeSubmission_failsWith (x : RemoveSubmission.Arguments) :
    FailsWith IsOfCall (RemoveSubmission.run strings ctx x) := by
  refine (requireAssignment_failsWith _).bind fun a => failsWith_get.bind fun s => ?_
  dsimp only
  split
  · refine (failsWith_modifyGet _).bind fun removed => ?_
    split <;> exact failsWith_pure _
  · exact failsWith_pure _

theorem removeSubmissions_failsWith (x : RemoveSubmissions.Arguments) :
    FailsWith IsOfCall (RemoveSubmissions.run ctx x) :=
  (requireAssignment_failsWith _).bind fun _ => (failsWith_lift _).bind fun _ => failsWith_pure _

theorem viewSessions_failsWith (x : ViewSessions.Arguments) :
    FailsWith IsOfCall (ViewSessions.run strings ctx x) := by
  refine failsWith_get.bind fun s => ?_
  split
  · exact failsWith_throw (isOfCall_localized strings (by decide))
  · split
    · exact (failsWith_modify _).bind fun _ => failsWith_pure _
    · exact failsWith_pure _

theorem externalBadges_failsWith (userid : Int) :
    FailsWith IsOfCall (ExternalBadges.run strings ctx userid) :=
  (failsWith_liftExcept fun _ => requireBackpacks_error_isOfCall).bind fun _ =>
    failsWith_get.bind fun _ => failsWith_pure _

theorem execute_failsWith {f : ExternalFunction Site} (hf : f ∈ bundledFunctions strings)
    (members : List (String × Json)) : FailsWith IsOfCall (f.execute ctx members) := by
  have harguments {α : Type} (r : Reader α) :
      FailsWith IsOfCall (liftExcept (readArguments r members) : Run Site α) :=
    failsWith_liftExcept fun _ => readArguments_error_isOfCall
  simp only [bundledFunctions, List.mem_cons, List.not_mem_nil, or_false] at hf
  rcases hf with rfl | rfl | rfl | rfl | rfl
  · refine (harguments _).bind fun hash => failsWith_get.bind fun s => ?_
    exact (failsWith_liftExcept fun _ => find_error_isOfCall).bind fun _ => failsWith_pure _
  · exact (harguments _).bind fun x => (externalBadges_failsWith x).bind fun _ => failsWith_pure _
  · exact (harguments _).bind fun x => (removeSubmission_failsWith x).bind fun _ => failsWith_pure _
  · exact (harguments _).bind fun x =>
      (removeSubmissions_failsWith x).bind fun _ => failsWith_pure _
  · exact (harguments _).bind fun x => (viewSessions_failsWith x).bind fun _ => failsWith_pure _

theorem call_failsWith {f : ExternalFunction Site} (hf : f ∈ bundledFunctions strings)
    (arguments : Json) : FailsWith IsOfCall (f.call ctx arguments) := by
  refine (failsWith_liftExcept fun _ => validateArguments_error_isOfCall).bind fun members => ?_
  refine (execute_failsWith hf members).bind fun result => ?_
  exact failsWith_liftExcept fun _ => cleanResult_error_isOfCall

end Functions

/-! ## The service -/

theorem Service.call_error_isOfCall {s : Service} {clock : Clock} {function token : String}
    {arguments : Json} {e : ExternalError} (hname : function ∈ s.registry.names)
    (h : (s.call clock function token arguments).1 = .error e) : e.IsOfCall := by
  obtain ⟨f, hget⟩ := Option.isSome_iff_exists.1 (Keyed.contains_iff_mem_keys.2 hname)
  obtain ⟨hf, rfl⟩ := registry_get?_eq_some_iff.1 hget
  rw [call_answer] at h
  cases hcaller : s.caller? token with
  | none =>
    rw [run_of_unknownToken hcaller] at h
    cases h
    exact isOfCall_of_ne nofun nofun
  | some caller =>
    rw [run_of_caller hcaller hf] at h
    exact call_failsWith hf arguments _ _ _ (Prod.ext h rfl)

end Campus
