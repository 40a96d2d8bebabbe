import Campus.Proofs.Dispatch
import Campus.Rpc.Dispatch

/-!
# The ways of a request

A request is for the service itself, or for a function, or its method is unknown. Only a request for
a function, with parameters that can be read, reaches the site.
-/

namespace Campus.Rpc

/-- The methods that are not functions. -/
def ownMethods : List String := ["hello", "service.functions", "service.status"]

theorem notMem_ownMethods {s : Service} {method : String} (h : method ∈ s.registry.names) :
    method ∉ ownMethods := by
  obtain ⟨f, hget⟩ := Option.isSome_iff_exists.1 (Keyed.contains_iff_mem_keys.2 h)
  obtain ⟨hf, rfl⟩ := Service.registry_get?_eq_some_iff.1 hget
  simp only [bundledFunctions, List.mem_cons, List.not_mem_nil, or_false] at hf
  rcases hf with rfl | rfl | rfl | rfl | rfl <;>
    simp [ownMethods, userBadgeByHashFunction, externalBadgesFunction, removeSubmissionFunction,
      removeSubmissionsFunction, viewSessionsFunction]

/-- The parameters of a request for a function, if they are there and can be read. -/
def Request.callParams? (r : Request) : Option CallParams :=
  r.params.bind fun v => (CallParams.reader.read v).toOption

/-! ## Parameters -/

theorem readParams_eq_error {α : Type} {reader : Reader α} {method : String}
    {params : Option Json} {f : Failure} (h : readParams reader method params = .error f) :
    ∃ message, f = { code := -32602, message } := by
  unfold readParams at h
  split at h
  · cases h
    exact ⟨_, rfl⟩
  · next v =>
    cases hread : reader.read v with
    | ok a =>
      rw [hread] at h
      cases h
    | error e =>
      rw [hread] at h
      cases h
      exact ⟨_, rfl⟩

theorem readParams_eq_ok_iff {r : Request} {p : CallParams} :
    readParams CallParams.reader r.method r.params = .ok p ↔ r.callParams? = some p := by
  unfold readParams Request.callParams?
  cases r.params with
  | none => simp
  | some v =>
    cases hread : CallParams.reader.read v <;> simp [Except.mapError, Except.toOption, hread]

/-! ## Ways -/

/-- What becomes of a request. -/
inductive Answered (s : Service) (clock : Clock) (r : Request) :
    Except Failure Json × Service → Prop
  | own (result : Json) (hmethod : r.method ∈ ownMethods)
      (hhello : r.method = "hello" → result = HelloResult.toJson
        { protocolVersion, serviceVersion, functions := s.registry.names }) :
      Answered s clock r (.ok result, s)
  | unread (message : String)
      (hmethod : r.method = "hello" ∨ r.method ∈ s.registry.names ∧ r.callParams? = none) :
      Answered s clock r (.error { code := -32602, message }, s)
  | unknown (hown : r.method ∉ ownMethods) (hname : r.method ∉ s.registry.names) :
      Answered s clock r (.error (.unknownMethod r.method), s)
  | call (p : CallParams) (hname : r.method ∈ s.registry.names) (hparams : r.callParams? = some p) :
      Answered s clock r ((s.call clock r.method p.token p.arguments).1.mapError .ofError,
        (s.call clock r.method p.token p.arguments).2)

theorem callFunction_of_read {r : Request} {p : CallParams} (s : Service) (clock : Clock)
    (h : readParams CallParams.reader r.method r.params = .ok p) :
    callFunction s clock r.method r.params =
      ((s.call clock r.method p.token p.arguments).1.mapError .ofError,
        (s.call clock r.method p.token p.arguments).2) := by
  unfold callFunction
  rw [h]
  dsimp only
  rcases s.call clock r.method p.token p.arguments with ⟨_ | _, _⟩ <;> rfl

theorem callFunction_answered {s : Service} {r : Request} (clock : Clock)
    (hname : r.method ∈ s.registry.names) :
    Answered s clock r (callFunction s clock r.method r.params) := by
  cases hread : readParams CallParams.reader r.method r.params with
  | error f =>
    have hparams : r.callParams? = none := by
      rw [← Option.not_isSome_iff_eq_none, Option.isSome_iff_exists]
      rintro ⟨p, hp⟩
      cases (readParams_eq_ok_iff.2 hp).symm.trans hread
    obtain ⟨message, rfl⟩ := readParams_eq_error hread
    unfold callFunction
    rw [hread]
    exact .unread message (.inr ⟨hname, hparams⟩)
  | ok p =>
    rw [callFunction_of_read s clock hread]
    exact .call p hname (readParams_eq_ok_iff.1 hread)

theorem hello_answered {s : Service} {r : Request} (clock : Clock) (hmethod : r.method = "hello") :
    Answered s clock r (hello s r.params, s) := by
  unfold hello
  cases hread : readParams HelloParams.reader "hello" r.params with
  | error f =>
    obtain ⟨message, rfl⟩ := readParams_eq_error hread
    exact .unread message (.inl hmethod)
  | ok p =>
    simp only [bind, Except.bind]
    split
    · exact .own _ (by simp [hmethod, ownMethods]) fun _ => rfl
    · exact .unread _ (.inl hmethod)

theorem answer_answered (s : Service) (clock : Clock) (r : Request) :
    Answered s clock r (answer s clock r) := by
  unfold answer
  by_cases hhello : r.method = "hello"
  · rw [if_pos hhello]
    exact hello_answered clock hhello
  rw [if_neg hhello]
  split
  · next hmethod => exact .own _ (by simp [hmethod, ownMethods]) fun h => absurd h hhello
  · next hfunctions =>
    split
    · next hmethod => exact .own _ (by simp [hmethod, ownMethods]) fun h => absurd h hhello
    · next hstatus =>
      split
      · next hname => exact callFunction_answered clock (Keyed.contains_iff_mem_keys.1 hname)
      · next hname =>
        refine .unknown ?_ fun h => hname (Keyed.contains_iff_mem_keys.2 h)
        simp [ownMethods, hhello, hfunctions, hstatus]

theorem dispatch_of_read {text : String} {r : Request} (s : Service) (clock : Clock)
    (h : Request.reader.ofText? text = some r) :
    dispatch s clock text = (.ofAnswer r.id (answer s clock r).1, (answer s clock r).2) := by
  simp [dispatch, h]

theorem dispatch_of_unread {text : String} (s : Service) (clock : Clock)
    (h : Request.reader.ofText? text = none) :
    dispatch s clock text = (.error { id := .integer 0, error := .invalidRequest }, s) := by
  simp [dispatch, h]

end Campus.Rpc
