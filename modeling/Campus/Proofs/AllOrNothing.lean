import Campus.Proofs.Effects
import Campus.Proofs.Requests

/-!
# Errors leave no trace

A function either changes nothing or its result is what it declares, so no result is refused once
the site has changed. A message that is answered with an error leaves the site as it was.
-/

namespace Campus

/-! ## Functions -/

namespace ExternalFunction

variable {σ : Type} {f : ExternalFunction σ} {ctx : CallContext} {arguments : Json} {s : σ}

/-- Running on arguments that fit leaves the state, or gives a result that cleaning leaves alone. -/
def AllOrNothing (f : ExternalFunction σ) : Prop :=
  ∀ ctx arguments members s, validateArguments f.input arguments = .ok members →
    ((f.execute ctx members) s).2 = s ∨
      ∃ result, ((f.execute ctx members) s).1 = .ok result ∧
        cleanResult f.output result = .ok result

theorem AllOrNothing.call_of_error (hf : f.AllOrNothing) {e : ExternalError}
    (h : ((f.call ctx arguments) s).1 = .error e) : ((f.call ctx arguments) s).2 = s := by
  cases hvalid : validateArguments f.input arguments with
  | error e' => rw [ExternalFunction.call_of_error hvalid]
  | ok members =>
    rw [call_state hvalid]
    rcases hf ctx arguments members s hvalid with hsame | ⟨result, hrun, hclean⟩
    · exact hsame
    · -- The result was there and is taken as it is, so there was no error.
      rw [call_of_ok hvalid] at h
      rcases hexecute : (f.execute ctx members) s with ⟨answer, after⟩
      rw [hexecute] at h hrun
      cases hrun
      cases hclean.symm.trans h

theorem allOrNothing_of_readOnly (h : ∀ ctx arguments, Run.ReadOnly (f.call ctx arguments)) :
    f.AllOrNothing := by
  intro ctx arguments members s hvalid
  left
  rw [← call_state hvalid]
  exact h ctx arguments s

end ExternalFunction

/-! ## Functions that answer with a status -/

/-- From this state the run ends without a trace, or in an outcome whose warnings are clean. -/
def Run.Careful {σ : Type} (x : Run σ (Outcome Unit)) (s : σ) : Prop :=
  (x s).2 = s ∨ ∃ o, (x s).1 = .ok o ∧ ∀ w ∈ o.warnings, w.IsClean

theorem ExternalFunction.allOrNothing_of_careful {σ α : Type} {f : ExternalFunction σ}
    {reader : Reader α} {run : CallContext → α → Run σ (Outcome Unit)} {desc : String}
    (houtput : f.output = .statusWithWarnings desc)
    (hexecute : ∀ ctx members, f.execute ctx members = do
      let x ← liftExcept (readArguments reader members)
      return (← run ctx x).toResult)
    (hrun : ∀ ctx arguments members x s, validateArguments f.input arguments = .ok members →
      readArguments reader members = .ok x → Run.Careful (run ctx x) s) : f.AllOrNothing := by
  intro ctx arguments members s hvalid
  rw [hexecute, houtput, Run.bind_apply, Run.liftExcept_apply]
  cases hread : readArguments reader members with
  | error e => exact .inl rfl
  | ok x =>
    dsimp only
    rw [Run.bind_apply]
    rcases hrun ctx arguments members x s hvalid hread with hsame | ⟨o, ho, hclean⟩
    · left
      rcases hx : (run ctx x) s with ⟨_ | _, after⟩
      all_goals exact (congrArg Prod.snd hx).symm.trans hsame
    · right
      rcases hx : (run ctx x) s with ⟨answer, after⟩
      rw [hx] at ho
      cases ho
      exact ⟨o.toResult, rfl, Outcome.cleanResult_toResult hclean⟩

section Bundled

variable (strings : Strings)

theorem removeSubmission_allOrNothing : (removeSubmissionFunction strings).AllOrNothing := by
  refine ExternalFunction.allOrNothing_of_careful rfl (fun _ _ => rfl) fun ctx _ _ x s _ _ => ?_
  cases ha : s.assignment? x.assignid with
  | none => exact .inl (by rw [RemoveSubmission.run_of_noAssignment ha])
  | some a =>
    cases hid : s.removable? a ctx x.userid with
    | none => exact .inl (by rw [RemoveSubmission.run_of_none ha hid])
    | some id =>
      refine .inr ⟨.ok (), ?_, by simp [Outcome.warnings]⟩
      rw [RemoveSubmission.run_of_some ha hid]

theorem removeSubmissions_allOrNothing : removeSubmissionsFunction.AllOrNothing := by
  refine ExternalFunction.allOrNothing_of_careful rfl (fun _ _ => rfl) ?_
  intro ctx arguments members x s hvalid hread
  obtain ⟨assignid, userids, h, rfl⟩ := validateArguments_several_iff.1 hvalid
  have husers := Json.isInt64_of_integersAt? h.users
  rw [readArguments_several (Json.isInt64_of_integerAt? h.assignment) husers] at hread
  cases hread
  cases ha : s.assignment? assignid with
  | none => exact .inl (by rw [RemoveSubmissions.run_of_noAssignment ha])
  | some a =>
    refine .inr ⟨_, by rw [RemoveSubmissions.run_of_assignment ha], ?_⟩
    rw [Batch.warnings_toOutcome]
    exact attemptAll_warnings_isClean s a ctx husers

theorem viewSessions_allOrNothing : (viewSessionsFunction strings).AllOrNothing := by
  refine ExternalFunction.allOrNothing_of_careful rfl (fun _ _ => rfl) fun ctx _ _ x s _ _ => ?_
  rcases ViewSessions.run_cases strings ctx x s with
    ⟨e, hrun⟩ | ⟨id, hrun⟩ | ⟨cm, chat, -, -, hrun⟩
  · exact .inl (by rw [hrun])
  · exact .inl (by rw [hrun])
  · refine .inr ⟨.ok (), ?_, by simp [Outcome.warnings]⟩
    rw [hrun]

theorem bundledFunctions_allOrNothing :
    ∀ f ∈ bundledFunctions strings, f.AllOrNothing := by
  intro f hf
  simp only [bundledFunctions, List.mem_cons, List.not_mem_nil, or_false] at hf
  rcases hf with rfl | rfl | rfl | rfl | rfl
  · exact ExternalFunction.allOrNothing_of_readOnly fun _ _ => userBadgeByHash_readOnly
  · exact ExternalFunction.allOrNothing_of_readOnly fun _ _ => externalBadges_readOnly
  · exact removeSubmission_allOrNothing strings
  · exact removeSubmissions_allOrNothing
  · exact viewSessions_allOrNothing strings

end Bundled

/-! ## Messages -/

theorem Service.call_site_of_error {s : Service} {clock : Clock} {function token : String}
    {arguments : Json} {e : ExternalError}
    (h : (s.call clock function token arguments).1 = .error e) :
    (s.call clock function token arguments).2.site = s.site := by
  rw [call_answer] at h
  rw [call_site]
  rcases run_cases s clock function token arguments with
    ⟨_, hrun⟩ | ⟨caller, f, -, hf, -, hrun⟩
  · rw [hrun]
  · rw [hrun] at h ⊢
    exact (bundledFunctions_allOrNothing s.strings f hf).call_of_error h

namespace Rpc

variable {s : Service} {clock : Clock}

theorem answer_site_of_error {r : Request} {e : Failure} (h : (answer s clock r).1 = .error e) :
    (answer s clock r).2.site = s.site := by
  have hanswered := answer_answered s clock r
  generalize answer s clock r = a at h hanswered
  cases hanswered with
  | own | unread | unknown => rfl
  | call p _ _ =>
    obtain ⟨cause, hcause, -⟩ := mapError_eq_error_iff.1 h
    exact Service.call_site_of_error hcause

/-- Whatever is answered with an error has left the site as it was, and no function has its result
refused after it changed the site. -/
theorem dispatch_allOrNothing (s : Service) (clock : Clock) :
    (∀ text e, (dispatch s clock text).1 = .error e → (dispatch s clock text).2.site = s.site) ∧
      ∀ f ∈ bundledFunctions s.strings, f.AllOrNothing := by
  refine ⟨fun text e h => ?_, bundledFunctions_allOrNothing s.strings⟩
  cases hread : Request.reader.ofText? text with
  | none => rw [dispatch_of_unread s clock hread]
  | some r =>
    rw [dispatch_of_read s clock hread] at h ⊢
    cases hanswer : (answer s clock r).1 with
    | ok result =>
      rw [hanswer] at h
      cases h
    | error e => exact answer_site_of_error hanswer

end Rpc

end Campus
