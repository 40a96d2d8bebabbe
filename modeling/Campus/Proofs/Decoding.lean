import Campus.Proofs.Answers
import Campus.Proofs.BackpackBadges
import Campus.Proofs.BadgePrivacy
import Campus.Proofs.RemovalCalls
import Campus.Proofs.Sessions

/-!
# Decoding what was validated

Each function reads its arguments after they were validated. What passes the validation is always
read, as just the values that were validated, so a call on assignments or chats fails only for its
arguments or for a record that is not there.
-/

namespace Campus

/-! ## Decodings -/

/-- How a function decodes its arguments: the values that it reads, and the members that they are
written as. -/
structure Decoding where
  Arguments : Type
  function : ExternalFunction Site
  reader : Reader Arguments
  written : Arguments → List (String × Json)

/-- Decoding comes first, and gives just what was validated. -/
structure Decoding.IsFaithful (d : Decoding) : Prop where
  first : ∃ body : CallContext → d.Arguments → Run Site Json, d.function.execute =
    fun ctx members => liftExcept (readArguments d.reader members) >>= body ctx
  reads : ∀ arguments members, validateArguments d.function.input arguments = .ok members →
    ∃ x, readArguments d.reader members = .ok x ∧ d.written x = members

section Decodings

variable (strings : Strings)

def hashDecoding : Decoding where
  Arguments := String
  function := userBadgeByHashFunction strings Site.awardSource
  reader := UserBadgeByHash.argumentsReader
  written hash := [("hash", .string hash)]

def userDecoding : Decoding where
  Arguments := Int
  function := externalBadgesFunction strings
  reader := ExternalBadges.argumentsReader
  written userid := [("userid", .int userid)]

def removalDecoding : Decoding where
  Arguments := RemoveSubmission.Arguments
  function := removeSubmissionFunction strings
  reader := RemoveSubmission.Arguments.reader
  written x := [("assignid", .int x.assignid), ("userid", .int x.userid)]

def removalsDecoding : Decoding where
  Arguments := RemoveSubmissions.Arguments
  function := removeSubmissionsFunction
  reader := RemoveSubmissions.Arguments.reader
  written x := [("assignid", .int x.assignid), ("userids", .array (x.userids.map .int))]

def sessionsDecoding : Decoding where
  Arguments := ViewSessions.Arguments
  function := viewSessionsFunction strings
  reader := ViewSessions.Arguments.reader
  written x := [("cmid", .int x.cmid), ("end", .int x.finish), ("start", .int x.start)]

theorem hashDecoding_isFaithful : (hashDecoding strings).IsFaithful where
  first := ⟨_, rfl⟩
  reads := by
    intro arguments members h
    obtain ⟨given, rfl, -, hfields⟩ :=
      (Description.validateArguments_eq_ok_iff (by rintro ⟨⟩)).1 h
    obtain ⟨out, hfit, hfields⟩ := Description.fitFields_cons_eq_ok_iff.1 hfields
    obtain ⟨hash, -, -, rfl⟩ := Description.fit_plain_alphanum_eq_ok_iff.1 hfit
    cases hfields
    exact ⟨hash, readArguments_byHash, rfl⟩

theorem userDecoding_isFaithful : (userDecoding strings).IsFaithful where
  first := ⟨_, rfl⟩
  reads := by
    intro arguments members h
    obtain ⟨given, rfl, -, hfields⟩ :=
      (Description.validateArguments_eq_ok_iff (by rintro ⟨⟩)).1 h
    obtain ⟨out, hfit, hfields⟩ := Description.fitFields_cons_eq_ok_iff.1 hfields
    obtain ⟨userid, huser, rfl⟩ := Description.fit_member_int_eq_ok_iff.1 hfit
    cases hfields
    exact ⟨userid, ExternalBadges.readArguments_user (Json.isInt64_of_integerAt? huser), rfl⟩

theorem removalDecoding_isFaithful : (removalDecoding strings).IsFaithful where
  first := ⟨_, rfl⟩
  reads := by
    intro arguments members h
    obtain ⟨assignid, userid, hasks, rfl⟩ := (validateArguments_one_iff strings).1 h
    exact ⟨_, readArguments_one (Json.isInt64_of_integerAt? hasks.assignment)
      (Json.isInt64_of_integerAt? hasks.user), rfl⟩

theorem removalsDecoding_isFaithful : removalsDecoding.IsFaithful where
  first := ⟨_, rfl⟩
  reads := by
    intro arguments members h
    obtain ⟨assignid, userids, hasks, rfl⟩ := validateArguments_several_iff.1 h
    exact ⟨_, readArguments_several (Json.isInt64_of_integerAt? hasks.assignment)
      (Json.isInt64_of_integersAt? hasks.users), rfl⟩

theorem sessionsDecoding_isFaithful : (sessionsDecoding strings).IsFaithful where
  first := ⟨_, rfl⟩
  reads := by
    intro arguments members h
    obtain ⟨cmid, start, finish, hasks, rfl⟩ := validateArguments_sessions_iff.1 h
    exact ⟨_, readArguments_sessions hasks, rfl⟩

def decodings : List Decoding :=
  [hashDecoding strings, userDecoding strings, removalDecoding strings, removalsDecoding,
    sessionsDecoding strings]

theorem isFaithful_of_mem_decodings {d : Decoding} (h : d ∈ decodings strings) :
    d.IsFaithful := by
  simp only [decodings, List.mem_cons, List.not_mem_nil, or_false] at h
  rcases h with rfl | rfl | rfl | rfl | rfl
  · exact hashDecoding_isFaithful strings
  · exact userDecoding_isFaithful strings
  · exact removalDecoding_isFaithful strings
  · exact removalsDecoding_isFaithful
  · exact sessionsDecoding_isFaithful strings

end Decodings

/-! ## Errors of calls -/

/-- The errors that tell of arguments that are missing or were rejected. -/
inductive ExternalError.IsOfArguments : ExternalError → Prop
  | missing (path : String) : IsOfArguments (.missingParameter path)
  | invalid (path reason : String) : IsOfArguments (.invalidParameter path reason)

theorem isOfArguments_of_validateArguments {desc : String} {fields : List (String × Description)}
    {arguments : Json} {e : ExternalError}
    (h : validateArguments (.structureOf desc fields) arguments = .error e) :
    e.IsOfArguments := by
  unfold Description.structureOf validateArguments at h
  dsimp only at h
  split at h
  · next m _ =>
    cases h
    unfold Misfit.toError
    cases m.fault with
    | missing => exact .missing _
    | undeclared => exact .invalid _ _
    | rejected r => exact .invalid _ _
  · cases h
  · cases h
    exact .invalid _ _

section Calls

variable {strings : Strings} {ctx : CallContext} {arguments : Json} {s : Site} {e : ExternalError}

theorem ExternalFunction.call_error_iff {α : Type} {f : ExternalFunction Site}
    {asks fails : α → Prop}
    (hvalid : (∃ members, validateArguments f.input arguments = .ok members) ↔ ∃ x, asks x)
    (hcall : ∀ x, asks x →
      (((f.call ctx arguments) s).1 = .error e ↔ fails x)) :
    ((f.call ctx arguments) s).1 = .error e ↔
      validateArguments f.input arguments = .error e ∨ ∃ x, asks x ∧ fails x := by
  cases harguments : validateArguments f.input arguments with
  | error e' =>
    have hnone : ¬∃ x, asks x := by
      rw [← hvalid, harguments]
      rintro ⟨_, ⟨⟩⟩
    rw [ExternalFunction.call_of_error harguments]
    simp only [Except.error.injEq]
    constructor
    · exact .inl
    · rintro (h | ⟨x, hasks, -⟩)
      · exact h
      · exact absurd ⟨x, hasks⟩ hnone
  | ok members =>
    obtain ⟨x, hasks⟩ := hvalid.1 ⟨members, harguments⟩
    constructor
    · intro h
      exact .inr ⟨x, hasks, (hcall x hasks).1 h⟩
    · rintro (h | ⟨y, hasks, hfails⟩)
      · cases h
      · exact (hcall y hasks).2 hfails

theorem removeSubmission_call_error_iff :
    (((removeSubmissionFunction strings).call ctx arguments) s).1 = .error e ↔
      validateArguments (removeSubmissionFunction strings).input arguments = .error e ∨
        ∃ x : RemoveSubmission.Arguments,
          arguments.AsksForOne x.assignid x.userid ∧ s.assignment? x.assignid = none ∧
            e = .recordNotFound "assign" (toString x.assignid) := by
  apply ExternalFunction.call_error_iff
  · constructor
    · rintro ⟨members, h⟩
      obtain ⟨assignid, userid, hasks, -⟩ := (validateArguments_one_iff strings).1 h
      exact ⟨⟨assignid, userid⟩, hasks⟩
    · rintro ⟨x, hasks⟩
      exact ⟨_, (validateArguments_one_iff strings).2 ⟨_, _, hasks, rfl⟩⟩
  · rintro ⟨assignid, userid⟩ hasks
    dsimp only
    cases ha : s.assignment? assignid with
    | none =>
      rw [call_one strings hasks, RemoveSubmission.run_of_noAssignment ha]
      simp [eq_comm]
    | some a =>
      cases hid : s.removable? a ctx userid with
      | none =>
        obtain ⟨ws, hcall⟩ := call_one_of_none strings hasks ha hid
        rw [hcall]
        simp
      | some id =>
        rw [call_one_of_some strings hasks ha hid]
        simp

theorem removeSubmissions_call_error_iff :
    ((removeSubmissionsFunction.call ctx arguments) s).1 = .error e ↔
      validateArguments removeSubmissionsFunction.input arguments = .error e ∨
        ∃ x : RemoveSubmissions.Arguments,
          arguments.AsksForSeveral x.assignid x.userids ∧ s.assignment? x.assignid = none ∧
            e = .recordNotFound "assign" (toString x.assignid) := by
  apply ExternalFunction.call_error_iff
  · constructor
    · rintro ⟨members, h⟩
      obtain ⟨assignid, userids, hasks, -⟩ := validateArguments_several_iff.1 h
      exact ⟨⟨assignid, userids⟩, hasks⟩
    · rintro ⟨x, hasks⟩
      exact ⟨_, validateArguments_several_iff.2 ⟨_, _, hasks, rfl⟩⟩
  · rintro ⟨assignid, userids⟩ hasks
    dsimp only
    cases ha : s.assignment? assignid with
    | none =>
      rw [call_several hasks, RemoveSubmissions.run_of_noAssignment ha]
      simp [eq_comm]
    | some a =>
      rw [call_several_of_assignment hasks ha]
      simp

theorem viewSessions_call_eq_error_iff {cmid start finish : Int}
    (h : arguments.AsksForSessions cmid start finish) :
    (((viewSessionsFunction strings).call ctx arguments) s).1 = .error e ↔
      ((ViewSessions.run strings ctx ⟨cmid, start, finish⟩) s).1 = .error e := by
  rw [call_sessions h]
  rcases (ViewSessions.run strings ctx ⟨cmid, start, finish⟩) s with ⟨_ | _, _⟩ <;> simp

theorem viewSessions_call_error_iff :
    (((viewSessionsFunction strings).call ctx arguments) s).1 = .error e ↔
      validateArguments (viewSessionsFunction strings).input arguments = .error e ∨
        ∃ x : ViewSessions.Arguments, arguments.AsksForSessions x.cmid x.start x.finish ∧
          ViewSessions.chatOf? s x.cmid = none ∧
          e = .localized .notFound "invalidcoursemodule" "error" strings := by
  apply ExternalFunction.call_error_iff
  · constructor
    · rintro ⟨members, h⟩
      obtain ⟨cmid, start, finish, hasks, -⟩ := validateArguments_sessions_iff.1 h
      exact ⟨⟨cmid, start, finish⟩, hasks⟩
    · rintro ⟨x, hasks⟩
      exact ⟨_, validateArguments_sessions_iff.2 ⟨_, _, _, hasks, rfl⟩⟩
  · intro x hasks
    rw [viewSessions_call_eq_error_iff hasks, ViewSessions.run_eq_error_iff]

end Calls

/-! ## The service -/

namespace Service

/-- Why a call fails: its arguments were rejected, or they ask for an assignment or a chat that is
not there. -/
inductive CallFault (s : Service) (arguments : Json) : String → ExternalError → Prop
  | arguments (f : ExternalFunction Site) (e : ExternalError)
      (bundled : f ∈ bundledFunctions s.strings)
      (rejected : validateArguments f.input arguments = .error e) (kind : e.IsOfArguments) :
      CallFault s arguments f.name e
  | assignment (function : String) (assignid : Int) (userids : List Int)
      (asks : RemovalRequest function arguments assignid userids)
      (unknown : s.site.assignment? assignid = none) :
      CallFault s arguments function (.recordNotFound "assign" (toString assignid))
  | chat (cmid start finish : Int) (asks : arguments.AsksForSessions cmid start finish)
      (unknown : ViewSessions.chatOf? s.site cmid = none) :
      CallFault s arguments "mod_chat_view_sessions"
        (.localized .notFound "invalidcoursemodule" "error" s.strings)

/-- The functions on assignments and chats. -/
def moduleFunctions : List String :=
  ["mod_assign_remove_submission", "mod_assign_remove_submissions", "mod_chat_view_sessions"]

variable {s : Service} {clock : Clock} {function token : String} {arguments : Json} {caller : Int}
  {e : ExternalError}

theorem removeSubmission_bundled (strings : Strings) :
    removeSubmissionFunction strings ∈ bundledFunctions strings := by
  simp [bundledFunctions]

theorem removeSubmissions_bundled (strings : Strings) :
    removeSubmissionsFunction ∈ bundledFunctions strings := by
  simp [bundledFunctions]

theorem viewSessions_bundled (strings : Strings) :
    viewSessionsFunction strings ∈ bundledFunctions strings := by
  simp [bundledFunctions]

theorem CallFault.call_eq_error (h : s.CallFault arguments function e)
    (hcaller : s.caller? token = some caller) :
    (s.call clock function token arguments).1 = .error e := by
  rw [call_answer]
  cases h with
  | arguments f e bundled rejected kind =>
    rw [run_of_caller hcaller bundled, ExternalFunction.call_of_error rejected]
  | assignment function assignid userids asks unknown =>
    cases asks with
    | one hasks =>
      refine (congrArg Prod.fst
        (run_of_caller hcaller (removeSubmission_bundled s.strings) clock arguments)).trans ?_
      exact removeSubmission_call_error_iff.2 (.inr ⟨⟨assignid, _⟩, hasks, unknown, rfl⟩)
    | several hasks =>
      refine (congrArg Prod.fst
        (run_of_caller hcaller (removeSubmissions_bundled s.strings) clock arguments)).trans ?_
      exact removeSubmissions_call_error_iff.2 (.inr ⟨⟨assignid, userids⟩, hasks, unknown, rfl⟩)
  | chat cmid start finish asks unknown =>
    refine (congrArg Prod.fst
      (run_of_caller hcaller (viewSessions_bundled s.strings) clock arguments)).trans ?_
    exact viewSessions_call_error_iff.2 (.inr ⟨⟨cmid, start, finish⟩, asks, unknown, rfl⟩)

theorem callFault_of_call_eq_error (hname : function ∈ moduleFunctions)
    (hcaller : s.caller? token = some caller)
    (h : (s.call clock function token arguments).1 = .error e) :
    s.CallFault arguments function e := by
  simp only [moduleFunctions, List.mem_cons, List.not_mem_nil, or_false] at hname
  rw [call_answer] at h
  rcases hname with rfl | rfl | rfl
  · have hbundled := removeSubmission_bundled s.strings
    rw [show "mod_assign_remove_submission" = (removeSubmissionFunction s.strings).name from rfl,
      run_of_caller hcaller hbundled] at h
    rcases removeSubmission_call_error_iff.1 h with hrejected | ⟨x, hasks, hunknown, rfl⟩
    · exact .arguments _ e hbundled hrejected (isOfArguments_of_validateArguments hrejected)
    · exact .assignment _ _ _ (.one hasks) hunknown
  · have hbundled := removeSubmissions_bundled s.strings
    rw [show "mod_assign_remove_submissions" = removeSubmissionsFunction.name from rfl,
      run_of_caller hcaller hbundled] at h
    rcases removeSubmissions_call_error_iff.1 h with hrejected | ⟨x, hasks, hunknown, rfl⟩
    · exact .arguments _ e hbundled hrejected (isOfArguments_of_validateArguments hrejected)
    · exact .assignment _ _ _ (.several hasks) hunknown
  · have hbundled := viewSessions_bundled s.strings
    rw [show "mod_chat_view_sessions" = (viewSessionsFunction s.strings).name from rfl,
      run_of_caller hcaller hbundled] at h
    rcases viewSessions_call_error_iff.1 h with hrejected | ⟨x, hasks, hunknown, rfl⟩
    · exact .arguments _ e hbundled hrejected (isOfArguments_of_validateArguments hrejected)
    · exact .chat _ _ _ hasks hunknown

/-- Every function decodes whatever was validated. Whoever has a token is refused by the functions
on assignments and chats for the reasons listed, and for no other. -/
theorem decodes_and_fails_for_cause (s : Service) :
    (∀ f ∈ bundledFunctions s.strings,
        ∃ d ∈ decodings s.strings, d.function = f ∧ d.IsFaithful) ∧
      ∀ (clock : Clock) (function token : String) (arguments : Json) (caller : Int)
        (e : ExternalError), function ∈ moduleFunctions → s.caller? token = some caller →
          ((s.call clock function token arguments).1 = .error e ↔
            s.CallFault arguments function e) := by
  constructor
  · intro f hf
    have hdecodings : bundledFunctions s.strings =
        (decodings s.strings).map (·.function) := rfl
    rw [hdecodings, List.mem_map] at hf
    obtain ⟨d, hd, hfunction⟩ := hf
    exact ⟨d, hd, hfunction, isFaithful_of_mem_decodings s.strings hd⟩
  · intro clock function token arguments caller e hname hcaller
    exact ⟨callFault_of_call_eq_error hname hcaller, fun h => h.call_eq_error hcaller⟩

/-- The newcomer asks for a removal from an assignment that is not there. -/
theorem newcomer_fails_for_cause :
    "mod_assign_remove_submission" ∈ moduleFunctions ∧
      newcomerService.caller? "token" = some 5 ∧
      (newcomerService.call ⟨0, ""⟩ "mod_assign_remove_submission" "token" (oneRemoval 1 2)).1 =
        .error (.recordNotFound "assign" (toString (1 : Int))) := by
  have hasks : (oneRemoval 1 2).AsksForOne 1 2 := asksForOne_oneRemoval (by decide) (by decide)
  have hfault : newcomerService.CallFault (oneRemoval 1 2) "mod_assign_remove_submission"
      (.recordNotFound "assign" (toString (1 : Int))) := .assignment _ 1 [2] (.one hasks) rfl
  refine ⟨by decide, rfl, ?_⟩
  exact ((decodes_and_fails_for_cause newcomerService).2 ⟨0, ""⟩ _ _ _ 5 _ (by decide) rfl).2 hfault

end Service

end Campus
