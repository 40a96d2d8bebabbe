import Campus.Function.Chat
import Campus.Proofs.Envelope
import Campus.Proofs.RemovalArguments
import Campus.Proofs.Run

/-!
# Looking at the sessions of a chat

A look names a module, and may name the times to look at. It succeeds if the module places a chat
that is there and the caller may read its log; then it is logged, and else nothing happens.
-/

namespace Campus

/-! ## What a look at sessions asks for -/

/-- The time that a member writes, or 0 if it is left out. -/
def Json.timeAt? (name : String) (arguments : Json) : Option Int :=
  match (arguments.get? name).getD .null with
  | .null => some 0
  | v => v.toInteger?

/-- The arguments name a module, and may name the times to look at. -/
structure Json.AsksForSessions (arguments : Json) (cmid start finish : Int) : Prop where
  only : arguments.HasOnly ["cmid", "start", "end"]
  module : arguments.integerAt? "cmid" = some cmid
  start : arguments.timeAt? "start" = some start
  finish : arguments.timeAt? "end" = some finish

theorem Json.isInt64_of_timeAt? {name : String} {arguments : Json} {n : Int}
    (h : arguments.timeAt? name = some n) : IsInt64 n := by
  unfold timeAt? at h
  split at h
  · cases h
    decide
  · exact isInt64_of_toInteger? h

section Arguments

open Description

variable {strings : Strings} {given members : List (String × Json)} {arguments : Json}

theorem Description.fit_member_time_eq_ok_iff {desc name : String} {out : Option Json} :
    (withDefault (.int 0) (plain .int desc)).fit .input ((Keyed.get? name given).getD .null) =
        .ok out ↔
      ∃ n, (Json.object given).timeAt? name = some n ∧ out = some (.int n) := by
  rw [Json.timeAt?, Json.get?]
  generalize (Keyed.get? name given).getD .null = v
  cases hnull : v.isNull with
  | true =>
    cases v <;> simp_all [withDefault, withPresence, plain, fit, Json.isNull, Presence.absent,
      eq_comm]
  | false =>
    -- A value that is there is fitted as if there was no default.
    have hfit : (withDefault (.int 0) (plain .int desc)).fit .input v =
        (plain .int desc).fit .input v := by
      simp [withDefault, withPresence, plain, fit, hnull]
    rw [hfit, fit_plain_int_eq_ok_iff]
    cases v <;> simp_all [Json.isNull]

theorem validateArguments_sessions_iff :
    validateArguments (viewSessionsFunction strings).input arguments = .ok members ↔
      ∃ cmid start finish, arguments.AsksForSessions cmid start finish ∧
        members = [("cmid", .int cmid), ("end", .int finish), ("start", .int start)] := by
  have hfields : (viewSessionsFunction strings).input = structureOf "params" [
      ("cmid", plain .int "Course module id"),
      ("start", withDefault (.int 0) (plain .int "Session start time")),
      ("end", withDefault (.int 0) (plain .int "Session end time"))] := rfl
  rw [hfields, validateArguments_eq_ok_iff (by rintro ⟨⟩)]
  constructor
  · rintro ⟨given, rfl, honly, hfields⟩
    obtain ⟨_, hfirst, hfields⟩ := fitFields_cons_eq_ok_iff.1 hfields
    obtain ⟨_, hsecond, hfields⟩ := fitFields_cons_eq_ok_iff.1 hfields
    obtain ⟨_, hthird, hfields⟩ := fitFields_cons_eq_ok_iff.1 hfields
    obtain ⟨cmid, hcmid, rfl⟩ := fit_member_int_eq_ok_iff.1 hfirst
    obtain ⟨start, hstart, rfl⟩ := fit_member_time_eq_ok_iff.1 hsecond
    obtain ⟨finish, hfinish, rfl⟩ := fit_member_time_eq_ok_iff.1 hthird
    cases hfields
    exact ⟨cmid, start, finish, ⟨honly, hcmid, hstart, hfinish⟩, rfl⟩
  · rintro ⟨cmid, start, finish, h, rfl⟩
    cases arguments with
    | object given =>
      refine ⟨given, rfl, h.only, ?_⟩
      refine fitFields_cons_eq_ok_iff.2 ⟨_, fit_member_int_eq_ok_iff.2 ⟨_, h.module, rfl⟩, ?_⟩
      refine fitFields_cons_eq_ok_iff.2 ⟨_, fit_member_time_eq_ok_iff.2 ⟨_, h.start, rfl⟩, ?_⟩
      exact fitFields_cons_eq_ok_iff.2 ⟨_, fit_member_time_eq_ok_iff.2 ⟨_, h.finish, rfl⟩, rfl⟩
    | _ => exact h.only.elim

theorem readArguments_sessions {cmid start finish : Int}
    (h : arguments.AsksForSessions cmid start finish) :
    readArguments ViewSessions.Arguments.reader
      [("cmid", .int cmid), ("end", .int finish), ("start", .int start)] =
        .ok ⟨cmid, start, finish⟩ := by
  have hcmid := Reader.read_int64 (Json.isInt64_of_integerAt? h.module)
  have hstart := Reader.read_int64 (Json.isInt64_of_timeAt? h.start)
  have hfinish := Reader.read_int64 (Json.isInt64_of_timeAt? h.finish)
  simp [readArguments, ViewSessions.Arguments.reader, Reader.record, Reader.checkMembers,
    Members.required, Members.member, hcmid, hstart, hfinish, Functor.map, Seq.seq, Keyed.get?,
    Except.map, bind, Except.bind, pure, Except.pure]

end Arguments

/-! ## What it does -/

namespace ViewSessions

theorem chatOf?_eq_some_iff {s : Site} {cmid : Int} {cm : CourseModule} {chat : Chat} :
    chatOf? s cmid = some (cm, chat) ↔
      s.courseModule? cmid = some cm ∧ cm.modname = "chat" ∧
        s.chat? cm.instanceId = some chat := by
  simp only [chatOf?, Site.courseModuleOf?, Option.bind_eq_bind, Option.bind_eq_some_iff,
    Option.filter_eq_some_iff, Option.pure_def, Option.some.injEq, Prod.mk.injEq, beq_iff_eq]
  constructor
  · rintro ⟨cm, ⟨hcm, hname⟩, chat, hchat, rfl, rfl⟩
    exact ⟨hcm, hname, hchat⟩
  · rintro ⟨hcm, hname, hchat⟩
    exact ⟨cm, ⟨hcm, hname⟩, chat, hchat, rfl, rfl⟩

theorem run_cases (strings : Strings) (ctx : CallContext) (x : Arguments) (s : Site) :
    (∃ e, (run strings ctx x) s = (.error e, s)) ∨
    (∃ cmid, (run strings ctx x) s = (.ok (.failed [noPermission strings cmid]), s)) ∨
    ∃ cm chat, chatOf? s x.cmid = some (cm, chat) ∧
      ctx.has Capability.readChatLog (.module cm.course cm.id) = true ∧
      (run strings ctx x) s = (.ok (.ok ()),
        s.record (.sessionsViewed ctx.clock cm chat ctx.caller x.start x.finish)) := by
  simp only [run, Run.bind_apply, Run.get_apply]
  cases hfound : chatOf? s x.cmid with
  | none => exact .inl ⟨_, rfl⟩
  | some found =>
    obtain ⟨cm, chat⟩ := found
    cases hlog : ctx.has Capability.readChatLog (.module cm.course cm.id) with
    | false =>
      refine .inr (.inl ⟨cm.id, ?_⟩)
      simp only [hlog, Bool.false_eq_true, if_false, Run.pure_apply]
    | true =>
      refine .inr (.inr ⟨cm, chat, rfl, hlog, ?_⟩)
      simp only [hlog, if_true, Run.bind_apply, Run.modify_apply, Run.pure_apply]

theorem run_eq_error_iff {strings : Strings} {ctx : CallContext} {x : Arguments} {s : Site}
    {e : ExternalError} : ((run strings ctx x) s).1 = .error e ↔
      chatOf? s x.cmid = none ∧ e = .localized .notFound "invalidcoursemodule" "error" strings := by
  simp only [run, Run.bind_apply, Run.get_apply]
  cases hfound : chatOf? s x.cmid with
  | none => simp [eq_comm]
  | some found =>
    cases hlog : ctx.has Capability.readChatLog (.module found.1.course found.1.id) with
    | false => simp [hlog]
    | true => simp [hlog, Run.bind_apply]

theorem noPermission_isClean (strings : Strings) (cmid : Int) :
    (noPermission strings cmid).IsClean := by
  refine ⟨?_, nofun⟩
  show "nopermissiontoseethechatlog".toList.all isAlphanumeric = true
  decide

theorem isClean_of_run {strings : Strings} {ctx : CallContext} {x : Arguments} {s : Site}
    {o : Outcome Unit} (h : ((run strings ctx x) s).1 = .ok o) : ∀ w ∈ o.warnings, w.IsClean := by
  rcases run_cases strings ctx x s with ⟨e, hrun⟩ | ⟨id, hrun⟩ | ⟨cm, chat, -, -, hrun⟩
  · rw [hrun] at h
    cases h
  · rw [hrun] at h
    cases h
    exact List.forall_mem_singleton.2 (noPermission_isClean strings id)
  · rw [hrun] at h
    cases h
    exact nofun

end ViewSessions

theorem statusOf?_error_ne (e : ExternalError) (status : Bool) :
    statusOf? (.error e) ≠ some status :=
  (Option.some_ne_none status).symm

theorem call_sessions {strings : Strings} {ctx : CallContext} {s : Site} {arguments : Json}
    {cmid start finish : Int} (h : arguments.AsksForSessions cmid start finish) :
    ((viewSessionsFunction strings).call ctx arguments) s =
      match (ViewSessions.run strings ctx ⟨cmid, start, finish⟩) s with
      | (.ok o, after) => (.ok o.toResult, after)
      | (.error e, after) => (.error e, after) := by
  have hvalid : validateArguments (viewSessionsFunction strings).input arguments =
      .ok [("cmid", .int cmid), ("end", .int finish), ("start", .int start)] :=
    validateArguments_sessions_iff.2 ⟨cmid, start, finish, h, rfl⟩
  rw [ExternalFunction.call_of_ok hvalid]
  simp only [viewSessionsFunction, Run.bind_apply, Run.liftExcept_apply, readArguments_sessions h,
    Run.pure_apply]
  cases hrun : (ViewSessions.run strings ctx ⟨cmid, start, finish⟩) s with
  | mk answer after =>
    cases answer with
    | error e => rfl
    | ok o =>
      have hclean := ViewSessions.isClean_of_run (congrArg Prod.fst hrun)
      exact congrArg (·, after) (Outcome.cleanResult_toResult hclean)

theorem viewSessions_call_cases (strings : Strings) (ctx : CallContext) (arguments : Json)
    (s : Site) :
    (∃ cmid start finish cm chat, arguments.AsksForSessions cmid start finish ∧
      ViewSessions.chatOf? s cmid = some (cm, chat) ∧
      ctx.has Capability.readChatLog (.module cm.course cm.id) = true ∧
      ((viewSessionsFunction strings).call ctx arguments) s =
        (.ok (Outcome.ok ()).toResult,
          s.record (.sessionsViewed ctx.clock cm chat ctx.caller start finish))) ∨
    (statusOf? (((viewSessionsFunction strings).call ctx arguments) s).1 ≠ some true ∧
      (((viewSessionsFunction strings).call ctx arguments) s).2 = s) := by
  cases hvalid : validateArguments (viewSessionsFunction strings).input arguments with
  | error e =>
    rw [ExternalFunction.call_of_error hvalid]
    exact .inr ⟨statusOf?_error_ne e true, rfl⟩
  | ok members =>
    obtain ⟨cmid, start, finish, hasks, rfl⟩ := validateArguments_sessions_iff.1 hvalid
    rw [call_sessions hasks]
    rcases ViewSessions.run_cases strings ctx ⟨cmid, start, finish⟩ s with
      ⟨e, hrun⟩ | ⟨id, hrun⟩ | ⟨cm, chat, hfound, hlog, hrun⟩
    · rw [hrun]
      exact .inr ⟨statusOf?_error_ne e true, rfl⟩
    · rw [hrun]
      refine .inr ⟨?_, rfl⟩
      simp only [Outcome.statusOf?_toResult, Outcome.isOk]
      decide
    · refine .inl ⟨cmid, start, finish, cm, chat, hasks, hfound, hlog, ?_⟩
      rw [hrun]

end Campus
