import Campus.Proofs.Dispatch
import Campus.Proofs.RemovalCalls
import Campus.Proofs.Sessions

/-!
# What a call changes

A removal takes back the latest attempts that hold something and that the caller may change. Looking
at the sessions of a chat leaves one event. Nothing else on the site ever changes in a call.
-/

namespace Campus

/-! ## Badges -/

section Badges

variable {strings : Strings} {ctx : CallContext} {arguments : Json}

theorem userBadgeByHash_readOnly :
    Run.ReadOnly ((userBadgeByHashFunction strings Site.awardSource).call ctx arguments) :=
  ExternalFunction.call_readOnly fun _ =>
    (Run.readOnly_liftExcept _).bind fun _ => Run.readOnly_get.bind fun _ =>
      (Run.readOnly_liftExcept _).bind fun _ => Run.readOnly_pure _

theorem externalBadges_readOnly :
    Run.ReadOnly ((externalBadgesFunction strings).call ctx arguments) :=
  ExternalFunction.call_readOnly fun _ =>
    (Run.readOnly_liftExcept _).bind fun userid =>
      have hrun : Run.ReadOnly (ExternalBadges.run strings ctx userid) :=
        (Run.readOnly_liftExcept _).bind fun _ => Run.readOnly_get.bind fun _ => Run.readOnly_pure _
      hrun.bind fun _ => Run.readOnly_pure _

end Badges

/-! ## Chats -/

section Chats

variable (strings : Strings) (ctx : CallContext) (s : Site)

theorem viewSessions_call_site (arguments : Json) :
    (((viewSessionsFunction strings).call ctx arguments) s).2 = s ∨
      ∃ e, (((viewSessionsFunction strings).call ctx arguments) s).2 = s.record e := by
  rcases viewSessions_call_cases strings ctx arguments s with
    ⟨cmid, start, finish, cm, chat, -, -, -, hcall⟩ | ⟨-, hsame⟩
  · exact .inr ⟨_, congrArg Prod.snd hcall⟩
  · exact .inl hsame

end Chats

/-! ## Who may have what removed -/

namespace Site

/-- The caller may change a user's submission: their own, or anyone's. -/
def MayEdit (s : Site) (caller : Int) (a : Assignment) (userid : Int) : Prop :=
  (caller = userid ∧ s.Permits caller Capability.submitAssignment (.module a.course a.cmid)) ∨
    s.Permits caller Capability.editOtherSubmission (.module a.course a.cmid)

end Site

namespace Service

variable {s : Service} {clock : Clock} {function token : String} {arguments : Json}

theorem canEdit_contextOf_iff {caller : Int} {a : Assignment} {userid : Int} :
    a.canEdit userid (s.contextOf clock caller) = true ↔ s.site.MayEdit caller a userid := by
  simp only [Assignment.canEdit, CallContext.isCaller, CallContext.has, contextOf, Assignment.path,
    Bool.or_eq_true, Bool.and_eq_true, beq_iff_eq, Site.has_capabilitiesFor_iff, Site.MayEdit]

/-- A call takes an attempt back: the caller asks for its removal and may change it, it is the
latest, and it holds something. -/
inductive TakesBack (s : Service) (function token : String) (arguments : Json) (id : Int)
    (attempt : Submission) : Prop
  | intro {caller assignid userid : Int} {userids : List Int} {a : Assignment}
      (known : s.caller? token = some caller)
      (request : RemovalRequest function arguments assignid userids)
      (assignment : s.site.assignment? assignid = some a)
      (user : userid ∈ userids)
      (latest : s.site.IsLatest a.id userid id attempt)
      (full : attempt.status = .draft ∨ attempt.status = .submitted)
      (mayEdit : s.site.MayEdit caller a userid)

/-- All that a call did to the site. -/
structure Effect (s : Service) (clock : Clock) (function token : String) (arguments : Json)
    (after : Site) : Prop where
  /-- Only submissions and events may differ. -/
  frame : after = { s.site with submissions := after.submissions, events := after.events }
  issued : after.submissions.issued = s.site.submissions.issued
  changed_iff : ∀ id, after.submission? id ≠ s.site.submission? id ↔
    ∃ attempt, s.TakesBack function token arguments id attempt
  takenBack : ∀ id attempt, s.TakesBack function token arguments id attempt →
    after.submission? id = some { attempt with
      status := if attempt.attemptnumber = 0 then .new else .reopened
      timemodified := clock.seconds }
  events : after.events = s.site.events ∨ function = "mod_chat_view_sessions" ∧
    (s.caller? token).isSome ∧ ∃ e, after.events = s.site.events ++ [e]
  /-- Without an attempt to take back, all but a known caller's look at a chat changes nothing. -/
  idle : (∀ id attempt, ¬s.TakesBack function token arguments id attempt) →
    (function ≠ "mod_chat_view_sessions" ∨ s.caller? token = none) → after = s.site

/-! ## The site after a call -/

theorem run_removal_site {caller assignid : Int} {userids : List Int}
    (hcaller : s.caller? token = some caller)
    (h : RemovalRequest function arguments assignid userids) :
    (s.run clock function token arguments).2 =
      s.site.afterRemovals (s.contextOf clock caller) assignid userids := by
  cases h with
  | one h =>
    have hmem : removeSubmissionFunction s.strings ∈ bundledFunctions s.strings := by
      simp [bundledFunctions]
    have hrun := run_of_caller hcaller hmem clock arguments
    exact (congrArg Prod.snd hrun).trans (call_one_site s.strings h)
  | several h =>
    have hmem : removeSubmissionsFunction ∈ bundledFunctions s.strings := by
      simp [bundledFunctions]
    have hrun := run_of_caller hcaller hmem clock arguments
    exact (congrArg Prod.snd hrun).trans (call_several_site h)

theorem run_site_cases (s : Service) (clock : Clock) (function token : String) (arguments : Json) :
    (s.run clock function token arguments).2 = s.site ∨
      (∃ caller assignid userids, s.caller? token = some caller ∧
        RemovalRequest function arguments assignid userids ∧
        (s.run clock function token arguments).2 =
          s.site.afterRemovals (s.contextOf clock caller) assignid userids) ∨
      (function = "mod_chat_view_sessions" ∧ (s.caller? token).isSome ∧
        ∃ e, (s.run clock function token arguments).2 = s.site.record e) := by
  rcases run_cases s clock function token arguments with
    ⟨e, hrun⟩ | ⟨caller, f, hcaller, hf, rfl, hrun⟩
  · exact .inl (by rw [hrun])
  · rw [hrun]
    simp only [bundledFunctions, List.mem_cons, List.not_mem_nil, or_false] at hf
    rcases hf with rfl | rfl | rfl | rfl | rfl
    · exact .inl (userBadgeByHash_readOnly _)
    · exact .inl (externalBadges_readOnly _)
    · cases hvalid : validateArguments (removeSubmissionFunction s.strings).input arguments with
      | error e => exact .inl (by rw [ExternalFunction.call_of_error hvalid])
      | ok members =>
        obtain ⟨assignid, userid, h, -⟩ := (validateArguments_one_iff s.strings).1 hvalid
        exact .inr (.inl ⟨caller, assignid, [userid], hcaller, .one h, call_one_site s.strings h⟩)
    · cases hvalid : validateArguments removeSubmissionsFunction.input arguments with
      | error e => exact .inl (by rw [ExternalFunction.call_of_error hvalid])
      | ok members =>
        obtain ⟨assignid, userids, h, -⟩ := validateArguments_several_iff.1 hvalid
        exact .inr (.inl ⟨caller, assignid, userids, hcaller, .several h, call_several_site h⟩)
    · rcases viewSessions_call_site s.strings (s.contextOf clock caller) s.site arguments with
        hsame | hevent
      · exact .inl hsame
      · exact .inr (.inr ⟨rfl, by rw [hcaller]; rfl, hevent⟩)

/-! ## Attempts taken back -/

theorem exists_takesBack {caller assignid : Int} {userids : List Int} {a : Assignment}
    (hcaller : s.caller? token = some caller)
    (hrequest : RemovalRequest function arguments assignid userids)
    (ha : s.site.assignment? assignid = some a) {id : Int}
    (hid : id ∈ userids.filterMap (s.site.removable? a (s.contextOf clock caller))) :
    ∃ attempt, s.TakesBack function token arguments id attempt := by
  obtain ⟨userid, huser, hid⟩ := List.mem_filterMap.1 hid
  obtain ⟨hedit, attempt, hlatest, hfull⟩ := Site.removable?_eq_some_iff.1 hid
  exact ⟨attempt, hcaller, hrequest, ha, huser, Site.latestAttempt?_eq_some_iff.1 hlatest,
    SubmissionStatus.isRemovable_iff.1 hfull, canEdit_contextOf_iff.1 hedit⟩

theorem submission?_of_takesBack {id : Int} {attempt : Submission}
    (h : s.TakesBack function token arguments id attempt) :
    (s.run clock function token arguments).2.submission? id =
      some (attempt.removed clock.seconds) := by
  obtain @⟨caller, assignid, userid, userids, a, hcaller, hrequest, ha, huser, hlatest, hfull,
    hedit⟩ := h
  have hid : s.site.removable? a (s.contextOf clock caller) userid = some id :=
    Site.removable?_eq_some_iff.2 ⟨canEdit_contextOf_iff.2 hedit, attempt,
      Site.latestAttempt?_eq_some_iff.2 hlatest, SubmissionStatus.isRemovable_iff.2 hfull⟩
  have hmem := List.mem_filterMap.2 ⟨userid, huser, hid⟩
  rw [run_removal_site hcaller hrequest, Site.afterRemovals, ha]
  simp only [Site.takeBack_submission?, hlatest.stored, Option.map_some, if_pos hmem]
  rfl

theorem exists_takesBack_of_ne {id : Int}
    (h : (s.run clock function token arguments).2.submission? id ≠ s.site.submission? id) :
    ∃ attempt, s.TakesBack function token arguments id attempt := by
  rcases run_site_cases s clock function token arguments with
    hsame | ⟨caller, assignid, userids, hcaller, hrequest, hafter⟩ | ⟨-, -, e, hafter⟩
  · rw [hsame] at h
    exact absurd rfl h
  · rw [hafter, Site.afterRemovals] at h
    cases ha : s.site.assignment? assignid with
    | none =>
      rw [ha] at h
      exact absurd rfl h
    | some a =>
      rw [ha] at h
      simp only [Site.takeBack_submission?] at h
      by_cases hid : id ∈ userids.filterMap (s.site.removable? a (s.contextOf clock caller))
      · exact exists_takesBack hcaller hrequest ha hid
      · simp [hid] at h
  · rw [hafter] at h
    exact absurd rfl h

theorem afterRemovals_eq_self {caller assignid : Int} {userids : List Int}
    (hcaller : s.caller? token = some caller)
    (hrequest : RemovalRequest function arguments assignid userids)
    (hnone : ∀ id attempt, ¬s.TakesBack function token arguments id attempt) :
    s.site.afterRemovals (s.contextOf clock caller) assignid userids = s.site := by
  unfold Site.afterRemovals
  cases ha : s.site.assignment? assignid with
  | none => rfl
  | some a =>
    have hempty : userids.filterMap (s.site.removable? a (s.contextOf clock caller)) = [] := by
      refine List.eq_nil_iff_forall_not_mem.2 fun id hid => ?_
      obtain ⟨attempt, h⟩ := exists_takesBack hcaller hrequest ha hid
      exact hnone id attempt h
    simp only [hempty, Site.takeBack_nil]

theorem TakesBack.stored {id : Int} {attempt : Submission}
    (h : s.TakesBack function token arguments id attempt) :
    s.site.submission? id = some attempt := by
  cases h with
  | intro _ _ _ _ latest _ _ => exact latest.stored

theorem TakesBack.removed_ne {id : Int} {attempt : Submission}
    (h : s.TakesBack function token arguments id attempt) (now : Int) :
    attempt.removed now ≠ attempt := by
  cases h with
  | intro _ _ _ _ _ full _ =>
    exact Submission.removed_ne (SubmissionStatus.isRemovable_iff.2 full) now

/-! ## The whole effect -/

theorem run_site_frame (s : Service) (clock : Clock) (function token : String) (arguments : Json) :
    ∃ submissions events, submissions.issued = s.site.submissions.issued ∧
      (events = s.site.events ∨ function = "mod_chat_view_sessions" ∧ (s.caller? token).isSome ∧
        ∃ e, events = s.site.events ++ [e]) ∧
      (s.run clock function token arguments).2 = { s.site with submissions, events } := by
  rcases run_site_cases s clock function token arguments with
    hsame | ⟨caller, assignid, userids, -, -, hafter⟩ | ⟨hchat, hcaller, e, hafter⟩
  · exact ⟨_, _, rfl, .inl rfl, hsame⟩
  · rw [hafter]
    unfold Site.afterRemovals
    cases s.site.assignment? assignid with
    | none => exact ⟨_, _, rfl, .inl rfl, rfl⟩
    | some a => exact ⟨(s.site.takeBack _ _).submissions, _, rfl, .inl rfl, rfl⟩
  · exact ⟨_, _, rfl, .inr ⟨hchat, hcaller, e, rfl⟩, hafter⟩

theorem run_site_idle (hnone : ∀ id attempt, ¬s.TakesBack function token arguments id attempt)
    (hidle : function ≠ "mod_chat_view_sessions" ∨ s.caller? token = none) :
    (s.run clock function token arguments).2 = s.site := by
  rcases run_site_cases s clock function token arguments with
    hsame | ⟨caller, assignid, userids, hcaller, hrequest, hafter⟩ | ⟨hchat, hcaller, e, hafter⟩
  · exact hsame
  · rw [hafter, afterRemovals_eq_self hcaller hrequest hnone]
  · rcases hidle with hne | hunknown
    · exact absurd hchat hne
    · rw [hunknown] at hcaller
      cases hcaller

/-- What a call does to the site, whoever calls what on whichever site. -/
theorem call_effect (s : Service) (clock : Clock) (function token : String) (arguments : Json) :
    s.Effect clock function token arguments (s.call clock function token arguments).2.site := by
  rw [call_site]
  obtain ⟨submissions, events, hissued, hevents, hafter⟩ :=
    run_site_frame s clock function token arguments
  refine
    { frame := by rw [hafter]
      issued := by rw [hafter]; exact hissued
      changed_iff := fun id => ⟨exists_takesBack_of_ne, ?_⟩
      takenBack := fun id attempt h => ?_
      events := by rw [hafter]; exact hevents
      idle := run_site_idle }
  · rintro ⟨attempt, h⟩ hsame
    rw [submission?_of_takesBack h, h.stored, Option.some_inj] at hsame
    exact h.removed_ne clock.seconds hsame
  · rw [submission?_of_takesBack h, Submission.removed_eq]

end Service

end Campus
