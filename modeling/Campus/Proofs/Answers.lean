import Campus.Proofs.Dispatch
import Campus.Proofs.EnvelopeReading
import Campus.Proofs.Sessions

/-!
# What clients are answered

Whatever function is called, its answer is an envelope that a client reads and can write again
unchanged. One that took effect warns of nothing. One that did not has nothing to show, and says
why, except that a single removal may be refused without a word.
-/

namespace Campus

/-- The list that a function answers with beside the status and the warnings. -/
def ownList? (function : String) : Option String :=
  if function = "core_badges_get_user_badge_by_hash" then some "badge"
  else if function = "core_badges_get_external_badges" then some "badges"
  else none

/-- The envelope is an answer of the function. -/
structure Envelope.IsAnswerOf (function : String) (e : Envelope) : Prop where
  payload : ∃ items : List Json,
    e.payload = ((ownList? function).toList.map fun name => (name, .array items)) ∧
      (e.status = false → items = [])
  quiet : e.status = true → e.warnings = []
  warned : function ≠ "mod_assign_remove_submission" → e.status = false → e.warnings ≠ []

/-! ## Reading what was written -/

theorem lt_status_of_ownList? {function name : String} (h : ownList? function = some name) :
    name < "status" := by
  unfold ownList? at h
  split at h
  · cases h; decide
  · split at h
    · cases h; decide
    · cases h

namespace Envelope

variable {function : String} {e : Envelope}

theorem IsAnswerOf.toJson_eq_object (h : e.IsAnswerOf function) : e.toJson = .object (e.payload ++
    [("status", .bool e.status), ("warnings", .array (e.warnings.map Warning.toJson))]) := by
  obtain ⟨items, hpayload, -⟩ := h.payload
  obtain ⟨status, payload, ws⟩ := e
  cases hpayload
  cases hlist : ownList? function with
  | none => exact Envelope.toJson_eq_object status ws
  | some name =>
    exact toJson_eq_object_of_member (lt_status_of_ownList? hlist) (.array items) status ws

theorem IsAnswerOf.keys (h : e.IsAnswerOf function) : ∃ members, e.toJson = .object members ∧
    Keyed.keys members = (ownList? function).toList ++ ["status", "warnings"] := by
  refine ⟨_, h.toJson_eq_object, ?_⟩
  obtain ⟨items, hpayload, -⟩ := h.payload
  rw [hpayload]
  cases ownList? function <;> rfl

theorem IsAnswerOf.isPayload (h : e.IsAnswerOf function) : IsPayload e.payload := by
  obtain ⟨items, hpayload, -⟩ := h.payload
  rw [hpayload]
  cases hlist : ownList? function with
  | none => exact ⟨List.Pairwise.nil, List.forall_mem_nil _⟩
  | some name =>
    have hlt := lt_status_of_ownList? hlist
    refine ⟨List.pairwise_singleton _ _, List.forall_mem_singleton.2 ⟨?_, ?_⟩⟩
    · rintro rfl
      exact Std.lt_irrefl hlt
    · rintro rfl
      exact absurd hlt (by decide)

theorem IsAnswerOf.read_toJson (h : e.IsAnswerOf function) (hclean : ∀ w ∈ e.warnings, w.IsClean) :
    Rpc.callResultReader.read e.toJson = .ok e :=
  Envelope.read_toJson ⟨h.isPayload, fun w hw => (hclean w hw).itemid⟩

/-! ## Cleaning -/

section Cleaning

open Description

variable {desc statusDesc : String} {result : Json}

theorem IsAnswerOf.cleaned (he : e.IsAnswerOf function) (hlist : ownList? function = none)
    (h : cleanResult (.statusWithWarnings desc) e.toJson = .ok result) :
    (∀ w ∈ e.warnings, w.IsClean) ∧ e.toJson = result := by
  obtain ⟨items, hpayload, -⟩ := he.payload
  obtain ⟨status, payload, ws⟩ := e
  rw [hlist] at hpayload
  cases hpayload
  have hkept : (statusWithWarnings desc).KeptIff (toJson { status, warnings := ws })
      (∀ w ∈ ws, w.IsClean) := by
    rw [toJson]
    refine KeptIff.congr (keptIff_ofMembers (by simp [Keyed.keys]) <|
      .cons keptIff_bool <| .cons (keptIff_warnings ws) .nil) ?_
    simp
  obtain ⟨out, hfit, -⟩ := cleanResult_eq_ok_iff.1 h
  have hclean := hkept.iff_fits.2 ⟨out, hfit⟩
  rw [cleanResult_toJson hclean] at h
  cases h
  exact ⟨hclean, rfl⟩

theorem fit_listOf_array {content : Description} {items : List Json} {out : Option Json}
    (h : (listOf content desc).fit .output (.array items) = .ok out) :
    ∃ kept, out = some (.array kept) ∧ (items = [] → kept = []) := by
  obtain ⟨kept, hkept, rfl⟩ := fit_array_eq_ok_iff.1 h
  refine ⟨kept, rfl, ?_⟩
  rintro rfl
  cases hkept
  rfl

theorem IsAnswerOf.cleaned_of_list (he : e.IsAnswerOf function) {name listDesc : String}
    {content : Description} (hlist : ownList? function = some name)
    (h : cleanResult (structureOf desc [("status", plain .bool statusDesc),
      (name, listOf content listDesc), ("warnings", Description.warnings)]) e.toJson =
        .ok result) :
    ∃ cleaned : Envelope, cleaned.IsAnswerOf function ∧ (∀ w ∈ cleaned.warnings, w.IsClean) ∧
      cleaned.toJson = result := by
  have hname := lt_status_of_ownList? hlist
  have hstatus : name ≠ "status" := fun h => Std.lt_irrefl (h ▸ hname)
  have hwarnings : name ≠ "warnings" := fun h => absurd (h ▸ hname) (by decide)
  obtain ⟨items, hpayload, hitems⟩ := he.payload
  rw [hlist] at hpayload
  replace hpayload : e.payload = [(name, .array items)] := hpayload
  obtain ⟨out, hfit, rfl⟩ := cleanResult_eq_ok_iff.1 h
  rw [he.toJson_eq_object, hpayload, List.singleton_append] at hfit
  obtain ⟨-, members, hfields, rfl⟩ := fit_object_eq_ok_iff.1 hfit
  -- Of the fields, in the order declared, only the list may be fitted to something else.
  obtain ⟨first, hfirst, hfields⟩ := fitFields_cons_eq_ok_iff.1 hfields
  obtain ⟨second, hsecond, hfields⟩ := fitFields_cons_eq_ok_iff.1 hfields
  obtain ⟨third, hthird, hfields⟩ := fitFields_cons_eq_ok_iff.1 hfields
  rw [Keyed.get?_cons, if_neg hstatus] at hfirst
  rw [Keyed.get?_cons, if_pos rfl] at hsecond
  rw [Keyed.get?_cons, if_neg hwarnings] at hthird
  have hclean := (keptIff_warnings e.warnings).iff_fits.2 ⟨third, hthird⟩
  obtain ⟨kept, rfl, hkept⟩ := fit_listOf_array hsecond
  cases (fit_plain_of_coerce rfl rfl).symm.trans hfirst
  cases (fit_warnings hclean).symm.trans hthird
  cases hfields
  refine ⟨{ e with payload := [(name, .array kept)] }, ⟨⟨kept, ?_, ?_⟩, he.quiet, he.warned⟩,
    hclean, rfl⟩
  · rw [hlist]
    rfl
  · exact fun hs => hkept (hitems hs)

end Cleaning

end Envelope

/-! ## What functions answer -/

namespace Outcome

variable {function : String}

/-- The outcome says why it failed, if it did. -/
def IsWarned {α : Type} (o : Outcome α) : Prop := o.isOk = false → o.warnings ≠ []

theorem toEnvelope_isAnswerOf {α : Type} {name : String} (hlist : ownList? function = some name)
    (items : α → List Json) {o : Outcome α} (ho : o.IsWarned) :
    ((o.map fun a => [(name, .array (items a))]).toEnvelope
      [(name, .array [])]).IsAnswerOf function := by
  cases o with
  | ok a =>
    refine ⟨⟨items a, ?_, nofun⟩, fun _ => rfl, fun _ => nofun⟩
    rw [hlist]
    rfl
  | failed ws =>
    refine ⟨⟨[], ?_, fun _ => rfl⟩, nofun, fun _ _ => ho rfl⟩
    rw [hlist]
    rfl

theorem exists_isAnswerOf_toResult (hlist : ownList? function = none) {o : Outcome Unit}
    (ho : function ≠ "mod_assign_remove_submission" → o.IsWarned) :
    ∃ e : Envelope, e.IsAnswerOf function ∧ e.toJson = o.toResult := by
  cases o with
  | ok _ =>
    refine ⟨{ status := true }, ⟨⟨[], ?_, nofun⟩, fun _ => rfl, fun _ => nofun⟩, rfl⟩
    rw [hlist]
    rfl
  | failed ws =>
    refine ⟨{ status := false, warnings := ws }, ⟨⟨[], ?_, fun _ => rfl⟩, nofun, ?_⟩, rfl⟩
    · rw [hlist]
      rfl
    · exact fun hname _ => ho hname rfl

end Outcome

section Functions

variable {strings : Strings} {ctx : CallContext} {s after : Site} {members : List (String × Json)}
  {raw result : Json}

theorem find_isWarned {source : AwardSource} {hash : String} {o : Outcome UserBadge}
    (h : UserBadgeByHash.find strings source ctx hash = .ok o) : o.IsWarned := by
  obtain ⟨-, -, h⟩ := bind_eq_ok_iff.1 h
  split at h
  · cases h
    exact fun _ => List.cons_ne_nil _ _
  · split at h
    · cases h
    · obtain ⟨b, -, rfl⟩ := map_eq_ok_iff.1 h
      exact nofun

theorem fetch_isWarned {userid : Int} : (ExternalBadges.fetch strings s ctx userid).IsWarned := by
  unfold ExternalBadges.fetch
  split
  · exact fun _ => List.cons_ne_nil _ _
  · exact fun _ => List.cons_ne_nil _ _
  · exact nofun

theorem toOutcome_isWarned (b : Batch) : b.toOutcome.IsWarned := by
  intro hfailed hnil
  rw [Batch.isOk_toOutcome] at hfailed
  rw [Batch.warnings_toOutcome] at hnil
  rw [hnil] at hfailed
  cases hfailed

theorem viewSessions_isWarned {x : ViewSessions.Arguments} {o : Outcome Unit}
    (h : (ViewSessions.run strings ctx x) s = (.ok o, after)) : o.IsWarned := by
  rcases ViewSessions.run_cases strings ctx x s with
    ⟨e, hrun⟩ | ⟨id, hrun⟩ | ⟨cm, chat, -, -, hrun⟩
  · cases hrun.symm.trans h
  · cases hrun.symm.trans h
    exact fun _ => List.cons_ne_nil _ _
  · cases hrun.symm.trans h
    exact nofun

theorem execute_isAnswerOf {f : ExternalFunction Site} (hf : f ∈ bundledFunctions strings)
    (h : (f.execute ctx members) s = (.ok raw, after)) :
    ∃ e : Envelope, e.IsAnswerOf f.name ∧ e.toJson = raw := by
  simp only [bundledFunctions, List.mem_cons, List.not_mem_nil, or_false] at hf
  rcases hf with rfl | rfl | rfl | rfl | rfl
  · obtain ⟨hash, mid, -, h⟩ := Run.bind_eq_ok_iff.1 h
    obtain ⟨site, mid, -, h⟩ := Run.bind_eq_ok_iff.1 h
    obtain ⟨o, mid, hfind, h⟩ := Run.bind_eq_ok_iff.1 h
    rw [Run.liftExcept_apply] at hfind
    cases h
    have ho := find_isWarned (congrArg Prod.fst hfind)
    exact ⟨_, Outcome.toEnvelope_isAnswerOf rfl (fun b => [b.toJson]) ho, rfl⟩
  · obtain ⟨userid, mid, -, h⟩ := Run.bind_eq_ok_iff.1 h
    obtain ⟨o, mid, hrun, h⟩ := Run.bind_eq_ok_iff.1 h
    obtain ⟨-, mid, -, hrun⟩ := Run.bind_eq_ok_iff.1 hrun
    obtain ⟨site, mid, -, hrun⟩ := Run.bind_eq_ok_iff.1 hrun
    cases hrun
    cases h
    exact ⟨_, Outcome.toEnvelope_isAnswerOf rfl (List.map ExternalBadge.toResult) fetch_isWarned,
      rfl⟩
  · obtain ⟨x, mid, -, h⟩ := Run.bind_eq_ok_iff.1 h
    obtain ⟨o, mid, -, h⟩ := Run.bind_eq_ok_iff.1 h
    cases h
    exact Outcome.exists_isAnswerOf_toResult rfl fun hname => absurd rfl hname
  · obtain ⟨x, mid, -, h⟩ := Run.bind_eq_ok_iff.1 h
    obtain ⟨o, mid, hrun, h⟩ := Run.bind_eq_ok_iff.1 h
    obtain ⟨a, mid, -, hrun⟩ := Run.bind_eq_ok_iff.1 hrun
    obtain ⟨b, mid, -, hrun⟩ := Run.bind_eq_ok_iff.1 hrun
    cases hrun
    cases h
    exact Outcome.exists_isAnswerOf_toResult rfl fun _ => toOutcome_isWarned b
  · obtain ⟨x, mid, -, h⟩ := Run.bind_eq_ok_iff.1 h
    obtain ⟨o, mid, hrun, h⟩ := Run.bind_eq_ok_iff.1 h
    cases h
    exact Outcome.exists_isAnswerOf_toResult rfl fun _ => viewSessions_isWarned hrun

theorem cleanResult_isAnswerOf {f : ExternalFunction Site} (hf : f ∈ bundledFunctions strings)
    {e : Envelope} (he : e.IsAnswerOf f.name) (h : cleanResult f.output e.toJson = .ok result) :
    ∃ cleaned : Envelope, cleaned.IsAnswerOf f.name ∧ (∀ w ∈ cleaned.warnings, w.IsClean) ∧
      cleaned.toJson = result := by
  simp only [bundledFunctions, List.mem_cons, List.not_mem_nil, or_false] at hf
  rcases hf with rfl | rfl | rfl | rfl | rfl
  · exact he.cleaned_of_list rfl h
  · exact he.cleaned_of_list rfl h
  · exact ⟨e, he, he.cleaned rfl h⟩
  · exact ⟨e, he, he.cleaned rfl h⟩
  · exact ⟨e, he, he.cleaned rfl h⟩

end Functions

/-- Every result is an envelope of the function's own list, the status and the warnings, which a
client reads and can write again unchanged. -/
theorem Service.call_isAnswerOf {s : Service} {clock : Clock} {function token : String}
    {arguments result : Json} (h : (s.call clock function token arguments).1 = .ok result) :
    ∃ e : Envelope, e.IsAnswerOf function ∧ Rpc.callResultReader.read result = .ok e ∧
      e.toJson = result ∧ ∃ members, result = .object members ∧
        Keyed.keys members = (ownList? function).toList ++ ["status", "warnings"] := by
  rw [call_answer] at h
  obtain ⟨e, hrun⟩ | ⟨caller, f, -, hf, rfl, hrun⟩ := s.run_cases clock function token arguments
  · rw [hrun] at h
    cases h
  · rw [hrun] at h
    cases hvalid : validateArguments f.input arguments with
    | error e =>
      rw [ExternalFunction.call_of_error hvalid] at h
      cases h
    | ok members =>
      rw [ExternalFunction.call_of_ok hvalid] at h
      split at h
      · next raw after hexecute =>
        obtain ⟨e₀, he₀, rfl⟩ := execute_isAnswerOf hf hexecute
        obtain ⟨e, he, hclean, rfl⟩ := cleanResult_isAnswerOf hf he₀ h
        exact ⟨e, he, he.read_toJson hclean, rfl, he.keys⟩
      · cases h

/-- A site of one user, who holds a token. -/
def newcomerService : Service where
  site := {
    users := Table.empty.put 5 ⟨5, "ada", "Ada", "Lovelace", "ada@example.com", false⟩
    tokens := [("token", 5)] }

/-- There is no badge of an unknown hash, and a warning says so. -/
theorem newcomerService_answers :
    let result : Json := .object [("badge", .array []), ("status", .bool false),
      ("warnings", .array [.object [("item", .string "abc"),
        ("message", .string
          "Cannot verify this awarded badge. This badge may have been revoked."),
        ("warningcode", .string "badgeawardnotfound")]])]
    (newcomerService.call ⟨0, ""⟩ "core_badges_get_user_badge_by_hash" "token"
        (.object [("hash", .string "abc")])).1 = .ok result ∧
      ∃ e : Envelope, e.IsAnswerOf "core_badges_get_user_badge_by_hash" ∧
        Rpc.callResultReader.read result = .ok e ∧ e.toJson = result ∧
        ∃ members, result = .object members ∧
          Keyed.keys members = (ownList? "core_badges_get_user_badge_by_hash").toList ++
            ["status", "warnings"] := by
  intro result
  have hcall : (newcomerService.call ⟨0, ""⟩ "core_badges_get_user_badge_by_hash" "token"
      (.object [("hash", .string "abc")])).1 = .ok result := by rfl
  exact ⟨hcall, Service.call_isAnswerOf hcall⟩

end Campus
