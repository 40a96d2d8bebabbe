import Mathlib.Data.List.Forall2
import Campus.Proofs.BackpackBadges
import Campus.Proofs.Decoding
import Campus.Proofs.Exchanges

/-!
# Other texts

Services that differ in their texts only go through the same states and give the same replies, but
for the texts of warnings and of errors.
-/

namespace Campus

/-! ## What is said without texts -/

/-- A warning without its text. -/
def Json.withoutMessage : Json → Json
  | .object members => .object (Keyed.erase "message" members)
  | v => v

/-- A list of warnings without their texts. -/
def Json.withoutMessages : Json → Json
  | .array ws => .array (ws.map withoutMessage)
  | v => v

/-- A result whose warnings have lost their texts. Whatever else it holds stays. -/
def Json.wordless : Json → Json
  | .object members => .object (Keyed.modify "warnings" withoutMessages members)
  | v => v

theorem Json.wordless_object (members : List (String × Json)) :
    (Json.object members).wordless =
      .object (Keyed.modify "warnings" withoutMessages members) := rfl

/-- The warnings are the same, but for their texts. -/
def SameButTexts (ws others : List Warning) : Prop :=
  ws.map (fun w => { w with message := "" }) = others.map fun w => { w with message := "" }

theorem withoutMessage_toJson (w : Warning) (message : String) :
    ({ w with message } : Warning).toJson.withoutMessage = w.toJson.withoutMessage := by
  rw [Warning.toJson_eq_object, Warning.toJson_eq_object]
  obtain ⟨item, itemid, code, text⟩ := w
  cases item <;> cases itemid <;> simp [Json.withoutMessage, Keyed.erase]

theorem SameButTexts.map_withoutMessage {ws others : List Warning} (h : SameButTexts ws others) :
    ws.map (fun w => w.toJson.withoutMessage) = others.map fun w => w.toJson.withoutMessage := by
  have hsilent (ws : List Warning) : ws.map (fun w => w.toJson.withoutMessage) =
      (ws.map fun w => { w with message := "" }).map fun w => w.toJson.withoutMessage := by
    rw [List.map_map]
    exact List.map_congr_left fun w _ => (withoutMessage_toJson w "").symm
  rw [hsilent ws, hsilent others, h]

theorem SameButTexts.isClean {ws others : List Warning} (h : SameButTexts ws others)
    (hws : ∀ w ∈ ws, w.IsClean) : ∀ w ∈ others, w.IsClean := by
  intro w hw
  have hmem : ({ w with message := "" } : Warning) ∈ ws.map fun w => { w with message := "" } :=
    h ▸ List.mem_map_of_mem hw
  obtain ⟨v, hv, heq⟩ := List.mem_map.1 hmem
  obtain ⟨-, hitemid, hcode, -⟩ := (Warning.mk.injEq ..).mp heq
  have hclean := hws v hv
  exact ⟨hcode ▸ hclean.code, hitemid ▸ hclean.itemid⟩

theorem SameButTexts.wordless_object (members : List (String × Json)) {ws others : List Warning}
    (h : SameButTexts ws others) :
    (Json.object (members ++ [("warnings", .array (ws.map Warning.toJson))])).wordless =
      (Json.object (members ++ [("warnings", .array (others.map Warning.toJson))])).wordless := by
  have hlast (ws : List Warning) :
      Keyed.modify "warnings" Json.withoutMessages
        (members ++ [("warnings", .array (ws.map Warning.toJson))]) =
      Keyed.modify "warnings" Json.withoutMessages members ++
        [("warnings", .array (ws.map fun w => w.toJson.withoutMessage))] := by
    unfold Keyed.modify Keyed.mapValues
    rw [List.map_append]
    simp [Json.withoutMessages]
  rw [Json.wordless_object, Json.wordless_object, hlast, hlast, h.map_withoutMessage]

/-! ## What functions say -/

/-- What an answer is without its texts. -/
def plainAnswer : Except ExternalError Json →
    Except (ErrorCategory × String × String) Json
  | .ok result => .ok result.wordless
  | .error e => .error e.kind

/-- The calls left the same site and gave the same answer, but for its texts. -/
structure Reworded (out other : Except ExternalError Json × Site) : Prop where
  answer : plainAnswer out.1 = plainAnswer other.1
  site : out.2 = other.2

theorem Reworded.refl (out : Except ExternalError Json × Site) : Reworded out out := ⟨rfl, rfl⟩

/-- Two runs of a function that differ in texts only: they do the same, or fail for the same reason
or with the same warnings, and leave the same site. -/
inductive RewordedRun {α : Type} : Except ExternalError (Outcome α) × Site →
    Except ExternalError (Outcome α) × Site → Prop
  | same (out : Except ExternalError (Outcome α) × Site) : RewordedRun out out
  | error (e other : ExternalError) (s : Site) (kind : e.kind = other.kind) :
      RewordedRun (.error e, s) (.error other, s)
  | failed (ws others : List Warning) (s : Site) (clean : ∀ w ∈ ws, w.IsClean)
      (texts : SameButTexts ws others) :
      RewordedRun (.ok (.failed ws), s) (.ok (.failed others), s)

/-- A function answers with what its run gave, as far as it is declared. -/
def answered {α : Type} (output : Description) (toResult : Outcome α → Json) :
    Except ExternalError (Outcome α) × Site → Except ExternalError Json × Site
  | (.ok o, after) => (cleanResult output (toResult o), after)
  | (.error e, after) => (.error e, after)

theorem RewordedRun.answered {α : Type} {output : Description} {toResult : Outcome α → Json}
    {out other : Except ExternalError (Outcome α) × Site} (h : RewordedRun out other)
    (members : List (String × Json))
    (hfailed : ∀ ws : List Warning, (∀ w ∈ ws, w.IsClean) →
      cleanResult output (toResult (.failed ws)) =
        .ok (.object (members ++ [("warnings", .array (ws.map Warning.toJson))]))) :
    Reworded (answered output toResult out) (answered output toResult other) := by
  cases h with
  | same => exact .refl _
  | error e other s kind => exact ⟨congrArg Except.error kind, rfl⟩
  | failed ws others s clean texts =>
    refine ⟨?_, rfl⟩
    show plainAnswer (cleanResult output (toResult (.failed ws))) =
      plainAnswer (cleanResult output (toResult (.failed others)))
    rw [hfailed ws clean, hfailed others (texts.isClean clean)]
    exact congrArg Except.ok (texts.wordless_object members)

/-- The function reads its arguments, runs, and answers with a result of the outcome. -/
def ExternalFunction.Runs {ξ α : Type} (f : ExternalFunction Site) (reader : Reader ξ)
    (run : CallContext → ξ → Run Site (Outcome α)) (toResult : Outcome α → Json) : Prop :=
  f.execute = fun ctx members =>
    liftExcept (readArguments reader members) >>= fun x =>
      run ctx x >>= fun o => pure (toResult o)

theorem ExternalFunction.Runs.call_eq {ξ α : Type} {f : ExternalFunction Site} {reader : Reader ξ}
    {run : CallContext → ξ → Run Site (Outcome α)} {toResult : Outcome α → Json}
    (h : f.Runs reader run toResult) {ctx : CallContext} {arguments : Json} {s : Site}
    {members : List (String × Json)} (hvalid : validateArguments f.input arguments = .ok members) :
    (f.call ctx arguments) s =
      match readArguments reader members with
      | .error e => (.error e, s)
      | .ok x => answered f.output toResult ((run ctx x) s) := by
  rw [call_of_ok hvalid, h]
  simp only [Run.bind_apply, Run.liftExcept_apply]
  cases readArguments reader members with
  | error e => rfl
  | ok x =>
    dsimp only
    rcases (run ctx x) s with ⟨_ | _, _⟩ <;> rfl

/-- The functions are declared alike, and their calls differ in texts only. -/
structure ExternalFunction.SameButTexts (f g : ExternalFunction Site) : Prop where
  name : f.name = g.name
  component : f.component = g.component
  description : f.description = g.description
  input : f.input = g.input
  output : f.output = g.output
  call : ∀ ctx arguments s, Reworded ((f.call ctx arguments) s) ((g.call ctx arguments) s)

theorem ExternalFunction.Runs.reworded {ξ α : Type} {f g : ExternalFunction Site}
    {reader : Reader ξ} {run other : CallContext → ξ → Run Site (Outcome α)}
    {toResult : Outcome α → Json} (hf : f.Runs reader run toResult)
    (hg : g.Runs reader other toResult) (hinput : f.input = g.input) (houtput : f.output = g.output)
    (members : List (String × Json))
    (hfailed : ∀ ws : List Warning, (∀ w ∈ ws, w.IsClean) →
      cleanResult f.output (toResult (.failed ws)) =
        .ok (.object (members ++ [("warnings", .array (ws.map Warning.toJson))])))
    (hrun : ∀ ctx arguments given x s, validateArguments f.input arguments = .ok given →
      readArguments reader given = .ok x → RewordedRun ((run ctx x) s) ((other ctx x) s))
    (ctx : CallContext) (arguments : Json) (s : Site) :
    Reworded ((f.call ctx arguments) s) ((g.call ctx arguments) s) := by
  cases hvalid : validateArguments f.input arguments with
  | error e =>
    rw [call_of_error hvalid, call_of_error (hinput ▸ hvalid)]
    exact .refl _
  | ok given =>
    rw [hf.call_eq hvalid, hg.call_eq (hinput ▸ hvalid), ← houtput]
    cases hread : readArguments reader given with
    | error e => exact .refl _
    | ok x => exact (hrun ctx arguments given x s hvalid hread).answered members hfailed

section Functions

variable (strings other : Strings)

theorem kind_localized (category : ErrorCategory) (errorcode component : String) :
    (ExternalError.localized category errorcode component strings).kind =
      (ExternalError.localized category errorcode component other).kind := rfl

theorem requireBadges_cases (features : Features) :
    (requireBadges strings features = .ok () ∧ requireBadges other features = .ok ()) ∨
      ∃ e e', requireBadges strings features = .error e ∧
        requireBadges other features = .error e' ∧ e.kind = e'.kind := by
  unfold requireBadges
  cases features.enableBadges with
  | true => exact .inl ⟨rfl, rfl⟩
  | false => exact .inr ⟨_, _, rfl, rfl, kind_localized strings other _ _ _⟩

theorem requireBackpacks_cases (features : Features) :
    (requireBackpacks strings features = .ok () ∧ requireBackpacks other features = .ok ()) ∨
      ∃ e e', requireBackpacks strings features = .error e ∧
        requireBackpacks other features = .error e' ∧ e.kind = e'.kind := by
  unfold requireBackpacks
  obtain ⟨h, h'⟩ | ⟨e, e', h, h', hkind⟩ := requireBadges_cases strings other features
  · rw [h, h']
    cases features.allowExternalBackpack with
    | true => exact .inl ⟨rfl, rfl⟩
    | false => exact .inr ⟨_, _, rfl, rfl, kind_localized strings other _ _ _⟩
  · rw [h, h']
    exact .inr ⟨e, e', rfl, rfl, hkind⟩

theorem notFound_isClean (hash : String) : (UserBadgeByHash.notFound strings hash).IsClean := by
  refine ⟨?_, nofun⟩
  show "badgeawardnotfound".toList.all isAlphanumeric = true
  decide

theorem find_reworded (ctx : CallContext) (hash : String) (s : Site) :
    RewordedRun (UserBadgeByHash.find strings s.awardSource ctx hash, s)
      (UserBadgeByHash.find other s.awardSource ctx hash, s) := by
  unfold UserBadgeByHash.find
  obtain ⟨h, h'⟩ | ⟨e, e', h, h', hkind⟩ := requireBadges_cases strings other ctx.features
  · rw [h, h']
    cases s.awardSource.awardByHash hash with
    | some award => exact .same _
    | none =>
      exact .failed _ _ s (List.forall_mem_singleton.2 (notFound_isClean strings hash)) rfl
  · rw [h, h']
    exact .error e e' s hkind

theorem fetch_reworded (ctx : CallContext) (userid : Int) (s : Site) :
    RewordedRun ((ExternalBadges.run strings ctx userid) s)
      ((ExternalBadges.run other ctx userid) s) := by
  have hclean {code : String} (hcode : code.toList.all isAlphanumeric = true) :
      ∀ w ∈ [ExternalBadges.notConnected strings code userid], w.IsClean :=
    List.forall_mem_singleton.2 ⟨hcode, nofun⟩
  simp only [ExternalBadges.run, Run.bind_apply, Run.liftExcept_apply, Run.get_apply,
    Run.pure_apply]
  obtain ⟨h, h'⟩ | ⟨e, e', h, h', hkind⟩ := requireBackpacks_cases strings other ctx.features
  · rw [h, h']
    unfold ExternalBadges.fetch
    dsimp only
    cases s.connectedBackpack? ctx.caller with
    | none => exact .failed _ _ s (hclean (by decide)) rfl
    | some service =>
      cases s.userBackpack? userid with
      | none => exact .failed _ _ s (hclean (by decide)) rfl
      | some backpack => exact .same _
  · rw [h, h']
    exact .error e e' s hkind

theorem objections_sameButTexts (s : Site) (a : Assignment) (x : RemoveSubmission.Arguments)
    (ctx : CallContext) : SameButTexts (RemoveSubmission.objections strings s a x ctx)
      (RemoveSubmission.objections other s a x ctx) := by
  unfold SameButTexts RemoveSubmission.objections
  rw [List.map_append, List.map_append]
  congr 1
  · split <;> rfl
  · split <;> rfl

theorem removeSubmission_reworded (ctx : CallContext) (x : RemoveSubmission.Arguments) (s : Site)
    (hx : IsInt64 x.assignid) :
    RewordedRun ((RemoveSubmission.run strings ctx x) s)
      ((RemoveSubmission.run other ctx x) s) := by
  cases ha : s.assignment? x.assignid with
  | none =>
    rw [RemoveSubmission.run_of_noAssignment ha, RemoveSubmission.run_of_noAssignment ha]
    exact .same _
  | some a =>
    cases hid : s.removable? a ctx x.userid with
    | none =>
      rw [RemoveSubmission.run_of_none ha hid, RemoveSubmission.run_of_none ha hid]
      exact .failed _ _ s (objections_isClean strings s a ctx hx)
        (objections_sameButTexts strings other s a x ctx)
    | some id =>
      rw [RemoveSubmission.run_of_some ha hid, RemoveSubmission.run_of_some ha hid]
      exact .same _

theorem viewSessions_reworded (ctx : CallContext) (x : ViewSessions.Arguments) (s : Site) :
    RewordedRun ((ViewSessions.run strings ctx x) s) ((ViewSessions.run other ctx x) s) := by
  simp only [ViewSessions.run, Run.bind_apply, Run.get_apply]
  cases ViewSessions.chatOf? s x.cmid with
  | none => exact .error _ _ s (kind_localized strings other _ _ _)
  | some found =>
    dsimp only
    split
    · exact .same _
    · exact .failed _ _ s
        (List.forall_mem_singleton.2 (ViewSessions.noPermission_isClean strings _)) rfl

theorem userBadgeByHash_runs : (userBadgeByHashFunction strings Site.awardSource).Runs
    UserBadgeByHash.argumentsReader
    (fun ctx hash => get >>= fun s =>
      liftExcept (UserBadgeByHash.find strings s.awardSource ctx hash))
    UserBadgeByHash.toResult := by
  unfold ExternalFunction.Runs
  simp only [bind_assoc]
  rfl

theorem externalBadges_runs : (externalBadgesFunction strings).Runs ExternalBadges.argumentsReader
    (ExternalBadges.run strings) ExternalBadges.toResult := rfl

theorem removeSubmission_runs : (removeSubmissionFunction strings).Runs
    RemoveSubmission.Arguments.reader (RemoveSubmission.run strings) Outcome.toResult := rfl

theorem viewSessions_runs : (viewSessionsFunction strings).Runs ViewSessions.Arguments.reader
    (ViewSessions.run strings) Outcome.toResult := rfl

theorem userBadgeByHash_sameButTexts :
    (userBadgeByHashFunction strings Site.awardSource).SameButTexts
      (userBadgeByHashFunction other Site.awardSource) := by
  refine ⟨rfl, rfl, rfl, rfl, rfl, ?_⟩
  refine (userBadgeByHash_runs strings).reworded (userBadgeByHash_runs other) rfl rfl
    [("badge", .array []), ("status", .bool false)] ?_ ?_
  · intro ws hws
    exact Envelope.cleanResult_of_list (by decide) hws rfl
  · intro ctx arguments given hash s _ _
    simp only [Run.bind_apply, Run.get_apply, Run.liftExcept_apply]
    exact find_reworded strings other ctx hash s

theorem externalBadges_sameButTexts :
    (externalBadgesFunction strings).SameButTexts (externalBadgesFunction other) := by
  refine ⟨rfl, rfl, rfl, rfl, rfl, ?_⟩
  refine (externalBadges_runs strings).reworded (externalBadges_runs other) rfl rfl
    [("badges", .array []), ("status", .bool false)] ?_ ?_
  · intro ws hws
    exact Envelope.cleanResult_of_list (by decide) hws rfl
  · intro ctx arguments given userid s _ _
    exact fetch_reworded strings other ctx userid s

theorem cleanResult_failed {desc : String} {ws : List Warning} (h : ∀ w ∈ ws, w.IsClean) :
    cleanResult (.statusWithWarnings desc) (Outcome.failed ws).toResult =
      .ok (.object ([("status", .bool false)] ++
        [("warnings", .array (ws.map Warning.toJson))])) := by
  rw [Outcome.cleanResult_toResult (o := .failed ws) h, Outcome.toResult,
    Envelope.toJson_eq_object]
  rfl

theorem removeSubmission_sameButTexts :
    (removeSubmissionFunction strings).SameButTexts (removeSubmissionFunction other) := by
  refine ⟨rfl, rfl, rfl, rfl, rfl, ?_⟩
  refine (removeSubmission_runs strings).reworded (removeSubmission_runs other) rfl rfl
    [("status", .bool false)] ?_ ?_
  · intro ws hws
    exact cleanResult_failed hws
  · intro ctx arguments given x s hvalid hread
    -- Only the id of an assignment that was validated is sure to be of 64 bits.
    obtain ⟨assignid, userid, hasks, rfl⟩ := (validateArguments_one_iff strings).1 hvalid
    have hassignid := Json.isInt64_of_integerAt? hasks.assignment
    rw [readArguments_one hassignid (Json.isInt64_of_integerAt? hasks.user)] at hread
    cases hread
    exact removeSubmission_reworded strings other ctx ⟨assignid, userid⟩ s hassignid

theorem viewSessions_sameButTexts :
    (viewSessionsFunction strings).SameButTexts (viewSessionsFunction other) := by
  refine ⟨rfl, rfl, rfl, rfl, rfl, ?_⟩
  refine (viewSessions_runs strings).reworded (viewSessions_runs other) rfl rfl
    [("status", .bool false)] ?_ ?_
  · intro ws hws
    exact cleanResult_failed hws
  · intro ctx arguments given x s _ _
    exact viewSessions_reworded strings other ctx x s

theorem bundledFunctions_sameButTexts :
    List.Forall₂ ExternalFunction.SameButTexts (bundledFunctions strings)
      (bundledFunctions other) :=
  .cons (userBadgeByHash_sameButTexts strings other) <|
    .cons (externalBadges_sameButTexts strings other) <|
    .cons (removeSubmission_sameButTexts strings other) <|
    .cons ⟨rfl, rfl, rfl, rfl, rfl, fun _ _ _ => .refl _⟩ <|
    .cons (viewSessions_sameButTexts strings other) .nil

end Functions

/-! ## What services say -/

/-- Tables of the same keys, whose values are related one by one. -/
abbrev Keyed.Related {κ α β : Type} (R : α → β → Prop) : Keyed κ α → Keyed κ β → Prop :=
  List.Forall₂ fun entry other => entry.1 = other.1 ∧ R entry.2 other.2

section Related

variable {α β : Type} {R : α → β → Prop} {t : Keyed String α} {u : Keyed String β} {a : α} {b : β}

theorem Keyed.Related.insert (h : Keyed.Related R t u) (key : String) (hab : R a b) :
    Keyed.Related R (Keyed.insert key a t) (Keyed.insert key b u) := by
  induction h with
  | nil => exact .cons ⟨rfl, hab⟩ .nil
  | @cons entry other t u hentry hrest ih =>
    obtain ⟨k, v⟩ := entry
    obtain ⟨k', v'⟩ := other
    obtain ⟨rfl, hv⟩ := hentry
    unfold Keyed.insert
    split
    · exact .cons ⟨rfl, hab⟩ (.cons ⟨rfl, hv⟩ hrest)
    · split
      · exact .cons ⟨rfl, hab⟩ hrest
      · exact .cons ⟨rfl, hv⟩ ih

theorem Keyed.Related.get? (h : Keyed.Related R t u) (key : String) :
    (Keyed.get? key t = none ∧ Keyed.get? key u = none) ∨
      ∃ a b, Keyed.get? key t = some a ∧ Keyed.get? key u = some b ∧ R a b := by
  induction h with
  | nil => exact .inl ⟨rfl, rfl⟩
  | @cons entry other t u hentry hrest ih =>
    obtain ⟨k, v⟩ := entry
    obtain ⟨k', v'⟩ := other
    obtain ⟨rfl, hv⟩ := hentry
    rw [Keyed.get?_cons, Keyed.get?_cons]
    split
    · exact .inr ⟨v, v', rfl, rfl, hv⟩
    · exact ih

theorem Keyed.Related.keys (h : Keyed.Related R t u) : Keyed.keys t = Keyed.keys u := by
  induction h with
  | nil => rfl
  | cons hentry _ ih =>
    unfold Keyed.keys at ih ⊢
    rw [List.map_cons, List.map_cons, hentry.1, ih]

theorem Keyed.Related.map_values {γ : Type} {f : α → γ} {g : β → γ} (h : Keyed.Related R t u)
    (hfg : ∀ a b, R a b → f a = g b) : (Keyed.values t).map f = (Keyed.values u).map g := by
  induction h with
  | nil => rfl
  | cons hentry _ ih =>
    unfold Keyed.values at ih ⊢
    rw [List.map_cons, List.map_cons, List.map_cons, List.map_cons, hfg _ _ hentry.2, ih]

end Related

/-- The service with other texts. -/
def Service.withStrings (s : Service) (other : Strings) : Service := { s with strings := other }

theorem registry_sameButTexts (s : Service) (other : Strings) :
    Keyed.Related ExternalFunction.SameButTexts s.registry
      (s.withStrings other).registry := by
  unfold Service.registry Registry.ofList
  have hall {fs gs : List (ExternalFunction Site)} {r r' : Registry Site}
      (hfs : List.Forall₂ ExternalFunction.SameButTexts fs gs)
      (hr : Keyed.Related ExternalFunction.SameButTexts r r') :
      Keyed.Related ExternalFunction.SameButTexts
        (fs.foldl (fun r f => Registry.register f r) r)
        (gs.foldl (fun r f => Registry.register f r) r') := by
    induction hfs generalizing r r' with
    | nil => exact hr
    | @cons f g fs gs hf _ ih =>
      apply ih
      show Keyed.Related _ (Keyed.insert f.name f r) (Keyed.insert g.name g r')
      rw [← hf.name]
      exact hr.insert f.name hf
  exact hall (bundledFunctions_sameButTexts s.strings other) .nil

namespace Service

variable (s : Service) (other : Strings) (clock : Clock) (function token : String)
  (arguments : Json)

theorem run_reworded : Reworded (s.run clock function token arguments)
    ((s.withStrings other).run clock function token arguments) := by
  have hcaller : (s.withStrings other).caller? token = s.caller? token := rfl
  unfold run context
  rw [hcaller]
  cases s.caller? token with
  | none => exact .refl _
  | some caller =>
    show Reworded ((s.registry.call function (s.contextOf clock caller) arguments) s.site)
      (((s.withStrings other).registry.call function (s.contextOf clock caller) arguments) s.site)
    unfold Registry.call
    obtain ⟨hf, hg⟩ | ⟨f, g, hf, hg, hfg⟩ := (registry_sameButTexts s other).get? function
    · rw [hf, hg]
      exact .refl _
    · rw [hf, hg]
      exact hfg.call _ arguments s.site

/-- The service that has counted a run. -/
def counted (s : Service) : Except ExternalError Json × Site →
    Except ExternalError Json × Service
  | (.ok result, site) => (.ok result, { s with site, served := s.served + 1 })
  | (.error e, site) => (.error e, { s with site, failed := s.failed + 1 })

theorem call_eq_counted : s.call clock function token arguments =
    s.counted (s.run clock function token arguments) := rfl

theorem counted_reworded {out out' : Except ExternalError Json × Site} (h : Reworded out out') :
    plainAnswer (s.counted out).1 = plainAnswer ((s.withStrings other).counted out').1 ∧
      ((s.withStrings other).counted out').2 = (s.counted out).2.withStrings other := by
  obtain ⟨answer, site⟩ := out
  obtain ⟨answer', site'⟩ := out'
  obtain ⟨hanswer, rfl⟩ := h
  cases answer with
  | error e =>
    cases answer' with
    | error e' => exact ⟨hanswer, rfl⟩
    | ok result' => cases hanswer
  | ok result =>
    cases answer' with
    | error e' => cases hanswer
    | ok result' => exact ⟨hanswer, rfl⟩

end Service

/-! ## Messages -/

namespace Rpc

def Failure.wordless (f : Failure) : Failure := { f with message := "" }

/-- A reply without the texts of its warnings or of its error. -/
def Reply.wordless : Reply → Reply
  | .response r => .response { r with result := r.result.wordless }
  | .error e => .error { e with error := e.error.wordless }

theorem wordless_ofError {e e' : ExternalError} (h : e.kind = e'.kind) :
    (Failure.ofError e).wordless = (Failure.ofError e').wordless := by
  unfold ExternalError.kind at h
  simp only [Prod.mk.injEq] at h
  obtain ⟨hcategory, herrorcode, hcomponent⟩ := h
  simp [Failure.ofError, Failure.wordless, hcategory, herrorcode, hcomponent]

section Messages

variable (s : Service) (other : Strings) (clock : Clock)

theorem hello_reworded (params : Option Json) :
    hello (s.withStrings other) params = hello s params := by
  have hnames : (s.withStrings other).registry.names = s.registry.names :=
    (registry_sameButTexts s other).keys.symm
  unfold hello
  rw [hnames]

theorem functions_reworded : functions (s.withStrings other) = functions s := by
  have hentry (f g : ExternalFunction Site) (h : f.SameButTexts g) :
      FunctionEntry.ofFunction f = FunctionEntry.ofFunction g := by
    unfold FunctionEntry.ofFunction
    rw [h.name, h.component, h.description, h.input, h.output]
  exact congrArg FunctionsResult.mk ((registry_sameButTexts s other).map_values hentry).symm

theorem status_reworded : status (s.withStrings other) clock = status s clock := by
  unfold status
  rw [← (registry_sameButTexts s other).length_eq]
  rfl

theorem contains_reworded (method : String) :
    Keyed.contains method (s.withStrings other).registry =
      Keyed.contains method s.registry := by
  unfold Keyed.contains
  obtain ⟨hf, hg⟩ | ⟨f, g, hf, hg, -⟩ := (registry_sameButTexts s other).get? method
  · rw [hf, hg]
  · rw [hf, hg]
    rfl

theorem wordless_ofAnswer (id : RequestId) {a b : Except ExternalError Json}
    (h : plainAnswer a = plainAnswer b) :
    (Reply.ofAnswer id (a.mapError .ofError)).wordless =
      (Reply.ofAnswer id (b.mapError .ofError)).wordless := by
  cases a with
  | error e =>
    cases b with
    | error e' =>
      have hkind : e.kind = e'.kind := Except.error.inj h
      exact congrArg (fun f => Reply.error { id, error := f }) (wordless_ofError hkind)
    | ok result => cases h
  | ok result =>
    cases b with
    | error e => cases h
    | ok result' =>
      have hresult : result.wordless = result'.wordless := Except.ok.inj h
      exact congrArg (fun result => Reply.response { id, result }) hresult

theorem callFunction_reworded (r : Request) :
    (Reply.ofAnswer r.id (callFunction (s.withStrings other) clock r.method r.params).1).wordless =
        (Reply.ofAnswer r.id (callFunction s clock r.method r.params).1).wordless ∧
      (callFunction (s.withStrings other) clock r.method r.params).2 =
        (callFunction s clock r.method r.params).2.withStrings other := by
  cases hread : readParams CallParams.reader r.method r.params with
  | error f =>
    unfold callFunction
    rw [hread]
    exact ⟨rfl, rfl⟩
  | ok p =>
    obtain ⟨hanswer, hafter⟩ :=
      s.counted_reworded other (s.run_reworded other clock r.method p.token p.arguments)
    rw [← Service.call_eq_counted, ← Service.call_eq_counted] at hanswer hafter
    rw [callFunction_of_read _ clock hread, callFunction_of_read _ clock hread]
    exact ⟨(wordless_ofAnswer r.id hanswer).symm, hafter⟩

theorem answer_reworded (r : Request) :
    (Reply.ofAnswer r.id (answer (s.withStrings other) clock r).1).wordless =
        (Reply.ofAnswer r.id (answer s clock r).1).wordless ∧
      (answer (s.withStrings other) clock r).2 =
        (answer s clock r).2.withStrings other := by
  unfold answer
  rw [hello_reworded, functions_reworded, status_reworded, contains_reworded]
  split
  · exact ⟨rfl, rfl⟩
  split
  · exact ⟨rfl, rfl⟩
  split
  · exact ⟨rfl, rfl⟩
  split
  · exact callFunction_reworded s other clock r
  · exact ⟨rfl, rfl⟩

theorem dispatch_reworded (text : String) :
    (dispatch (s.withStrings other) clock text).1.wordless =
        (dispatch s clock text).1.wordless ∧
      (dispatch (s.withStrings other) clock text).2 =
        (dispatch s clock text).2.withStrings other := by
  cases hread : Request.reader.ofText? text with
  | none =>
    rw [dispatch_of_unread _ clock hread, dispatch_of_unread _ clock hread]
    exact ⟨rfl, rfl⟩
  | some r =>
    rw [dispatch_of_read _ clock hread, dispatch_of_read _ clock hread]
    exact answer_reworded s other clock r

end Messages

/-- Of two services that differ in their texts, whatever these say, one always is where the other
is. Their replies to the same messages differ in the texts of warnings and errors only. -/
theorem exchanges_reworded (s : Service) (other : Strings) (messages : List (Clock × String)) :
    (exchanges (s.withStrings other) messages).1.map (·.reply.wordless) =
        (exchanges s messages).1.map (·.reply.wordless) ∧
      (exchanges (s.withStrings other) messages).2 =
        (exchanges s messages).2.withStrings other := by
  induction messages generalizing s with
  | nil => exact ⟨rfl, rfl⟩
  | cons message rest ih =>
    obtain ⟨clock, text⟩ := message
    obtain ⟨hreply, hafter⟩ := dispatch_reworded s other clock text
    obtain ⟨hreplies, hfinal⟩ := ih (dispatch s clock text).2
    rw [exchanges_cons, exchanges_cons, hafter, List.map_cons, List.map_cons, hreplies, hreply]
    exact ⟨rfl, hfinal⟩

end Rpc

end Campus
