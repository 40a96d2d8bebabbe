import Campus.Proofs.Failures
import Campus.Proofs.Requests
import Campus.Proofs.Wire

/-!
# What texts are answered

Every text has a reply, whose id is the request's and which says where the request went wrong: the
text, the method, the parameters, or the function itself. Only the last has data.
-/

namespace Campus.Rpc

namespace Reply

/-- What a reply says went wrong, if it is an error. -/
def failure? : Reply → Option Failure
  | .error e => some e.error
  | .response _ => none

def code? (reply : Reply) : Option Int := reply.failure?.map (·.code)

variable (id : RequestId)

@[simp] theorem id_ofAnswer (x : Except Failure Json) : (ofAnswer id x).id = id := by
  cases x <;> rfl

@[simp] theorem failure?_ofAnswer_ok (result : Json) : (ofAnswer id (.ok result)).failure? = none :=
  rfl

@[simp] theorem failure?_ofAnswer_error (f : Failure) :
    (ofAnswer id (.error f)).failure? = some f := rfl

theorem toJson_cases (reply : Reply) :
    (∃ result, reply = .response { id := reply.id, result } ∧
        reply.toJson = .object [("id", reply.id.toJson), ("result", result)]) ∨
      ∃ f, reply = .error { id := reply.id, error := f } ∧
        reply.toJson = .object [("error", f.toJson), ("id", reply.id.toJson)] := by
  cases reply with
  | response r =>
    refine .inl ⟨r.result, rfl, ?_⟩
    simp only [toJson, Response.toJson, Json.ofMembers, Keyed.ofList, Keyed.insert,
      List.foldl_cons, List.foldl_nil, String.reduceLT, String.reduceEq, if_false]
    rfl
  | error e =>
    refine .inr ⟨e.error, rfl, ?_⟩
    simp only [toJson, ErrorReply.toJson, Json.ofMembers, Keyed.ofList, Keyed.insert,
      List.foldl_cons, List.foldl_nil, String.reduceLT, if_true]
    rfl

end Reply

theorem HelloResult.read_toJson (h : HelloResult) : reader.read h.toJson = .ok h := by
  have hnames (names : List String) : (Reader.list .string).read (.strings names) = .ok names := by
    show (names.map Json.string).mapM Reader.string.read = .ok names
    induction names with
    | nil => rfl
    | cons name rest ih =>
      rw [List.map_cons, List.mapM_cons, ih]
      rfl
  refine (Reader.read_record_ofMembers_iff (by simp [Keyed.keys])).2 ?_
  simp [Members.read_seq_eq_ok_iff, Members.read_map_eq_ok_iff, Members.read_required_eq_ok_iff,
    Reader.read_string_eq_ok_iff, Keyed.get?, hnames]

namespace Failure

/-- The codes by which clients tell the categories of errors. -/
def codes : List (ErrorCategory × Int) :=
  [(.invalidInput, -32602), (.notFound, 404), (.featureDisabled, 400), (.accessDenied, 401),
    (.internal, 500)]

theorem codeOf_mem_codes (category : ErrorCategory) : (category, codeOf category) ∈ codes := by
  cases category <;> simp [codeOf, codes]

theorem ofError_fits (e : ExternalError) : (ofError e).Fits where
  code := by
    show IsInt64 (codeOf e.category)
    cases e.category <;> decide
  data := by
    simp [ofError, ErrorData.toJson, Json.ofMembers]

end Failure

/-- What the failure of a call tells is what the error of the function is. -/
structure Failure.Tells (e : ExternalError) (f : Failure) : Prop where
  code : (e.category, f.code) ∈ Failure.codes
  message : f.message = e.message
  data : f.data = some (ErrorData.toJson { errorcode := e.errorcode, component := e.component })

/-- What a service replies to a text. -/
structure Reply.IsReplyTo (s : Service) (clock : Clock) (text : String) (reply : Reply) : Prop where
  /-- It is an object of the id and either a result or an error. -/
  object : (∃ result, reply = .response { id := reply.id, result } ∧
      reply.toJson = .object [("id", reply.id.toJson), ("result", result)]) ∨
    ∃ f, reply = .error { id := reply.id, error := f } ∧
      reply.toJson = .object [("error", f.toJson), ("id", reply.id.toJson)]
  /-- A client reads it as what it is. -/
  readBack : Reply.ofJson? reply.toJson = some reply
  unread : Request.reader.ofText? text = none →
    reply.id = .integer 0 ∧ reply.code? = some (-32600)
  id : ∀ r, Request.reader.ofText? text = some r → reply.id = r.id
  unknown : ∀ r, Request.reader.ofText? text = some r →
    (reply.code? = some (-32601) ↔
      r.method ∉ ["hello", "service.functions", "service.status"] ∧ r.method ∉ s.registry.names)
  /-- The names of functions are those that a hello lists. -/
  hello : ∀ r result, Request.reader.ofText? text = some r → r.method = "hello" →
    reply = .response { id := r.id, result } →
      ∃ h, HelloResult.reader.read result = .ok h ∧ h.functions = s.registry.names
  /-- Parameters that are missing or cannot be read are no error of the function. -/
  params : ∀ r, Request.reader.ofText? text = some r → r.method ∈ s.registry.names →
    r.callParams? = none → ∃ f, reply.failure? = some f ∧ f.code = -32602 ∧ f.data = none
  failed : ∀ r p e, Request.reader.ofText? text = some r → r.method ∈ s.registry.names →
    r.callParams? = some p → (s.call clock r.method p.token p.arguments).1 = .error e →
      ∃ f, reply.failure? = some f ∧ f.Tells e
  served : ∀ r p result, Request.reader.ofText? text = some r → r.method ∈ s.registry.names →
    r.callParams? = some p → (s.call clock r.method p.token p.arguments).1 = .ok result →
      reply = .response { id := r.id, result }
  /-- Whatever a function failed with, it was found. -/
  found : ∀ f v, reply.failure? = some f → f.data = some v →
    ∃ d, ErrorData.reader.read v = .ok d ∧ d.errorcode ≠ "invalidfunction"

/-! ### Each part of a reply -/

namespace Answered

variable {s : Service} {clock : Clock} {r : Request} {a : Except Failure Json × Service}

theorem failure_fits (h : Answered s clock r a) {f : Failure} (hf : a.1 = .error f) : f.Fits := by
  cases h with
  | own => cases hf
  | unread message _ =>
    cases hf
    exact ⟨show IsInt64 (-32602) by decide, nofun⟩
  | unknown _ _ =>
    cases hf
    exact ⟨show IsInt64 (-32601) by decide, nofun⟩
  | call p _ _ =>
    obtain ⟨e, -, rfl⟩ := mapError_eq_error_iff.1 hf
    exact Failure.ofError_fits e

theorem unknown_iff (h : Answered s clock r a) :
    (Reply.ofAnswer r.id a.1).code? = some (-32601) ↔
      r.method ∉ ownMethods ∧ r.method ∉ s.registry.names := by
  cases h with
  | own result hmethod _ => simp [Reply.code?, hmethod]
  | unread message hmethod =>
    obtain hhello | ⟨hname, -⟩ := hmethod
    · simp [Reply.code?, hhello, ownMethods]
    · simp [Reply.code?, hname]
  | unknown hown hname => simp [Reply.code?, Failure.unknownMethod, hown, hname]
  | call p hname _ =>
    simp only [hname, not_true_eq_false, and_false, iff_false]
    cases (s.call clock r.method p.token p.arguments).1 with
    | ok result => simp [Reply.code?, Except.mapError]
    | error e => cases hc : e.category <;>
        simp [Reply.code?, Except.mapError, Failure.ofError, Failure.codeOf, hc]

theorem eq_of_unread (h : Answered s clock r a) (hname : r.method ∈ s.registry.names)
    (hparams : r.callParams? = none) : ∃ message, a = (.error { code := -32602, message }, s) := by
  cases h with
  | own _ hmethod _ => exact absurd hmethod (notMem_ownMethods hname)
  | unread message _ => exact ⟨message, rfl⟩
  | unknown _ hnot => exact absurd hname hnot
  | call p _ hp =>
    rw [hparams] at hp
    cases hp

theorem eq_of_call (h : Answered s clock r a) {p : CallParams}
    (hname : r.method ∈ s.registry.names) (hparams : r.callParams? = some p) :
    a = ((s.call clock r.method p.token p.arguments).1.mapError .ofError,
      (s.call clock r.method p.token p.arguments).2) := by
  cases h with
  | own _ hmethod _ => exact absurd hmethod (notMem_ownMethods hname)
  | unread message hmethod =>
    obtain hhello | ⟨-, hnone⟩ := hmethod
    · exact absurd (by simp [hhello, ownMethods]) (notMem_ownMethods hname)
    · rw [hparams] at hnone
      cases hnone
  | unknown _ hnot => exact absurd hname hnot
  | call p' _ hp =>
    rw [hparams] at hp
    cases hp
    rfl

theorem hello (h : Answered s clock r a) (hmethod : r.method = "hello") {result : Json}
    (hreply : Reply.ofAnswer r.id a.1 = .response { id := r.id, result }) :
    ∃ h, HelloResult.reader.read result = .ok h ∧ h.functions = s.registry.names := by
  cases h with
  | own v _ hhello =>
    obtain rfl := hhello hmethod
    cases hreply
    exact ⟨_, HelloResult.read_toJson _, rfl⟩
  | unread => cases hreply
  | unknown => cases hreply
  | call p hname _ => exact absurd (by simp [hmethod, ownMethods]) (notMem_ownMethods hname)

theorem data_cases (h : Answered s clock r a) {f : Failure} (hf : a.1 = .error f) :
    f.data = none ∨ ∃ e : ExternalError, e.IsOfCall ∧ f = .ofError e := by
  cases h with
  | own => cases hf
  | unread message _ =>
    cases hf
    exact .inl rfl
  | unknown _ _ =>
    cases hf
    exact .inl rfl
  | call p hname _ =>
    obtain ⟨e, he, rfl⟩ := mapError_eq_error_iff.1 hf
    exact .inr ⟨e, Service.call_error_isOfCall hname he, rfl⟩

end Answered

section Parts

variable {s : Service} {clock : Clock} {text : String}

theorem isReplyTo_of_unread (h : Request.reader.ofText? text = none) :
    (Reply.error { id := .integer 0, error := .invalidRequest }).IsReplyTo s clock text where
  object := Reply.toJson_cases _
  readBack :=
    Reply.ofJson?_toJson ⟨show IsInt64 0 by decide, show IsInt64 (-32600) by decide, nofun⟩
  unread _ := ⟨rfl, rfl⟩
  id := by simp [h]
  unknown := by simp [h]
  hello := by simp [h]
  params := by simp [h]
  failed := by simp [h]
  served := by simp [h]
  found f v hf hv := by
    cases hf
    cases hv

theorem Reply.fits_ofAnswer {id : RequestId} (hid : id.Fits) {x : Except Failure Json}
    (hx : ∀ f, x = .error f → f.Fits) : (ofAnswer id x).Fits := by
  cases x with
  | ok result => exact hid
  | error f => exact ⟨hid, hx f rfl⟩

theorem Request.fits_of_ofText? {r : Request} (h : reader.ofText? text = some r) : r.Fits := by
  obtain ⟨v, hread⟩ := Reader.exists_read_of_ofText? h
  exact fits_of_read hread

theorem Reply.failure?_ofAnswer_eq_some_iff {id : RequestId} {x : Except Failure Json}
    {f : Failure} : (ofAnswer id x).failure? = some f ↔ x = .error f := by
  cases x <;> simp [ofAnswer, failure?]

theorem isReplyTo_of_read {r : Request} {a : Except Failure Json × Service}
    (h : Request.reader.ofText? text = some r) (ha : Answered s clock r a) :
    (Reply.ofAnswer r.id a.1).IsReplyTo s clock text where
  object := Reply.toJson_cases _
  readBack := Reply.ofJson?_toJson <|
    Reply.fits_ofAnswer (Request.fits_of_ofText? h).id fun _ => ha.failure_fits
  unread hnone := by
    rw [h] at hnone
    cases hnone
  id r' hr := by
    cases h.symm.trans hr
    exact Reply.id_ofAnswer _ _
  unknown r' hr := by
    cases h.symm.trans hr
    exact ha.unknown_iff
  hello r' result hr hmethod hreply := by
    cases h.symm.trans hr
    exact ha.hello hmethod hreply
  params r' hr hname hparams := by
    cases h.symm.trans hr
    obtain ⟨message, rfl⟩ := ha.eq_of_unread hname hparams
    exact ⟨_, rfl, rfl, rfl⟩
  failed r' p e hr hname hparams he := by
    cases h.symm.trans hr
    obtain rfl := ha.eq_of_call hname hparams
    rw [he]
    exact ⟨_, rfl, Failure.codeOf_mem_codes _, rfl, rfl⟩
  served r' p result hr hname hparams hresult := by
    cases h.symm.trans hr
    obtain rfl := ha.eq_of_call hname hparams
    rw [hresult]
    rfl
  found f v hf hv := by
    obtain hnone | ⟨e, he, rfl⟩ := ha.data_cases (Reply.failure?_ofAnswer_eq_some_iff.1 hf)
    · rw [hnone] at hv
      cases hv
    · cases hv
      exact ⟨_, ErrorData.read_toJson _, he.errorcode_ne⟩

end Parts

/-- Whatever the state and the text, the reply is one to the text. -/
theorem dispatch_isReplyTo (s : Service) (clock : Clock) (text : String) :
    (dispatch s clock text).1.IsReplyTo s clock text := by
  cases hread : Request.reader.ofText? text with
  | none =>
    rw [dispatch_of_unread s clock hread]
    exact isReplyTo_of_unread hread
  | some r =>
    rw [dispatch_of_read s clock hread]
    exact isReplyTo_of_read hread (answer_answered s clock r)

example : (dispatch { site := {} } ⟨0, ""⟩ "[2, \"core_nope\"]").1.code? = some (-32601) := by
  decide +kernel

end Campus.Rpc
