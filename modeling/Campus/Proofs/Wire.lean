import Campus.Proofs.EnvelopeReading

/-!
# Messages read back

Whatever was read as a message, as a part of one or as a result is read back from what it is written
as. So is every outcome of a function, by the service and by its clients.

What can be read back is told by what the words of a message hold: integers have 64 bits, and an
optional part that is null was left out.
-/

namespace Campus

open Members

/-- What was read is read back from what it is written as. -/
def Reader.ReadsBack {α : Type} (r : Reader α) (write : α → Json) : Prop :=
  ∀ v a, v.Canonical → r.read v = .ok a → r.read (write a) = .ok a

/-! ## Requests and replies -/

namespace Rpc

def RequestId.Fits : RequestId → Prop
  | .string _ => True
  | .integer n => IsInt64 n

theorem RequestId.fits_of_read {v : Json} {id : RequestId} (h : reader.read v = .ok id) :
    id.Fits := by
  simp only [reader] at h
  split at h
  · cases h
    trivial
  · obtain ⟨n, hn, rfl⟩ := map_eq_ok_iff.1 h
    exact (Reader.read_int64_eq_ok_iff.1 hn).2

theorem RequestId.read_toJson {id : RequestId} (h : id.Fits) : reader.read id.toJson = .ok id := by
  cases id with
  | string s => rfl
  | integer n => exact map_eq_ok_iff.2 ⟨n, Reader.read_int64 h, rfl⟩

structure Request.Fits (r : Request) : Prop where
  id : r.id.Fits
  params : r.params ≠ some .null

theorem Request.fits_of_read {v : Json} {r : Request} (h : reader.read v = .ok r) : r.Fits := by
  obtain ⟨s, hs⟩ := Reader.exists_source_of_read_record h
  simp only [read_seq_eq_ok_iff, read_map_eq_ok_iff, read_required_eq_ok_iff,
    read_optional_eq_ok_iff, Reader.read_option_eq_ok_iff, Reader.read_json_eq_ok_iff] at hs
  obtain ⟨_, params, ⟨_, method, ⟨id, ⟨_, -, hid⟩, rfl⟩, -, rfl⟩, hparams, rfl⟩ := hs
  refine ⟨RequestId.fits_of_read hid, ?_⟩
  rintro rfl
  simp at hparams

theorem Request.read_toJson {r : Request} (h : r.Fits) : reader.read r.toJson = .ok r := by
  obtain ⟨id, method, params⟩ := r
  have hid := RequestId.read_toJson h.id
  have hparams := h.params
  refine (Reader.read_record_ofMembers_iff ?_).2 ?_
  · cases params <;> simp [Keyed.keys]
  · cases params <;> simp_all [read_seq_eq_ok_iff, read_map_eq_ok_iff, read_required_eq_ok_iff,
      read_optional_eq_ok_iff, Reader.read_option_eq_ok_iff, Reader.read_json_eq_ok_iff,
      Reader.read_string_eq_ok_iff, Keyed.get?]

theorem Response.fits_of_read {v : Json} {r : Response} (h : reader.read v = .ok r) :
    r.id.Fits := by
  obtain ⟨s, hs⟩ := Reader.exists_source_of_read_record h
  simp only [read_seq_eq_ok_iff, read_map_eq_ok_iff, read_required_eq_ok_iff] at hs
  obtain ⟨_, result, ⟨id, ⟨_, -, hid⟩, rfl⟩, -, rfl⟩ := hs
  exact RequestId.fits_of_read hid

theorem Response.read_toJson {r : Response} (h : r.id.Fits) : reader.read r.toJson = .ok r := by
  refine (Reader.read_record_ofMembers_iff (by simp [Keyed.keys])).2 ?_
  simp [read_seq_eq_ok_iff, read_map_eq_ok_iff, read_required_eq_ok_iff,
    Reader.read_json_eq_ok_iff, Keyed.get?, RequestId.read_toJson h]

structure Failure.Fits (f : Failure) : Prop where
  code : IsInt64 f.code
  data : f.data ≠ some .null

theorem Failure.fits_of_read {v : Json} {f : Failure} (h : reader.read v = .ok f) : f.Fits := by
  obtain ⟨s, hs⟩ := Reader.exists_source_of_read_record h
  simp only [read_seq_eq_ok_iff, read_map_eq_ok_iff, read_required_eq_ok_iff,
    read_optional_eq_ok_iff, Reader.read_option_eq_ok_iff, Reader.read_json_eq_ok_iff,
    Reader.read_int64_eq_ok_iff] at hs
  obtain ⟨_, data, ⟨_, message, ⟨code, ⟨_, -, -, hcode⟩, rfl⟩, -, rfl⟩, hdata, rfl⟩ := hs
  refine ⟨hcode, ?_⟩
  rintro rfl
  simp at hdata

theorem Failure.read_toJson {f : Failure} (h : f.Fits) : reader.read f.toJson = .ok f := by
  obtain ⟨code, message, data⟩ := f
  have hcode := h.code
  have hdata := h.data
  refine (Reader.read_record_ofMembers_iff ?_).2 ?_
  · cases data <;> simp [Keyed.keys]
  · cases data <;> simp_all [read_seq_eq_ok_iff, read_map_eq_ok_iff, read_required_eq_ok_iff,
      read_optional_eq_ok_iff, Reader.read_option_eq_ok_iff, Reader.read_json_eq_ok_iff,
      Reader.read_string_eq_ok_iff, Reader.read_int64_eq_ok_iff, Keyed.get?]

structure ErrorReply.Fits (r : ErrorReply) : Prop where
  id : r.id.Fits
  error : r.error.Fits

theorem ErrorReply.fits_of_read {v : Json} {r : ErrorReply} (h : reader.read v = .ok r) :
    r.Fits := by
  obtain ⟨s, hs⟩ := Reader.exists_source_of_read_record h
  simp only [read_seq_eq_ok_iff, read_map_eq_ok_iff, read_required_eq_ok_iff] at hs
  obtain ⟨_, error, ⟨id, ⟨_, -, hid⟩, rfl⟩, ⟨_, -, herror⟩, rfl⟩ := hs
  exact ⟨RequestId.fits_of_read hid, Failure.fits_of_read herror⟩

theorem ErrorReply.read_toJson {r : ErrorReply} (h : r.Fits) : reader.read r.toJson = .ok r := by
  refine (Reader.read_record_ofMembers_iff (by simp [Keyed.keys])).2 ?_
  simp [read_seq_eq_ok_iff, read_map_eq_ok_iff, read_required_eq_ok_iff, Keyed.get?,
    RequestId.read_toJson h.id, Failure.read_toJson h.error]

namespace Reply

def Fits : Reply → Prop
  | .error e => e.Fits
  | .response r => r.id.Fits

theorem fits_of_ofJson? {v : Json} {r : Reply} (h : ofJson? v = some r) : r.Fits := by
  unfold ofJson? at h
  split at h
  · next hread =>
    cases h
    exact ErrorReply.fits_of_read hread
  · cases hread : Response.reader.read v with
    | error e => simp [hread, Except.toOption] at h
    | ok response =>
      simp only [hread, Except.toOption, Option.map_some, Option.some.injEq] at h
      subst h
      exact Response.fits_of_read hread

theorem read_error_of_response (r : Response) :
    ∃ e, ErrorReply.reader.read r.toJson = .error e := by
  cases hread : ErrorReply.reader.read r.toJson with
  | error e => exact ⟨e, rfl⟩
  | ok reply =>
    have h := (Reader.read_record_ofMembers_iff (by simp [Keyed.keys])).1 hread
    simp [read_seq_eq_ok_iff, read_map_eq_ok_iff, read_required_eq_ok_iff, Keyed.get?] at h

theorem ofJson?_toJson {r : Reply} (h : r.Fits) : ofJson? r.toJson = some r := by
  cases r with
  | error e => simp [ofJson?, toJson, ErrorReply.read_toJson h]
  | response r =>
    obtain ⟨e, he⟩ := read_error_of_response r
    simp [ofJson?, toJson, he, Response.read_toJson h, Except.toOption]

end Reply

/-! ## Parameters and data -/

theorem ErrorData.read_toJson (d : ErrorData) : reader.read d.toJson = .ok d := by
  refine (Reader.read_record_ofMembers_iff (by simp [Keyed.keys])).2 ?_
  simp [read_seq_eq_ok_iff, read_map_eq_ok_iff, read_required_eq_ok_iff,
    Reader.read_string_eq_ok_iff, Keyed.get?]

theorem CallParams.read_toJson (p : CallParams) : reader.read p.toJson = .ok p := by
  refine (Reader.read_record_ofMembers_iff (by simp [Keyed.keys])).2 ?_
  simp [read_seq_eq_ok_iff, read_map_eq_ok_iff, read_required_eq_ok_iff,
    read_withDefault_eq_ok_iff, Reader.read_string_eq_ok_iff, Reader.read_json_eq_ok_iff,
    Keyed.get?]

end Rpc

/-! ## Outcomes -/

namespace Outcome

variable {α : Type}

/-- What an outcome answers with: its payload, or an empty one if it failed. -/
def payloadOr (empty : α) : Outcome α → α
  | .ok payload => payload
  | .failed _ => empty

theorem toEnvelope_eq (empty : List (String × Json)) (o : Outcome (List (String × Json))) :
    o.toEnvelope empty = ⟨o.isOk, o.payloadOr empty, o.warnings⟩ := by
  cases o <;> rfl

end Outcome

/-! ## All messages -/

/-- Every message, each of its parts and every result is read back from what it is written as, an
error as an error and a response as a response. The service and its clients read from the result of
an outcome what the outcome is. -/
theorem Rpc.wire_readsBack :
    Request.reader.ReadsBack Request.toJson ∧
    Response.reader.ReadsBack Response.toJson ∧
    ErrorReply.reader.ReadsBack ErrorReply.toJson ∧
    (∀ (v : Json) (r : Reply), v.Canonical → Reply.ofJson? v = some r →
      Reply.ofJson? r.toJson = some r) ∧
    ErrorData.reader.ReadsBack ErrorData.toJson ∧
    CallParams.reader.ReadsBack CallParams.toJson ∧
    callResultReader.ReadsBack callResultToJson ∧
    (Warning.reader "WireWarning").ReadsBack Warning.toJson ∧
    (Warning.reader "Warning").ReadsBack Warning.toJson ∧
    (Envelope.reader "Warning").ReadsBack Envelope.toJson ∧
    ∀ (o : Outcome (List (String × Json))) (empty : List (String × Json)),
      IsPayload (o.payloadOr empty) → (∀ w ∈ o.warnings, w.Fits) →
        (Envelope.reader "Warning").read (o.toEnvelope empty).toJson =
            .ok ⟨o.isOk, o.payloadOr empty, o.warnings⟩ ∧
          callResultReader.read (o.toEnvelope empty).toJson =
            .ok ⟨o.isOk, o.payloadOr empty, o.warnings⟩ := by
  refine ⟨?request, ?response, ?error, ?reply, fun _ d _ _ => d.read_toJson,
    fun _ p _ _ => p.read_toJson, ?result, ?wireWarning, ?warning, ?envelope, ?outcome⟩
  case request => exact fun _ _ _ h => Request.read_toJson (Request.fits_of_read h)
  case response => exact fun _ _ _ h => Response.read_toJson (Response.fits_of_read h)
  case error => exact fun _ _ _ h => ErrorReply.read_toJson (ErrorReply.fits_of_read h)
  case reply => exact fun _ _ _ h => Reply.ofJson?_toJson (Reply.fits_of_ofJson? h)
  case result =>
    intro v e hv h
    have he := Envelope.fits_of_read hv h
    rw [← Envelope.toJson_eq_callResultToJson he.payload]
    exact Envelope.read_toJson he
  case wireWarning => exact fun _ _ _ h => Warning.read_toJson (Warning.fits_of_read h)
  case warning => exact fun _ _ _ h => Warning.read_toJson (Warning.fits_of_read h)
  case envelope => exact fun _ _ hv h => Envelope.read_toJson (Envelope.fits_of_read hv h)
  case outcome =>
    intro o empty hpayload hwarnings
    rw [Outcome.toEnvelope_eq]
    have he : Envelope.Fits ⟨o.isOk, o.payloadOr empty, o.warnings⟩ := ⟨hpayload, hwarnings⟩
    exact ⟨Envelope.read_toJson he, Envelope.read_toJson he⟩

/-- An error given as an array is read back, and so is what a function failed with. -/
theorem Rpc.wire_readsBack_of_array :
    let v : Json := .array [.int 4, .array [.int 404, .string "gone"]]
    let r : Reply := .error ⟨.integer 4, ⟨404, "gone", none⟩⟩
    let w : Warning := { itemid := some 2, warningcode := "nosubmission", message := "" }
    let e : Envelope := ⟨false, [("badges", .array [])], [w]⟩
    (Reply.ofJson? v = some r ∧ Reply.ofJson? r.toJson = some r) ∧
      (Envelope.reader "Warning").read e.toJson = .ok e ∧
      callResultReader.read e.toJson = .ok e := by
  intro v r w e
  obtain ⟨-, -, -, hreply, -, -, -, -, -, -, houtcome⟩ := Rpc.wire_readsBack
  have hread : Reply.ofJson? v = some r := rfl
  have hv : v.Canonical := by simp [v, Json.Canonical, Json.CanonicalItems, Json.int]
  have hpayload : IsPayload e.payload := ⟨List.pairwise_singleton _ _, by simp [e]⟩
  have hwarnings : ∀ w ∈ e.warnings, w.Fits := by
    simp [e, w, Warning.Fits, IsInt64, int64Min, int64Max]
  exact ⟨⟨hread, hreply v r hv hread⟩, houtcome (.failed [w]) e.payload hpayload hwarnings⟩

end Campus
