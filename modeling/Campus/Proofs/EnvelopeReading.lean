import Campus.Proofs.RecordReading
import Campus.Rpc.Method

/-!
# Reading envelopes

An envelope keeps beside its status and its warnings whatever else is there. It is read back if its
payload has no member of those two names, by the service that wrote it or by a client.
-/

namespace Campus

open Members

/-! ## Warnings -/

namespace Warning

variable {w : Warning} {name : String}

def Fits (w : Warning) : Prop := ∀ id, w.itemid = some id → IsInt64 id

theorem fits_of_read {v : Json} (h : (reader name).read v = .ok w) : w.Fits := by
  obtain ⟨s, hs⟩ := Reader.exists_source_of_read_record h
  simp only [read_seq_eq_ok_iff, read_map_eq_ok_iff, read_required_eq_ok_iff,
    read_optional_eq_ok_iff, Reader.read_option_eq_ok_iff, Reader.read_int64_eq_ok_iff] at hs
  obtain ⟨_, message, ⟨_, code, ⟨_, itemid, ⟨item, -, rfl⟩, hitemid, rfl⟩, -, rfl⟩, -, rfl⟩ := hs
  rintro id rfl
  simp at hitemid
  tauto

theorem read_toJson (h : w.Fits) : (reader name).read w.toJson = .ok w := by
  obtain ⟨item, itemid, code, message⟩ := w
  refine (Reader.read_record_ofMembers_iff ?_).2 ?_
  · cases item <;> cases itemid <;> simp [Keyed.keys]
  · cases item <;> cases itemid <;> simp_all [Fits, read_seq_eq_ok_iff, read_map_eq_ok_iff,
      read_required_eq_ok_iff, read_optional_eq_ok_iff, Reader.read_option_eq_ok_iff,
      Reader.read_string_eq_ok_iff, Reader.read_int64_eq_ok_iff, Keyed.get?, Json.int_ne_null]

theorem read_toJsons {ws : List Warning} (h : ∀ w ∈ ws, w.Fits) :
    (Reader.list (reader name)).read (.array (ws.map toJson)) = .ok ws := by
  show (ws.map toJson).mapM (reader name).read = .ok ws
  induction ws with
  | nil => rfl
  | cons w rest ih =>
    rw [List.forall_mem_cons] at h
    rw [List.map_cons, List.mapM_cons, read_toJson h.1, ih h.2]
    rfl

end Warning

/-! ## Envelopes -/

/-- Members that stand in an envelope beside its own: they have other names. -/
structure IsPayload (members : List (String × Json)) : Prop where
  sorted : Keyed.Sorted members
  other : ∀ m ∈ members, m.1 ≠ "status" ∧ m.1 ≠ "warnings"

namespace Envelope

structure Fits (e : Envelope) : Prop where
  payload : IsPayload e.payload
  warnings : ∀ w ∈ e.warnings, w.Fits

/-- The name is not one of an envelope's own members. -/
def isOther (name : String) : Bool := name != "status" && name != "warnings"

theorem isOther_eq_true_iff {name : String} :
    isOther name = true ↔ name ≠ "status" ∧ name ≠ "warnings" := by
  simp [isOther]

theorem read_reader_eq_ok_iff {name : String} {v : Json} {e : Envelope} :
    (reader name).read v = .ok e ↔ ∃ members, v = .object members ∧
      Keyed.get? "status" members = some (.bool e.status) ∧
      ((∃ ws, Keyed.get? "warnings" members = some ws ∧
          (Reader.list (Warning.reader name)).read ws = .ok e.warnings) ∨
        (Keyed.get? "warnings" members = none ∧ e.warnings = [])) ∧
      members.filter (fun m => isOther m.1) = e.payload := by
  have hother (key : String) : (!Keyed.contains key
      [("status", Json.Shape.scalar, fun v => (Reader.bool.read v).map fun _ => ()),
        ("warnings", (Reader.list (Warning.reader name)).shape,
          fun v => ((Reader.list (Warning.reader name)).read v).map fun _ => ())]) =
      isOther key := by
    rw [Bool.eq_iff_iff, isOther_eq_true_iff, Bool.not_eq_true', ← Bool.not_eq_true,
      Keyed.contains_iff_mem_keys]
    simp [Keyed.keys]
  refine Reader.read_openRecord_eq_ok_iff.trans ?_
  simp only [read_seq_eq_ok_iff, read_map_eq_ok_iff, read_required_eq_ok_iff,
    read_withDefault_eq_ok_iff, Reader.read_bool_eq_ok_iff]
  constructor
  · rintro ⟨members, _, rfl, ⟨_, ws, ⟨status, ⟨_, hstatus, rfl⟩, rfl⟩, hws, rfl⟩, rfl⟩
    exact ⟨members, rfl, hstatus, hws, (List.filter_congr fun m _ => hother m.1).symm⟩
  · rintro ⟨members, rfl, hstatus, hws, hpayload⟩
    refine ⟨members, _, rfl, ⟨_, _, ⟨_, ⟨_, hstatus, rfl⟩, rfl⟩, hws, rfl⟩, ?_⟩
    have hkept := (List.filter_congr fun m _ => hother m.1).trans hpayload
    exact congrArg (fun payload => { e with payload }) hkept

theorem fits_of_read {name : String} {v : Json} {e : Envelope} (hv : v.Canonical)
    (h : (reader name).read v = .ok e) : e.Fits := by
  obtain ⟨members, rfl, -, hws, hpayload⟩ := read_reader_eq_ok_iff.1 h
  refine ⟨hpayload ▸ ⟨hv.1.filter _, fun m hm => ?_⟩, fun w hw => ?_⟩
  · exact isOther_eq_true_iff.1 (List.mem_filter.1 hm).2
  · obtain ⟨ws, -, hws⟩ | ⟨-, hnone⟩ := hws
    · obtain ⟨item, hitem⟩ := Reader.mem_of_read_list hws w hw
      exact Warning.fits_of_read hitem
    · rw [hnone] at hw
      cases hw

/-! ### Writing -/

theorem notMem_keys_payload {payload : List (String × Json)} (h : IsPayload payload) :
    "status" ∉ Keyed.keys payload ∧ "warnings" ∉ Keyed.keys payload := by
  constructor <;>
  · intro hmem
    obtain ⟨m, hm, hname⟩ := List.mem_map.1 hmem
    have hother := h.other m hm
    simp [hname] at hother

/-- The members of an envelope as a client writes them. -/
def members (e : Envelope) : List (String × Json) :=
  [("status", .bool e.status), ("warnings", .array (e.warnings.map Warning.toJson))] ++ e.payload

variable {e : Envelope}

theorem nodup_keys_members (h : IsPayload e.payload) : (Keyed.keys e.members).Nodup := by
  obtain ⟨hstatus, hwarnings⟩ := notMem_keys_payload h
  have hpayload : (Keyed.keys e.payload).Nodup := by
    refine List.pairwise_map.2 (h.sorted.imp ?_)
    rintro a b hlt heq
    exact Std.lt_irrefl (heq ▸ hlt)
  show ("status" :: "warnings" :: Keyed.keys e.payload).Nodup
  simp [hpayload, hstatus, hwarnings]

/-- The service puts the warnings last, which makes no difference. -/
theorem toJson_eq_callResultToJson (h : IsPayload e.payload) :
    e.toJson = Rpc.callResultToJson e := by
  refine congrArg Json.object (Keyed.ofList_eq_of_perm ?_ (nodup_keys_members h)).symm
  exact List.Perm.cons _ (List.perm_append_singleton _ _).symm

theorem filter_members (h : IsPayload e.payload) :
    (Keyed.ofList e.members).filter (fun m => isOther m.1) = e.payload := by
  refine Keyed.eq_of_get?_eq ((Keyed.sorted_ofList _).filter _) h.sorted fun name => ?_
  obtain ⟨hstatus, hwarnings⟩ := notMem_keys_payload h
  rw [Keyed.get?_filter, Keyed.get?_ofList (nodup_keys_members h)]
  split
  · next hname =>
    obtain ⟨hs, hw⟩ := isOther_eq_true_iff.1 hname
    show Keyed.get? name (("status", _) :: ("warnings", _) :: e.payload) = _
    rw [Keyed.get?_cons, if_neg (Ne.symm hs), Keyed.get?_cons, if_neg (Ne.symm hw)]
  · next hname =>
    rw [isOther_eq_true_iff, not_and_or, not_not, not_not] at hname
    rcases hname with rfl | rfl
    · exact (Keyed.get?_eq_none_of_notMem hstatus).symm
    · exact (Keyed.get?_eq_none_of_notMem hwarnings).symm

theorem read_toJson {name : String} (h : e.Fits) : (reader name).read e.toJson = .ok e := by
  rw [toJson_eq_callResultToJson h.payload]
  have hget (key : String) : Keyed.get? key (Keyed.ofList e.members) = Keyed.get? key e.members :=
    Keyed.get?_ofList (nodup_keys_members h.payload) key
  refine read_reader_eq_ok_iff.2 ⟨Keyed.ofList e.members, rfl, hget _, .inl ⟨_, hget _, ?_⟩,
    filter_members h.payload⟩
  exact Warning.read_toJsons h.warnings

end Envelope

end Campus
