import Campus.Proofs.Nulls
import Campus.Proofs.RemovalArguments

/-!
# Reading records

A record is read if each of its members is. Only what the members' names look up counts, so a record
is read from the object of some entries just as from the entries themselves.
-/

namespace Campus

/-! ## Tables -/

namespace Keyed

variable {α : Type} {key : String}

theorem get?_filter (keep : String → Bool) (table : List (String × α)) :
    get? key (table.filter fun e => keep e.1) = if keep key then get? key table else none := by
  induction table with
  | nil => simp
  | cons entry rest ih =>
    obtain ⟨k, v⟩ := entry
    rw [List.filter_cons, get?_cons]
    by_cases hk : k = key
    · subst hk
      cases hkeep : keep k
      · simpa [hkeep] using ih
      · simp [get?_cons]
    · rw [if_neg hk, ← ih]
      split
      · rw [get?_cons, if_neg hk]
      · rfl

theorem get?_eq_of_perm {a b : List (String × α)} (h : a.Perm b) (hkeys : (keys a).Nodup) :
    get? key a = get? key b := by
  induction h with
  | nil => rfl
  | cons entry _ ih => rw [get?_cons, get?_cons, ih (List.nodup_cons.1 hkeys).2]
  | swap first second rest =>
    obtain ⟨k, v⟩ := first
    obtain ⟨k', v'⟩ := second
    have hne : k' ≠ k := fun heq => (List.nodup_cons.1 hkeys).1 (by simp [heq])
    rw [get?_cons, get?_cons, get?_cons, get?_cons]
    by_cases hk : k' = key
    · rw [if_pos hk, if_neg fun h => hne (hk.trans h.symm), if_pos hk]
    · rw [if_neg hk, if_neg hk]
  | trans hab _ ihab ihbc => rw [ihab hkeys, ihbc ((hab.map Prod.fst).nodup_iff.1 hkeys)]

theorem ofList_eq_iff {a b : List (String × α)} (ha : (keys a).Nodup) (hb : (keys b).Nodup) :
    ofList a = ofList b ↔ ∀ key, get? key a = get? key b := by
  constructor
  · intro h key
    rw [← get?_ofList ha, h, get?_ofList hb]
  · intro h
    refine eq_of_get?_eq (sorted_ofList a) (sorted_ofList b) fun key => ?_
    rw [get?_ofList ha, get?_ofList hb, h key]

theorem ofList_eq_of_perm {a b : List (String × α)} (h : a.Perm b) (hkeys : (keys a).Nodup) :
    ofList a = ofList b :=
  (ofList_eq_iff hkeys ((h.map Prod.fst).nodup_iff.1 hkeys)).2 fun _ => get?_eq_of_perm h hkeys

end Keyed

/-! ## Plain values -/

namespace Reader

variable {α : Type} {r : Reader α} {v : Json}

theorem read_string_eq_ok_iff {s : String} : string.read v = .ok s ↔ v = .string s := by
  cases v <;> simp [string]

theorem read_bool_eq_ok_iff {b : Bool} : bool.read v = .ok b ↔ v = .bool b := by
  cases v <;> simp [bool]

theorem read_json_eq_ok_iff {w : Json} : json.read v = .ok w ↔ v = w := by
  simp [json]

theorem read_int64_eq_ok_iff {n : Int} : int64.read v = .ok n ↔ v = .int n ∧ IsInt64 n := by
  constructor
  · intro h
    simp only [int64, integer] at h
    split at h
    · split at h
      · next hn =>
        cases h
        exact ⟨rfl, hn⟩
      · cases h
    · cases h
  · rintro ⟨rfl, hn⟩
    exact read_int64 hn

theorem read_option_eq_ok_iff {o : Option α} :
    r.option.read v = .ok o ↔
      (v = .null ∧ o = none) ∨ (v ≠ .null ∧ ∃ a, r.read v = .ok a ∧ o = some a) := by
  cases v with
  | null => simp [option, eq_comm]
  | _ => simp [option, map_eq_ok_iff, eq_comm (a := o)]

theorem mem_of_read_list {as : List α} (h : (list r).read v = .ok as) :
    ∀ a ∈ as, ∃ item, r.read item = .ok a := by
  cases v with
  | array items =>
    replace h : items.mapM r.read = .ok as := h
    induction items generalizing as with
    | nil =>
      cases h
      simp
    | cons item rest ih =>
      rw [List.mapM_cons] at h
      obtain ⟨a, ha, h⟩ := bind_eq_ok_iff.1 h
      obtain ⟨others, hothers, h⟩ := bind_eq_ok_iff.1 h
      cases h
      exact List.forall_mem_cons.2 ⟨⟨item, ha⟩, ih hothers⟩
  | _ => cases h

end Reader

/-! ## Members -/

namespace Members

variable {α β : Type} {name : String} {r : Reader α} {m : Members α} {s : Source}

theorem read_map_eq_ok_iff {f : α → β} {b : β} :
    (f <$> m).read s = .ok b ↔ ∃ a, m.read s = .ok a ∧ f a = b :=
  map_eq_ok_iff

theorem read_seq_eq_ok_iff {f : Members (α → β)} {b : β} :
    (f <*> m).read s = .ok b ↔ ∃ g a, f.read s = .ok g ∧ m.read s = .ok a ∧ g a = b := by
  show (do return (← f.read s) (← m.read s) : Except ReadError β) = .ok b ↔ _
  simp only [bind_eq_ok_iff, pure, Except.pure, Except.ok.injEq]
  constructor
  · rintro ⟨g, hg, a, ha, h⟩
    exact ⟨g, a, hg, ha, h⟩
  · rintro ⟨g, a, hg, ha, h⟩
    exact ⟨g, hg, a, ha, h⟩

theorem read_member_of_get? {d e : Option α} {v : Json} (h : Keyed.get? name s.members = some v) :
    (member name r d e).read s = r.read v := by
  simp [member, h]

theorem read_required_eq_ok_iff {a : α} :
    (required name r).read s = .ok a ↔
      ∃ v, Keyed.get? name s.members = some v ∧ r.read v = .ok a := by
  cases h : Keyed.get? name s.members with
  | some v => simp [required, read_member_of_get? h]
  | none => simp [required, member, h]

theorem read_withDefault_eq_ok_iff {a d : α} :
    (withDefault name r d).read s = .ok a ↔
      (∃ v, Keyed.get? name s.members = some v ∧ r.read v = .ok a) ∨
        (Keyed.get? name s.members = none ∧ a = d) := by
  cases h : Keyed.get? name s.members with
  | some v => simp [withDefault, read_member_of_get? h]
  | none => simp [withDefault, member, h, eq_comm (a := a)]

theorem read_optional_eq_ok_iff {o : Option α} :
    (optional name r).read s = .ok o ↔
      (∃ v, Keyed.get? name s.members = some v ∧ r.option.read v = .ok o) ∨
        (Keyed.get? name s.members = none ∧ o = none) :=
  read_withDefault_eq_ok_iff

/-- The members look only at what their names look up, and who reads them has read each. -/
class Lawful (m : Members α) : Prop where
  congr : ∀ (isArray : Bool) {a b : List (String × Json)},
    (∀ name, Keyed.get? name a = Keyed.get? name b) → m.read ⟨isArray, a⟩ = m.read ⟨isArray, b⟩
  checked : ∀ {s : Source} {a : α}, m.read s = .ok a → ∀ k ∈ m.known, ∀ v,
    Keyed.get? k.1 s.members = some v → k.2.2 v = .ok ()

instance [m.Lawful] (f : α → β) : (f <$> m).Lawful where
  congr isArray _ _ h := congrArg (Except.map f) (Lawful.congr (m := m) isArray h)
  checked h := by
    obtain ⟨a, ha, -⟩ := read_map_eq_ok_iff.1 h
    exact Lawful.checked (m := m) ha

instance {f : Members (α → β)} [f.Lawful] [m.Lawful] : (f <*> m).Lawful where
  congr isArray a b h := by
    show (do return (← f.read ⟨isArray, a⟩) (← m.read ⟨isArray, a⟩) : Except ReadError β) = _
    rw [Lawful.congr (m := f) isArray h, Lawful.congr (m := m) isArray h]
    rfl
  checked h k hk v hv := by
    obtain ⟨g, a, hg, ha, -⟩ := read_seq_eq_ok_iff.1 h
    rcases List.mem_append.1 hk with hk | hk
    · exact Lawful.checked hg k hk v hv
    · exact Lawful.checked ha k hk v hv

instance {d e : Option α} : (member name r d e).Lawful where
  congr isArray a b h := by
    show (match Keyed.get? name a with | some v => r.read v | none => _) = _
    rw [h]
    rfl
  checked h k hk v hv := by
    obtain rfl := List.mem_singleton.1 hk
    rw [read_member_of_get? hv] at h
    exact map_eq_ok_iff.2 ⟨_, h, rfl⟩

instance : (required name r).Lawful := inferInstanceAs (member name r none none).Lawful

instance {d : α} : (withDefault name r d).Lawful :=
  inferInstanceAs (member name r (some d) (some d)).Lawful

instance : (optional name r).Lawful :=
  inferInstanceAs (member name r.option (some none) (some none)).Lawful

end Members

/-! ## Records -/

namespace Reader

variable {α : Type} {name : String} {m : Members α} {a : α}

theorem exists_read_of_ofText? {r : Reader α} {text : String} (h : r.ofText? text = some a) :
    ∃ v, r.read v = .ok a := by
  simp only [ofText?, Option.bind_eq_bind, Option.bind_eq_some_iff] at h
  obtain ⟨tree, -, v, -, hread⟩ := h
  refine ⟨v, ?_⟩
  cases hv : r.read v with
  | error e => simp [hv, Except.toOption] at hread
  | ok b =>
    rw [hv] at hread
    cases hread
    rfl

theorem exists_source_of_read_record {v : Json} (h : (record name m).read v = .ok a) :
    ∃ s, m.read s = .ok a := by
  cases v with
  | object members =>
    obtain ⟨-, -, h⟩ := bind_eq_ok_iff.1 h
    exact ⟨_, h⟩
  | array items =>
    refine ⟨⟨true, (m.known.map (·.1)).zip items⟩, ?_⟩
    simp only [record] at h
    split at h
    · cases h
    · cases h
    · next b hread =>
      split at h
      · cases h
        exact hread
      · cases h
  | _ => cases h

theorem checkMembers_eq_ok {known : List (String × Json.Shape × (Json → Except ReadError Unit))}
    {members : List (String × Json)}
    (h : ∀ e ∈ members, ∀ k, Keyed.get? e.1 known = some k → k.2 e.2 = .ok ()) :
    checkMembers known members = .ok () := by
  induction members with
  | nil => rfl
  | cons e rest ih =>
    obtain ⟨he, hrest⟩ := List.forall_mem_cons.1 h
    rw [checkMembers]
    cases hk : Keyed.get? e.1 known with
    | none => exact ih hrest
    | some k =>
      simp only [he k hk]
      exact ih hrest

theorem read_record_object_iff [m.Lawful] {members : List (String × Json)}
    (h : Keyed.Sorted members) :
    (record name m).read (.object members) = .ok a ↔ m.read ⟨false, members⟩ = .ok a := by
  constructor
  · intro hread
    obtain ⟨-, -, hread⟩ := bind_eq_ok_iff.1 hread
    exact hread
  · intro hread
    refine bind_eq_ok_iff.2 ⟨(), checkMembers_eq_ok fun e he k hk => ?_, hread⟩
    exact Members.Lawful.checked hread (e.1, k) (Keyed.mem_of_get? hk) e.2
      ((Keyed.get?_eq_some_iff h).2 he)

theorem read_record_ofMembers_iff [m.Lawful] {entries : List (String × Json)}
    (h : (Keyed.keys entries).Nodup) :
    (record name m).read (.ofMembers entries) = .ok a ↔ m.read ⟨false, entries⟩ = .ok a := by
  rw [Json.ofMembers, read_record_object_iff (Keyed.sorted_ofList entries),
    Members.Lawful.congr false fun name => Keyed.get?_ofList h name]

theorem read_openRecord_eq_ok_iff {m : Members (List (String × Json) → α)} {v : Json} :
    (openRecord m).read v = .ok a ↔ ∃ members build, v = .object members ∧
      m.read ⟨false, members⟩ = .ok build ∧
      build (members.filter fun e => !Keyed.contains e.1 m.known) = a := by
  cases v with
  | object members =>
    simp only [openRecord, bind_eq_ok_iff, pure, Except.pure, Except.ok.injEq, Json.object.injEq]
    constructor
    · rintro ⟨build, hread, h⟩
      exact ⟨members, build, rfl, hread, h⟩
    · rintro ⟨_, build, rfl, hread, h⟩
      exact ⟨build, hread, h⟩
  | _ => simp [openRecord]

end Reader

end Campus
