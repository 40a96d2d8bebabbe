import Campus.Contract.Error

/-!
# What fits

Arguments fit a structure if all their keys are declared and each field fits in turn. A value in
canonical form fits its type as it is.
-/

namespace Campus

/-- An object without members of other names. -/
def Json.HasOnly (names : List String) : Json → Prop
  | .object members => ∀ m ∈ members, m.1 ∈ names
  | _ => False

theorem map_eq_ok_iff {ε α β : Type} {f : α → β} {x : Except ε α} {b : β} :
    x.map f = .ok b ↔ ∃ a, x = .ok a ∧ f a = b := by
  cases x <;> simp [Except.map]

theorem mapError_eq_error_iff {ε ε' α : Type} {f : ε → ε'} {x : Except ε α} {e : ε'} :
    x.mapError f = .error e ↔ ∃ cause, x = .error cause ∧ f cause = e := by
  cases x with
  | ok a => exact ⟨nofun, fun ⟨_, h, _⟩ => nomatch h⟩
  | error cause =>
    constructor
    · intro h
      exact ⟨cause, rfl, Except.error.inj h⟩
    · rintro ⟨_, hcause, rfl⟩
      cases hcause
      rfl

/-! ## Integers -/

theorem Binary64.isInt64_of_toInt64? {x : Binary64} {n : Int} (h : x.toInt64? = some n) :
    IsInt64 n := by
  unfold toInt64? at h
  split at h
  · next hsmall =>
    have hone : 0 < one := by rw [one, Nat.one_shiftLeft]; exact Nat.two_pow_pos 1074
    have hquotient : x.units / one < 2 ^ 63 := by
      rw [Nat.div_lt_iff_lt_mul hone, Nat.mul_comm]
      rwa [Nat.shiftLeft_eq] at hsmall
    unfold toInt? at h
    generalize x.units / one = quotient at h hquotient
    split at h
    · cases h
      unfold IsInt64 int64Min int64Max
      split <;> omega
    · cases h
  · cases h

theorem isInt64_of_readInt64? {cs : List Char} {n : Int} (h : readInt64? cs = some n) :
    IsInt64 n := by
  simp only [readInt64?, Option.ite_none_right_eq_some, Bool.and_eq_true, decide_eq_true_eq,
    Option.some.injEq] at h
  exact h.2 ▸ h.1.2

theorem Json.isInt64_of_toInteger? {v : Json} {n : Int} (h : v.toInteger? = some n) :
    IsInt64 n := by
  unfold toInteger? at h
  split at h
  · split at h
    · next hn => cases h; exact hn
    · cases h
  · exact Binary64.isInt64_of_toInt64? h
  · exact isInt64_of_readInt64? h
  · cases h

theorem Json.toInteger?_int {n : Int} (h : IsInt64 n) : (Json.int n).toInteger? = some n :=
  if_pos h

namespace Description

variable {direction : Direction} {desc : String} {v : Json}

theorem fit_plain_of_coerce {type : ParamType} {out : Json} (hnull : v.isNull = false)
    (h : type.coerce v = .ok out) : (plain type desc).fit direction v = .ok (some out) := by
  simp [plain, fit, hnull, h]

theorem fit_plain_int_eq_ok_iff {out : Option Json} :
    (plain .int desc).fit direction v = .ok out ↔
      ∃ n, v.toInteger? = some n ∧ out = some (.int n) := by
  cases hnull : v.isNull with
  | true =>
    cases v <;> simp_all [plain, fit, Json.isNull, Presence.absent, Json.toInteger?]
  | false =>
    cases hn : v.toInteger? with
    | none => simp [plain, fit, hnull, ParamType.coerce, hn]
    | some n =>
      have hcoerce : ParamType.int.coerce v = .ok (.int n) := by simp [ParamType.coerce, hn]
      rw [fit_plain_of_coerce hnull hcoerce]
      simp [eq_comm]

theorem fit_plain_alphanum_eq_ok_iff {out : Option Json} :
    (plain .alphanum desc).fit direction v = .ok out ↔
      ∃ s, v.scalarText? = .ok s ∧ s.toList.all isAlphanumeric = true ∧
        out = some (.string s) := by
  cases hnull : v.isNull with
  | true =>
    cases v <;> simp_all [plain, fit, Json.isNull, Presence.absent, Json.scalarText?]
  | false =>
    cases htext : v.scalarText? with
    | error r => simp [plain, fit, hnull, ParamType.coerce, htext, bind, Except.bind]
    | ok s =>
      simp only [Except.ok.injEq, exists_eq_left']
      cases hs : s.toList.all isAlphanumeric with
      | true =>
        have hcoerce : ParamType.alphanum.coerce v = .ok (.string s) := by
          rw [ParamType.coerce, htext]
          exact if_pos hs
        rw [fit_plain_of_coerce hnull hcoerce]
        constructor
        · rintro ⟨⟩
          exact ⟨rfl, rfl⟩
        · rintro ⟨-, rfl⟩
          rfl
      | false =>
        have hreject : ParamType.alphanum.coerce v = .error (.notAlphanumeric s) := by
          rw [ParamType.coerce, htext]
          exact if_neg (by simp [hs])
        simp [plain, fit, hnull, hreject]

theorem eq_of_fit_plain_alphanum {s : String} {out : Option Json}
    (h : (plain .alphanum desc).fit direction (.string s) = .ok out) : out = some (.string s) := by
  obtain ⟨_, ⟨⟩, -, hout⟩ := fit_plain_alphanum_eq_ok_iff.1 h
  exact hout

/-! ## Structures -/

theorem undeclared?_eq_none_iff {fields : List (String × Description)}
    {given : List (String × Json)} :
    undeclared? fields given = none ↔ (Json.object given).HasOnly (Keyed.keys fields) := by
  simp [undeclared?, Json.HasOnly, Keyed.contains_iff_mem_keys]

theorem fitFields_cons_eq_ok_iff {name : String} {d : Description}
    {rest : List (String × Description)} {given members out : List (String × Json)} :
    fitFields direction ((name, d) :: rest) given out = .ok members ↔
      ∃ v, d.fit direction ((Keyed.get? name given).getD .null) = .ok v ∧
        fitFields direction rest given (v.elim out (Keyed.insert name · out)) = .ok members := by
  rw [fitFields]
  split <;> simp [*]

theorem fit_structureOf_output {fields : List (String × Description)}
    {given : List (String × Json)} :
    (structureOf desc fields).fit .output (.object given) =
      (fitFields .output fields given []).map fun out => some (.object out) := by
  simp [structureOf, fit]

theorem validateArguments_eq_ok_iff {fields : List (String × Description)} {arguments : Json}
    {members : List (String × Json)} (hnone : fitFields .input fields [] [] ≠ .ok members) :
    validateArguments (structureOf desc fields) arguments = .ok members ↔
      ∃ given, arguments = .object given ∧ arguments.HasOnly (Keyed.keys fields) ∧
        fitFields .input fields given [] = .ok members := by
  cases arguments with
  | object given =>
    simp only [Json.object.injEq, exists_eq_left', ← undeclared?_eq_none_iff, structureOf,
      validateArguments, Json.isNull, Bool.false_eq_true, if_false]
    cases hundeclared : undeclared? fields given with
    | none =>
      cases hfields : fitFields .input fields given [] <;>
        simp [fit, hundeclared, hfields, Except.map]
    | some key => simp [fit, hundeclared]
  | null =>
    cases hfields : fitFields .input fields [] [] <;>
      simp_all [structureOf, validateArguments, Json.isNull, fit, undeclared?, Except.map]
  | _ => simp [structureOf, validateArguments, Json.isNull, fit]

/-! ## Lists -/

theorem fitItems_cons_eq_ok_iff {fit : Json → Except Misfit (Option Json)} {index : Nat}
    {rest out : List Json} :
    fitItems fit index (v :: rest) = .ok out ↔
      ∃ first others, fit v = .ok first ∧ fitItems fit (index + 1) rest = .ok others ∧
        out = first.toList ++ others := by
  rw [fitItems]
  cases fit v with
  | error misfit =>
    constructor
    · intro h; cases h
    · rintro ⟨_, _, h, _⟩; cases h
  | ok first =>
    cases fitItems fit (index + 1) rest with
    | error misfit =>
      constructor
      · intro h; cases h
      · rintro ⟨_, _, _, h, _⟩; cases h
    | ok others =>
      constructor
      · rintro ⟨⟩; exact ⟨first, others, rfl, rfl, rfl⟩
      · rintro ⟨_, _, ⟨⟩, ⟨⟩, rfl⟩; rfl

theorem fitItems_map {α : Type} {fit : Json → Except Misfit (Option Json)}
    {encode fitted : α → Json} {items : List α}
    (h : ∀ a ∈ items, fit (encode a) = .ok (some (fitted a))) (index : Nat) :
    fitItems fit index (items.map encode) = .ok (items.map fitted) := by
  induction items generalizing index with
  | nil => rfl
  | cons a rest ih =>
    rw [List.forall_mem_cons] at h
    exact fitItems_cons_eq_ok_iff.2 ⟨_, _, h.1, ih h.2 (index + 1), rfl⟩

theorem fitItems_int_eq_ok_iff {index : Nat} {items out : List Json} :
    fitItems (fun v => (plain .int desc).fit direction v) index items = .ok out ↔
      ∃ ns, items.mapM Json.toInteger? = some ns ∧ out = ns.map .int := by
  induction items generalizing index out with
  | nil => simp [fitItems, eq_comm]
  | cons v rest ih =>
    simp only [fitItems_cons_eq_ok_iff, fit_plain_int_eq_ok_iff, ih, List.mapM_cons]
    cases v.toInteger? <;> cases rest.mapM Json.toInteger? <;> simp

theorem fit_listOf_int_eq_ok_iff {content : String} {out : Option Json} :
    (listOf (plain .int content) desc).fit direction v = .ok out ↔
      ∃ items ns, v = .array items ∧ items.mapM Json.toInteger? = some ns ∧
        out = some (.array (ns.map .int)) := by
  unfold listOf
  cases v with
  | array items =>
    simp only [fit, map_eq_ok_iff, fitItems_int_eq_ok_iff]
    constructor
    · rintro ⟨-, ⟨ns, hns, rfl⟩, rfl⟩
      exact ⟨items, ns, rfl, hns, rfl⟩
    · rintro ⟨_, ns, ⟨⟩, hns, rfl⟩
      exact ⟨_, ⟨ns, hns, rfl⟩, rfl⟩
  | _ => simp [fit, Presence.absent]

end Description

theorem Json.mapM_toInteger?_int {ns : List Int} (h : ∀ n ∈ ns, IsInt64 n) :
    (ns.map Json.int).mapM Json.toInteger? = some ns := by
  induction ns with
  | nil => rfl
  | cons n rest ih =>
    rw [List.forall_mem_cons] at h
    rw [List.map_cons, List.mapM_cons, toInteger?_int h.1, ih h.2]
    rfl

theorem Json.isInt64_of_mapM_toInteger? {items : List Json} {ns : List Int}
    (h : items.mapM Json.toInteger? = some ns) : ∀ n ∈ ns, IsInt64 n := by
  induction items generalizing ns with
  | nil => cases h; simp
  | cons v rest ih =>
    simp only [List.mapM_cons, Option.pure_def, Option.bind_eq_bind, Option.bind_eq_some_iff,
      Option.some.injEq] at h
    obtain ⟨n, hn, others, hothers, rfl⟩ := h
    exact List.forall_mem_cons.2 ⟨isInt64_of_toInteger? hn, ih hothers⟩

end Campus
