import Mathlib.Algebra.Order.Field.Basic
import Mathlib.Algebra.Order.Ring.Rat
import Campus.Contract.Coercion
import Campus.Proofs.IntegerText
import Campus.Proofs.Rounding

/-!
# Integers, up to the limits

An integer is taken for what it is or not at all, however it is written: as an integer, as a double,
in JSON with any number of digits, or as a text. Nothing is rounded into the range of 64 bits, and
nothing wraps around.
-/

namespace Campus

theorem isInt64_iff {n : Int} : IsInt64 n ↔ -2 ^ 63 ≤ n ∧ n ≤ 2 ^ 63 - 1 := by
  unfold IsInt64 int64Min int64Max
  omega

theorem natAbs_signed (negative : Bool) (n : Nat) : (signed negative n).natAbs = n := by
  cases negative <;> simp [signed]

theorem signed_mul (negative : Bool) (m d : Nat) :
    signed negative (m * d) = signed negative m * d := by
  cases negative <;> simp [signed]

theorem signed_eq_mul_iff {negative : Bool} {m d : Nat} {n : Int} (hd : 0 < d) :
    signed negative m = n * d ↔ m % d = 0 ∧ signed negative (m / d) = n := by
  constructor
  · intro h
    have hm : m = n.natAbs * d := by
      rw [← natAbs_signed negative m, h, Int.natAbs_mul, Int.natAbs_natCast]
    rw [hm, signed_mul] at h
    rw [hm, Nat.mul_mod_left, Nat.mul_div_cancel _ hd]
    exact ⟨rfl, Int.eq_of_mul_eq_mul_right (Int.natCast_ne_zero.2 hd.ne') h⟩
  · rintro ⟨hwhole, rfl⟩
    rw [← signed_mul, Nat.div_mul_cancel (Nat.dvd_of_mod_eq_zero hwhole)]

/-! ## Doubles -/

namespace Binary64

variable {x : Binary64} {n : Int}

/-- The number that a double is. -/
def value (x : Binary64) : ℚ := (signed x.negative x.units : ℚ) / (one : ℚ)

theorem value_eq_iff : x.value = n ↔ signed x.negative x.units = n * one := by
  have hone : (one : ℚ) ≠ 0 := Nat.cast_ne_zero.2 one_pos.ne'
  rw [value, div_eq_iff hone]
  exact_mod_cast Iff.rfl

theorem abs_value_lt_iff {k : Nat} : |x.value| < 2 ^ k ↔ x.units < one <<< k := by
  have hone : (0 : ℚ) < one := Nat.cast_pos.2 one_pos
  have habs : |(signed x.negative x.units : ℚ)| = (x.units : ℚ) := by
    rw [← Int.cast_abs, Int.abs_eq_natAbs, natAbs_signed]
    rfl
  rw [value, abs_div, habs, abs_of_pos hone, div_lt_iff₀ hone, Nat.shiftLeft_eq, mul_comm]
  exact_mod_cast Iff.rfl

theorem toInt?_eq_some_iff : x.toInt? = some n ↔ x.value = n := by
  rw [value_eq_iff, signed_eq_mul_iff one_pos, toInt?, isWhole, Option.ite_none_right_eq_some,
    beq_iff_eq, Option.some_inj]
  rfl

theorem toInt64?_eq_some_iff : x.toInt64? = some n ↔ x.value = n ∧ |x.value| < 2 ^ 63 := by
  rw [toInt64?, ← toInt?_eq_some_iff, abs_value_lt_iff]
  simp [and_comm]

end Binary64

/-! ## Integers in JSON -/

theorem Json.toInteger?_int_eq_some_iff {n m : Int} :
    (Json.int n).toInteger? = some m ↔ IsInt64 n ∧ m = n := by
  rw [int, toInteger?, Option.ite_none_right_eq_some, Option.some_inj, eq_comm (a := n)]

namespace DecimalLiteral

variable {negative : Bool} {n : Nat} {m : Int}

theorem toNumber?_ofInteger (negative : Bool) (n : Nat) : (ofInteger negative n).toNumber? =
    if (negative = false ∧ (n : Int) ≤ word64Max) ∨
        (negative = true ∧ n ≠ 0 ∧ int64Min ≤ -(n : Int)) then
      some (.int (signed negative n))
    else (ofInteger negative n).toJsonDouble?.map .double := by
  cases negative <;> simp [toNumber?, ofInteger, digitsValue_toDigits, signed]

theorem toJsonDouble?_negative_zero :
    (ofInteger true 0).toJsonDouble? = some (Binary64.zero true) := by
  decide +kernel

/-- Where an integer is read as a double, it is too large for one that fits. -/
theorem toInt64?_of_toJsonDouble? {z : Binary64} (hn : 2 ^ 63 ≤ n)
    (h : (ofInteger negative n).toJsonDouble? = some z) : z.toInt64? = none := by
  have hvalue : 2 ^ 63 ≤ digitsValue (Nat.toDigits 10 n) := by rwa [digitsValue_toDigits]
  have hlarge := two_pow_63_le_of_toJsonDouble? (fun _ hc => isDigit_of_mem_toDigits hc) hvalue h
  rw [Binary64.toInt64?, Nat.shiftLeft_eq, Nat.mul_comm, if_neg (Nat.not_lt.2 hlarge)]

theorem toInteger?_ofInteger :
    (∃ number, (ofInteger negative n).toNumber? = some number ∧
        (Json.number number).toInteger? = some m) ↔
      IsInt64 (signed negative n) ∧ m = signed negative n := by
  rw [toNumber?_ofInteger]
  split
  · simp only [Option.some_inj, exists_eq_left']
    exact Json.toInteger?_int_eq_some_iff
  · next hdouble =>
    simp only [Option.map_eq_some_iff, exists_exists_and_eq_and]
    by_cases hzero : negative = true ∧ n = 0
    · obtain ⟨rfl, rfl⟩ := hzero
      have hread : (Json.number (.double (Binary64.zero true))).toInteger? = some 0 := rfl
      rw [toJsonDouble?_negative_zero]
      simp only [Option.some_inj, exists_eq_left', hread]
      exact ⟨fun hm => ⟨by decide, hm.symm⟩, fun hm => hm.2.symm⟩
    · have hlarge : 2 ^ 63 ≤ n ∧ ¬IsInt64 (signed negative n) := by
        rw [isInt64_iff]
        unfold word64Max int64Min at hdouble
        cases negative
        · simp [signed] at hdouble ⊢
          omega
        · simp [signed] at hdouble hzero ⊢
          omega
      refine iff_of_false ?_ fun hfits => hlarge.2 hfits.1
      rintro ⟨z, hz, hm⟩
      rw [Json.toInteger?, toInt64?_of_toJsonDouble? hlarge.1 hz] at hm
      cases hm

end DecimalLiteral

/-! ## Coercion -/

theorem Json.toInteger?_string_eq_some_iff {s : String} {n : Int} :
    (Json.string s).toInteger? = some n ↔
      ∃ text, IsTrimmed s.toList text ∧ WritesInteger text n ∧ IsInt64 n := by
  simp only [toInteger?, readInt64?_eq_some_iff, ← trimChars_eq_iff, exists_eq_left']

theorem Json.toInteger?_string_toString {n m : Int} :
    (Json.string (toString n)).toInteger? = some m ↔ IsInt64 n ∧ m = n := by
  rw [toInteger?_string_eq_some_iff]
  constructor
  · rintro ⟨text, htrimmed, hwrites, hfits⟩
    have htext : text = (toString n).toList :=
      (trimChars_eq_iff.2 htrimmed).symm.trans
        (trimChars_eq_iff.2 (writesInteger_toString n).isTrimmed)
    rw [htext] at hwrites
    obtain rfl := hwrites.unique (writesInteger_toString n)
    exact ⟨hfits, rfl⟩
  · rintro ⟨hfits, rfl⟩
    exact ⟨_, (writesInteger_toString m).isTrimmed, writesInteger_toString m, hfits⟩

namespace ParamType

variable {n : Int} {v w : Json}

theorem coerce_int_eq_ok_iff :
    ParamType.int.coerce v = .ok w ↔ ∃ n, v.toInteger? = some n ∧ w = .int n := by
  unfold coerce
  cases v.toInteger? with
  | none => simp
  | some n => simp [eq_comm]

theorem coerce_int_int : ParamType.int.coerce (.int n) = .ok w ↔ IsInt64 n ∧ w = .int n := by
  simp only [coerce_int_eq_ok_iff, Json.toInteger?_int_eq_some_iff, and_assoc, exists_and_left,
    exists_eq_left]

theorem coerce_int_double {x : Binary64} : ParamType.int.coerce (.number (.double x)) = .ok w ↔
    ∃ n : Int, (x.value = n ∧ |x.value| < 2 ^ 63) ∧ w = .int n := by
  simp only [coerce_int_eq_ok_iff, ← Binary64.toInt64?_eq_some_iff]
  rfl

theorem coerce_int_integerText {negative : Bool} {n : Nat} :
    (∃ v, Json.ofText? (String.ofList (integerText negative n)) = some v ∧
        ParamType.int.coerce v = .ok w) ↔
      IsInt64 (signed negative n) ∧ w = .int (signed negative n) := by
  simp only [coerce_int_eq_ok_iff, Json.ofText?_integerText, Option.map_eq_some_iff,
    exists_exists_and_eq_and]
  constructor
  · rintro ⟨number, hnumber, m, hm, rfl⟩
    obtain ⟨hfits, rfl⟩ := DecimalLiteral.toInteger?_ofInteger.1 ⟨number, hnumber, hm⟩
    exact ⟨hfits, rfl⟩
  · rintro ⟨hfits, rfl⟩
    obtain ⟨number, hnumber, hm⟩ := DecimalLiteral.toInteger?_ofInteger.2 ⟨hfits, rfl⟩
    exact ⟨number, hnumber, _, hm, rfl⟩

theorem coerce_int_string {s : String} : ParamType.int.coerce (.string s) = .ok w ↔
    ∃ text n, IsTrimmed s.toList text ∧ WritesInteger text n ∧ IsInt64 n ∧ w = .int n := by
  simp only [coerce_int_eq_ok_iff, Json.toInteger?_string_eq_some_iff]
  constructor
  · rintro ⟨n, ⟨text, htrimmed, hwrites, hfits⟩, rfl⟩
    exact ⟨text, n, htrimmed, hwrites, hfits, rfl⟩
  · rintro ⟨text, n, htrimmed, hwrites, hfits, rfl⟩
    exact ⟨n, ⟨text, htrimmed, hwrites, hfits⟩, rfl⟩

theorem coerce_int_coerce_text :
    (ParamType.text.coerce (.int n) >>= ParamType.int.coerce) = .ok w ↔
      IsInt64 n ∧ w = .int n := by
  have htext : ParamType.text.coerce (.int n) = .ok (.string (toString n)) := rfl
  rw [htext]
  show ParamType.int.coerce (.string (toString n)) = .ok w ↔ _
  simp only [coerce_int_eq_ok_iff, Json.toInteger?_string_toString, and_assoc, exists_and_left,
    exists_eq_left]

/-- An integer is taken exactly if it fits 64 bits, and a double exactly if it is a whole number
between -2^63 and 2^63. Of the integers that JSON writes, however long, and of texts, exactly those
are taken that write an integer of 64 bits. What comes out is the same number. An integer that is
made a text comes back. -/
theorem coerce_int_exact :
    (∀ n w, ParamType.int.coerce (.int n) = .ok w ↔ IsInt64 n ∧ w = .int n) ∧
    (∀ x w, ParamType.int.coerce (.number (.double x)) = .ok w ↔
      ∃ n : Int, (x.value = n ∧ |x.value| < 2 ^ 63) ∧ w = .int n) ∧
    (∀ negative n w, (∃ v, Json.ofText? (String.ofList (integerText negative n)) = some v ∧
        ParamType.int.coerce v = .ok w) ↔
      IsInt64 (signed negative n) ∧ w = .int (signed negative n)) ∧
    (∀ s w, ParamType.int.coerce (.string s) = .ok w ↔
      ∃ text n, IsTrimmed s.toList text ∧ WritesInteger text n ∧ IsInt64 n ∧ w = .int n) ∧
    (∀ n w, (ParamType.text.coerce (.int n) >>= ParamType.int.coerce) = .ok w ↔
      IsInt64 n ∧ w = .int n) ∧
    ∀ n, IsInt64 n ↔ -2 ^ 63 ≤ n ∧ n ≤ 2 ^ 63 - 1 :=
  ⟨fun _ _ => coerce_int_int, fun _ _ => coerce_int_double, fun _ _ _ => coerce_int_integerText,
    fun _ _ => coerce_int_string, fun _ _ => coerce_int_coerce_text, fun _ => isInt64_iff⟩

/-- The greatest integer that fits is taken, but not the double nearest to it, which is greater. -/
example : (Json.int int64Max).toInteger? = some int64Max ∧
    (Binary64.ofNat int64Max.toNat).map (·.toInt64?) = some none := by
  decide +kernel

end ParamType

end Campus
