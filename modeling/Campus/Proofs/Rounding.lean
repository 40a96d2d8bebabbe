import Mathlib.Tactic.Ring
import Campus.Number.Literal

/-!
# Rounding of long literals

Rounding never falls below a power of two. So a literal whose digits do not fit 64 bits means a
double of at least 2^63, although it is rounded up to three times on the way.
-/

namespace Campus

/-! ## Powers of two -/

theorem le_roundHalfEven (num den : Nat) : num / den ≤ roundHalfEven num den := by
  unfold roundHalfEven
  dsimp only
  split
  · exact Nat.le_refl _
  split
  · exact Nat.le_succ _
  split
  · exact Nat.le_refl _
  · exact Nat.le_succ _

namespace Binary64

variable {negative : Bool} {num den k l : Nat} {x y z : Binary64}

theorem exists_one_eq_two_pow : ∃ bits, one = 2 ^ bits := by
  unfold one
  generalize 1074 = bits
  exact ⟨bits, Nat.one_shiftLeft bits⟩

theorem one_pos : 0 < one := by
  obtain ⟨bits, hone⟩ := exists_one_eq_two_pow
  rw [hone]
  exact Nat.two_pow_pos bits

theorem two_pow_log2_le_round {q : Nat} (hq : q ≠ 0) (hquotient : num / den = q) :
    2 ^ q.log2 ≤ roundHalfEven num (den <<< bitShift q) <<< bitShift q := by
  have hshift : bitShift q ≤ q.log2 := Nat.sub_le _ _
  have hkept : 2 ^ (q.log2 - bitShift q) ≤ q / 2 ^ bitShift q := by
    rw [Nat.le_div_iff_mul_le (Nat.two_pow_pos _), ← Nat.pow_add, Nat.sub_add_cancel hshift]
    exact Nat.log2_self_le hq
  have hrounded : q / 2 ^ bitShift q ≤ roundHalfEven num (den <<< bitShift q) := by
    rw [← hquotient, Nat.div_div_eq_div_mul, Nat.shiftLeft_eq]
    exact le_roundHalfEven num _
  calc 2 ^ q.log2 = 2 ^ (q.log2 - bitShift q) * 2 ^ bitShift q := by
        rw [← Nat.pow_add, Nat.sub_add_cancel hshift]
    _ ≤ roundHalfEven num (den <<< bitShift q) * 2 ^ bitShift q :=
        Nat.mul_le_mul_right _ (hkept.trans hrounded)
    _ = _ := (Nat.shiftLeft_eq _ _).symm

theorem two_pow_le_units_of_nearest (hden : 0 < den) (hle : 2 ^ k * den ≤ num)
    (h : nearest negative num den = some x) : 2 ^ k ≤ x.units := by
  have hquotient : 2 ^ k ≤ num / den := (Nat.le_div_iff_mul_le hden).2 hle
  have hpos : num / den ≠ 0 := (Nat.lt_of_lt_of_le (Nat.two_pow_pos k) hquotient).ne'
  have hlog : 2 ^ k ≤ 2 ^ (num / den).log2 :=
    Nat.pow_le_pow_right (by decide) ((Nat.le_log2 hpos).2 hquotient)
  unfold nearest at h
  dsimp only at h
  split at h
  · cases h
    exact hlog.trans (two_pow_log2_le_round hpos rfl)
  · cases h

theorem two_pow_mul_one_le_units_of_nearest (hden : 0 < den) (hle : 2 ^ k * one * den ≤ num)
    (h : nearest negative num den = some x) : 2 ^ k * one ≤ x.units := by
  obtain ⟨bits, hone⟩ := exists_one_eq_two_pow
  rw [hone, ← Nat.pow_add] at hle ⊢
  exact two_pow_le_units_of_nearest hden hle h

theorem two_pow_mul_one_le_of_ofNat {n : Nat} (hle : 2 ^ k ≤ n) (h : ofNat n = some x) :
    2 ^ k * one ≤ x.units := by
  refine two_pow_mul_one_le_units_of_nearest Nat.one_pos ?_ h
  rw [Nat.mul_one]
  exact Nat.mul_le_mul_right one hle

theorem two_pow_mul_one_le_of_mul (hx : 2 ^ k * one ≤ x.units) (hy : 2 ^ l * one ≤ y.units)
    (h : x.mul y = some z) : 2 ^ (k + l) * one ≤ z.units := by
  refine two_pow_mul_one_le_units_of_nearest one_pos ?_ h
  calc 2 ^ (k + l) * one * one = 2 ^ k * one * (2 ^ l * one) := by ring
    _ ≤ x.units * y.units := Nat.mul_le_mul hx hy

theorem two_pow_mul_one_le_of_ofDecimal {exponent : Nat} (hrange : exponent ≤ 308)
    (hle : 2 ^ k ≤ 10 ^ exponent) (h : ofDecimal false 1 exponent = some x) :
    2 ^ k * one ≤ x.units := by
  have hsize : ((Nat.toDigits 10 1).length : Int) = 1 := rfl
  rw [ofDecimal, hsize, if_neg (by omega), if_neg (by omega), if_pos (by omega),
    Int.toNat_natCast, Nat.one_mul] at h
  refine two_pow_mul_one_le_units_of_nearest Nat.one_pos ?_ h
  rw [Nat.mul_one]
  exact Nat.mul_le_mul_right one hle

end Binary64

/-! ## Integers of many digits -/

theorem digitValue_le {c : Char} (h : isDigit c = true) : digitValue c ≤ 9 := by
  have hle : c ≤ '9' := by
    rw [isDigit, Bool.and_eq_true, decide_eq_true_eq, decide_eq_true_eq] at h
    exact h.2
  have htoNat : c.toNat ≤ '9'.toNat := hle
  exact Nat.sub_le_sub_right htoNat '0'.toNat

namespace DecimalLiteral

variable {n k l exponent : Nat} {cs whole : List Char} {x y z : Binary64}

/-- Digits are left unread only if those before them write a number of more than 60 bits. -/
theorem gather_cases (h : ∀ c ∈ cs, isDigit c = true) :
    gather n cs = (Nat.ofDigitChars 10 cs n, []) ∨
      2 ^ 60 ≤ (gather n cs).1 ∧ 0 < (gather n cs).2.length := by
  induction cs generalizing n with
  | nil => exact .inl rfl
  | cons c rest ih =>
    obtain ⟨hc, hrest⟩ := List.forall_mem_cons.1 h
    unfold gather
    dsimp only
    split
    · rw [Nat.ofDigitChars_cons]
      exact ih hrest
    · next hlarge =>
      have hdigit := digitValue_le hc
      refine .inr ⟨?_, Nat.succ_pos _⟩
      unfold word64Max at hlarge
      show 2 ^ 60 ≤ n
      omega

theorem two_pow_mul_one_le_of_scale (hx : 2 ^ k * Binary64.one ≤ x.units)
    (hle : 2 ^ l ≤ 10 ^ exponent) (h : scale x exponent = some z) :
    2 ^ (k + l) * Binary64.one ≤ z.units := by
  have hpos : 0 < x.units :=
    Nat.lt_of_lt_of_le (Nat.mul_pos (Nat.two_pow_pos k) Binary64.one_pos) hx
  rw [scale, if_neg (by omega), if_neg (by omega)] at h
  split at h
  · next hrange =>
    obtain ⟨power, hpower, hmul⟩ := Option.bind_eq_some_iff.1 h
    have hten := Binary64.two_pow_mul_one_le_of_ofDecimal (by omega) hle hpower
    exact Binary64.two_pow_mul_one_le_of_mul hx hten hmul
  · rw [if_neg hpos.ne'] at h
    cases h

theorem toJsonDouble?_integer (negative : Bool) (whole : List Char) :
    toJsonDouble? { negative, whole, fraction := [] } = (do
      let y ← Binary64.ofNat (gather 0 whole).1
      let z ← scale y ((gather 0 whole).2.length : Nat)
      return if negative then z.neg else z) := by
  have hexponent : exponent { negative, whole, fraction := [] } = 0 := rfl
  have hplaces (places : Int) : 0 + places - ((([] : List Char).length : Int) -
      ([] : List Char).length) = places := by simp
  simp only [toJsonDouble?, hexponent, gather, hplaces]

theorem two_pow_63_le_of_toJsonDouble? {negative : Bool} (hdigits : ∀ c ∈ whole, isDigit c = true)
    (hlarge : 2 ^ 63 ≤ digitsValue whole)
    (h : toJsonDouble? { negative, whole, fraction := [] } = some z) :
    2 ^ 63 * Binary64.one ≤ z.units := by
  rw [toJsonDouble?_integer] at h
  obtain ⟨read, hread, hrest⟩ := Option.bind_eq_some_iff.1 h
  obtain ⟨scaled, hscaled, hsign⟩ := Option.bind_eq_some_iff.1 hrest
  have hunits : z.units = scaled.units := by
    cases hsign
    cases negative <;> rfl
  rw [hunits]
  rcases gather_cases (n := 0) hdigits with hall | ⟨hkept, hunread⟩
  · rw [hall] at hread hscaled
    have hvalue := Binary64.two_pow_mul_one_le_of_ofNat hlarge hread
    exact two_pow_mul_one_le_of_scale (l := 0) hvalue Nat.one_pos hscaled
  · have hvalue := Binary64.two_pow_mul_one_le_of_ofNat hkept hread
    have hten : 2 ^ 3 ≤ 10 ^ (gather 0 whole).2.length :=
      calc 2 ^ 3 ≤ 10 ^ 1 := by decide
        _ ≤ 10 ^ (gather 0 whole).2.length := Nat.pow_le_pow_right (by decide) hunread
    rw [show 63 = 60 + 3 from rfl]
    exact two_pow_mul_one_le_of_scale hvalue hten hscaled

end DecimalLiteral

end Campus
