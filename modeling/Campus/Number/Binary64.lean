/-!
# Finite doubles

A finite double is a sign and a whole number of units of 2^-1074, the smallest positive double.
Every finite double is such a number, so arithmetic on them is exact arithmetic on naturals
followed by one rounding.
-/

namespace Campus

/-- The quotient `num / den` to the nearest natural number; a half goes to the even neighbour. -/
def roundHalfEven (num den : Nat) : Nat :=
  let q := num / den
  let twice := 2 * (num % den)
  if twice < den then q
  else if den < twice then q + 1
  else if q % 2 = 0 then q else q + 1

/-- How far the last of 53 significant bits stands above the unit bit. -/
def bitShift (n : Nat) : Nat := n.log2 - 52

def doubleBits : Nat := 2098

/-- The units in the smallest power of two that no double reaches. -/
def doubleLimit : Nat := 1 <<< doubleBits

/-- The number of units keeps at most 53 significant bits and lies below the limit. -/
def IsDouble (units : Nat) : Prop :=
  1 <<< bitShift units ∣ units ∧ units < doubleLimit

instance (units : Nat) : Decidable (IsDouble units) :=
  inferInstanceAs (Decidable (_ ∧ _))

theorem doubleLimit_pos : 0 < doubleLimit := by
  rw [doubleLimit, Nat.one_shiftLeft]
  exact Nat.two_pow_pos doubleBits

theorem isDouble_zero : IsDouble 0 :=
  ⟨Nat.dvd_zero _, doubleLimit_pos⟩

def tenTo (exponent : Nat) : Nat := Nat.pow 10 exponent

/-- A finite double: `units * 2^-1074`, negated if `negative`. -/
structure Binary64 where
  negative : Bool
  units : Nat
  isDouble : IsDouble units
deriving DecidableEq

namespace Binary64

def one : Nat := 1 <<< 1074

/-- The double nearest to `num / den` units, ties to even; none if it is out of range. -/
def nearest (negative : Bool) (num den : Nat) : Option Binary64 :=
  let shift := bitShift (num / den)
  let units := roundHalfEven num (den <<< shift) <<< shift
  if h : IsDouble units then some ⟨negative, units, h⟩ else none

def zero (negative : Bool) : Binary64 := ⟨negative, 0, isDouble_zero⟩

/-- The double nearest to a natural number. -/
def ofNat (n : Nat) : Option Binary64 := nearest false (n * one) 1

def mul (x y : Binary64) : Option Binary64 :=
  nearest (x.negative != y.negative) (x.units * y.units) one

def div (x y : Binary64) : Option Binary64 :=
  nearest (x.negative != y.negative) (x.units * one) y.units

def neg (x : Binary64) : Binary64 := { x with negative := !x.negative }

def isWhole (x : Binary64) : Bool := x.units % one == 0

/-- The whole number a double is, if it is one. -/
def toInt? (x : Binary64) : Option Int :=
  if x.isWhole then
    some (if x.negative then -((x.units / one : Nat) : Int) else ((x.units / one : Nat) : Int))
  else none

/-- The double nearest to `digits * 10^exponent`, ties to even; none if it is out of range. -/
def ofDecimal (negative : Bool) (digits : Nat) (exponent : Int) : Option Binary64 :=
  let size : Int := (Nat.toDigits 10 digits).length
  if digits = 0 ∨ exponent + size < -400 then some (zero negative)
  else if 400 < exponent + size then none
  else if 0 ≤ exponent then nearest negative (digits * tenTo exponent.toNat * one) 1
  else nearest negative (digits * one) (tenTo (-exponent).toNat)

end Binary64

end Campus
