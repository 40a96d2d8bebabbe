import Campus.Number.Binary64

/-!
# The shortest text of a double

Of all decimals that read back as a double, the ones with the fewest digits are taken, and of these
the nearest to it. Candidates lie on decimal grids of 1, 2, ... 17 digits; on each grid only the two
neighbours of the double can be the nearest.
-/

namespace Campus

/-- How a decimal is written: which exponents are written positionally. -/
structure DecimalLayout where
  leastPositional : Int
  greatestPositional : Int

/-- Numbers from 10^-5 below 10^16 are positional; others have a signed exponent. -/
def DecimalLayout.json : DecimalLayout := ⟨-5, 15⟩

namespace Binary64

/-- The number `units * 2^-1074` stands between `10^e` and `10^(e+1)`; units are not zero. -/
def decimalExponent (units : Nat) : Int :=
  ((Nat.toDigits 10 (units * tenTo 400 / one)).length : Int) - 401

/-- Twice the unit in the last place below and above a double, in half units. -/
def halfGaps (units : Nat) : Nat × Nat :=
  let shift := bitShift units
  let step := 1 <<< shift
  -- Below a power of two the doubles are twice as dense.
  if units = step <<< 52 ∧ 0 < shift then (step / 2, step) else (step, step)

/-- The decimal `digits * 10^exponent` reads back as the double of these units. -/
def readsBack (units digits : Nat) (exponent : Int) : Bool :=
  let (below, above) := halfGaps units
  let even := (units >>> bitShift units) % 2 == 0
  -- Both sides in half units, cleared of the decimal denominator.
  let num := if 0 ≤ exponent then 2 * one * digits * tenTo exponent.toNat else 2 * one * digits
  let den := if 0 ≤ exponent then 1 else tenTo (-exponent).toNat
  let low := (2 * units - below) * den
  let high := (2 * units + above) * den
  if even then low ≤ num && num ≤ high else low < num && num < high

/-- The double, in steps of `10^exponent`: whole steps, and twice the rest against the step. -/
def stepsAt (units : Nat) (exponent : Int) : Nat × Ordering :=
  let num := if 0 ≤ exponent then units else units * tenTo (-exponent).toNat
  let den := if 0 ≤ exponent then one * tenTo exponent.toNat else one
  (num / den, compare (2 * (num % den)) den)

/-- The nearest decimal on the grid of `10^exponent` that reads back, if there is one. -/
def onGrid (units : Nat) (exponent : Int) : Option Nat :=
  let (floor, half) := stepsAt units exponent
  let down := readsBack units floor exponent
  let up := readsBack units (floor + 1) exponent
  match down, up with
  | true, true =>
    match half with
    | .lt => some floor
    | .gt => some (floor + 1)
    | .eq => some (if floor % 2 = 0 then floor else floor + 1)
  | true, false => some floor
  | false, true => some (floor + 1)
  | false, false => none

/-- Tries grids of ever more digits; the last one always answers. -/
def firstGrid (units : Nat) (exponent : Int) : Nat → Nat × Int
  | 0 => ((stepsAt units exponent).1, exponent)
  | more + 1 =>
    match onGrid units exponent with
    | some digits => (digits, exponent)
    | none => firstGrid units (exponent - 1) more

/-- Digits and exponent of the shortest decimal of a double that is not zero. -/
def shortest (units : Nat) : Nat × Int := firstGrid units (decimalExponent units) 17

end Binary64

/-- Drops trailing zeros of the digits, of which one remains. -/
def significantDigits (digits : Nat) : List Char :=
  let cs := ((Nat.toDigits 10 digits).reverse.dropWhile (· == '0')).reverse
  if cs.isEmpty then ['0'] else cs

/-- Writes significant digits whose first one stands for `10^exponent`. -/
def DecimalLayout.write (layout : DecimalLayout) (digits : List Char) (exponent : Int) : String :=
  if layout.leastPositional ≤ exponent ∧ exponent ≤ layout.greatestPositional then
    if exponent < 0 then
      String.ofList ("0.".toList ++ List.replicate ((-exponent).toNat - 1) '0' ++ digits)
    else
      let whole := exponent.toNat + 1
      let integer := digits.take whole ++ List.replicate (whole - digits.length) '0'
      let fraction := digits.drop whole
      String.ofList (integer ++ '.' :: (if fraction.isEmpty then ['0'] else fraction))
  else
    let mantissa := match digits with
      | [] => []
      | [d] => [d]
      | d :: rest => d :: '.' :: rest
    let sign := if exponent < 0 then '-' else '+'
    String.ofList (mantissa ++ 'e' :: sign :: (toString exponent.natAbs).toList)

/-- The text of a double: the shortest digits that read back, in the layout of JSON. -/
def Binary64.text (x : Binary64) : String :=
  let body :=
    if x.units = 0 then "0.0"
    else
      let (digits, exponent) := shortest x.units
      let width : Int := (Nat.toDigits 10 digits).length
      DecimalLayout.json.write (significantDigits digits) (exponent + width - 1)
  if x.negative then "-" ++ body else body

end Campus
