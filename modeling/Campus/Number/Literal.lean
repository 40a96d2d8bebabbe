import Campus.Number.Binary64

/-!
# Number literals

Splitting the text of a number into sign, digits and exponent, and the numbers that literals mean.
A decimal text means the nearest double. A JSON literal is read with less care: its leading digits,
as many as fit 64 bits, are rounded to a double, which is then scaled by a power of ten and rounded
again.
-/

namespace Campus

def isDigit (c : Char) : Bool := '0' ≤ c && c ≤ '9'

def digitValue (c : Char) : Nat := c.toNat - '0'.toNat

def digitsValue (cs : List Char) : Nat := cs.foldl (fun n c => 10 * n + digitValue c) 0

/-- Splits digits off the front of a text. -/
def spanDigits (cs : List Char) : List Char × List Char :=
  (cs.takeWhile isDigit, cs.dropWhile isDigit)

/-- Splits an optional sign off the front of a text; `true` for a minus. -/
def spanSign : List Char → Bool × List Char
  | '-' :: rest => (true, rest)
  | '+' :: rest => (false, rest)
  | rest => (false, rest)

def int64Min : Int := -9223372036854775808
def int64Max : Int := 9223372036854775807
def word64Max : Int := 18446744073709551615

def IsInt64 (n : Int) : Prop := int64Min ≤ n ∧ n ≤ int64Max

instance (n : Int) : Decidable (IsInt64 n) := inferInstanceAs (Decidable (_ ∧ _))

/-- A sign, if any, and one or more digits that write a 64-bit integer. -/
def readInt64? (cs : List Char) : Option Int :=
  let (negative, digits) := spanSign cs
  let n : Int := digitsValue digits
  let n := if negative then -n else n
  if !digits.isEmpty && digits.all isDigit && decide (IsInt64 n) then some n else none

/-- A decimal literal: digits before and after the point, and a power of ten. -/
structure DecimalLiteral where
  negative : Bool
  whole : List Char
  fraction : List Char
  /-- The exponent's sign and digits; no digits when there is no exponent. -/
  exponentNegative : Bool := false
  exponentDigits : List Char := []
deriving DecidableEq, Repr

/-- Splits `.` and the digits after it off the front of a text. -/
def spanFraction : List Char → Option (List Char) × List Char
  | '.' :: rest => (some (spanDigits rest).1, (spanDigits rest).2)
  | rest => (none, rest)

/-- Splits an exponent off the front of a text. An exponent needs a digit. -/
def spanExponent? : List Char → Option (Bool × List Char × List Char)
  | c :: rest =>
    if c = 'e' ∨ c = 'E' then
      let (negative, digits, after) := let (n, r) := spanSign rest; (n, spanDigits r)
      if digits.isEmpty then none else some (negative, digits, after)
    else some (false, [], c :: rest)
  | [] => some (false, [], [])

namespace DecimalLiteral

def exponent (x : DecimalLiteral) : Int :=
  let n : Int := digitsValue x.exponentDigits
  if x.exponentNegative then -n else n

/-- The double nearest to what the literal writes. -/
def toDouble? (x : DecimalLiteral) : Option Binary64 :=
  Binary64.ofDecimal x.negative (digitsValue (x.whole ++ x.fraction))
    (x.exponent - x.fraction.length)

/-- The text of a decimal: a sign, digits with an optional point, of which one side may be bare, and
an optional exponent. -/
def ofText? (cs : List Char) : Option DecimalLiteral := do
  let (negative, rest) := spanSign cs
  let (whole, rest) := spanDigits rest
  let (fraction, rest) := spanFraction rest
  guard !(whole ++ fraction.getD []).isEmpty
  let (exponentNegative, exponentDigits, rest) ← spanExponent? rest
  guard rest.isEmpty
  return { negative, whole, fraction := fraction.getD [], exponentNegative, exponentDigits }

/-- Appends digits to a number while it fits 64 bits; answers the number and the digits left. -/
def gather (n : Nat) : List Char → Nat × List Char
  | [] => (n, [])
  | c :: rest =>
    let next := 10 * n + digitValue c
    if (next : Int) ≤ word64Max then gather next rest else (n, c :: rest)

/-- Scales a double by a power of ten, in steps of at most 308 places. -/
def scale (x : Binary64) (exponent : Int) : Option Binary64 :=
  if exponent < -308 then
    if x.units = 0 then some x
    else do scale (← x.div (← Binary64.ofDecimal false 1 308)) (exponent + 308)
  else if exponent < 0 then do x.div (← Binary64.ofDecimal false 1 (-exponent))
  else if exponent ≤ 308 then do x.mul (← Binary64.ofDecimal false 1 exponent)
  else if x.units = 0 then some x
  else none
termination_by exponent.natAbs
decreasing_by omega

/-- The double that a JSON literal means; none if it is out of range. -/
def toJsonDouble? (x : DecimalLiteral) : Option Binary64 := do
  let (n, unread) := gather 0 x.whole
  let (n, unreadFraction) := gather n x.fraction
  let taken : Int := x.fraction.length - unreadFraction.length
  let magnitude ← scale (← Binary64.ofNat n) (x.exponent + unread.length - taken)
  return if x.negative then magnitude.neg else magnitude

/-- Reads a literal in the grammar of JSON off the front of a text. -/
def spanJson? (cs : List Char) : Option (DecimalLiteral × List Char) := do
  let (negative, rest) := match cs with
    | '-' :: rest => (true, rest)
    | rest => (false, rest)
  let (whole, rest) := spanDigits rest
  guard !whole.isEmpty
  guard (whole.head? != some '0' || whole.length == 1)
  let (fraction, rest) := spanFraction rest
  guard (fraction != some [])
  let (exponentNegative, exponentDigits, rest) ← spanExponent? rest
  return ({ negative, whole, fraction := fraction.getD [], exponentNegative, exponentDigits }, rest)

end DecimalLiteral

end Campus
