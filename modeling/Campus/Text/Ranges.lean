/-!
# Ranges of characters

Sets of code points and numbers that go with them, written as words in increasing order: `a-b` is a
range in hexadecimal, `a` a single code point, and `a-b=x,y` a range with numbers.
-/

namespace Campus

abbrev CodeRange := Nat × Nat

def hexNumber (cs : List Char) : Nat :=
  cs.foldl (fun n c => 16 * n + (if c.isDigit then c.toNat - 48 else c.toNat - 87)) 0

/-- The range that `a-b` or `a` writes. -/
def CodeRange.ofWord (word : List Char) : CodeRange :=
  match word.splitOn '-' with
  | [a, b] => (hexNumber a, hexNumber b)
  | _ => (hexNumber word, hexNumber word)

def wordsOfLines (lines : List String) : List (List Char) :=
  lines.flatMap fun line => line.toList.splitOn ' '

def CodeRange.ofLines (lines : List String) : Array CodeRange :=
  ((wordsOfLines lines).map CodeRange.ofWord).toArray

/-- Looks for the range of a code point between two places of an ordered array. -/
def rangeIndex? (ranges : Array CodeRange) (n : Nat) (low high : Nat) : Option Nat :=
  if low < high then
    let middle := (low + high) / 2
    match ranges[middle]? with
    | some (a, b) =>
      if n < a then rangeIndex? ranges n low middle
      else if b < n then rangeIndex? ranges n (middle + 1) high
      else some middle
    | none => none
  else none
termination_by high - low

def inRanges (ranges : Array CodeRange) (c : Char) : Bool :=
  (rangeIndex? ranges c.toNat 0 ranges.size).isSome

/-- Ranges of code points, each with some numbers. -/
structure RangeTable where
  ranges : Array CodeRange
  numbers : Array (List Nat)

namespace RangeTable

/-- The numbers behind the equals sign of a word, if there is one. -/
def numbersOfWord (word : List Char) : List Nat :=
  match word.splitOn '=' with
  | [_, numbers] => (numbers.splitOn ',').map hexNumber
  | _ => []

def ofLines (lines : List String) : RangeTable where
  ranges := ((wordsOfLines lines).map fun w => CodeRange.ofWord (w.takeWhile (· != '='))).toArray
  numbers := ((wordsOfLines lines).map numbersOfWord).toArray

/-- The first code point of the range that holds a character, and the range's numbers. -/
def get? (t : RangeTable) (c : Char) : Option (Nat × List Nat) := do
  let i ← rangeIndex? t.ranges c.toNat 0 t.ranges.size
  return ((← t.ranges[i]?).1, ← t.numbers[i]?)

end RangeTable

end Campus
