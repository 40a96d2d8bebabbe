/-!
# Punycode

A label of ASCII that stands for one with other characters. Its part before the last hyphen is kept;
the rest is a list of numbers in base 36, each of which says which character to insert where,
counted on from the one before.
-/

namespace Campus.Punycode

/-- The value of a digit: `a` to `z`, then `0` to `9`. -/
def digit? (c : Char) : Option Nat :=
  if 'a' ≤ c && c ≤ 'z' then some (c.toNat - 97)
  else if '0' ≤ c && c ≤ '9' then some (c.toNat - 48 + 26)
  else none

/-- The first digit value that lets a number go on, at a place of the number. -/
def threshold (place bias : Nat) : Nat := max 1 (min 26 (place - bias))

/-- Divides a distance down while it is large, and answers the bias it asks for. -/
def biasOf (distance bias : Nat) : Nat :=
  if 455 < distance then biasOf (distance / 35) (bias + 36)
  else bias + 36 * distance / (distance + 38)
termination_by distance
decreasing_by omega

/-- The bias after an insertion, from the number read and the length reached. -/
def adapt (distance length : Nat) (first : Bool) : Nat :=
  let distance := if first then distance / 700 else distance / 2
  biasOf (distance + distance / length) 0

/-- What was decoded so far. -/
structure State where
  chars : List Char
  /-- The code point to insert next, at the least. -/
  code : Nat := 128
  /-- Where the next insertion is, at the least. -/
  position : Nat := 0
  bias : Nat := 72
  /-- The number that is being read: its value, the weight of its next digit, and the place. -/
  number : Nat := 0
  weight : Nat := 1
  place : Nat := 36

namespace State

/-- Inserts a character as the number says that was read. -/
def insert? (s : State) : Option State := do
  let length := s.chars.length + 1
  let target := s.position + s.number
  let code := s.code + target / length
  guard (code.isValidChar)
  let position := target % length
  return {
    chars := s.chars.take position ++ Char.ofNat code :: s.chars.drop position
    code
    position := position + 1
    bias := adapt s.number length (s.position == 0) }

/-- Reads one digit. Numbers and weights fit 32 bits. -/
def read? (s : State) (c : Char) : Option State := do
  let d ← digit? c
  let t := threshold s.place s.bias
  let s := { s with number := s.number + d * s.weight }
  guard (s.position + s.number < 0x100000000)
  if d < t then s.insert?
  else
    let weight := s.weight * (36 - t)
    guard (weight < 0x100000000)
    return { s with weight, place := s.place + 36 }

end State

/-- The characters before the last hyphen, and those after it. -/
def splitLast (cs : List Char) : List Char × List Char :=
  let tail := (cs.reverse.takeWhile (· != '-')).reverse
  (cs.take (cs.length - tail.length - 1), if tail.length + 1 = cs.length then cs else tail)

/-- The label that an encoded one stands for. -/
def decode? (cs : List Char) : Option (List Char) := do
  let (kept, digits) := splitLast cs
  let s ← digits.foldlM State.read? { chars := kept }
  guard (s.place = 36)
  return s.chars

end Campus.Punycode
