import Campus.Number.Literal

/-!
# Numeric hosts

Addresses of version 4, whose parts may be decimal, octal or hexadecimal, and of version 6, whose
groups may be shortened once by `::` and may end in an address of version 4.
-/

namespace Campus.Url

def isHexDigit (c : Char) : Bool :=
  isDigit c || ('a' ≤ c && c ≤ 'f') || ('A' ≤ c && c ≤ 'F')

def hexDigitValue (c : Char) : Nat :=
  if isDigit c then c.toNat - 48 else if 'a' ≤ c then c.toNat - 87 else c.toNat - 55

def digitsIn (base : Nat) (cs : List Char) : Nat :=
  cs.foldl (fun n c => base * n + hexDigitValue c) 0

/-- The number that one part of an address writes; it may exceed every address. -/
def addressPart? (cs : List Char) : Option Nat :=
  match cs with
  | [] => none
  | '0' :: 'x' :: rest | '0' :: 'X' :: rest =>
    if rest.all isHexDigit then some (digitsIn 16 rest) else none
  | '0' :: d :: rest =>
    if (d :: rest).all (fun c => '0' ≤ c && c ≤ '7') then some (digitsIn 8 (d :: rest)) else none
  | cs => if cs.all isDigit then some (digitsIn 10 cs) else none

/-- The parts of a dotted name, without an empty last one. -/
def dottedParts (cs : List Char) : List (List Char) :=
  let parts := cs.splitOn '.'
  match parts.getLast? with
  | some [] => parts.dropLast
  | _ => parts

/-- The last part of a name is a number, so the name has to be an address. -/
def endsInNumber (cs : List Char) : Bool :=
  match (dottedParts cs).getLast? with
  | some last => (!last.isEmpty && last.all isDigit) || (addressPart? last).isSome
  | none => false

/-- Reads an address of version 4. Every part but the last is a byte; the last fills the rest. -/
def ipv4? (cs : List Char) : Option Nat := do
  let parts := dottedParts cs
  guard (parts.length ≤ 4)
  let numbers ← parts.mapM addressPart?
  let last ← numbers.getLast?
  let bytes := numbers.dropLast
  let bits := 8 * (4 - bytes.length)
  guard (last < 1 <<< bits)
  guard (bytes.all (· ≤ 255))
  return (bytes.foldl (fun n b => 256 * n + b) 0) <<< bits + last

def isDecimalByte (cs : List Char) : Bool :=
  !cs.isEmpty && cs.all isDigit && (cs.length == 1 || cs.head? != some '0') && digitsIn 10 cs ≤ 255

def isDottedQuad (cs : List Char) : Bool :=
  let parts := cs.splitOn '.'
  parts.length == 4 && parts.all isDecimalByte

/-- The groups that follow `groups` groups make an address of eight; `short` if `::`, which counts
as one group, has been met. -/
def ipv6Groups (groups : Nat) (short : Bool) (cs : List Char) : Bool :=
  if cs.isEmpty then short || groups == 8
  else if 8 ≤ groups then false
  else if cs.head? = some ':' then !short && ipv6Groups (groups + 1) true (cs.drop 1)
  else
    let digits := (cs.take 4).takeWhile isHexDigit
    match cs.drop digits.length with
    | [] => ipv6Groups (groups + 1) short []
    | '.' :: _ =>
      !digits.isEmpty && groups ≤ 6 && isDottedQuad cs && (short || groups == 6)
    | ':' :: rest => !rest.isEmpty && ipv6Groups (groups + 1) short rest
    | _ => false
termination_by 9 - groups

/-- An address of version 6, without its brackets. -/
def isIpv6 (cs : List Char) : Bool :=
  match cs with
  | ':' :: ':' :: rest => ipv6Groups 1 true rest
  | ':' :: _ => false
  | cs => 2 ≤ cs.length && ipv6Groups 0 false cs

end Campus.Url
