import Campus.Text.Composition
import Campus.Text.Direction
import Campus.Text.Joining
import Campus.Text.Punycode
import Campus.Text.Utf8
import Campus.Url.Address
import Campus.Url.Mapping

/-!
# Domain names

A host of a web address is percent-decoded, and its characters are mapped to what they stand for. Of
each label that encodes other characters the name holds the decoded form.
-/

namespace Campus.Url

/-- Replaces each `%` and two hexadecimal digits by the byte they name. -/
def percentDecode : List UInt8 → List UInt8
  | 37 :: a :: b :: rest =>
    let (h, l) := (Char.ofNat a.toNat, Char.ofNat b.toNat)
    if isHexDigit h && isHexDigit l then
      UInt8.ofNat (16 * hexDigitValue h + hexDigitValue l) :: percentDecode rest
    else 37 :: percentDecode (a :: b :: rest)
  | b :: rest => b :: percentDecode rest
  | [] => []

/-- A character of ASCII that no domain name may hold. -/
def isForbidden (c : Char) : Bool :=
  c.toNat ≤ 0x20 || c.toNat == 0x7F || "%#/:<>?@[\\]^|".toList.contains c

/-! ## Labels -/

/-- The label that a label stands for: a mark and an encoded label, which has to hold characters
beyond ASCII, stand for the decoded one. -/
def decodedLabel? (label : List Char) : Option (List Char) :=
  match label with
  | 'x' :: 'n' :: '-' :: '-' :: encoded => do
    guard (label.all (·.toNat < 0x80) && encoded.getLast?.any (· != '-'))
    let cs ← Punycode.decode? encoded
    guard (cs.all isNameChar && compose cs == cs && !cs.any isForbidden)
    return cs
  | _ => some label

/-- The joiners in the rest of a label, which follows characters read backwards, are where they
change how the letters around them are joined. -/
def joinersFit (before : List Char) : List Char → Bool
  | [] => true
  | c :: rest =>
    let joined := before.head?.any (combiningClass · == 9)
    let fits :=
      if c == '\u200c' then joined || joinsAcross before rest
      else if c == '\u200d' then joined
      else true
    fits && joinersFit (c :: before) rest

/-- The label does not start with a mark and its joiners are in their places. -/
def isLabel (label : List Char) : Bool := !label.head?.any isMark && joinersFit [] label

/-! ## Names -/

/-- The name that a text writes; none if it is not one. -/
def domain? (cs : List Char) : Option (List Char) := do
  let name := compose (← cs.mapM mapChar?).flatten
  guard (!name.any isForbidden)
  let labels ← (name.splitOn '.').mapM decodedLabel?
  guard (labels.all isLabel)
  guard (!labels.any (·.any isRightward) || labels.all isOrdered)
  return ['.'].intercalate labels

end Campus.Url
