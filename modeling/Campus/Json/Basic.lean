import Campus.Keyed
import Campus.Number.Literal
import Campus.Number.Shortest

/-!
# JSON values

Values keep integers and doubles apart: `5` and `5.0` are different. The members of an object are a
keyed table, so an object built by `Json.ofMembers` has each key once, in increasing order.
-/

namespace Campus

/-- A number: an integer that fits a signed or an unsigned word of 64 bits, or a double. -/
inductive Number where
  | int (n : Int)
  | double (x : Binary64)
deriving DecidableEq

namespace Number

def text : Number → String
  | .int n => toString n
  | .double x => x.text

/-- The number as a signed 64-bit integer, if it is written as one. -/
def toInt64? : Number → Option Int
  | .int n => if IsInt64 n then some n else none
  | .double _ => none

end Number

/-- The number that a literal in the grammar of JSON means; none if it is out of range. A minus sign
before zero, or an integer beyond 64 bits, makes a double. -/
def DecimalLiteral.toNumber? (x : DecimalLiteral) : Option Number :=
  let n : Int := digitsValue x.whole
  if x.fraction.isEmpty && x.exponentDigits.isEmpty then
    if !x.negative && decide (n ≤ word64Max) then some (.int n)
    else if x.negative && decide (n ≠ 0 ∧ int64Min ≤ -n) then some (.int (-n))
    else x.toJsonDouble?.map .double
  else x.toJsonDouble?.map .double

inductive Json where
  | null
  | bool (b : Bool)
  | number (n : Number)
  | string (s : String)
  | array (items : List Json)
  | object (members : List (String × Json))

namespace Json

instance : Inhabited Json := ⟨.null⟩

def int (n : Int) : Json := .number (.int n)

/-- The object with these members; of members with one name the last counts. -/
def ofMembers (members : List (String × Json)) : Json := .object (Keyed.ofList members)

def strings (ss : List String) : Json := .array (ss.map .string)

def ofOption {α : Type} (encode : α → Json) : Option α → Json
  | some a => encode a
  | none => .null

/-! ## Views -/

def isNull : Json → Bool
  | .null => true
  | _ => false

def bool? : Json → Option Bool
  | .bool b => some b
  | _ => none

def string? : Json → Option String
  | .string s => some s
  | _ => none

def int64? : Json → Option Int
  | .number n => n.toInt64?
  | _ => none

def array? : Json → Option (List Json)
  | .array items => some items
  | _ => none

def object? : Json → Option (List (String × Json))
  | .object members => some members
  | _ => none

def get? (name : String) : Json → Option Json
  | .object members => Keyed.get? name members
  | _ => none

/-- What kind of value it is, in words. -/
def kind : Json → String
  | .null => "null"
  | .bool _ => "boolean"
  | .number _ => "number"
  | .string _ => "string"
  | .array _ => "list"
  | .object _ => "object"

/-! ## Canonical values -/

mutual

/-- Every object in the value has each key once, in increasing order. -/
def Canonical : Json → Prop
  | .array items => CanonicalItems items
  | .object members => Keyed.Sorted members ∧ CanonicalMembers members
  | _ => True

def CanonicalItems : List Json → Prop
  | [] => True
  | v :: rest => Canonical v ∧ CanonicalItems rest

def CanonicalMembers : List (String × Json) → Prop
  | [] => True
  | (_, v) :: rest => Canonical v ∧ CanonicalMembers rest

end

end Json

end Campus
