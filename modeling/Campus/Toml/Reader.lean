import Campus.Json.Reader
import Campus.Toml.Document

/-!
# Records in TOML

The values of a document are read by the readers of JSON. A moment counts as an object with one
member, and a number that is not finite as null, where anything may stand. Items of an array beyond
the members of a record do not count.
-/

namespace Campus.Toml

/-- The name of the only member of the object that a moment counts as. -/
def datetimeKey : String := "$__toml_private_datetime"

mutual

def Value.keep? (shape : Json.Shape) : Value → Option Json
  | .string s => some (.string s)
  | .integer n => if int64Min ≤ n ∧ n ≤ word64Max then some (.int n) else none
  | .double (some x) => some (.number (.double x))
  | .double none =>
    match shape with
    | .whole => some .null
    | _ => none
  | .boolean b => some (.bool b)
  | .datetime text =>
    some <| .object <|
      match shape.member? datetimeKey with
      | some _ => [(datetimeKey, .string text)]
      | none => []
  | .array _ items => (keepItems? shape 0 items).map .array
  | .table _ members =>
    match shape, members with
    | .scalar, [(name, v)] => if isEmptyPart v then some (.object [(name, .null)]) else none
    | .scalar, _ => none
    | _, _ => (keepMembers? shape members).map .ofMembers

def keepItems? (shape : Json.Shape) (index : Nat) : List Value → Option (List Json)
  | [] => some []
  | v :: rest =>
    if shape.hasItem index then do
      let first ← Value.keep? (shape.item index) v
      return first :: (← keepItems? shape (index + 1) rest)
    else some []

def keepMembers? (shape : Json.Shape) : List (String × Value) → Option (List (String × Json))
  | [] => some []
  | (name, v) :: rest =>
    match shape.member? name with
    | none => keepMembers? shape rest
    | some memberShape => do
      let first ← Value.keep? memberShape v
      return (name, first) :: (← keepMembers? shape rest)

/-- An array or a table with nothing in it. -/
def isEmptyPart : Value → Bool
  | .array _ [] | .table _ [] => true
  | _ => false

end

end Campus.Toml

namespace Campus.Reader

/-- Reads the record that a document in TOML writes. -/
def ofToml? {α : Type} (r : Reader α) (s : String) : Option α := do
  let members ← Toml.ofText? s
  let v ← (Toml.Value.table .headed members).keep? r.shape
  (r.read v).toOption

end Campus.Reader
