import Campus.Json.Tree

/-!
# Which parts of a text count

A shape says what a reader will look at. Members that a record does not know are dropped unread:
they may nest to any depth and hold numbers out of range. All that is kept nests at most 127 levels.
A name that a record knows may not repeat, nor any name where a plain value is expected; of names
repeated elsewhere the last counts.
-/

namespace Campus.Json

/-- What a reader keeps of a value. -/
inductive Shape where
  /-- All of it. -/
  | whole
  /-- A value that has no parts. -/
  | scalar
  /-- A list whose items have one shape. -/
  | list (item : Shape)
  /-- An object, or an array, of known members; an open record keeps unknown members too. -/
  | record (isOpen : Bool) (members : List (String × Shape))

/-- How many arrays and objects may enclose one another. -/
def maxLevels : Nat := 127

def Shape.item (index : Nat) : Shape → Shape
  | .list item => item
  | .record _ members => (members[index]?.map (·.2)).getD .whole
  | .whole => .whole
  | .scalar => .scalar

/-- An array under the shape has an item of this index that counts. -/
def Shape.hasItem (index : Nat) : Shape → Bool
  | .record _ members => index < members.length
  | _ => true

def Shape.member? (name : String) : Shape → Option Shape
  | .record isOpen members =>
    match Keyed.get? name members with
    | some shape => some shape
    | none => if isOpen then some .whole else none
  | _ => some .whole

/-- A member of this name may not repeat. -/
def Shape.knows (name : String) : Shape → Bool
  | .record _ members => Keyed.contains name members
  | .scalar => true
  | _ => false

mutual

/-- The value of a tree under a shape, at most `levels` deep. -/
def Tree.keep? (shape : Shape) (levels : Nat) : Tree → Option Json
  | .null => some .null
  | .bool b => some (.bool b)
  | .number x => x.toNumber?.map .number
  | .string s => s.map .string
  | .array items =>
    match levels with
    | 0 => none
    | levels + 1 => (keepItems? shape 0 levels items).map .array
  | .object members =>
    match levels with
    | 0 => none
    | levels + 1 => (keepMembers? shape [] levels members).map ofMembers

def Tree.keepItems? (shape : Shape) (index levels : Nat) : List Tree → Option (List Json)
  | [] => some []
  | t :: rest => do
    let v ← Tree.keep? (shape.item index) levels t
    return v :: (← Tree.keepItems? shape (index + 1) levels rest)

/-- Keeps members in the order written; `seen` holds the known names already met. -/
def Tree.keepMembers? (shape : Shape) (seen : List String) (levels : Nat) :
    List (StringLiteral × Tree) → Option (List (String × Json))
  | [] => some []
  | (name, t) :: rest => do
    let name ← name
    if shape.knows name && seen.contains name then none
    else
      match shape.member? name with
      | none => Tree.keepMembers? shape seen levels rest
      | some memberShape => do
        let v ← Tree.keep? memberShape levels t
        return (name, v) :: (← Tree.keepMembers? shape (name :: seen) levels rest)

end

def ofText? (s : String) : Option Json := do
  (← Tree.ofText? s).keep? .whole maxLevels

end Campus.Json
