import Campus.Json.Shape
import Campus.Text.Quoted

/-!
# Reading records

A reader turns a JSON value into a value of the domain or says why it cannot. A record is read from
an object, whose unknown members do not count, or from an array of its members in order.
-/

namespace Campus

inductive ReadError where
  | missing (name : String)
  | wrongType (found : Json) (expected : String)
  | outOfRange (n : Int) (expected : String)
  | wrongLength (length : Nat) (expected : String)
  | unknownName (name : String)

namespace ReadError

/-- What was found, as error messages name it. -/
def describe : Json → String
  | .null => "null"
  | .bool true => "boolean `true`"
  | .bool false => "boolean `false`"
  | .number (.int n) => s!"integer `{n}`"
  | .number (.double x) => s!"floating point `{x.text}`"
  | .string s => s!"string {quoted s}"
  | .array _ => "sequence"
  | .object _ => "map"

def message : ReadError → String
  | .missing name => s!"missing field `{name}`"
  | .wrongType found expected => s!"invalid type: {describe found}, expected {expected}"
  | .outOfRange n expected => s!"invalid value: integer `{n}`, expected {expected}"
  | .wrongLength length expected => s!"invalid length {length}, expected {expected}"
  | .unknownName name => s!"unknown variant `{name}`"

end ReadError

/-- Reads values of a type; `shape` is what it looks at. -/
structure Reader (α : Type) where
  shape : Json.Shape := .whole
  read : Json → Except ReadError α

namespace Reader

variable {α β : Type}

def map (f : α → β) (r : Reader α) : Reader β := ⟨r.shape, fun v => (r.read v).map f⟩

/-- Reads the value that a text writes. -/
def ofText? (r : Reader α) (s : String) : Option α := do
  let v ← (← Json.Tree.ofText? s).keep? r.shape Json.maxLevels
  (r.read v).toOption

/-! ## Readers of plain values -/

def json : Reader Json where
  read v := .ok v

def string : Reader String where
  shape := .scalar
  read
    | .string s => .ok s
    | v => .error (.wrongType v "a string")

def bool : Reader Bool where
  shape := .scalar
  read
    | .bool b => .ok b
    | v => .error (.wrongType v "a boolean")

def integer (least greatest : Int) (expected : String) : Reader Int where
  shape := .scalar
  read
    | .number (.int n) =>
      if least ≤ n ∧ n ≤ greatest then .ok n else .error (.outOfRange n expected)
    | v => .error (.wrongType v expected)

def int64 : Reader Int := integer int64Min int64Max "i64"

def word64 : Reader Nat := (integer 0 word64Max "u64").map Int.toNat

def word32 : Reader Nat := (integer 0 4294967295 "u32").map Int.toNat

def option (r : Reader α) : Reader (Option α) where
  shape := r.shape
  read
    | .null => .ok none
    | v => (r.read v).map some

def list (r : Reader α) : Reader (List α) where
  shape := .list r.shape
  read
    | .array items => items.mapM r.read
    | v => .error (.wrongType v "a sequence")

def object : Reader (List (String × Json)) where
  read
    | .object members => .ok members
    | v => .error (.wrongType v "a map")

/-- Reads an object whose members all have one form. -/
def table (r : Reader α) : Reader (List (String × α)) where
  read
    | .object members => members.mapM fun (name, v) => (r.read v).map (name, ·)
    | v => .error (.wrongType v "a map")

/-- Reads one of some names, written as a string or as the only member of an object, with null. -/
def oneOf (names : List (String × α)) : Reader α where
  shape := .scalar
  read
    | .string s => find s
    | .object [(s, .null)] => find s
    | v => .error (.wrongType v "string or map")
where
  find (s : String) : Except ReadError α :=
    match Keyed.get? s names with
    | some a => .ok a
    | none => .error (.unknownName s)

end Reader

/-! ## Records -/

structure Source where
  /-- The members were given in order, as an array. -/
  isArray : Bool
  /-- The members given, by name. -/
  members : List (String × Json)

/-- Reads the members of a record one after the other. -/
structure Members (α : Type) where
  /-- The members, in order: what is kept of them and whether a value can be read at all. -/
  known : List (String × Json.Shape × (Json → Except ReadError Unit))
  read : Source → Except ReadError α

namespace Members

variable {α β : Type}

instance : Functor Members where
  map f m := ⟨m.known, fun s => (m.read s).map f⟩

instance : Seq Members where
  seq f m := ⟨f.known ++ (m ()).known, fun s => do return (← f.read s) (← (m ()).read s)⟩

instance : Pure Members where
  pure a := ⟨[], fun _ => .ok a⟩

/-- One member, with the values it has when an object or an array lacks it. -/
def member (name : String) (r : Reader α) (inObject inArray : Option α) : Members α where
  known := [(name, r.shape, fun v => (r.read v).map fun _ => ())]
  read s :=
    match Keyed.get? name s.members with
    | some v => r.read v
    | none =>
      match if s.isArray then inArray else inObject with
      | some a => .ok a
      | none => .error (.missing name)

def required (name : String) (r : Reader α) : Members α := member name r none none

def withDefault (name : String) (r : Reader α) (a : α) : Members α :=
  member name r (some a) (some a)

def optional (name : String) (r : Reader α) : Members (Option α) :=
  member name r.option (some none) (some none)

/-- A member that may be null, and absent from an object only. -/
def nullable (name : String) (r : Reader α) : Members (Option α) :=
  member name r.option (some none) none

end Members

namespace Reader

variable {α : Type}

/-- Reads all known members of an object, in the object's order, for the first that cannot be
read. -/
def checkMembers (known : List (String × Json.Shape × (Json → Except ReadError Unit))) :
    List (String × Json) → Except ReadError Unit
  | [] => .ok ()
  | (name, v) :: rest => do
    match Keyed.get? name known with
    | some (_, check) => check v
    | none => pure ()
    checkMembers known rest

/-- How many members a record has, in words. -/
def sizeText (name : String) (size : Nat) : String :=
  if size = 1 then s!"struct {name} with 1 element" else s!"struct {name} with {size} elements"

/-- Reads a record of some name. -/
def record (name : String) (m : Members α) : Reader α where
  shape := .record false (m.known.map fun (name, shape, _) => (name, shape))
  read
    | .object members => do
      checkMembers m.known members
      m.read ⟨false, members⟩
    | .array items =>
      match m.read ⟨true, (m.known.map (·.1)).zip items⟩ with
      | .error (.missing _) => .error (.wrongLength items.length (sizeText name m.known.length))
      | .error e => .error e
      | .ok a =>
        if items.length ≤ m.known.length then .ok a
        else .error (.wrongLength items.length "fewer elements in array")
    | v => .error (.wrongType v s!"struct {name}")

/-- Reads an object's known members and keeps its other members beside them. -/
def openRecord (m : Members (List (String × Json) → α)) : Reader α where
  shape := .record true (m.known.map fun (name, shape, _) => (name, shape))
  read
    | .object members => do
      let build ← m.read ⟨false, members⟩
      return build (members.filter fun (name, _) => !Keyed.contains name m.known)
    | v => .error (.wrongType v "a map")

end Reader

end Campus
