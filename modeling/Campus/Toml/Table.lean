import Campus.Keyed
import Campus.Number.Binary64

/-!
# TOML values and how tables grow

A document names tables by headers and by dotted keys, in any order, but may say each thing once. A
table therefore remembers how it came about, which decides what may still be added to it.
-/

namespace Campus.Toml

inductive Origin where
  /-- A header names a table inside it. -/
  | implied
  /-- A dotted key leads through it. -/
  | dotted
  /-- It has a header of its own. -/
  | headed
  /-- It is written between braces. -/
  | inline
deriving DecidableEq, Repr

inductive Value where
  | string (s : String)
  | integer (n : Int)
  /-- A number; none if it is infinite or not a number. -/
  | double (x : Option Binary64)
  | boolean (b : Bool)
  | datetime (text : String)
  /-- An array. With `ofTables` its items are tables that headers add one by one. -/
  | array (ofTables : Bool) (items : List Value)
  | table (origin : Origin) (members : List (String × Value))

abbrev Members := List (String × Value)

namespace Members

/-- Puts a value under a key, in the place of what was there, or at the end. -/
def put (key : String) (v : Value) (ms : Members) : Members :=
  if Keyed.contains key ms then Keyed.modify key (fun _ => v) ms else ms ++ [(key, v)]

def changeLast? (change : Value → Option Value) : List Value → Option (List Value)
  | [] => none
  | [v] => (change v).map ([·])
  | v :: w :: rest => (changeLast? change (w :: rest)).map (v :: ·)

/-- Changes the members of a table that a path leads through. Dotted keys cannot reach into tables
that have a header, and nothing reaches into tables between braces. -/
def enter? (byDots : Bool) (change : Members → Option Members) : Value → Option Value
  | .table origin ms =>
    if origin = .inline ∨ (byDots ∧ origin = .headed) then none
    else (change ms).map (.table origin ·)
  | _ => none

/-- Changes the members at the end of a path, making the tables that are missing. In an array of
tables the path leads to the last one. -/
def changeAt? (byDots : Bool) (change : Members → Option Members) : List String → Members →
    Option Members
  | [], ms => change ms
  | key :: path, ms => do
    let inner := changeAt? byDots change path
    let v ←
      match Keyed.get? key ms with
      | none => (inner []).map (.table (if byDots then .dotted else .implied) ·)
      | some (.array true items) =>
        (changeLast? (enter? byDots inner) items).map (.array true ·)
      | some v => enter? byDots inner v
    return ms.put key v

/-- Adds a value that must be new. -/
def addNew? (key : String) (v : Value) (ms : Members) : Option Members :=
  if Keyed.contains key ms then none else some (ms ++ [(key, v)])

/-- The origin of the table at the end of a path. -/
def originAt? : List String → Members → Option Origin
  | [], _ => none
  | [key], ms =>
    match Keyed.get? key ms with
    | some (.table origin _) => some origin
    | _ => none
  | key :: path, ms =>
    match Keyed.get? key ms with
    | some (.table _ inner) => originAt? path inner
    | _ => none

/-- Adds the value of a dotted key. A table that a header implied takes no dotted keys. -/
def addDotted? (path : List String) (key : String) (v : Value) (ms : Members) : Option Members :=
  if originAt? path ms = some .implied then none else changeAt? true (addNew? key v) path ms

/-- Opens the table of a header. A table that other headers implied may get its own header once. -/
def openTable? (path : List String) (key : String) (ms : Members) : Option Members :=
  changeAt? false (fun ms =>
    match Keyed.get? key ms with
    | none => some (ms ++ [(key, .table .headed [])])
    | some (.table .implied inner) => some (ms.put key (.table .headed inner))
    | some _ => none) path ms

/-- Opens another table of an array. -/
def openItem? (path : List String) (key : String) (ms : Members) : Option Members :=
  changeAt? false (fun ms =>
    match Keyed.get? key ms with
    | none => some (ms ++ [(key, .array true [.table .headed []])])
    | some (.array true items) => some (ms.put key (.array true (items ++ [.table .headed []])))
    | some _ => none) path ms

end Members

end Campus.Toml
