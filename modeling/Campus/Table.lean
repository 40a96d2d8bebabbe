import Campus.Keyed

/-!
# Tables that issue ids

A table holds records in the order of their ids and counts the ids it has issued, so that an id is
never issued twice.
-/

namespace Campus

structure Table (α : Type) where
  /-- How many ids were issued; the last one, too. -/
  issued : Nat := 0
  rows : List (Int × α) := []
  sorted : Keyed.Sorted rows := by exact Keyed.sorted_nil

namespace Table

variable {α β : Type}

def empty : Table α := {}

def nextId (t : Table α) : Int := t.issued + 1

/-- Issues an id that no record will have. -/
def skip (t : Table α) : Table α := { t with issued := t.issued + 1 }

/-- Puts a record under an id. -/
def put (id : Int) (record : α) (t : Table α) : Table α :=
  { t with
    rows := Keyed.insert id record t.rows
    sorted := Keyed.sorted_insert id record t.sorted }

/-- Adds a record that is made for the next id. -/
def add (make : Int → α) (t : Table α) : α × Table α :=
  (make t.nextId, t.skip.put t.nextId (make t.nextId))

def get? (id : Int) (t : Table α) : Option α := Keyed.get? id t.rows

def contains (id : Int) (t : Table α) : Bool := (t.get? id).isSome

def modify (id : Int) (change : α → α) (t : Table α) : Table α :=
  { t with
    rows := Keyed.modify id change t.rows
    sorted := Keyed.sorted_modify id change t.sorted }

/-- Changes every record, knowing its id. -/
def mapRows (change : Int → α → β) (t : Table α) : Table β where
  issued := t.issued
  rows := Keyed.mapValues change t.rows
  sorted := Keyed.sorted_mapValues change t.sorted

def erase (id : Int) (t : Table α) : Table α :=
  { t with
    rows := Keyed.erase id t.rows
    sorted := Keyed.sorted_erase id t.sorted }

def records (t : Table α) : List α := Keyed.values t.rows

def size (t : Table α) : Nat := t.rows.length

/-- The record of the least id with a property. -/
def find? (p : α → Bool) (t : Table α) : Option α := t.records.find? p

/-! ## Look-up after a change -/

@[simp] theorem get?_put_self (id : Int) (record : α) (t : Table α) :
    (t.put id record).get? id = some record :=
  Keyed.get?_insert_self id record t.rows

theorem get?_put_of_ne {id other : Int} (h : id ≠ other) (record : α) (t : Table α) :
    (t.put id record).get? other = t.get? other :=
  Keyed.get?_insert_of_ne h record t.rows

@[simp] theorem get?_add_self (make : Int → α) (t : Table α) :
    (t.add make).2.get? t.nextId = some (t.add make).1 :=
  get?_put_self t.nextId (make t.nextId) t.skip

@[simp] theorem get?_erase_self (id : Int) (t : Table α) : (t.erase id).get? id = none :=
  Keyed.get?_erase_self id t.rows

theorem get?_erase_of_ne {id other : Int} (h : id ≠ other) (t : Table α) :
    (t.erase id).get? other = t.get? other :=
  Keyed.get?_erase_of_ne h t.rows

@[simp] theorem get?_mapRows (change : Int → α → β) (id : Int) (t : Table α) :
    (t.mapRows change).get? id = (t.get? id).map (change id) :=
  Keyed.get?_mapValues change id t.rows

theorem get?_eq_some_iff {id : Int} {record : α} {t : Table α} :
    t.get? id = some record ↔ (id, record) ∈ t.rows :=
  Keyed.get?_eq_some_iff t.sorted

theorem put_eq_mapRows {id : Int} {old : α} (change : α → α) {t : Table α}
    (h : t.get? id = some old) :
    t.put id (change old) = t.mapRows fun k r => if k = id then change r else r := by
  simp only [put, mapRows, Keyed.insert_eq_modify change t.sorted h]
  rfl

theorem mapRows_mapRows {γ : Type} (first : Int → α → β) (second : Int → β → γ) (t : Table α) :
    (t.mapRows first).mapRows second = t.mapRows fun id r => second id (first id r) := by
  simp [mapRows, Keyed.mapValues]

end Table

end Campus
