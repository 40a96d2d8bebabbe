import Campus.Table

/-!
# Tables that grow

What is said of all records of a table is kept by a write if it holds of the record written. In a
sound table every record is under its own id, one of those issued, so the next id is always new.
-/

namespace Campus

namespace Table

variable {α β : Type} {t u : Table α} {id : Int} {record : α}

/-! ## Looking up -/

theorem get?_put (id : Int) (record : α) (t : Table α) (key : Int) :
    (t.put id record).get? key = if id = key then some record else t.get? key := by
  split
  · next h => subst h; exact get?_put_self id record t
  · next h => exact get?_put_of_ne h record t

theorem get?_modify (id : Int) (change : α → α) (t : Table α) (key : Int) :
    (t.modify id change).get? key = (t.get? key).map fun r => if key = id then change r else r :=
  Keyed.get?_mapValues (fun k r => if k = id then change r else r) key t.rows

theorem modify_eq_self {change : α → α}
    (h : ∀ record, t.get? id = some record → change record = record) :
    t.modify id change = t := by
  have hrows : Keyed.modify id change t.rows = t.rows := by
    refine (List.map_congr_left fun row hrow => ?_).trans (List.map_id' t.rows)
    show (row.1, if row.1 = id then change row.2 else row.2) = row
    split
    · next hid => rw [h row.2 (get?_eq_some_iff.2 (hid ▸ hrow))]
    · rfl
  cases t
  simp only [modify, mk.injEq, true_and]
  exact hrows

theorem modify_id (key : Int) (t : Table α) : t.modify key (fun r => r) = t :=
  modify_eq_self fun _ _ => rfl

theorem contains_iff : t.contains id = true ↔ ∃ record, t.get? id = some record :=
  Option.isSome_iff_exists

theorem contains_of_get? (h : t.get? id = some record) : t.contains id = true :=
  contains_iff.2 ⟨record, h⟩

theorem contains_add (make : Int → α) (t : Table α) (key : Int) :
    (t.add make).2.contains key = (decide (t.nextId = key) || t.contains key) := by
  unfold contains add
  rw [get?_put]
  by_cases hkey : t.nextId = key
  · simp [hkey]
  · simp only [hkey, if_false, decide_false, Bool.false_or]
    rfl

/-! ## What all records have -/

/-- All records have a property, which may speak of their ids. -/
def Every (P : Int → α → Prop) (t : Table α) : Prop :=
  ∀ id record, t.get? id = some record → P id record

section Every

variable {P Q : Int → α → Prop}

theorem every_empty : ({} : Table α).Every P := nofun

theorem Every.imp (h : t.Every P) (hPQ : ∀ id record, P id record → Q id record) : t.Every Q :=
  fun id record hget => hPQ id record (h id record hget)

theorem Every.put (h : t.Every P) (hrecord : P id record) : (t.put id record).Every P := by
  intro key found hget
  rw [get?_put] at hget
  split at hget
  · next hkey => cases hget; exact hkey ▸ hrecord
  · exact h key found hget

theorem Every.add {make : Int → α} (h : t.Every P) (hmake : P t.nextId (make t.nextId)) :
    (t.add make).2.Every P :=
  Every.put (t := t.skip) h hmake

theorem Every.modify {change : α → α} (h : t.Every P)
    (hchange : ∀ record, P id record → P id (change record)) : (t.modify id change).Every P := by
  intro key found hget
  rw [get?_modify] at hget
  obtain ⟨old, hold, rfl⟩ := Option.map_eq_some_iff.1 hget
  split
  · next hkey => subst hkey; exact hchange old (h key old hold)
  · exact h key old hold

theorem Every.mapRows {change : Int → α → α} (h : t.Every P)
    (hchange : ∀ id record, P id record → P id (change id record)) :
    (t.mapRows change).Every P := by
  intro key found hget
  rw [get?_mapRows] at hget
  obtain ⟨old, hold, rfl⟩ := Option.map_eq_some_iff.1 hget
  exact hchange key old (h key old hold)

theorem Every.erase (h : t.Every P) (id : Int) : (t.erase id).Every P := by
  intro key found hget
  by_cases hkey : id = key
  · rw [← hkey, get?_erase_self] at hget
    cases hget
  · rw [get?_erase_of_ne hkey] at hget
    exact h key found hget

end Every

/-! ## Tables that only grow -/

/-- The other table has records under all the ids of this one. -/
def Within (t u : Table α) : Prop := ∀ id, t.contains id = true → u.contains id = true

theorem Within.refl (t : Table α) : t.Within t := fun _ h => h

theorem within_put (id : Int) (record : α) (t : Table α) : t.Within (t.put id record) := by
  intro key h
  obtain ⟨found, hget⟩ := contains_iff.1 h
  refine contains_iff.2 ?_
  rw [get?_put]
  split
  · exact ⟨record, rfl⟩
  · exact ⟨found, hget⟩

theorem within_add (make : Int → α) (t : Table α) : t.Within (t.add make).2 :=
  within_put t.nextId (make t.nextId) t.skip

theorem within_modify (id : Int) (change : α → α) (t : Table α) :
    t.Within (t.modify id change) := by
  intro key h
  obtain ⟨found, hget⟩ := contains_iff.1 h
  exact contains_iff.2 ⟨_, by rw [get?_modify, hget, Option.map_some]⟩

/-! ## Sound tables -/

/-- Records are stored under their own ids, which are distinct and were issued, so that the next id
is new. -/
structure Sound (idOf : α → Int) (t : Table α) : Prop where
  own : t.Every fun id record => idOf record = id
  range : t.Every fun id _ => 1 ≤ id ∧ id ≤ t.issued
  distinct : (t.records.map idOf).Nodup
  fresh : t.contains t.nextId = false

section Sound

variable {idOf : α → Int}

theorem sound_of_own_of_range (hown : t.Every fun id record => idOf record = id)
    (hrange : t.Every fun id _ => 1 ≤ id ∧ id ≤ t.issued) : t.Sound idOf where
  own := hown
  range := hrange
  distinct := by
    have hkeys : t.records.map idOf = t.rows.map (·.1) := by
      rw [records, Keyed.values, List.map_map]
      exact List.map_congr_left fun row hrow => hown row.1 row.2 (get?_eq_some_iff.2 hrow)
    -- Rows are kept in the order of their keys, which therefore differ.
    rw [hkeys]
    exact List.pairwise_map.2 (t.sorted.imp fun hlt => Int.ne_of_lt hlt)
  fresh := by
    rw [← Bool.not_eq_true]
    intro h
    obtain ⟨record, hget⟩ := contains_iff.1 h
    have hle := (hrange _ record hget).2
    simp only [nextId] at hle
    omega

theorem sound_empty : ({} : Table α).Sound idOf := sound_of_own_of_range every_empty every_empty

theorem Sound.skip (h : t.Sound idOf) : t.skip.Sound idOf := by
  refine sound_of_own_of_range h.own (Every.imp (t := t) h.range fun id _ hid => ?_)
  obtain ⟨hone, hissued⟩ := hid
  refine ⟨hone, ?_⟩
  simp only [Table.skip]
  omega

theorem Sound.put (h : t.Sound idOf) (hown : idOf record = id) (hrange : 1 ≤ id ∧ id ≤ t.issued) :
    (t.put id record).Sound idOf :=
  sound_of_own_of_range (h.own.put hown) (Every.put (P := fun id _ => 1 ≤ id ∧ id ≤ t.issued)
    h.range hrange)

theorem Sound.add {make : Int → α} (h : t.Sound idOf)
    (hmake : idOf (make t.nextId) = t.nextId) : (t.add make).2.Sound idOf := by
  refine h.skip.put hmake ?_
  simp only [nextId, Table.skip]
  omega

theorem Sound.replace (h : t.Sound idOf) (hid : t.contains id = true) (hown : idOf record = id) :
    (t.put id record).Sound idOf := by
  obtain ⟨old, hget⟩ := contains_iff.1 hid
  exact h.put hown (h.range id old hget)

theorem Sound.modify {change : α → α} (h : t.Sound idOf)
    (hchange : ∀ record, idOf (change record) = idOf record) : (t.modify id change).Sound idOf :=
  sound_of_own_of_range (h.own.modify fun record hown => (hchange record).trans hown)
    (Every.modify (P := fun id _ => 1 ≤ id ∧ id ≤ t.issued) h.range fun _ hrange => hrange)

theorem Sound.mapRows {change : Int → α → α} (h : t.Sound idOf)
    (hchange : ∀ id record, idOf (change id record) = idOf record) :
    (t.mapRows change).Sound idOf :=
  sound_of_own_of_range (h.own.mapRows fun id record hown => (hchange id record).trans hown)
    (Every.mapRows (P := fun id _ => 1 ≤ id ∧ id ≤ t.issued) h.range fun _ _ hrange => hrange)

theorem Sound.erase (h : t.Sound idOf) (id : Int) : (t.erase id).Sound idOf :=
  sound_of_own_of_range (h.own.erase id)
    (Every.erase (P := fun id _ => 1 ≤ id ∧ id ≤ t.issued) h.range id)

theorem Sound.get?_add {make : Int → α} (h : t.Sound idOf) (hget : t.get? id = some record) :
    (t.add make).2.get? id = some record := by
  have hne : t.nextId ≠ id := by
    rintro rfl
    exact absurd (contains_of_get? hget) (by simp [h.fresh])
  exact (get?_put_of_ne hne _ t.skip).trans hget

theorem Sound.lt_nextId (h : t.Sound idOf) (hid : t.contains id = true)
    (hissued : t.issued ≤ u.issued) : id < u.nextId := by
  obtain ⟨record, hget⟩ := contains_iff.1 hid
  have hle := (h.range id record hget).2
  simp only [nextId]
  omega

end Sound

end Table

end Campus
