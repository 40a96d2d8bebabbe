/-!
# Keyed tables

A table is a list of entries in increasing order of their keys. Inserting keeps the order and
replaces an entry of the same key, so a table built by insertion has each key once.
-/

namespace Campus

/-- Entries in increasing key order. -/
abbrev Keyed (κ α : Type) := List (κ × α)

namespace Keyed

variable {κ α : Type}

/-- The value stored under a key; the first one, should a key repeat. -/
def get? [DecidableEq κ] (key : κ) : List (κ × α) → Option α
  | [] => none
  | (k, v) :: rest => if k = key then some v else get? key rest

def contains [DecidableEq κ] (key : κ) (table : List (κ × α)) : Bool :=
  (get? key table).isSome

/-- Puts a value under a key, replacing what the key held. -/
def insert [LT κ] [DecidableLT κ] [DecidableEq κ] (key : κ) (value : α) :
    List (κ × α) → List (κ × α)
  | [] => [(key, value)]
  | (k, v) :: rest =>
    if key < k then (key, value) :: (k, v) :: rest
    else if key = k then (key, value) :: rest
    else (k, v) :: insert key value rest

def erase [DecidableEq κ] (key : κ) (table : List (κ × α)) : List (κ × α) :=
  table.filter (·.1 ≠ key)

/-- Changes every value, knowing its key. -/
def mapValues {β : Type} (change : κ → α → β) (table : List (κ × α)) : List (κ × β) :=
  table.map fun (k, v) => (k, change k v)

/-- Changes the value under a key, if there is one. -/
def modify [DecidableEq κ] (key : κ) (change : α → α) (table : List (κ × α)) : List (κ × α) :=
  mapValues (fun k v => if k = key then change v else v) table

/-- The table of some entries; of entries with one key the last counts. -/
def ofList [LT κ] [DecidableLT κ] [DecidableEq κ] (entries : List (κ × α)) : List (κ × α) :=
  entries.foldl (fun table entry => insert entry.1 entry.2 table) []

def keys (table : List (κ × α)) : List κ := table.map (·.1)

def values (table : List (κ × α)) : List α := table.map (·.2)

/-- The keys increase strictly. -/
def Sorted [LT κ] (table : List (κ × α)) : Prop :=
  table.Pairwise fun a b => a.1 < b.1

instance [LT κ] [DecidableLT κ] (table : List (κ × α)) : Decidable (Sorted table) :=
  inferInstanceAs (Decidable (table.Pairwise fun a b => a.1 < b.1))

/-! ## Look-up after a change -/

section Laws

variable [DecidableEq κ]

@[simp] theorem get?_nil (key : κ) : get? key ([] : List (κ × α)) = none := rfl

theorem get?_cons (key k : κ) (v : α) (rest : List (κ × α)) :
    get? key ((k, v) :: rest) = if k = key then some v else get? key rest := rfl

theorem get?_insert_self [LT κ] [DecidableLT κ] (key : κ) (value : α) (table : List (κ × α)) :
    get? key (insert key value table) = some value := by
  induction table with
  | nil => simp [insert, get?]
  | cons entry rest ih =>
    obtain ⟨k, v⟩ := entry
    simp only [insert]
    split
    · simp [get?]
    · split
      · simp [get?]
      · next h => simp [get?, Ne.symm h, ih]

theorem get?_insert_of_ne [LT κ] [DecidableLT κ] {key other : κ} (h : key ≠ other) (value : α)
    (table : List (κ × α)) : get? other (insert key value table) = get? other table := by
  induction table with
  | nil => simp [insert, get?, h]
  | cons entry rest ih =>
    obtain ⟨k, v⟩ := entry
    simp only [insert]
    split
    · simp [get?, h]
    · split
      · next h' => subst h'; simp [get?, h]
      · simp [get?, ih]

theorem get?_erase_self (key : κ) (table : List (κ × α)) : get? key (erase key table) = none := by
  induction table with
  | nil => rfl
  | cons entry rest ih =>
    obtain ⟨k, v⟩ := entry
    by_cases h : k = key
    · simpa [erase, h] using ih
    · simpa [erase, h, get?] using ih

theorem get?_erase_of_ne {key other : κ} (h : key ≠ other) (table : List (κ × α)) :
    get? other (erase key table) = get? other table := by
  induction table with
  | nil => rfl
  | cons entry rest ih =>
    obtain ⟨k, v⟩ := entry
    by_cases h' : k = key
    · subst h'; simpa [erase, get?, h] using ih
    · have step : erase key ((k, v) :: rest) = (k, v) :: erase key rest := by simp [erase, h']
      rw [step, get?_cons, get?_cons, ih]

theorem get?_mapValues {β : Type} (change : κ → α → β) (key : κ) (table : List (κ × α)) :
    get? key (mapValues change table) = (get? key table).map (change key) := by
  induction table with
  | nil => rfl
  | cons entry rest ih =>
    obtain ⟨k, v⟩ := entry
    by_cases h : k = key
    · subst h; simp [mapValues, get?]
    · simpa [mapValues, get?, h] using ih

theorem mem_of_get? {key : κ} {value : α} {table : List (κ × α)}
    (h : get? key table = some value) : (key, value) ∈ table := by
  induction table with
  | nil => simp at h
  | cons entry rest ih =>
    obtain ⟨k, v⟩ := entry
    rw [get?_cons] at h
    split at h
    · next hk => cases h; simp [hk]
    · exact List.mem_cons_of_mem _ (ih h)

theorem contains_iff_mem_keys {key : κ} {table : List (κ × α)} :
    contains key table = true ↔ key ∈ keys table := by
  induction table with
  | nil => simp [contains, keys]
  | cons entry rest ih =>
    obtain ⟨k, v⟩ := entry
    by_cases h : k = key
    · simp [contains, keys, get?, h]
    · simpa [contains, keys, get?, h, Ne.symm h] using ih

end Laws

/-! ## Sorted tables -/

section Sorted

variable [LT κ]

theorem sorted_nil : Sorted ([] : List (κ × α)) := List.Pairwise.nil

theorem sorted_mapValues {β : Type} (change : κ → α → β) {table : List (κ × α)}
    (h : Sorted table) : Sorted (mapValues change table) :=
  List.pairwise_map.2 h

theorem sorted_modify [DecidableEq κ] (key : κ) (change : α → α) {table : List (κ × α)}
    (h : Sorted table) : Sorted (modify key change table) :=
  sorted_mapValues _ h

theorem sorted_erase [DecidableEq κ] (key : κ) {table : List (κ × α)} (h : Sorted table) :
    Sorted (erase key table) :=
  List.Pairwise.filter _ h

variable [DecidableEq κ] [DecidableLT κ]

theorem mem_insert {key : κ} {value : α} {entry : κ × α} {table : List (κ × α)}
    (h : entry ∈ insert key value table) : entry = (key, value) ∨ entry ∈ table := by
  induction table with
  | nil => simpa [insert] using h
  | cons first rest ih =>
    obtain ⟨k, v⟩ := first
    simp only [insert] at h
    split at h
    · simpa using h
    · split at h
      · rcases List.mem_cons.1 h with h | h
        · exact .inl h
        · exact .inr (List.mem_cons_of_mem _ h)
      · rcases List.mem_cons.1 h with h | h
        · exact .inr (by simp [h])
        · exact (ih h).imp_right (List.mem_cons_of_mem _)

variable [Trans (α := κ) (· < ·) (· < ·) (· < ·)] [Std.Trichotomous (α := κ) (· < ·)]

theorem sorted_insert (key : κ) (value : α) {table : List (κ × α)} (h : Sorted table) :
    Sorted (insert key value table) := by
  induction table with
  | nil => simp [insert, Sorted]
  | cons first rest ih =>
    obtain ⟨k, v⟩ := first
    obtain ⟨hhead, hrest⟩ := List.pairwise_cons.1 h
    simp only [insert]
    split
    · next hlt =>
      refine List.pairwise_cons.2 ⟨fun entry hentry => ?_, h⟩
      rcases List.mem_cons.1 hentry with rfl | hmem
      · exact hlt
      · exact Std.lt_trans hlt (hhead entry hmem)
    · next hnot =>
      split
      · next heq => subst heq; exact List.pairwise_cons.2 ⟨hhead, hrest⟩
      · next hne =>
        have hlt : k < key := by
          rcases Std.lt_trichotomy key k with h | h | h
          · exact absurd h hnot
          · exact absurd h hne
          · exact h
        refine List.pairwise_cons.2 ⟨fun entry hentry => ?_, ih hrest⟩
        rcases mem_insert hentry with rfl | hmem
        · exact hlt
        · exact hhead entry hmem

end Sorted

section SortedLaws

variable [LT κ] [DecidableEq κ] [Std.Irrefl (α := κ) (· < ·)]

theorem get?_eq_some_iff {key : κ} {value : α} {table : List (κ × α)} (h : Sorted table) :
    get? key table = some value ↔ (key, value) ∈ table := by
  refine ⟨mem_of_get?, fun hmem => ?_⟩
  induction table with
  | nil => simp at hmem
  | cons first rest ih =>
    obtain ⟨k, v⟩ := first
    obtain ⟨hhead, hrest⟩ := List.pairwise_cons.1 h
    rw [get?_cons]
    rcases List.mem_cons.1 hmem with heq | hmem
    · cases heq; simp
    · have hlt : k < key := hhead _ hmem
      rw [if_neg fun heq => Std.lt_irrefl (heq ▸ hlt), ih hrest hmem]

variable [DecidableLT κ] [Trans (α := κ) (· < ·) (· < ·) (· < ·)]

theorem insert_eq_modify {key : κ} {old : α} (change : α → α) {table : List (κ × α)}
    (h : Sorted table) (hold : get? key table = some old) :
    insert key (change old) table = modify key change table := by
  induction table with
  | nil => simp at hold
  | cons first rest ih =>
    obtain ⟨k, v⟩ := first
    obtain ⟨hhead, hrest⟩ := List.pairwise_cons.1 h
    rw [get?_cons] at hold
    by_cases hk : k = key
    · subst hk
      rw [if_pos rfl] at hold
      cases hold
      have hsame : modify k change rest = rest := by
        refine List.map_congr_left (g := id) (fun entry hmem => ?_) |>.trans (List.map_id _)
        have hne : entry.1 ≠ k := fun heq => Std.lt_irrefl (heq ▸ hhead entry hmem)
        simp [hne]
      rw [insert, if_neg Std.lt_irrefl, if_pos rfl]
      simpa [modify, mapValues] using hsame.symm
    · rw [if_neg hk] at hold
      have hlt : k < key := hhead _ (mem_of_get? hold)
      have hnot : ¬key < k := fun h => Std.lt_irrefl (Std.lt_trans hlt h)
      rw [insert, if_neg hnot, if_neg (Ne.symm hk), ih hrest hold]
      simp [modify, mapValues, hk]

end SortedLaws

end Keyed

end Campus
