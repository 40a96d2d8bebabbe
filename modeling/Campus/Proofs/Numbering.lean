import Mathlib.Data.List.Basic
import Campus.Proofs.Records

/-!
# Records numbered by position

A table that is filled from a list holds, under the number of each entry, what the entry makes,
given the entries before it. Of the entries with a name, the first is found by it.
-/

namespace Campus

/-! ## What the entries of a list make -/

section Lists

variable {ε β : Type}

/-- What each entry of a list makes, given the entries before it. -/
def inTurn (make : List ε → ε → β) (es : List ε) : List β :=
  es.mapIdx fun i e => make (es.take i) e

/-- The lists that the entries make, one after the other. -/
def gather (make : List ε → ε → List β) (es : List ε) : List β := (inTurn make es).flatten

variable {make : List ε → ε → β} {es : List ε}

@[simp] theorem inTurn_nil : inTurn make [] = [] := rfl

@[simp] theorem length_inTurn : (inTurn make es).length = es.length := List.length_mapIdx

theorem getElem?_inTurn (make : List ε → ε → β) (es : List ε) (i : Nat) :
    (inTurn make es)[i]? = es[i]?.map (make (es.take i)) :=
  List.getElem?_mapIdx

theorem inTurn_append (make : List ε → ε → β) (es fs : List ε) :
    inTurn make (es ++ fs) = inTurn make es ++ inTurn (fun before => make (es ++ before)) fs := by
  refine List.ext_getElem? fun i => ?_
  rw [getElem?_inTurn]
  rcases Nat.lt_or_ge i es.length with h | h
  · rw [List.getElem?_append_left h, List.getElem?_append_left (by simpa using h),
      getElem?_inTurn, List.take_append_of_le_length (Nat.le_of_lt h)]
  · rw [List.getElem?_append_right h, List.getElem?_append_right (by simpa using h),
      getElem?_inTurn, length_inTurn, List.take_append, List.take_of_length_le h]

theorem inTurn_cons (make : List ε → ε → β) (e : ε) (es : List ε) :
    inTurn make (e :: es) = make [] e :: inTurn (fun before => make (e :: before)) es :=
  inTurn_append make [e] es

theorem inTurn_concat (make : List ε → ε → β) (es : List ε) (e : ε) :
    inTurn make (es ++ [e]) = inTurn make es ++ [make es e] := by
  rw [inTurn_append, inTurn_cons, List.append_nil, inTurn_nil]

theorem map_inTurn {γ : Type} (f : β → γ) (make : List ε → ε → β) (es : List ε) :
    (inTurn make es).map f = inTurn (fun before e => f (make before e)) es := by
  refine List.ext_getElem? fun i => ?_
  rw [List.getElem?_map, getElem?_inTurn, getElem?_inTurn, Option.map_map]
  rfl

theorem inTurn_eq_map {f : ε → β} (h : ∀ before e, make before e = f e) (es : List ε) :
    inTurn make es = es.map f := by
  refine List.ext_getElem? fun i => ?_
  rw [getElem?_inTurn, List.getElem?_map]
  exact congrArg (es[i]?.map ·) (funext (h _))

theorem mem_inTurn {b : β} :
    b ∈ inTurn make es ↔ ∃ before e after, es = before ++ e :: after ∧ make before e = b := by
  constructor
  · intro h
    obtain ⟨i, hi, rfl⟩ := List.getElem_of_mem h
    rw [length_inTurn] at hi
    refine ⟨es.take i, es[i], es.drop (i + 1), ?_, ?_⟩
    · rw [← List.drop_eq_getElem_cons hi, List.take_append_drop]
    · simp [inTurn]
  · rintro ⟨before, e, after, rfl, rfl⟩
    rw [inTurn_append, inTurn_cons]
    simp

theorem find?_inTurn_of_first {p : β → Bool} {before after : List ε} {e : ε}
    (hbefore : ∀ first x rest, before = first ++ x :: rest → p (make first x) = false)
    (he : p (make before e) = true) :
    (inTurn make (before ++ e :: after)).find? p = some (make before e) := by
  have hnone : (inTurn make before).find? p = none := by
    rw [List.find?_eq_none]
    intro b hb
    obtain ⟨first, x, rest, hsplit, rfl⟩ := mem_inTurn.1 hb
    simp [hbefore first x rest hsplit]
  rw [inTurn_append, inTurn_cons, List.find?_append, hnone, Option.none_or, List.append_nil,
    List.find?_cons_of_pos he]

theorem gather_concat (make : List ε → ε → List β) (es : List ε) (e : ε) :
    gather make (es ++ [e]) = gather make es ++ make es e := by
  rw [gather, inTurn_concat, List.flatten_append, List.flatten_singleton]
  rfl

theorem mem_gather {make : List ε → ε → List β} {b : β} :
    b ∈ gather make es ↔ ∃ before e after, es = before ++ e :: after ∧ b ∈ make before e := by
  rw [gather, List.mem_flatten]
  constructor
  · rintro ⟨bs, hbs, hb⟩
    obtain ⟨before, e, after, hsplit, rfl⟩ := mem_inTurn.1 hbs
    exact ⟨before, e, after, hsplit, hb⟩
  · rintro ⟨before, e, after, hsplit, hb⟩
    exact ⟨_, mem_inTurn.2 ⟨before, e, after, hsplit, rfl⟩, hb⟩

end Lists

/-! ## Names -/

section Names

variable {ε α : Type} {name : String} {key : ε → String}

/-- The number of the first entry of a name, counted from 1. -/
def numberOf (names : List String) (name : String) : Int := names.idxOf name + 1

theorem exists_first {es : List ε} (h : name ∈ es.map key) :
    ∃ before e after, es = before ++ e :: after ∧ key e = name ∧ name ∉ before.map key := by
  obtain ⟨names, others, hnames, hfirst⟩ := List.eq_append_cons_of_mem h
  obtain ⟨before, rest, rfl, rfl, hrest⟩ := List.map_eq_append_iff.1 hnames
  obtain ⟨e, after, rfl, he, -⟩ := List.map_eq_cons_iff.1 hrest
  exact ⟨before, e, after, rfl, he, hfirst⟩

theorem numberOf_inj {names : List String} {other : String} (h : name ∈ names)
    (heq : numberOf names name = numberOf names other) : name = other := by
  unfold numberOf at heq
  exact (List.idxOf_inj h).1 (by omega)

theorem numberOf_of_first {before after : List ε} {e : ε} (he : key e = name)
    (hbefore : name ∉ before.map key) :
    numberOf ((before ++ e :: after).map key) name = before.length + 1 := by
  rw [numberOf, List.map_append, List.idxOf_append_of_notMem hbefore, List.map_cons, he,
    List.idxOf_cons_self, List.length_map]
  rfl

theorem find?_inTurn_of_name {β : Type} {make : List ε → ε → β} {nameOf : β → String}
    {before after : List ε} {e : ε} (hname : ∀ before e, nameOf (make before e) = key e)
    (he : key e = name) (hbefore : name ∉ before.map key) :
    (inTurn make (before ++ e :: after)).find? (nameOf · == name) = some (make before e) := by
  refine find?_inTurn_of_first (fun first x rest hsplit => ?_) ?_
  · have hx : x ∈ before := by rw [hsplit]; simp
    rw [hname]
    exact beq_eq_false_iff_ne.2 fun heq => hbefore (heq ▸ List.mem_map_of_mem hx)
  · rw [hname]
    exact beq_iff_eq.2 he

theorem Keyed.get?_eq_find? (name : String) (table : List (String × α)) :
    Keyed.get? name table = (table.find? (·.1 == name)).map (·.2) := by
  induction table with
  | nil => rfl
  | cons row rest ih =>
    rw [Keyed.get?_cons, List.find?_cons, ih]
    by_cases h : row.1 = name
    · simp [h]
    · simp [h, beq_eq_false_iff_ne.2 h]

theorem Keyed.get?_map {β : Type} (f : β → String) (g : β → α) (name : String) (rows : List β) :
    Keyed.get? name (rows.map fun row => (f row, g row)) =
      (rows.find? (f · == name)).map g := by
  rw [Keyed.get?_eq_find?, List.find?_map, Option.map_map]
  rfl

/-- The names of the entries, each with what it stands for. -/
def namesOf (key : ε → String) (value : List ε → ε → α) (es : List ε) : List (String × α) :=
  inTurn (fun before e => (key e, value before e)) es

variable {value : List ε → ε → α} {es : List ε}

theorem namesOf_concat (key : ε → String) (value : List ε → ε → α) (es : List ε) (e : ε) :
    namesOf key value (es ++ [e]) = namesOf key value es ++ [(key e, value es e)] :=
  inTurn_concat _ es e

theorem contains_namesOf : Keyed.contains name (namesOf key value es) = true ↔
    name ∈ es.map key := by
  rw [Keyed.contains_iff_mem_keys, Keyed.keys, namesOf, map_inTurn, inTurn_eq_map (f := key)]
  exact fun _ _ => rfl

theorem get?_namesOf_of_first {before after : List ε} {e : ε} (he : key e = name)
    (hbefore : name ∉ before.map key) :
    Keyed.get? name (namesOf key value (before ++ e :: after)) = some (value before e) := by
  have hfind : (namesOf key value (before ++ e :: after)).find? (·.1 == name) =
      some (key e, value before e) :=
    find?_inTurn_of_name (fun _ _ => rfl) he hbefore
  rw [Keyed.get?_eq_find?, hfind, Option.map_some]

/-- The names of the entries, each with the number of its entry. -/
def numbersOf (key : ε → String) (es : List ε) : List (String × Int) :=
  namesOf key (fun before _ => (before.length + 1 : Int)) es

theorem get?_numbersOf (h : name ∈ es.map key) :
    Keyed.get? name (numbersOf key es) = some (numberOf (es.map key) name) := by
  obtain ⟨before, e, after, rfl, he, hbefore⟩ := exists_first h
  rw [numbersOf, get?_namesOf_of_first he hbefore, numberOf_of_first he hbefore]

end Names

/-! ## Tables -/

theorem Keyed.insert_eq_append {α : Type} {key : Int} {value : α} {table : List (Int × α)}
    (h : ∀ row ∈ table, row.1 < key) : insert key value table = table ++ [(key, value)] := by
  induction table with
  | nil => rfl
  | cons row rest ih =>
    have hrow : row.1 < key := h row (by simp)
    rw [insert, if_neg (by omega), if_neg (by omega), ih fun r hr => h r (by simp [hr])]
    rfl

namespace Table

variable {ε α : Type}

theorem contains_add_own {make : Int → α} {t : Table α} (idOf : α → Int)
    (h : idOf (make t.nextId) = t.nextId) :
    (t.add make).2.contains (idOf (t.add make).1) = true := by
  have hid : idOf (t.add make).1 = t.nextId := h
  rw [hid]
  exact contains_of_get? (get?_add_self make t)

theorem eq_of_rows {t u : Table α} (hissued : t.issued = u.issued) (hrows : t.rows = u.rows) :
    t = u := by
  cases t
  cases u
  cases hissued
  cases hrows
  rfl

theorem Sound.rows_add {idOf : α → Int} {t : Table α} (h : t.Sound idOf) (make : Int → α) :
    (t.add make).2.rows = t.rows ++ [(t.nextId, make t.nextId)] := by
  refine Keyed.insert_eq_append fun row hrow => ?_
  have hle := (h.range row.1 row.2 (get?_eq_some_iff.2 hrow)).2
  simp only [nextId]
  omega

/-- The table filled from a list. -/
def numbered (make : List ε → ε → α) (es : List ε) : Table α where
  issued := es.length
  rows := inTurn (fun before e => ((before.length + 1 : Int), make before e)) es
  sorted := by
    refine List.pairwise_iff_getElem.2 fun i j hi hj hlt => ?_
    simp only [inTurn, List.getElem_mapIdx, List.length_take]
    simp only [length_inTurn] at hi hj
    omega

variable {make : List ε → ε → α} {es : List ε} {id : Int} {record : α}

theorem rows_numbered (make : List ε → ε → α) (es : List ε) :
    (numbered make es).rows =
      inTurn (fun before e => ((before.length + 1 : Int), make before e)) es :=
  rfl

@[simp] theorem nextId_numbered : (numbered make es).nextId = es.length + 1 := rfl

theorem mem_rows_numbered {row : Int × α} :
    row ∈ (numbered make es).rows ↔ ∃ before e after, es = before ++ e :: after ∧
      ((before.length + 1 : Int), make before e) = row := by
  rw [rows_numbered, mem_inTurn]

theorem rows_numbered_concat (make : List ε → ε → α) (es : List ε) (e : ε) :
    (numbered make (es ++ [e])).rows =
      (numbered make es).rows ++ [((es.length + 1 : Int), make es e)] := by
  rw [rows_numbered, inTurn_concat, rows_numbered]

theorem records_numbered (make : List ε → ε → α) (es : List ε) :
    (numbered make es).records = inTurn make es := by
  rw [records, rows_numbered, Keyed.values, map_inTurn]

theorem fst_lt_of_mem_numbered {row : Int × α} (h : row ∈ (numbered make es).rows) :
    row.1 < (es.length + 1 : Int) := by
  obtain ⟨before, e, after, rfl, rfl⟩ := mem_rows_numbered.1 h
  simp only [List.length_append, List.length_cons]
  omega

theorem numbered_concat_congr {e e' : ε} (h : make es e = make es e') :
    numbered make (es ++ [e]) = numbered make (es ++ [e']) := by
  refine eq_of_rows ?_ ?_
  · simp only [numbered, List.length_append, List.length_singleton]
  · rw [rows_numbered_concat, rows_numbered_concat, h]

theorem add_numbered (make : List ε → ε → α) (es : List ε) (e : ε) (add : Int → α)
    (h : add (es.length + 1) = make es e) :
    (numbered make es).add add = (make es e, numbered make (es ++ [e])) := by
  refine Prod.ext h (eq_of_rows ?_ ?_)
  · show es.length + 1 = (es ++ [e]).length
    rw [List.length_append, List.length_singleton]
  · rw [rows_numbered_concat, ← h]
    exact Keyed.insert_eq_append fun _ => fst_lt_of_mem_numbered

theorem get?_numbered_eq_some_iff : (numbered make es).get? id = some record ↔
    ∃ before e after, es = before ++ e :: after ∧ ((before.length + 1 : Int) = id) ∧
      make before e = record := by
  rw [get?_eq_some_iff, mem_rows_numbered]
  simp only [Prod.mk.injEq]

theorem contains_numbered :
    (numbered make es).contains id = true ↔ 1 ≤ id ∧ id ≤ es.length := by
  rw [contains_iff]
  constructor
  · rintro ⟨record, hget⟩
    obtain ⟨before, e, after, rfl, rfl, -⟩ := get?_numbered_eq_some_iff.1 hget
    simp only [List.length_append, List.length_cons]
    omega
  · rintro ⟨hone, hle⟩
    have hi : id.toNat - 1 < es.length := by omega
    refine ⟨_, get?_numbered_eq_some_iff.2
      ⟨es.take (id.toNat - 1), es[id.toNat - 1], es.drop (id.toNat - 1 + 1), ?_, ?_, rfl⟩⟩
    · rw [← List.drop_eq_getElem_cons hi, List.take_append_drop]
    · rw [List.length_take]
      omega

theorem contains_numberOf {key : ε → String} {name : String} (h : name ∈ es.map key) :
    (numbered make es).contains (numberOf (es.map key) name) = true := by
  obtain ⟨before, e, after, rfl, he, hbefore⟩ := exists_first h
  rw [numberOf_of_first he hbefore]
  exact contains_of_get? (get?_numbered_eq_some_iff.2 ⟨before, e, after, rfl, rfl, rfl⟩)

theorem contains_numbered_last {e : ε} :
    (numbered make (es ++ [e])).contains (es.length + 1) = true :=
  contains_of_get? (get?_numbered_eq_some_iff.2 ⟨es, e, [], rfl, rfl, rfl⟩)

theorem modify_numbered {change : α → α} {last e : ε} (hid : id = es.length + 1)
    (h : change (make es last) = make es e) :
    (numbered make (es ++ [last])).modify id change = numbered make (es ++ [e]) := by
  subst hid
  have hbefore : ∀ row ∈ (numbered make es).rows,
      (row.1, if row.1 = (es.length + 1 : Int) then change row.2 else row.2) = row := by
    intro row hrow
    rw [if_neg (Int.ne_of_lt (fst_lt_of_mem_numbered hrow))]
  refine eq_of_rows ?_ ?_
  · simp only [modify, numbered, List.length_append, List.length_singleton]
  · show Keyed.modify _ change (numbered make (es ++ [last])).rows = _
    rw [rows_numbered_concat, rows_numbered_concat, Keyed.modify, Keyed.mapValues,
      List.map_append, List.map_singleton]
    dsimp only
    rw [if_pos rfl, h]
    exact congrArg (· ++ _) ((List.map_congr_left hbefore).trans (List.map_id' _))

end Table

end Campus
