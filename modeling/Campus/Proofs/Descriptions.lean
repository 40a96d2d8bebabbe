import Campus.Proofs.Fitting

/-!
# Trees of descriptions

A statement on descriptions is proved for plain values, for structures whose fields have it, and for
lists whose content has it. What fitting does to a structure is told field by field.
-/

namespace Campus

namespace Description

/-- Induction on a description: a structure's fields and a list's content come before it. -/
@[elab_as_elim, induction_eliminator]
theorem induct {motive : Description → Prop}
    (value : ∀ type desc presence, motive (.value type desc presence))
    (single : ∀ desc presence fields, (∀ f ∈ fields, motive f.2) →
      motive (.single desc presence fields))
    (multiple : ∀ desc presence content, motive content →
      motive (.multiple desc presence content)) (d : Description) : motive d :=
  @Description.rec motive (fun fields => ∀ f ∈ fields, motive f.2) (fun f => motive f.2)
    value single multiple (fun _ h => nomatch h)
    (fun _ _ hf hrest => List.forall_mem_cons.2 ⟨hf, hrest⟩) (fun _ _ h => h) d

/-! ## Properties of all parts -/

mutual

/-- The description has the property, and so has all that it is made of. -/
def Everywhere (P : Description → Prop) : Description → Prop
  | .value type desc presence => P (.value type desc presence)
  | .single desc presence fields => P (.single desc presence fields) ∧ EveryField P fields
  | .multiple desc presence content =>
    P (.multiple desc presence content) ∧ Everywhere P content

def EveryField (P : Description → Prop) : List (String × Description) → Prop
  | [] => True
  | (_, d) :: rest => Everywhere P d ∧ EveryField P rest

end

section Everywhere

variable {P : Description → Prop}

theorem everyField_iff {fields : List (String × Description)} :
    EveryField P fields ↔ ∀ f ∈ fields, f.2.Everywhere P := by
  induction fields with
  | nil => simp [EveryField]
  | cons f rest ih => rw [EveryField, ih, List.forall_mem_cons]

theorem Everywhere.here {d : Description} (h : d.Everywhere P) : P d := by
  cases d with
  | value => exact h
  | single => exact h.1
  | multiple => exact h.1

theorem Everywhere.field {desc : String} {presence : Presence}
    {fields : List (String × Description)} (h : (single desc presence fields).Everywhere P) :
    ∀ f ∈ fields, f.2.Everywhere P :=
  everyField_iff.1 h.2

end Everywhere

/-- The description is of one structure. -/
def IsStructure : Description → Prop
  | .single .. => True
  | _ => False

/-- No structure has two fields of one name. -/
def DistinctNames : Description → Prop := Everywhere fun d => d.fieldNames.Nodup

/-! ## Fitting nothing -/

section Nothing

variable {direction : Direction} {d : Description} {v : Json}

theorem fit_null (direction : Direction) (d : Description) :
    d.fit direction .null = d.presence.absent := by
  cases d <;> rfl

theorem fit_eq_none_iff : d.fit direction v = .ok none ↔ v = .null ∧ d.presence = .optional := by
  have habsent : d.presence.absent = .ok none ↔ d.presence = .optional := by
    cases d.presence <;> simp [Presence.absent]
  by_cases hv : v = .null
  · subst hv
    simp [fit_null, habsent]
  · -- What is there is fitted to something or not at all.
    refine iff_of_false (fun h => ?_) (fun h => hv h.1)
    cases d with
    | value type desc presence =>
      have hnull : v.isNull = false := by cases v <;> simp_all [Json.isNull]
      cases hcoerce : type.coerce v <;> simp [fit, hnull, hcoerce] at h
    | single desc presence fields =>
      cases v with
      | null => exact hv rfl
      | object given =>
        cases direction <;> cases hundeclared : undeclared? fields given <;>
          simp [fit, hundeclared, map_eq_ok_iff] at h
      | _ => simp [fit] at h
    | multiple desc presence content =>
      cases v with
      | null => exact hv rfl
      | array items => simp [fit, map_eq_ok_iff] at h
      | _ => simp [fit] at h

end Nothing

/-! ## Fitting field by field -/

section Fields

variable {direction : Direction} {fields : List (String × Description)}
  {given out members : List (String × Json)}

/-- What the members of an object make of a field. -/
def fitField (direction : Direction) (given : List (String × Json)) (f : String × Description) :
    Except Misfit (Option Json) :=
  f.2.fit direction ((Keyed.get? f.1 given).getD .null)

theorem fitFields_cons (f : String × Description) :
    fitFields direction (f :: fields) given out =
      match fitField direction given f with
      | .error m => .error (m.under (.name f.1))
      | .ok v => fitFields direction fields given (v.elim out (Keyed.insert f.1 · out)) := by
  rw [fitFields, fitField]
  split <;> simp [*]

theorem fitFields_sorted (h : fitFields direction fields given out = .ok members)
    (hout : Keyed.Sorted out) : Keyed.Sorted members := by
  induction fields generalizing out with
  | nil => cases h; exact hout
  | cons f rest ih =>
    obtain ⟨v, -, hrest⟩ := fitFields_cons_eq_ok_iff.1 h
    refine ih hrest ?_
    cases v with
    | none => exact hout
    | some v => exact Keyed.sorted_insert f.1 v hout

theorem get?_fitFields_of_notMem (h : fitFields direction fields given out = .ok members)
    {name : String} (hname : name ∉ Keyed.keys fields) :
    Keyed.get? name members = Keyed.get? name out := by
  induction fields generalizing out with
  | nil => cases h; rfl
  | cons f rest ih =>
    obtain ⟨v, -, hrest⟩ := fitFields_cons_eq_ok_iff.1 h
    obtain ⟨hne, hname⟩ := not_or.1 (mt List.mem_cons.2 hname)
    rw [ih hrest hname]
    cases v with
    | none => rfl
    | some v => exact Keyed.get?_insert_of_ne (Ne.symm hne) v out

theorem get?_fitFields (hnames : (Keyed.keys fields).Nodup)
    (hout : ∀ name ∈ Keyed.keys fields, Keyed.get? name out = none)
    (h : fitFields direction fields given out = .ok members) :
    ∀ f ∈ fields, fitField direction given f = .ok (Keyed.get? f.1 members) := by
  induction fields generalizing out with
  | nil => simp
  | cons f rest ih =>
    obtain ⟨hf, hnames⟩ := List.nodup_cons.1 hnames
    obtain ⟨hfirst, hothers⟩ := List.forall_mem_cons.1 hout
    obtain ⟨v, hfit, hrest⟩ := fitFields_cons_eq_ok_iff.1 h
    -- The first field writes under its own name only, so the others still find nothing of theirs.
    have hkept : ∀ name ∈ Keyed.keys rest,
        Keyed.get? name (v.elim out (Keyed.insert f.1 · out)) = none := by
      intro name hname
      have hne : f.1 ≠ name := by
        rintro rfl
        exact hf hname
      cases v with
      | none => exact hothers name hname
      | some v => exact (Keyed.get?_insert_of_ne hne v out).trans (hothers name hname)
    refine List.forall_mem_cons.2 ⟨?_, ih hnames hkept hrest⟩
    -- What it wrote is what it was fitted to: none of the others writes there.
    rw [get?_fitFields_of_notMem hrest hf, fitField, hfit]
    cases v with
    | none => exact congrArg Except.ok hfirst.symm
    | some v => exact congrArg Except.ok (Keyed.get?_insert_self f.1 v out).symm

theorem fitFields_isOk (h : ∀ f ∈ fields, ∃ v, fitField direction given f = .ok v) :
    ∃ members, fitFields direction fields given out = .ok members := by
  induction fields generalizing out with
  | nil => exact ⟨out, rfl⟩
  | cons f rest ih =>
    obtain ⟨⟨v, hv⟩, hrest⟩ := List.forall_mem_cons.1 h
    rw [fitFields_cons, hv]
    exact ih hrest

end Fields

/-! ## Fitting the parts of a value -/

section Parts

variable {direction : Direction} {desc : String} {presence : Presence} {v : Json}

theorem fit_object_eq_ok_iff {fields : List (String × Description)} {given : List (String × Json)}
    {out : Option Json} :
    (single desc presence fields).fit direction (.object given) = .ok out ↔
      (direction = .input → (Json.object given).HasOnly (Keyed.keys fields)) ∧
        ∃ members, fitFields direction fields given [] = .ok members ∧
          out = some (.object members) := by
  rw [← undeclared?_eq_none_iff]
  cases direction with
  | output => simp [fit, map_eq_ok_iff, @eq_comm _ out]
  | input => cases hundeclared : undeclared? fields given <;>
      simp [fit, hundeclared, map_eq_ok_iff, @eq_comm _ out]

theorem fit_array_eq_ok_iff {content : Description} {items : List Json} {out : Option Json} :
    (multiple desc presence content).fit direction (.array items) = .ok out ↔
      ∃ fitted, fitItems (content.fit direction) 0 items = .ok fitted ∧
        out = some (.array fitted) := by
  simp [fit, map_eq_ok_iff, @eq_comm _ out]

theorem eq_object_of_fit {fields : List (String × Description)} {out : Option Json}
    (h : (single desc presence fields).fit direction v = .ok out) (hv : v ≠ .null) :
    ∃ given, v = .object given := by
  cases v with
  | null => exact absurd rfl hv
  | object given => exact ⟨given, rfl⟩
  | _ => simp [fit] at h

theorem eq_array_of_fit {content : Description} {out : Option Json}
    (h : (multiple desc presence content).fit direction v = .ok out) (hv : v ≠ .null) :
    ∃ items, v = .array items := by
  cases v with
  | null => exact absurd rfl hv
  | array items => exact ⟨items, rfl⟩
  | _ => simp [fit] at h

theorem mem_of_fitItems {fit : Json → Except Misfit (Option Json)} {index : Nat}
    {items fitted : List Json} (h : fitItems fit index items = .ok fitted) :
    ∀ out ∈ fitted, ∃ v ∈ items, fit v = .ok (some out) := by
  induction items generalizing index fitted with
  | nil => cases h; simp
  | cons v rest ih =>
    obtain ⟨first, others, hfirst, hothers, rfl⟩ := fitItems_cons_eq_ok_iff.1 h
    intro out hout
    rcases List.mem_append.1 hout with hout | hout
    · rw [Option.mem_toList] at hout
      exact ⟨v, List.mem_cons_self, hout ▸ hfirst⟩
    · obtain ⟨w, hw, hfit⟩ := ih hothers out hout
      exact ⟨w, List.mem_cons_of_mem v hw, hfit⟩

end Parts

end Description

end Campus
