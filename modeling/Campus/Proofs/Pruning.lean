import Campus.Json.Shape
import Campus.Proofs.Conformity

/-!
# Keys that nobody declares

Pruning a value drops the keys that no structure declares, at every depth. A result is cleaned just
as its pruned form is validated, and arguments are validated if there is nothing to prune and they
clean. So arguments and results part only in the keys that nobody declares.
-/

namespace Campus

/-! ## Canonical values -/

namespace Json

theorem canonicalItems_iff {items : List Json} :
    CanonicalItems items ↔ ∀ v ∈ items, v.Canonical := by
  induction items with
  | nil => simp [CanonicalItems]
  | cons v rest ih => rw [CanonicalItems, ih, List.forall_mem_cons]

theorem canonicalMembers_iff {members : List (String × Json)} :
    CanonicalMembers members ↔ ∀ m ∈ members, m.2.Canonical := by
  induction members with
  | nil => simp [CanonicalMembers]
  | cons m rest ih => rw [CanonicalMembers, ih, List.forall_mem_cons]

theorem canonical_ofMembers {members : List (String × Json)}
    (h : ∀ m ∈ members, m.2.Canonical) : (ofMembers members).Canonical := by
  -- The table that members are put into is canonical at each step, whatever it started from.
  suffices ∀ table : List (String × Json), (object table).Canonical →
      (object (members.foldl (fun table m => Keyed.insert m.1 m.2 table) table)).Canonical from
    this [] ⟨Keyed.sorted_nil, trivial⟩
  induction members with
  | nil => exact fun _ htable => htable
  | cons m rest ih =>
    obtain ⟨hm, hrest⟩ := List.forall_mem_cons.1 h
    rintro table ⟨hsorted, hvalues⟩
    refine ih hrest _ ⟨Keyed.sorted_insert _ _ hsorted, canonicalMembers_iff.2 fun entry hmem => ?_⟩
    rcases Keyed.mem_insert hmem with rfl | hmem
    · exact hm
    · exact canonicalMembers_iff.1 hvalues entry hmem

mutual

theorem canonical_of_keep? {shape : Shape} {levels : Nat} :
    ∀ {t : Tree} {v : Json}, t.keep? shape levels = some v → v.Canonical
  | .null, _, h => by cases h; trivial
  | .bool _, _, h => by cases h; trivial
  | .number x, _, h => by
    obtain ⟨_, -, rfl⟩ := Option.map_eq_some_iff.1 h
    trivial
  | .string s, _, h => by
    obtain ⟨_, -, rfl⟩ := Option.map_eq_some_iff.1 h
    trivial
  | .array items, _, h => by
    cases levels with
    | zero => cases h
    | succ levels =>
      obtain ⟨kept, hkept, rfl⟩ := Option.map_eq_some_iff.1 h
      exact canonicalItems_iff.2 (canonical_of_keepItems? hkept)
  | .object members, _, h => by
    cases levels with
    | zero => cases h
    | succ levels =>
      obtain ⟨kept, hkept, rfl⟩ := Option.map_eq_some_iff.1 h
      exact canonical_ofMembers (canonical_of_keepMembers? hkept)

theorem canonical_of_keepItems? {shape : Shape} {index levels : Nat} :
    ∀ {items : List Tree} {kept : List Json},
      Tree.keepItems? shape index levels items = some kept → ∀ v ∈ kept, v.Canonical
  | [], _, h => by cases h; simp
  | t :: rest, _, h => by
    obtain ⟨v, hv, h⟩ := Option.bind_eq_some_iff.1 h
    obtain ⟨others, hothers, h⟩ := Option.bind_eq_some_iff.1 h
    cases h
    exact List.forall_mem_cons.2 ⟨canonical_of_keep? hv, canonical_of_keepItems? hothers⟩

theorem canonical_of_keepMembers? {shape : Shape} {seen : List String} {levels : Nat} :
    ∀ {members : List (StringLiteral × Tree)} {kept : List (String × Json)},
      Tree.keepMembers? shape seen levels members = some kept → ∀ m ∈ kept, m.2.Canonical
  | [], _, h => by cases h; simp
  | (name, t) :: rest, _, h => by
    obtain ⟨name, -, h⟩ := Option.bind_eq_some_iff.1 h
    split at h
    · cases h
    · split at h
      · exact canonical_of_keepMembers? h
      · obtain ⟨v, hv, h⟩ := Option.bind_eq_some_iff.1 h
        obtain ⟨others, hothers, h⟩ := Option.bind_eq_some_iff.1 h
        cases h
        exact List.forall_mem_cons.2 ⟨canonical_of_keep? hv, canonical_of_keepMembers? hothers⟩

end

theorem canonical_of_ofText? {s : String} {v : Json} (h : ofText? s = some v) : v.Canonical := by
  obtain ⟨_, -, hkeep⟩ := Option.bind_eq_some_iff.1 h
  exact canonical_of_keep? hkeep

end Json

/-! ## Pruning -/

namespace Description

mutual

/-- The value without the keys that its structures do not declare. -/
def prune : Description → Json → Json
  | .value .., v => v
  | .single _ _ fields, v =>
    match v with
    | .object members =>
      .object (members.filterMap fun m => (pruneField fields m.1 m.2).map (m.1, ·))
    | _ => v
  | .multiple _ _ content, v =>
    match v with
    | .array items => .array (items.map fun item => prune content item)
    | _ => v

/-- What is left of a member with this key. -/
def pruneField : List (String × Description) → String → Json → Option Json
  | [], _, _ => none
  | (name, d) :: rest, key, v => if name = key then some (prune d v) else pruneField rest key v

end

section Prune

variable {d : Description} {fields : List (String × Description)} {v : Json}

theorem pruneField_eq (key : String) :
    pruneField fields key v = (Keyed.get? key fields).map (·.prune v) := by
  induction fields with
  | nil => rfl
  | cons f rest ih =>
    rw [pruneField, Keyed.get?_cons, ih]
    split <;> rfl

theorem prune_null : d.prune .null = .null := by
  cases d <;> rfl

theorem prune_eq_null_iff : d.prune v = .null ↔ v = .null := by
  cases d with
  | value => exact Iff.rfl
  | single => cases v <;> simp [prune]
  | multiple => cases v <;> simp [prune]

theorem DistinctNames.nodup {desc : String} {presence : Presence}
    (hd : (single desc presence fields).DistinctNames) : (Keyed.keys fields).Nodup :=
  hd.here

theorem get?_of_mem_fields (hnames : (Keyed.keys fields).Nodup) :
    ∀ f ∈ fields, Keyed.get? f.1 fields = some f.2 := by
  induction fields with
  | nil => simp
  | cons f rest ih =>
    obtain ⟨hf, hnames⟩ := List.nodup_cons.1 hnames
    refine List.forall_mem_cons.2 ⟨if_pos rfl, fun g hg => ?_⟩
    have hne : f.1 ≠ g.1 := by
      intro h
      exact hf (List.mem_map.2 ⟨g, hg, h.symm⟩)
    rw [Keyed.get?_cons, if_neg hne]
    exact ih hnames g hg

theorem get?_prune_members (members : List (String × Json)) {f : String × Description}
    (hf : Keyed.get? f.1 fields = some f.2) :
    Keyed.get? f.1 (members.filterMap fun m => (pruneField fields m.1 m.2).map (m.1, ·)) =
      (Keyed.get? f.1 members).map f.2.prune := by
  induction members with
  | nil => rfl
  | cons m rest ih =>
    rw [List.filterMap_cons, Keyed.get?_cons, pruneField_eq]
    by_cases hkey : m.1 = f.1
    · rw [if_pos hkey, hkey, hf]
      exact if_pos rfl
    · rw [if_neg hkey, ← ih]
      cases hm : Keyed.get? m.1 fields with
      | none => rfl
      | some d => exact if_neg hkey

theorem hasOnly_prune_members (fields : List (String × Description))
    (members : List (String × Json)) :
    (Json.object (members.filterMap fun m => (pruneField fields m.1 m.2).map (m.1, ·))).HasOnly
      (Keyed.keys fields) := by
  intro m hm
  obtain ⟨given, -, hgiven⟩ := List.mem_filterMap.1 hm
  obtain ⟨w, hw, rfl⟩ := Option.map_eq_some_iff.1 hgiven
  rw [pruneField_eq] at hw
  obtain ⟨d, hd, -⟩ := Option.map_eq_some_iff.1 hw
  exact List.mem_map_of_mem (Keyed.mem_of_get? hd)

end Prune

/-! ## Results are fitted as their pruned forms are as arguments -/

section Fit

variable {direction : Direction} {d : Description} {v : Json}

theorem fitFields_congr {direction' : Direction} {fields : List (String × Description)}
    {given given' out : List (String × Json)}
    (h : ∀ f ∈ fields, fitField direction given f = fitField direction' given' f) :
    fitFields direction fields given out = fitFields direction' fields given' out := by
  induction fields generalizing out with
  | nil => rfl
  | cons f rest ih =>
    obtain ⟨hf, hrest⟩ := List.forall_mem_cons.1 h
    rw [fitFields_cons, fitFields_cons, hf]
    cases fitField direction' given' f with
    | error => rfl
    | ok v => exact ih hrest

theorem fitItems_map_congr {fit fit' : Json → Except Misfit (Option Json)} {change : Json → Json}
    (h : ∀ v, fit v = fit' (change v)) (items : List Json) (index : Nat) :
    fitItems fit index items = fitItems fit' index (items.map change) := by
  induction items generalizing index with
  | nil => rfl
  | cons v rest ih => rw [List.map_cons, fitItems, fitItems, h, ih]

theorem fit_output_eq_fit_prune (hd : d.DistinctNames) :
    d.fit .output v = d.fit .input (d.prune v) := by
  induction d generalizing v with
  | value => rfl
  | single desc presence fields ih =>
    cases v with
    | object members =>
      -- Pruned members pass the check that only arguments undergo; then it is field by field.
      have hdeclared := undeclared?_eq_none_iff.2 (hasOnly_prune_members fields members)
      simp only [prune, fit, hdeclared]
      refine congrArg _ (fitFields_congr fun f hf => ?_)
      rw [fitField, fitField, get?_prune_members members (get?_of_mem_fields hd.nodup f hf),
        ih f hf (hd.field f hf)]
      cases Keyed.get? f.1 members with
      | none => rw [Option.getD_none, prune_null, Option.map_none, Option.getD_none]
      | some w => rfl
    | _ => rfl
  | multiple desc presence content ih =>
    cases v with
    | array items =>
      simp only [prune, fit]
      exact congrArg _ (fitItems_map_congr (fun _ => ih hd.2) items 0)
    | _ => rfl

theorem exists_fit_of_mem {fit : Json → Except Misfit (Option Json)} {index : Nat}
    {items fitted : List Json} (h : fitItems fit index items = .ok fitted) :
    ∀ v ∈ items, ∃ out, fit v = .ok out := by
  induction items generalizing index fitted with
  | nil => simp
  | cons v rest ih =>
    obtain ⟨first, others, hfirst, hothers, -⟩ := fitItems_cons_eq_ok_iff.1 h
    exact List.forall_mem_cons.2 ⟨⟨first, hfirst⟩, ih hothers⟩

theorem prune_of_fit_input {out : Option Json} (hd : d.DistinctNames) (hv : v.Canonical)
    (h : d.fit .input v = .ok out) : d.prune v = v := by
  induction d generalizing v out with
  | value => rfl
  | single desc presence fields ih =>
    cases v with
    | object members =>
      obtain ⟨honly, fitted, hfields, -⟩ := fit_object_eq_ok_iff.1 h
      have hkept : ∀ m ∈ members, (pruneField fields m.1 m.2).map (m.1, ·) = some m := by
        intro m hm
        -- One field declares the key, and it is there once, so the field was fitted to `m`.
        obtain ⟨f, hf, hname⟩ := List.mem_map.1 (honly rfl m hm)
        have hget : Keyed.get? f.1 members = some m.2 :=
          (Keyed.get?_eq_some_iff hv.1).2 (hname ▸ hm)
        have hfit := get?_fitFields hd.nodup (by simp) hfields f hf
        rw [fitField, hget] at hfit
        have hcanonical := Json.canonicalMembers_iff.1 hv.2 m hm
        rw [pruneField_eq, ← hname, get?_of_mem_fields hd.nodup f hf, Option.map_some,
          ih f hf (hd.field f hf) hcanonical hfit, Option.map_some, hname]
      rw [prune, List.filterMap_congr hkept, List.filterMap_some]
    | _ => rfl
  | multiple desc presence content ih =>
    cases v with
    | array items =>
      obtain ⟨fitted, hitems, -⟩ := fit_array_eq_ok_iff.1 h
      have hkept : ∀ item ∈ items, content.prune item = item := by
        intro item hitem
        obtain ⟨out, hfit⟩ := exists_fit_of_mem hitems item hitem
        exact ih hd.2 (Json.canonicalItems_iff.1 hv item hitem) hfit
      rw [prune, List.map_congr_left hkept, List.map_id']
    | _ => rfl

end Fit

/-! ## Cleaning and validating -/

section Agreement

variable {d : Description} {v r : Json}

theorem validated_eq_ok_iff (hs : d.IsStructure) (hv : v ≠ .null) :
    (validateArguments d v).map .object = .ok r ↔ d.fit .input v = .ok (some r) := by
  have hnull : v.isNull = false := by cases v <;> simp_all [Json.isNull]
  simp only [map_eq_ok_iff, validateArguments_eq_ok_iff_fit, hnull, hs, true_and]
  constructor
  · rintro ⟨members, hfit, rfl⟩
    exact hfit
  · intro hfit
    cases d with
    | single desc presence fields =>
      obtain ⟨given, rfl⟩ := eq_object_of_fit hfit hv
      obtain ⟨-, members, -, hr⟩ := fit_object_eq_ok_iff.1 hfit
      cases hr
      exact ⟨members, hfit, rfl⟩
    | _ => cases hs

theorem cleaned_eq_ok_iff (hv : v ≠ .null) :
    cleanResult d v = .ok r ↔ d.fit .output v = .ok (some r) := by
  rw [cleanResult_eq_ok_iff]
  constructor
  · rintro ⟨out, hfit, rfl⟩
    cases out with
    | none => exact absurd (fit_eq_none_iff.1 hfit).1 hv
    | some r => exact hfit
  · exact fun hfit => ⟨some r, hfit, rfl⟩

theorem cleaned_iff_validated_prune (hd : d.DistinctNames) (hs : d.IsStructure) (hv : v ≠ .null) :
    cleanResult d v = .ok r ↔ (validateArguments d (d.prune v)).map .object = .ok r := by
  rw [cleaned_eq_ok_iff hv, validated_eq_ok_iff hs (mt prune_eq_null_iff.1 hv),
    fit_output_eq_fit_prune hd]

theorem validated_iff_pruned_and_cleaned (hd : d.DistinctNames) (hs : d.IsStructure)
    (hv : v ≠ .null) (hcanonical : v.Canonical) :
    (validateArguments d v).map .object = .ok r ↔ d.prune v = v ∧ cleanResult d v = .ok r := by
  rw [cleaned_eq_ok_iff hv, validated_eq_ok_iff hs hv, fit_output_eq_fit_prune hd]
  constructor
  · intro hfit
    have hpruned := prune_of_fit_input hd hcanonical hfit
    exact ⟨hpruned, hpruned.symm ▸ hfit⟩
  · rintro ⟨hpruned, hfit⟩
    rwa [hpruned] at hfit

theorem clean_eq_of_prune_eq (hd : d.DistinctNames) {w : Json} (h : d.prune v = d.prune w) :
    cleanResult d v = cleanResult d w := by
  rw [cleanResult, cleanResult, fit_output_eq_fit_prune hd, fit_output_eq_fit_prune hd, h]

/-- Cleaning is validating what pruning leaves; validating is cleaning where nothing is pruned. What
is pruned never counts. -/
theorem clean_and_validate_agree (hd : d.DistinctNames) (hs : d.IsStructure) (hv : v ≠ .null)
    (hcanonical : v.Canonical) :
    (∀ r, cleanResult d v = .ok r ↔ (validateArguments d (d.prune v)).map .object = .ok r) ∧
      (∀ r, (validateArguments d v).map .object = .ok r ↔
        d.prune v = v ∧ cleanResult d v = .ok r) ∧
      ∀ w, d.prune w = d.prune v → cleanResult d w = cleanResult d v :=
  ⟨fun _ => cleaned_iff_validated_prune hd hs hv,
    fun _ => validated_iff_pruned_and_cleaned hd hs hv hcanonical,
    fun _ => clean_eq_of_prune_eq hd⟩

end Agreement

/-- A visit with undeclared keys, at two depths, is cleaned but not valid. -/
theorem visit_clean_and_validate :
    let given : Json := .object [
      ("notes", .array [.object [("colour", .string "red"), ("text", .string "Late")]]),
      ("room", .int 7), ("weather", .array [])]
    let pruned : Json := .object [
      ("notes", .array [.object [("text", .string "Late")]]), ("room", .int 7)]
    let cleaned : Json := .object [
      ("notes", .array [.object [("pinned", .bool false), ("text", .string "Late")]]),
      ("room", .int 7), ("start", .int 0)]
    visit.prune given = pruned ∧ cleanResult visit given = .ok cleaned ∧
      (validateArguments visit pruned).map .object = .ok cleaned ∧
      ∀ r, (validateArguments visit given).map Json.object ≠ .ok r := by
  intro given pruned cleaned
  have hd : visit.DistinctNames := by
    simp [visit, DistinctNames, structureOf, plain, withDefault, optional, withPresence, listOf,
      Everywhere, EveryField, fieldNames, fields]
  have hcanonical : given.Canonical :=
    ⟨by decide, ⟨⟨by decide, trivial, trivial, trivial⟩, trivial⟩, trivial, trivial, trivial⟩
  have hprune : visit.prune given = pruned := by rfl
  have hclean : cleanResult visit given = .ok cleaned := by rfl
  obtain ⟨hcleaned, hvalidated, -⟩ :=
    clean_and_validate_agree hd (v := given) trivial (by simp [given]) hcanonical
  refine ⟨hprune, hclean, hprune ▸ (hcleaned cleaned).1 hclean, fun r hr => ?_⟩
  have hsame := ((hvalidated r).1 hr).1
  rw [hprune] at hsame
  simp [pruned, given] at hsame

end Description

end Campus
