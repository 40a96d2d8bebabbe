import Mathlib.Data.List.Sort
import Campus.Proofs.Descriptions

/-!
# Values in the form that is described

A value conforms to a description if it has the described shape already, at every depth. What fits
conforms once it is fitted, and what conforms is left alone, so fitting twice is fitting once.
-/

namespace Campus

theorem Keyed.eq_of_get?_eq {κ α : Type} [LT κ] [DecidableEq κ] [Std.Irrefl (α := κ) (· < ·)]
    [Trans (α := κ) (· < ·) (· < ·) (· < ·)] {a b : List (κ × α)} (ha : Sorted a) (hb : Sorted b)
    (h : ∀ key, get? key a = get? key b) : a = b := by
  have : Std.Irrefl fun x y : κ × α => x.1 < y.1 := ⟨fun _ => Std.lt_irrefl⟩
  have : Std.Antisymm fun x y : κ × α => x.1 < y.1 :=
    ⟨fun _ _ hxy hyx => absurd (Std.lt_trans hxy hyx) Std.lt_irrefl⟩
  refine ha.eq_of_mem_iff hb fun entry => ?_
  rw [← get?_eq_some_iff ha, h, get?_eq_some_iff hb]

/-! ## Plain values -/

/-- The value is in the form of its type already. -/
def ParamType.IsCanonical (type : ParamType) (v : Json) : Prop :=
  match type with
  | .int => ∃ n, v = .int n ∧ IsInt64 n
  | .float => ∃ n, v = .number n
  | .bool => ∃ b, v = .bool b
  | .alphanum => ∃ s, v = .string s ∧ ∀ c ∈ s.toList, isAlphanumeric c = true
  | .text | .raw => ∃ s, v = .string s
  | .url => ∃ s, v = .string s ∧
      (s = "" ∨ ∃ url, Url.parse s = .ok url ∧ url.host.isSome = true)
  | .email => ∃ s, v = .string s ∧ (s = "" ∨ isEmail s = true)

theorem checkUrl_eq_ok_iff {s : String} :
    checkUrl s = .ok () ↔ s = "" ∨ ∃ url, Url.parse s = .ok url ∧ url.host.isSome = true := by
  unfold checkUrl
  by_cases hs : s = ""
  · simp [hs]
  · have hempty : s.isEmpty = false := by simpa using hs
    rw [hempty, if_neg Bool.false_ne_true]
    cases hparse : Url.parse s with
    | error e => simp [hs]
    | ok url => by_cases hhost : url.host.isSome = true <;> simp [hs, hhost]

theorem bind_eq_ok_iff {ε α β : Type} {x : Except ε α} {f : α → Except ε β} {b : β} :
    (x >>= f) = .ok b ↔ ∃ a, x = .ok a ∧ f a = .ok b := by
  cases x with
  | error e => exact ⟨nofun, nofun⟩
  | ok a => exact ⟨fun h => ⟨a, rfl, h⟩, fun ⟨_, ha, h⟩ => by cases ha; exact h⟩

namespace ParamType

variable {type : ParamType} {v out : Json}

theorem isCanonical_of_coerce (h : type.coerce v = .ok out) : type.IsCanonical out := by
  cases type with
  | int =>
    cases hn : v.toInteger? with
    | none => simp [coerce, hn] at h
    | some n =>
      simp only [coerce, hn, Except.ok.injEq] at h
      exact ⟨n, h.symm, Json.isInt64_of_toInteger? hn⟩
  | float =>
    cases hn : v.toNumber? with
    | none => simp [coerce, hn] at h
    | some n =>
      simp only [coerce, hn, Except.ok.injEq] at h
      exact ⟨n, h.symm⟩
  | bool =>
    cases hb : v.toTruth? with
    | none => simp [coerce, hb] at h
    | some b =>
      simp only [coerce, hb, Except.ok.injEq] at h
      exact ⟨b, h.symm⟩
  | alphanum =>
    obtain ⟨s, -, h⟩ := bind_eq_ok_iff.1 h
    split at h
    · next hs => cases h; exact ⟨s, rfl, List.all_eq_true.1 hs⟩
    · cases h
  | text | raw =>
    obtain ⟨s, -, rfl⟩ := map_eq_ok_iff.1 h
    exact ⟨s, rfl⟩
  | url =>
    obtain ⟨s, -, h⟩ := bind_eq_ok_iff.1 h
    obtain ⟨_, hs, h⟩ := bind_eq_ok_iff.1 h
    cases h
    exact ⟨s, rfl, checkUrl_eq_ok_iff.1 hs⟩
  | email =>
    obtain ⟨s, -, h⟩ := bind_eq_ok_iff.1 h
    split at h
    · next hs => cases h; exact ⟨s, rfl, by simpa using hs⟩
    · cases h

theorem coerce_of_isCanonical (h : type.IsCanonical v) : type.coerce v = .ok v := by
  cases type with
  | int =>
    obtain ⟨n, rfl, hn⟩ := h
    simp [coerce, Json.toInteger?_int hn]
  | float =>
    obtain ⟨n, rfl⟩ := h
    rfl
  | bool =>
    obtain ⟨b, rfl⟩ := h
    rfl
  | alphanum =>
    obtain ⟨s, rfl, hs⟩ := h
    exact if_pos (List.all_eq_true.2 hs)
  | text | raw =>
    obtain ⟨s, rfl⟩ := h
    rfl
  | url =>
    obtain ⟨s, rfl, hs⟩ := h
    show (checkUrl s >>= fun _ => Except.ok (Json.string s)) = _
    rw [checkUrl_eq_ok_iff.2 hs]
    rfl
  | email =>
    obtain ⟨s, rfl, hs⟩ := h
    exact if_pos (by simpa using hs)

theorem IsCanonical.isNull_eq_false (h : type.IsCanonical v) : v.isNull = false := by
  cases type with
  | int | alphanum | url | email => obtain ⟨_, rfl, _⟩ := h; rfl
  | float | bool | text | raw => obtain ⟨_, rfl⟩ := h; rfl

end ParamType

/-! ## Values of any description -/

namespace Description

mutual

/-- The value has the described shape: plain values are in the form of their types; an object has
each key once, in order, no key but those of fields, and all fields that are not optional; lists
hold what conforms to their content. -/
def Conforms : Description → Json → Prop
  | .value type _ _, v => type.IsCanonical v
  | .single _ _ fields, v => ∃ members, v = .object members ∧ Keyed.Sorted members ∧
      v.HasOnly (Keyed.keys fields) ∧ FieldsConform fields members
  | .multiple _ _ content, v => ∃ items, v = .array items ∧ ∀ item ∈ items, Conforms content item

/-- The members of an object that fields describe conform. Only what is optional may be absent. -/
def FieldsConform : List (String × Description) → List (String × Json) → Prop
  | [], _ => True
  | (name, d) :: rest, members =>
    (match Keyed.get? name members with
      | some v => Conforms d v
      | none => d.presence = .optional) ∧ FieldsConform rest members

end

/-- The names of a structure's fields are distinct and every default is in its described form. -/
def WellFormed : Description → Prop :=
  Everywhere fun d => d.fieldNames.Nodup ∧ ∀ v, d.presence = .default v → d.Conforms v

theorem fieldsConform_iff {fields : List (String × Description)} {members : List (String × Json)} :
    FieldsConform fields members ↔ ∀ f ∈ fields,
      (∀ v, Keyed.get? f.1 members = some v → f.2.Conforms v) ∧
        (Keyed.get? f.1 members = none → f.2.presence = .optional) := by
  induction fields with
  | nil => simp [FieldsConform]
  | cons f rest ih =>
    rw [FieldsConform, ih, List.forall_mem_cons]
    cases Keyed.get? f.1 members <;> simp

theorem Conforms.ne_null {d : Description} {v : Json} (h : d.Conforms v) : v ≠ .null := by
  rintro rfl
  cases d with
  | value type =>
    have hnull := ParamType.IsCanonical.isNull_eq_false h
    cases hnull
  | single => obtain ⟨_, h, _⟩ := h; cases h
  | multiple => obtain ⟨_, h, _⟩ := h; cases h

/-! ## What was fitted conforms -/

section Fitted

variable {direction : Direction} {d : Description} {v out : Json}

theorem conforms_of_absent (hd : d.WellFormed) (h : d.presence.absent = .ok (some out)) :
    d.Conforms out := by
  refine hd.here.2 out ?_
  cases hpresence : d.presence with
  | default v => rw [hpresence] at h; cases h; rfl
  | _ => rw [hpresence] at h; cases h

theorem hasOnly_of_fitFields {fields : List (String × Description)}
    {given members : List (String × Json)}
    (h : fitFields direction fields given [] = .ok members) :
    (Json.object members).HasOnly (Keyed.keys fields) := by
  intro m hm
  by_contra hname
  have hget := get?_fitFields_of_notMem h hname
  rw [(Keyed.get?_eq_some_iff (fitFields_sorted h Keyed.sorted_nil)).2 hm] at hget
  cases hget

theorem conforms_of_fit (hd : d.WellFormed) (h : d.fit direction v = .ok (some out)) :
    d.Conforms out := by
  -- On the description. A default stands in for what is absent, at any depth, so each case begins
  -- with it; the parts of what is there were fitted by smaller descriptions.
  induction d generalizing v out with
  | value type desc presence =>
    cases hnull : v.isNull with
    | true =>
      cases v with
      | null => exact conforms_of_absent hd h
      | _ => cases hnull
    | false =>
      cases hcoerce : type.coerce v with
      | error r => simp [fit, hnull, hcoerce] at h
      | ok w =>
        simp only [fit, hnull, hcoerce] at h
        cases h
        exact ParamType.isCanonical_of_coerce hcoerce
  | single desc presence fields ih =>
    by_cases hv : v = .null
    · subst hv
      exact conforms_of_absent hd h
    · obtain ⟨given, rfl⟩ := eq_object_of_fit h hv
      obtain ⟨-, members, hfields, heq⟩ := fit_object_eq_ok_iff.1 h
      cases heq
      refine ⟨members, rfl, fitFields_sorted hfields Keyed.sorted_nil,
        hasOnly_of_fitFields hfields, fieldsConform_iff.2 fun f hf => ?_⟩
      have hfit := get?_fitFields hd.here.1 (by simp) hfields f hf
      exact ⟨fun w hw => ih f hf (hd.field f hf) (hw ▸ hfit),
        fun hnone => (fit_eq_none_iff.1 (hnone ▸ hfit)).2⟩
  | multiple desc presence content ih =>
    by_cases hv : v = .null
    · subst hv
      exact conforms_of_absent hd h
    · obtain ⟨items, rfl⟩ := eq_array_of_fit h hv
      obtain ⟨fitted, hitems, heq⟩ := fit_array_eq_ok_iff.1 h
      cases heq
      refine ⟨fitted, rfl, fun item hitem => ?_⟩
      obtain ⟨w, -, hfit⟩ := mem_of_fitItems hitems item hitem
      exact ih hd.2 hfit

end Fitted

/-! ## What conforms is left alone -/

section Conforming

variable {direction : Direction} {d : Description} {v : Json}

theorem fitFields_eq_ok_iff {fields : List (String × Description)}
    {given members : List (String × Json)} (hnames : (Keyed.keys fields).Nodup) :
    fitFields direction fields given [] = .ok members ↔
      Keyed.Sorted members ∧ (Json.object members).HasOnly (Keyed.keys fields) ∧
        ∀ f ∈ fields, fitField direction given f = .ok (Keyed.get? f.1 members) := by
  constructor
  · intro h
    exact ⟨fitFields_sorted h Keyed.sorted_nil, hasOnly_of_fitFields h,
      get?_fitFields hnames (by simp) h⟩
  rintro ⟨hsorted, honly, hfit⟩
  obtain ⟨result, hresult⟩ : ∃ result, fitFields direction fields given [] = .ok result :=
    fitFields_isOk fun f hf => ⟨_, hfit f hf⟩
  rw [hresult]
  refine congrArg Except.ok ?_
  -- Both tables are sorted, so it is enough that they agree on every name, declared or not.
  refine Keyed.eq_of_get?_eq (fitFields_sorted hresult Keyed.sorted_nil) hsorted fun name => ?_
  by_cases hname : name ∈ Keyed.keys fields
  · obtain ⟨f, hf, rfl⟩ := List.mem_map.1 hname
    have hgot := get?_fitFields hnames (by simp) hresult f hf
    rw [hfit f hf, Except.ok.injEq] at hgot
    exact hgot.symm
  · rw [get?_fitFields_of_notMem hresult hname, Keyed.get?_nil]
    cases hget : Keyed.get? name members with
    | none => rfl
    | some w => exact absurd (honly _ (Keyed.mem_of_get? hget)) hname

theorem fit_of_conforms (hd : d.WellFormed) (h : d.Conforms v) :
    d.fit direction v = .ok (some v) := by
  induction d generalizing v with
  | value type desc presence =>
    simp [fit, ParamType.IsCanonical.isNull_eq_false h, ParamType.coerce_of_isCanonical h]
  | single desc presence fields ih =>
    obtain ⟨members, rfl, hsorted, honly, hconform⟩ := h
    refine fit_object_eq_ok_iff.2 ⟨fun _ => honly, members, ?_, rfl⟩
    refine (fitFields_eq_ok_iff hd.here.1).2 ⟨hsorted, honly, fun f hf => ?_⟩
    obtain ⟨hpresent, habsent⟩ := fieldsConform_iff.1 hconform f hf
    -- Absent members are those of optional fields: a default would have been filled in.
    cases hget : Keyed.get? f.1 members with
    | some w => rw [fitField, hget]; exact ih f hf (hd.field f hf) (hpresent w hget)
    | none => rw [fitField, hget]; exact fit_eq_none_iff.2 ⟨rfl, habsent hget⟩
  | multiple desc presence content ih =>
    obtain ⟨items, rfl, hitems⟩ := h
    have hfit : fitItems (content.fit direction) 0 (items.map id) = .ok (items.map id) :=
      fitItems_map (fun item hitem => ih hd.2 (hitems item hitem)) 0
    rw [List.map_id] at hfit
    exact fit_array_eq_ok_iff.2 ⟨items, hfit, rfl⟩

end Conforming

/-! ## Cleaning and validating -/

section Boundary

variable {d : Description} {v r : Json} {members : List (String × Json)}

theorem cleanResult_eq_ok_iff :
    cleanResult d v = .ok r ↔ ∃ out, d.fit .output v = .ok out ∧ r = out.getD .null := by
  unfold cleanResult
  cases d.fit .output v <;> simp [@eq_comm _ r]

theorem validateArguments_eq_ok_iff_fit :
    validateArguments d v = .ok members ↔ d.IsStructure ∧
      d.fit .input (if v.isNull then .object [] else v) = .ok (some (.object members)) := by
  cases d with
  | single desc presence fields =>
    simp only [IsStructure, true_and, validateArguments]
    split <;> simp_all
  | _ => simp [validateArguments, IsStructure]

theorem clean_of_conforms (hd : d.WellFormed) (h : d.Conforms v) : cleanResult d v = .ok v :=
  cleanResult_eq_ok_iff.2 ⟨some v, fit_of_conforms hd h, rfl⟩

theorem validate_of_conforms (hd : d.WellFormed) (hs : d.IsStructure)
    (h : d.Conforms (.object members)) : validateArguments d (.object members) = .ok members :=
  validateArguments_eq_ok_iff_fit.2 ⟨hs, fit_of_conforms hd h⟩

theorem conforms_of_clean (hd : d.WellFormed) (h : cleanResult d v = .ok r) (hr : r ≠ .null) :
    d.Conforms r := by
  obtain ⟨out, hfit, rfl⟩ := cleanResult_eq_ok_iff.1 h
  cases out with
  | none => exact absurd rfl hr
  | some r => exact conforms_of_fit hd hfit

theorem conforms_of_validate (hd : d.WellFormed) (h : validateArguments d v = .ok members) :
    d.Conforms (.object members) :=
  conforms_of_fit hd (validateArguments_eq_ok_iff_fit.1 h).2

theorem eq_null_of_clean (hd : d.WellFormed) (h : cleanResult d v = .ok .null) : v = .null := by
  obtain ⟨out, hfit, hout⟩ := cleanResult_eq_ok_iff.1 h
  cases out with
  | none => exact (fit_eq_none_iff.1 hfit).1
  | some r => exact absurd hout.symm (conforms_of_fit hd hfit).ne_null

/-- Cleaning and validating bring a value to the described form, and leave alone what has it. -/
structure Retracts (d : Description) (v : Json) : Prop where
  cleaned_conforms : ∀ r, cleanResult d v = .ok r → r ≠ .null → d.Conforms r
  validated_conforms : ∀ members, validateArguments d v = .ok members →
    d.Conforms (.object members)
  conforming_cleaned : d.Conforms v → cleanResult d v = .ok v
  conforming_validated : d.IsStructure → d.Conforms v →
    (validateArguments d v).map .object = .ok v
  cleaned_twice : ∀ r, cleanResult d v = .ok r → cleanResult d r = .ok r
  validated_twice : ∀ members, validateArguments d v = .ok members →
    validateArguments d (.object members) = .ok members

theorem retracts (hd : d.WellFormed) (v : Json) : d.Retracts v where
  cleaned_conforms _ := conforms_of_clean hd
  validated_conforms _ := conforms_of_validate hd
  conforming_cleaned := clean_of_conforms hd
  conforming_validated hs h := by
    cases d with
    | single desc presence fields =>
      have hobject := h
      obtain ⟨members, rfl, -⟩ := hobject
      exact map_eq_ok_iff.2 ⟨members, validate_of_conforms hd hs h, rfl⟩
    | _ => cases hs
  cleaned_twice r h := by
    -- Nothing does not conform, but only nothing is cleaned to it.
    by_cases hr : r = .null
    · subst hr
      rwa [eq_null_of_clean hd h] at h
    · exact clean_of_conforms hd (conforms_of_clean hd h hr)
  validated_twice members h :=
    validate_of_conforms hd (validateArguments_eq_ok_iff_fit.1 h).1 (conforms_of_validate hd h)

end Boundary

/-! ## An example -/

/-- A visit with a default and a list of notes that need not be there. -/
def visit : Description :=
  .structureOf "visit" [
    ("room", .plain .int ""),
    ("start", .withDefault (.int 0) (.plain .int "")),
    ("notes", .optional (.listOf
      (.structureOf "note" [
        ("text", .plain .text ""),
        ("pinned", .withDefault (.bool false) (.plain .bool ""))]) ""))]

/-- A visit is brought to its form, without what nobody declares, and stays as it is then. -/
theorem visit_retracts :
    let given : Json := .object [
      ("notes", .array [.object [("colour", .string "red"), ("text", .bool true)]]),
      ("room", .string " 7 ")]
    let cleaned : Json := .object [
      ("notes", .array [.object [("pinned", .bool false), ("text", .string "1")]]),
      ("room", .int 7), ("start", .int 0)]
    visit.WellFormed ∧ cleanResult visit given = .ok cleaned ∧ visit.Conforms cleaned ∧
      cleanResult visit cleaned = .ok cleaned := by
  intro given cleaned
  have hd : visit.WellFormed := by
    simp [visit, WellFormed, structureOf, plain, withDefault, optional, withPresence, listOf,
      Everywhere, EveryField, fieldNames, fields, presence, Conforms, ParamType.IsCanonical]
    exact ⟨0, rfl, by decide⟩
  have hclean : cleanResult visit given = .ok cleaned := by rfl
  have hretracts := retracts hd given
  have hnull : cleaned ≠ .null := by simp [cleaned]
  exact ⟨hd, hclean, hretracts.cleaned_conforms cleaned hclean hnull,
    hretracts.cleaned_twice cleaned hclean⟩

end Description

end Campus
