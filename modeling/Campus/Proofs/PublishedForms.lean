import Campus.Proofs.RecordReading

/-!
# What the published form tells

The published form of a description loses nothing but the order of fields: two descriptions are
published alike if and only if they are one but for that order. The order does not decide what is
accepted, nor as what, so that is told by the published form.
-/

namespace Campus

theorem ParamType.name_injective {a b : ParamType} (h : a.name = b.name) : a = b := by
  cases a <;> cases b <;> first | rfl | exact absurd h (by decide)

theorem ParamType.name_ne (type : ParamType) : type.name ≠ "object" ∧ type.name ≠ "list" := by
  cases type <;> decide

theorem Keyed.get?_append {κ α : Type} [DecidableEq κ] (key : κ) (a b : List (κ × α)) :
    get? key (a ++ b) = (get? key a).or (get? key b) := by
  induction a with
  | nil => rfl
  | cons entry rest ih =>
    rw [List.cons_append, get?_cons, get?_cons, ih]
    split <;> rfl

namespace Description

/-- The descriptions are one but for the order of fields, at every depth. -/
inductive Reordered : Description → Description → Prop
  | value (type : ParamType) (desc : String) (presence : Presence) :
      Reordered (.value type desc presence) (.value type desc presence)
  | single {desc : String} {presence : Presence} {fields others : List (String × Description)}
      (names : (Keyed.keys fields).Perm (Keyed.keys others))
      (same : ∀ f ∈ fields, ∀ g ∈ others, f.1 = g.1 → Reordered f.2 g.2) :
      Reordered (.single desc presence fields) (.single desc presence others)
  | multiple {desc : String} {presence : Presence} {content other : Description}
      (same : Reordered content other) :
      Reordered (.multiple desc presence content) (.multiple desc presence other)

/-! ## The published members -/

/-- The members of the published form that tell what is described, not whether it must be there. -/
def ownMembers : Description → List (String × Json)
  | .value type desc _ => [("type", .string type.name), ("desc", .string desc)]
  | .single desc _ fields =>
    [("type", .string "object"), ("desc", .string desc), ("keys", .ofMembers (fieldsToJson fields))]
  | .multiple desc _ content =>
    [("type", .string "list"), ("desc", .string desc), ("content", content.toJson)]

section Members

variable {d e : Description} {fields others : List (String × Description)} {p q : Presence}
  {key : String}

theorem toJson_eq_ofMembers (d : Description) :
    d.toJson = .ofMembers (d.ownMembers ++ presenceMembers d.presence) := by
  cases d <;> rfl

theorem nodup_keys_published (d : Description) :
    (Keyed.keys (d.ownMembers ++ presenceMembers d.presence)).Nodup := by
  cases d <;> cases hpresence : presence _ <;> simp [ownMembers, presenceMembers, Keyed.keys]

theorem get?_ownMembers_of_mem (hkey : key ∈ ["required", "default"]) (d : Description) :
    Keyed.get? key d.ownMembers = none := by
  simp only [List.mem_cons, List.not_mem_nil, or_false] at hkey
  cases d <;> rcases hkey with rfl | rfl <;> simp [ownMembers, Keyed.get?_cons]

theorem get?_presenceMembers_of_notMem (hkey : key ∉ ["required", "default"]) (p : Presence) :
    Keyed.get? key (presenceMembers p) = none := by
  simp only [List.mem_cons, List.not_mem_nil, or_false, not_or] at hkey
  cases p <;> simp [presenceMembers, Keyed.get?_cons, Ne.symm hkey.1, Ne.symm hkey.2]

theorem presence_eq
    (h : ∀ key, Keyed.get? key (presenceMembers p) = Keyed.get? key (presenceMembers q)) :
    p = q := by
  have hrequired := h "required"
  have hdefault := h "default"
  cases p <;> cases q <;> simp_all [presenceMembers, Keyed.get?_cons]

theorem toJson_eq_iff : d.toJson = e.toJson ↔
    (∀ key, Keyed.get? key d.ownMembers = Keyed.get? key e.ownMembers) ∧
      d.presence = e.presence := by
  rw [toJson_eq_ofMembers, toJson_eq_ofMembers, Json.ofMembers, Json.ofMembers,
    Json.object.injEq, Keyed.ofList_eq_iff (nodup_keys_published d) (nodup_keys_published e)]
  simp only [Keyed.get?_append]
  constructor
  · intro h
    -- No name is of both kinds of members, so each kind is told by itself.
    refine ⟨fun key => ?_, presence_eq fun key => ?_⟩
    all_goals
      have hkey := h key
      by_cases hname : key ∈ ["required", "default"]
    · rw [get?_ownMembers_of_mem hname, get?_ownMembers_of_mem hname]
    · simpa only [get?_presenceMembers_of_notMem hname, Option.or_none] using hkey
    · simpa only [get?_ownMembers_of_mem hname, Option.none_or] using hkey
    · rw [get?_presenceMembers_of_notMem hname, get?_presenceMembers_of_notMem hname]
  · rintro ⟨hown, hpresence⟩ key
    rw [hown, hpresence]

theorem keys_fieldsToJson (fields : List (String × Description)) :
    Keyed.keys (fieldsToJson fields) = Keyed.keys fields := by
  induction fields with
  | nil => rfl
  | cons f rest ih => exact congrArg (f.1 :: ·) ih

theorem get?_fieldsToJson (name : String) (fields : List (String × Description)) :
    Keyed.get? name (fieldsToJson fields) = (Keyed.get? name fields).map toJson := by
  induction fields with
  | nil => rfl
  | cons f rest ih =>
    rw [fieldsToJson, Keyed.get?_cons, Keyed.get?_cons, ih]
    split <;> rfl

theorem ofMembers_fieldsToJson_eq_iff (hfields : (Keyed.keys fields).Nodup)
    (hothers : (Keyed.keys others).Nodup) :
    Json.ofMembers (fieldsToJson fields) = Json.ofMembers (fieldsToJson others) ↔
      ∀ name, (Keyed.get? name fields).map toJson = (Keyed.get? name others).map toJson := by
  rw [← keys_fieldsToJson] at hfields hothers
  simp only [Json.ofMembers, Json.object.injEq, Keyed.ofList_eq_iff hfields hothers,
    get?_fieldsToJson]

end Members

/-! ## What the published form tells of a description -/

section Rendering

variable {d e : Description} {fields others : List (String × Description)}

theorem keys_perm_of_get?_eq (hfields : (Keyed.keys fields).Nodup)
    (hothers : (Keyed.keys others).Nodup)
    (h : ∀ name, (Keyed.get? name fields).map toJson = (Keyed.get? name others).map toJson) :
    (Keyed.keys fields).Perm (Keyed.keys others) := by
  refine (List.perm_ext_iff_of_nodup hfields hothers).2 fun name => ?_
  rw [← Keyed.contains_iff_mem_keys, ← Keyed.contains_iff_mem_keys, Keyed.contains,
    Keyed.contains, ← Option.isSome_map, h, Option.isSome_map]

theorem toJson_eq_of_get?_eq (hfields : (Keyed.keys fields).Nodup)
    (hothers : (Keyed.keys others).Nodup)
    (h : ∀ name, (Keyed.get? name fields).map toJson = (Keyed.get? name others).map toJson) :
    ∀ f ∈ fields, ∀ g ∈ others, f.1 = g.1 → f.2.toJson = g.2.toJson := by
  intro f hf g hg hname
  have hlook := h f.1
  rw [get?_of_mem_fields hfields f hf, hname, get?_of_mem_fields hothers g hg] at hlook
  exact Option.some.inj hlook

theorem reordered_of_toJson_eq (hd : d.DistinctNames) (he : e.DistinctNames)
    (h : d.toJson = e.toJson) : d.Reordered e := by
  -- On one description; the members tell that the other is of the same kind and has like parts.
  induction d generalizing e
  all_goals
    obtain ⟨hown, hpresence⟩ := toJson_eq_iff.1 h
    have htype := hown "type"
    have hdesc := hown "desc"
  case value type desc presence =>
    cases e with
    | value type' desc' presence' =>
      simp only [ownMembers, Keyed.get?_cons, if_true, String.reduceEq, if_false,
        Option.some.injEq, Json.string.injEq] at htype hdesc
      cases ParamType.name_injective htype
      cases hdesc
      cases hpresence
      exact .value type desc presence
    | _ => simp [ownMembers, Keyed.get?_cons, type.name_ne] at htype
  case single desc presence fields ih =>
    cases e with
    | value type' => simp [ownMembers, Keyed.get?_cons, type'.name_ne.1.symm] at htype
    | single desc' presence' others =>
      have hkeys := hown "keys"
      simp only [ownMembers, Keyed.get?_cons, if_true, String.reduceEq, if_false,
        Option.some.injEq, Json.string.injEq] at hdesc hkeys
      cases hdesc
      cases hpresence
      have hlook := (ofMembers_fieldsToJson_eq_iff hd.nodup he.nodup).1 hkeys
      refine .single (keys_perm_of_get?_eq hd.nodup he.nodup hlook) fun f hf g hg hname => ?_
      exact ih f hf (hd.field f hf) (he.field g hg)
        (toJson_eq_of_get?_eq hd.nodup he.nodup hlook f hf g hg hname)
    | multiple => simp [ownMembers, Keyed.get?_cons] at htype
  case multiple desc presence content ih =>
    cases e with
    | value type' => simp [ownMembers, Keyed.get?_cons, type'.name_ne.2.symm] at htype
    | single => simp [ownMembers, Keyed.get?_cons] at htype
    | multiple desc' presence' other =>
      have hcontent := hown "content"
      simp only [ownMembers, Keyed.get?_cons, if_true, String.reduceEq, if_false,
        Option.some.injEq, Json.string.injEq] at hdesc hcontent
      cases hdesc
      cases hpresence
      exact .multiple (ih hd.2 he.2 hcontent)

theorem exists_mem_of_keys_perm (h : (Keyed.keys fields).Perm (Keyed.keys others)) :
    ∀ g ∈ others, ∃ f ∈ fields, f.1 = g.1 := by
  intro g hg
  exact List.mem_map.1 (h.mem_iff.2 (List.mem_map_of_mem hg))

theorem Reordered.toJson_eq (h : d.Reordered e) (hd : d.DistinctNames) (he : e.DistinctNames) :
    d.toJson = e.toJson := by
  induction h with
  | value => rfl
  | @single desc presence fields others names same ih =>
    have hkeys : Json.ofMembers (fieldsToJson fields) = .ofMembers (fieldsToJson others) := by
      refine (ofMembers_fieldsToJson_eq_iff hd.nodup he.nodup).2 fun name => ?_
      by_cases hname : name ∈ Keyed.keys others
      · obtain ⟨g, hg, rfl⟩ := List.mem_map.1 hname
        obtain ⟨f, hf, heq⟩ := exists_mem_of_keys_perm names g hg
        rw [get?_of_mem_fields he.nodup g hg, ← heq, get?_of_mem_fields hd.nodup f hf]
        exact congrArg some (ih f hf g hg heq (hd.field f hf) (he.field g hg))
      · rw [Keyed.get?_eq_none_of_notMem hname,
          Keyed.get?_eq_none_of_notMem (mt names.mem_iff.1 hname)]
    rw [toJson, toJson, hkeys]
  | multiple same ih => rw [toJson, toJson, ih hd.2 he.2]

end Rendering

/-! ## The order of fields -/

section Order

variable {direction : Direction} {d e : Description} {v : Json} {out : Option Json}
  {fields others : List (String × Description)} {given members : List (String × Json)}

theorem fitItems_congr {fit fit' : Json → Except Misfit (Option Json)}
    (h : ∀ v out, fit v = .ok out ↔ fit' v = .ok out) {index : Nat} {items fitted : List Json} :
    fitItems fit index items = .ok fitted ↔ fitItems fit' index items = .ok fitted := by
  induction items generalizing index fitted with
  | nil => rfl
  | cons v rest ih => simp only [fitItems_cons_eq_ok_iff, h, ih]

theorem fitFields_reordered (hfields : (Keyed.keys fields).Nodup)
    (hothers : (Keyed.keys others).Nodup)
    (hnames : (Keyed.keys fields).Perm (Keyed.keys others))
    (hsame : ∀ f ∈ fields, ∀ g ∈ others, f.1 = g.1 → ∀ out,
      fitField direction given f = .ok out ↔ fitField direction given g = .ok out) :
    fitFields direction fields given [] = .ok members ↔
      fitFields direction others given [] = .ok members := by
  rw [fitFields_eq_ok_iff hfields, fitFields_eq_ok_iff hothers]
  refine and_congr_right fun _ => and_congr ?_ ⟨fun h g hg => ?_, fun h f hf => ?_⟩
  · exact forall₂_congr fun m _ => hnames.mem_iff
  · obtain ⟨f, hf, hname⟩ := exists_mem_of_keys_perm hnames g hg
    exact hname ▸ (hsame f hf g hg hname _).1 (h f hf)
  · obtain ⟨g, hg, hname⟩ := exists_mem_of_keys_perm hnames.symm f hf
    exact hname ▸ (hsame f hf g hg hname.symm _).2 (h g hg)

theorem Reordered.fit_eq_ok_iff (h : d.Reordered e) (hd : d.DistinctNames)
    (he : e.DistinctNames) : d.fit direction v = .ok out ↔ e.fit direction v = .ok out := by
  induction h generalizing v out with
  | value => rfl
  | @single desc presence fields others names same ih =>
    cases v with
    | object given =>
      have honly : (Json.object given).HasOnly (Keyed.keys fields) ↔
          (Json.object given).HasOnly (Keyed.keys others) :=
        forall₂_congr fun m _ => names.mem_iff
      have hfields : ∀ members, fitFields direction fields given [] = .ok members ↔
          fitFields direction others given [] = .ok members := by
        intro members
        refine fitFields_reordered hd.nodup he.nodup names fun f hf g hg hname _ => ?_
        rw [fitField, fitField, hname]
        exact ih f hf g hg hname (hd.field f hf) (he.field g hg)
      simp only [fit_object_eq_ok_iff, honly, hfields]
    | _ => simp [fit]
  | @multiple desc presence content other same ih =>
    cases v with
    | array items =>
      have hitems : ∀ fitted, fitItems (content.fit direction) 0 items = .ok fitted ↔
          fitItems (other.fit direction) 0 items = .ok fitted :=
        fun _ => fitItems_congr fun _ _ => ih hd.2 he.2
      simp only [fit_array_eq_ok_iff, hitems]
    | _ => simp [fit]

theorem Reordered.isStructure_iff (h : d.Reordered e) : d.IsStructure ↔ e.IsStructure := by
  cases h <;> rfl

/-- Descriptions are published alike if and only if they are one but for the order of fields, and
then the same arguments and results are accepted, and become the same. -/
theorem published_alike (hd : d.DistinctNames) (he : e.DistinctNames) :
    (d.toJson = e.toJson ↔ d.Reordered e) ∧
    (d.toJson = e.toJson → ∀ v,
      (∀ members, validateArguments d v = .ok members ↔ validateArguments e v = .ok members) ∧
      ∀ r, cleanResult d v = .ok r ↔ cleanResult e v = .ok r) := by
  refine ⟨⟨reordered_of_toJson_eq hd he, fun h => h.toJson_eq hd he⟩, fun h v => ?_⟩
  have hreordered := reordered_of_toJson_eq hd he h
  constructor
  · intro members
    rw [validateArguments_eq_ok_iff_fit, validateArguments_eq_ok_iff_fit,
      hreordered.isStructure_iff, hreordered.fit_eq_ok_iff hd he]
  · intro r
    simp only [cleanResult_eq_ok_iff, hreordered.fit_eq_ok_iff hd he]

end Order

/-! ## An example -/

/-- A visit with its fields, and those of its notes, in another order. -/
def visitReordered : Description :=
  .structureOf "visit" [
    ("notes", .optional (.listOf
      (.structureOf "note" [
        ("pinned", .withDefault (.bool false) (.plain .bool "")),
        ("text", .plain .text "")]) "")),
    ("start", .withDefault (.int 0) (.plain .int "")),
    ("room", .plain .int "")]

/-- Both orders are published alike, so a call may be checked by either. -/
theorem visit_published_alike :
    visit.DistinctNames ∧ visitReordered.DistinctNames ∧ visit.toJson = visitReordered.toJson ∧
      visit.Reordered visitReordered ∧ ∀ v members,
        validateArguments visit v = .ok members ↔
          validateArguments visitReordered v = .ok members := by
  have hd : visit.DistinctNames := by
    simp [visit, DistinctNames, structureOf, plain, withDefault, optional, withPresence, listOf,
      Everywhere, EveryField, fieldNames, fields]
  have he : visitReordered.DistinctNames := by
    simp [visitReordered, DistinctNames, structureOf, plain, withDefault, optional, withPresence,
      listOf, Everywhere, EveryField, fieldNames, fields]
  have hsame : visit.toJson = visitReordered.toJson := by rfl
  obtain ⟨hiff, halike⟩ := published_alike hd he
  exact ⟨hd, he, hsame, hiff.1 hsame, fun v => (halike hsame v).1⟩

end Description

end Campus
