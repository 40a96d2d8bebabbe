import Campus.Proofs.Envelope
import Campus.Proofs.Pruning

/-!
# Results without nulls

A member that is null says no more than one that is absent. A value is kept by a description if
fitting changes nothing but that null members are dropped. Whether it is kept is told part by part:
a structure is kept if each of its fields keeps its member, and refused if one of them refuses it.
-/

namespace Campus

/-! ## Tables of entries with distinct keys -/

namespace Keyed

variable {α : Type}

theorem get?_eq_none_of_notMem {key : String} {table : List (String × α)}
    (h : key ∉ keys table) : get? key table = none := by
  cases hget : get? key table with
  | none => rfl
  | some v => exact absurd (List.mem_map_of_mem (mem_of_get? hget)) h

theorem sorted_foldl_insert (entries : List (String × α)) {table : List (String × α)}
    (h : Sorted table) :
    Sorted (entries.foldl (fun table entry => insert entry.1 entry.2 table) table) := by
  induction entries generalizing table with
  | nil => exact h
  | cons entry rest ih => exact ih (sorted_insert entry.1 entry.2 h)

theorem sorted_ofList (entries : List (String × α)) : Sorted (ofList entries) :=
  sorted_foldl_insert entries sorted_nil

theorem get?_foldl_insert {entries : List (String × α)} (h : (keys entries).Nodup) (key : String)
    (table : List (String × α)) :
    get? key (entries.foldl (fun table entry => insert entry.1 entry.2 table) table) =
      (get? key entries).or (get? key table) := by
  induction entries generalizing table with
  | nil => rfl
  | cons entry rest ih =>
    obtain ⟨hentry, hrest⟩ := List.nodup_cons.1 h
    rw [List.foldl_cons, ih hrest, get?_cons]
    by_cases hkey : entry.1 = key
    · subst hkey
      rw [get?_eq_none_of_notMem hentry, get?_insert_self, if_pos rfl]
      rfl
    · rw [get?_insert_of_ne hkey, if_neg hkey]

theorem get?_ofList {entries : List (String × α)} (h : (keys entries).Nodup) (key : String) :
    get? key (ofList entries) = get? key entries := by
  rw [ofList, get?_foldl_insert h, get?_nil, Option.or_none]

end Keyed

/-! ## Dropping nulls -/

namespace Json

mutual

/-- The value without the null members of its objects, at every depth. -/
def withoutNulls : Json → Json
  | .array items => .array (itemsWithoutNulls items)
  | .object members => .object (membersWithoutNulls members)
  | v => v

def itemsWithoutNulls : List Json → List Json
  | [] => []
  | v :: rest => withoutNulls v :: itemsWithoutNulls rest

def membersWithoutNulls : List (String × Json) → List (String × Json)
  | [] => []
  | (name, v) :: rest =>
    if v.isNull then membersWithoutNulls rest
    else (name, withoutNulls v) :: membersWithoutNulls rest

end

/-- What is left of a member; none if it is null. -/
def present? (v : Json) : Option Json := if v.isNull then none else some v.withoutNulls

theorem int_ne_null (n : Int) : int n ≠ .null := nofun

theorem isNull_eq_false {v : Json} (h : v ≠ .null) : v.isNull = false := by
  cases v <;> simp_all [isNull]

theorem present?_of_ne_null {v : Json} (h : v ≠ .null) : v.present? = some v.withoutNulls := by
  rw [present?, isNull_eq_false h]
  rfl

theorem mem_membersWithoutNulls {m : String × Json} {members : List (String × Json)}
    (h : m ∈ membersWithoutNulls members) : m.1 ∈ Keyed.keys members := by
  induction members with
  | nil => cases h
  | cons first rest ih =>
    rw [membersWithoutNulls] at h
    split at h
    · exact List.mem_cons_of_mem _ (ih h)
    · rcases List.mem_cons.1 h with rfl | h
      · exact List.mem_cons_self
      · exact List.mem_cons_of_mem _ (ih h)

theorem sorted_membersWithoutNulls {members : List (String × Json)} (h : Keyed.Sorted members) :
    Keyed.Sorted (membersWithoutNulls members) := by
  induction members with
  | nil => exact h
  | cons first rest ih =>
    obtain ⟨hfirst, hrest⟩ := List.pairwise_cons.1 h
    rw [membersWithoutNulls]
    split
    · exact ih hrest
    · refine List.pairwise_cons.2 ⟨fun m hm => ?_, ih hrest⟩
      obtain ⟨given, hgiven, hname⟩ := List.mem_map.1 (mem_membersWithoutNulls hm)
      exact hname ▸ hfirst given hgiven

theorem get?_membersWithoutNulls (name : String) {members : List (String × Json)}
    (h : Keyed.Sorted members) :
    Keyed.get? name (membersWithoutNulls members) =
      ((Keyed.get? name members).getD .null).present? := by
  induction members with
  | nil => rfl
  | cons first rest ih =>
    obtain ⟨hfirst, hrest⟩ := List.pairwise_cons.1 h
    rw [membersWithoutNulls, Keyed.get?_cons]
    by_cases hname : first.1 = name
    · subst hname
      -- The keys after the first are greater, so its own is not among them.
      have hnot : first.1 ∉ Keyed.keys rest := by
        intro hmem
        obtain ⟨m, hm, heq⟩ := List.mem_map.1 hmem
        exact Std.lt_irrefl (heq ▸ hfirst m hm)
      rw [if_pos rfl, Option.getD_some, present?]
      split
      · rw [ih hrest, Keyed.get?_eq_none_of_notMem hnot]
        rfl
      · exact if_pos rfl
    · rw [if_neg hname, ← ih hrest]
      split
      · rfl
      · exact if_neg hname

theorem get?_filter_present (name : String) {entries : List (String × Json)}
    (h : (Keyed.keys entries).Nodup) :
    (Keyed.get? name (entries.filter fun e => !e.2.isNull)).getD .null =
      (Keyed.get? name entries).getD .null := by
  induction entries with
  | nil => rfl
  | cons first rest ih =>
    obtain ⟨hfirst, hrest⟩ := List.nodup_cons.1 h
    rw [Keyed.get?_cons, List.filter_cons]
    cases hnull : first.2.isNull with
    | true =>
      rw [Bool.not_true, if_neg Bool.false_ne_true, ih hrest]
      split
      · next hname =>
        have hnone : first.2 = .null := by
          cases hv : first.2 with
          | null => rfl
          | _ => rw [hv] at hnull; cases hnull
        rw [Keyed.get?_eq_none_of_notMem (hname ▸ hfirst), hnone]
        rfl
      · rfl
    | false =>
      rw [Bool.not_false, if_pos rfl, Keyed.get?_cons]
      split
      · rfl
      · exact ih hrest

theorem filter_present_cons {name : String} {v : Json} (hv : v ≠ .null)
    (rest : List (String × Json)) :
    ((name, v) :: rest).filter (fun e => !e.2.isNull) =
      (name, v) :: rest.filter fun e => !e.2.isNull := by
  rw [List.filter_cons, isNull_eq_false hv]
  rfl

theorem filter_present_ofOption {α : Type} {encode : α → Json} (hencode : ∀ a, encode a ≠ .null)
    (name : String) (o : Option α) (rest : List (String × Json)) :
    ((name, ofOption encode o) :: rest).filter (fun e => !e.2.isNull) =
      (o.toList.map fun a => (name, encode a)) ++ rest.filter fun e => !e.2.isNull := by
  cases o with
  | none => rfl
  | some a => exact filter_present_cons (hencode a) rest

theorem nodup_keys_filter {entries : List (String × Json)} (h : (Keyed.keys entries).Nodup) :
    (Keyed.keys (entries.filter fun e => !e.2.isNull)).Nodup :=
  h.sublist (List.filter_sublist.map _)

end Json

theorem Warning.toJson_eq_filter (w : Warning) :
    w.toJson = .ofMembers
      ([("item", .ofOption .string w.item), ("itemid", .ofOption .int w.itemid),
        ("warningcode", .string w.warningcode), ("message", .string w.message)].filter
          fun e => !e.2.isNull) := by
  simp only [toJson, Json.filter_present_cons, Json.filter_present_ofOption, Json.int_ne_null,
    ne_eq, reduceCtorEq, not_false_eq_true, implies_true, List.filter_nil, List.append_assoc]

/-! ## Values that are kept -/

/-- The text is empty or a URL with a host. -/
def IsLink (s : String) : Prop :=
  s = "" ∨ ∃ url, Url.parse s = .ok url ∧ url.host.isSome = true

/-- The text is empty or an address of email. -/
def IsAddress (s : String) : Prop := s = "" ∨ isEmail s = true

/-- The form of the type is a text. -/
def ParamType.IsTextual : ParamType → Prop
  | .int | .float | .bool => False
  | .alphanum | .text | .url | .email | .raw => True

theorem ParamType.IsTextual.eq_string_of_coerce {type : ParamType} (htype : type.IsTextual)
    {v out : Json} (h : type.coerce v = .ok out) :
    ∃ s, v.scalarText? = .ok s ∧ out = .string s := by
  cases type with
  | int | float | bool => cases htype
  | text | raw =>
    obtain ⟨s, hs, rfl⟩ := map_eq_ok_iff.1 h
    exact ⟨s, hs, rfl⟩
  | url =>
    obtain ⟨s, hs, h⟩ := bind_eq_ok_iff.1 h
    obtain ⟨_, -, h⟩ := bind_eq_ok_iff.1 h
    cases h
    exact ⟨s, hs, rfl⟩
  | alphanum | email =>
    obtain ⟨s, hs, h⟩ := bind_eq_ok_iff.1 h
    split at h
    · cases h
      exact ⟨s, hs, rfl⟩
    · cases h

namespace Description

/-- The value fits under a condition, and then it is kept without its null members. -/
structure KeptIff (d : Description) (v : Json) (P : Prop) : Prop where
  kept : P → d.fit .output v = .ok v.present?
  refused : ¬P → ∃ m, d.fit .output v = .error m

section Kept

variable {d : Description} {v : Json} {desc : String} {P Q : Prop}

theorem KeptIff.congr (h : d.KeptIff v P) (hiff : P ↔ Q) : d.KeptIff v Q where
  kept hq := h.kept (hiff.2 hq)
  refused hq := h.refused (mt hiff.1 hq)

theorem KeptIff.iff_fits (h : d.KeptIff v P) : P ↔ ∃ out, d.fit .output v = .ok out := by
  constructor
  · intro hp
    exact ⟨_, h.kept hp⟩
  · rintro ⟨out, hout⟩
    by_contra hp
    obtain ⟨m, hm⟩ := h.refused hp
    rw [hm] at hout
    cases hout

/-! ### Plain values -/

theorem keptIff_plain {type : ParamType} (hnull : v.isNull = false) (hv : v.withoutNulls = v)
    (hsame : ∀ out, type.coerce v = .ok out → out = v) :
    (plain type desc).KeptIff v (type.IsCanonical v) where
  kept h := by
    rw [fit_plain_of_coerce hnull (ParamType.coerce_of_isCanonical h), Json.present?, hnull, hv]
    rfl
  refused h := by
    cases hcoerce : type.coerce v with
    | error r => exact ⟨⟨[], .rejected r⟩, by simp [plain, fit, hnull, hcoerce]⟩
    | ok out =>
      have hout := hsame out hcoerce
      subst hout
      exact absurd (ParamType.isCanonical_of_coerce hcoerce) h

theorem keptIff_int {n : Int} : (plain .int desc).KeptIff (.int n) (IsInt64 n) := by
  have hkept : (plain .int desc).KeptIff (.int n) (ParamType.int.IsCanonical (.int n)) := by
    refine keptIff_plain rfl rfl fun out hout => ?_
    by_cases hn : IsInt64 n
    · have hcanonical : ParamType.int.IsCanonical (.int n) := ⟨n, rfl, hn⟩
      rw [ParamType.coerce_of_isCanonical hcanonical] at hout
      cases hout
      rfl
    · simp [ParamType.coerce, Json.toInteger?, Json.int, hn] at hout
  refine hkept.congr ⟨?_, fun hn => ⟨n, rfl, hn⟩⟩
  rintro ⟨_, ⟨⟩, hn⟩
  exact hn

theorem keptIff_word {n : Int} (h : IsInt64 n) : (plain .int desc).KeptIff (.int n) True :=
  keptIff_int.congr (iff_true_intro h)

theorem keptIff_bool {b : Bool} : (plain .bool desc).KeptIff (.bool b) True := by
  have hkept : (plain .bool desc).KeptIff (.bool b) (ParamType.bool.IsCanonical (.bool b)) := by
    refine keptIff_plain rfl rfl fun out hout => ?_
    cases hout
    rfl
  exact hkept.congr (iff_true_intro ⟨b, rfl⟩)

theorem keptIff_string (type : ParamType) (htype : type.IsTextual) {s : String} :
    (plain type desc).KeptIff (.string s) (type.IsCanonical (.string s)) := by
  refine keptIff_plain rfl rfl fun out hout => ?_
  obtain ⟨t, ht, rfl⟩ := htype.eq_string_of_coerce hout
  cases ht
  rfl

theorem keptIff_text {s : String} : (plain .text desc).KeptIff (.string s) True :=
  (keptIff_string .text trivial).congr (iff_true_intro ⟨s, rfl⟩)

theorem keptIff_raw {s : String} : (plain .raw desc).KeptIff (.string s) True :=
  (keptIff_string .raw trivial).congr (iff_true_intro ⟨s, rfl⟩)

theorem keptIff_alphanum {s : String} :
    (plain .alphanum desc).KeptIff (.string s) (s.toList.all isAlphanumeric = true) :=
  (keptIff_string .alphanum trivial).congr (by simp [ParamType.IsCanonical])

theorem keptIff_url {s : String} : (plain .url desc).KeptIff (.string s) (IsLink s) :=
  (keptIff_string .url trivial).congr (by simp [ParamType.IsCanonical, IsLink])

theorem keptIff_email {s : String} : (plain .email desc).KeptIff (.string s) (IsAddress s) :=
  (keptIff_string .email trivial).congr (by simp [ParamType.IsCanonical, IsAddress])

/-! ### Values that may be absent, and lists -/

theorem fit_optional {direction : Direction} (hv : v ≠ .null) :
    d.optional.fit direction v = d.fit direction v := by
  cases d with
  | value type desc presence => simp [optional, withPresence, fit, Json.isNull_eq_false hv]
  | single desc presence fields => cases v <;> simp_all [optional, withPresence, fit]
  | multiple desc presence content => cases v <;> simp_all [optional, withPresence, fit]

theorem keptIff_optional (h : v ≠ .null → d.KeptIff v P) :
    d.optional.KeptIff v (v ≠ .null → P) := by
  by_cases hv : v = .null
  · subst hv
    have hpresence : d.optional.presence = .optional := by cases d <;> rfl
    have hnone : d.optional.fit .output .null = .ok none := fit_eq_none_iff.2 ⟨rfl, hpresence⟩
    exact ⟨fun _ => hnone, fun hp => absurd (fun hv => absurd rfl hv) hp⟩
  · have hd := h hv
    constructor
    · intro hp
      rw [fit_optional hv, hd.kept (hp hv)]
    · intro hp
      rw [fit_optional hv]
      exact hd.refused fun p => hp fun _ => p

variable {α : Type} {encode : α → Json} {R : α → Prop}

theorem keptIff_ofOption {o : Option α} (hencode : ∀ a, encode a ≠ .null)
    (h : ∀ a ∈ o, d.KeptIff (encode a) (R a)) :
    d.optional.KeptIff (.ofOption encode o) (∀ a ∈ o, R a) := by
  cases o with
  | none =>
    refine (keptIff_optional (P := True) fun hv => absurd rfl hv).congr ?_
    simp
  | some a =>
    refine (keptIff_optional fun _ => h a rfl).congr ?_
    simp [hencode]

theorem keptIff_optional_int {o : Option Int} :
    (optional (plain .int desc)).KeptIff (.ofOption .int o) (∀ n ∈ o, IsInt64 n) :=
  keptIff_ofOption nofun fun _ _ => keptIff_int

theorem keptIff_optional_word {o : Option Int} (h : ∀ n ∈ o, IsInt64 n) :
    (optional (plain .int desc)).KeptIff (.ofOption .int o) True :=
  keptIff_optional_int.congr (iff_true_intro h)

theorem keptIff_optional_text {o : Option String} :
    (optional (plain .text desc)).KeptIff (.ofOption .string o) True :=
  (keptIff_ofOption nofun fun _ _ => keptIff_text).congr (by simp)

theorem keptIff_optional_raw {o : Option String} :
    (optional (plain .raw desc)).KeptIff (.ofOption .string o) True :=
  (keptIff_ofOption nofun fun _ _ => keptIff_raw).congr (by simp)

theorem keptIff_optional_url {o : Option String} :
    (optional (plain .url desc)).KeptIff (.ofOption .string o) (∀ s ∈ o, IsLink s) :=
  keptIff_ofOption nofun fun _ _ => keptIff_url

theorem keptIff_optional_email {o : Option String} :
    (optional (plain .email desc)).KeptIff (.ofOption .string o) (∀ s ∈ o, IsAddress s) :=
  keptIff_ofOption nofun fun _ _ => keptIff_email

theorem fitItems_kept {items : List α} (hencode : ∀ a, encode a ≠ .null)
    (h : ∀ a ∈ items, d.KeptIff (encode a) (R a)) (hall : ∀ a ∈ items, R a) (index : Nat) :
    fitItems (d.fit .output) index (items.map encode) =
      .ok (Json.itemsWithoutNulls (items.map encode)) := by
  induction items generalizing index with
  | nil => rfl
  | cons a rest ih =>
    obtain ⟨ha, hrest⟩ := List.forall_mem_cons.1 h
    obtain ⟨hfirst, hothers⟩ := List.forall_mem_cons.1 hall
    have hfit := ha.kept hfirst
    rw [Json.present?_of_ne_null (hencode a)] at hfit
    exact fitItems_cons_eq_ok_iff.2 ⟨_, _, hfit, ih hrest hothers (index + 1), rfl⟩

theorem keptIff_listOf {items : List α} (hencode : ∀ a, encode a ≠ .null)
    (h : ∀ a ∈ items, d.KeptIff (encode a) (R a)) :
    (listOf d desc).KeptIff (.array (items.map encode)) (∀ a ∈ items, R a) where
  kept hall := by
    have hitems := fitItems_kept hencode h hall 0
    exact fit_array_eq_ok_iff.2 ⟨_, hitems, rfl⟩
  refused hnot := by
    cases hfit : (listOf d desc).fit .output (.array (items.map encode)) with
    | error m => exact ⟨m, rfl⟩
    | ok out =>
      -- A list that fits has only items that fit.
      obtain ⟨fitted, hfitted, -⟩ := fit_array_eq_ok_iff.1 hfit
      refine absurd (fun a ha => ?_) hnot
      exact (h a ha).iff_fits.2 (exists_fit_of_mem hfitted _ (List.mem_map_of_mem ha))

/-! ### Structures -/

/-- Fields and the members that they are for, side by side, and the conditions of all of them. -/
inductive EachKeptIff : List (String × Description) → List (String × Json) → Prop → Prop
  | nil : EachKeptIff [] [] True
  | cons {name : String} {d : Description} {v : Json} {fields : List (String × Description)}
      {entries : List (String × Json)} {P Q : Prop} :
      d.KeptIff v P → EachKeptIff fields entries Q →
        EachKeptIff ((name, d) :: fields) ((name, v) :: entries) (P ∧ Q)

variable {fields : List (String × Description)} {entries members : List (String × Json)}

theorem EachKeptIff.keys_eq (h : EachKeptIff fields entries P) :
    Keyed.keys entries = Keyed.keys fields := by
  induction h with
  | nil => rfl
  | cons _ _ ih => exact congrArg _ ih

theorem EachKeptIff.get?_kept (h : EachKeptIff fields entries P)
    (hnames : (Keyed.keys fields).Nodup) (hp : P) : ∀ f ∈ fields,
      f.2.fit .output ((Keyed.get? f.1 entries).getD .null) =
        .ok ((Keyed.get? f.1 entries).getD .null).present? := by
  induction h with
  | nil => simp
  | @cons name d v fields entries P Q hd hrest ih =>
    obtain ⟨hname, hnames⟩ := List.nodup_cons.1 hnames
    refine List.forall_mem_cons.2 ⟨?_, fun f hf => ?_⟩
    · rw [Keyed.get?_cons, if_pos rfl]
      exact hd.kept hp.1
    · have hne : name ≠ f.1 := by
        rintro rfl
        exact hname (List.mem_map.2 ⟨f, hf, rfl⟩)
      rw [Keyed.get?_cons, if_neg hne]
      exact ih hnames hp.2 f hf

theorem EachKeptIff.get?_refused (h : EachKeptIff fields entries P)
    (hnames : (Keyed.keys fields).Nodup) (hp : ¬P) : ∃ f ∈ fields, ∃ m,
      f.2.fit .output ((Keyed.get? f.1 entries).getD .null) = .error m := by
  induction h with
  | nil => exact absurd trivial hp
  | @cons name d v fields entries P Q hd hrest ih =>
    obtain ⟨hname, hnames⟩ := List.nodup_cons.1 hnames
    by_cases hfirst : P
    · obtain ⟨f, hf, m, hm⟩ := ih hnames fun hq => hp ⟨hfirst, hq⟩
      have hne : name ≠ f.1 := by
        rintro rfl
        exact hname (List.mem_map.2 ⟨f, hf, rfl⟩)
      refine ⟨f, List.mem_cons_of_mem _ hf, m, ?_⟩
      rw [Keyed.get?_cons, if_neg hne]
      exact hm
    · obtain ⟨m, hm⟩ := hd.refused hfirst
      refine ⟨_, List.mem_cons_self, m, ?_⟩
      rw [Keyed.get?_cons, if_pos rfl]
      exact hm

theorem fitFields_kept (hnames : (Keyed.keys fields).Nodup) (hsorted : Keyed.Sorted members)
    (hothers : ∀ name ∉ Keyed.keys fields, (Keyed.get? name members).getD .null = .null)
    (hkept : ∀ f ∈ fields, fitField .output members f =
      .ok ((Keyed.get? f.1 members).getD .null).present?) :
    fitFields .output fields members [] = .ok (Json.membersWithoutNulls members) := by
  have hleft := Json.sorted_membersWithoutNulls hsorted
  refine (fitFields_eq_ok_iff hnames).2 ⟨hleft, fun m hm => ?_, fun f hf => ?_⟩
  · by_contra hname
    have hget := (Keyed.get?_eq_some_iff hleft).2 hm
    rw [Json.get?_membersWithoutNulls m.1 hsorted, hothers m.1 hname] at hget
    cases hget
  · rw [Json.get?_membersWithoutNulls f.1 hsorted, hkept f hf]

theorem keptIff_structureOf (hnames : (Keyed.keys fields).Nodup) (hsorted : Keyed.Sorted members)
    (hmembers : ∀ name, (Keyed.get? name members).getD .null =
      (Keyed.get? name entries).getD .null)
    (h : EachKeptIff fields entries P) : (structureOf desc fields).KeptIff (.object members) P where
  kept hp := by
    refine fit_object_eq_ok_iff.2 ⟨nofun, _, fitFields_kept hnames hsorted ?_ ?_, rfl⟩
    · intro name hname
      rw [← h.keys_eq] at hname
      rw [hmembers, Keyed.get?_eq_none_of_notMem hname]
      rfl
    · intro f hf
      rw [fitField, hmembers]
      exact h.get?_kept hnames hp f hf
  refused hp := by
    obtain ⟨f, hf, m, hm⟩ := h.get?_refused hnames hp
    cases hfit : (structureOf desc fields).fit .output (.object members) with
    | error m => exact ⟨m, rfl⟩
    | ok out =>
      obtain ⟨-, fitted, hfitted, -⟩ := fit_object_eq_ok_iff.1 hfit
      have hgot := get?_fitFields hnames (by simp) hfitted f hf
      rw [fitField, hmembers, hm] at hgot
      cases hgot

theorem keptIff_ofMembers (hnames : (Keyed.keys fields).Nodup) (h : EachKeptIff fields entries P) :
    (structureOf desc fields).KeptIff (.ofMembers entries) P := by
  refine keptIff_structureOf hnames (Keyed.sorted_ofList entries) (fun name => ?_) h
  rw [Keyed.get?_ofList (h.keys_eq ▸ hnames)]

theorem keptIff_ofMembers_filter (hnames : (Keyed.keys fields).Nodup)
    (h : EachKeptIff fields entries P) :
    (structureOf desc fields).KeptIff (.ofMembers (entries.filter fun e => !e.2.isNull)) P := by
  have hentries : (Keyed.keys entries).Nodup := h.keys_eq ▸ hnames
  refine keptIff_structureOf hnames (Keyed.sorted_ofList _) (fun name => ?_) h
  rw [Keyed.get?_ofList (Json.nodup_keys_filter hentries), Json.get?_filter_present name hentries]

/-! ### Warnings -/

theorem keptIff_warning (w : Warning) : warning.KeptIff w.toJson w.IsClean := by
  rw [w.toJson_eq_filter]
  refine KeptIff.congr (keptIff_ofMembers_filter (by decide) <|
    .cons keptIff_optional_text <| .cons keptIff_optional_int <| .cons keptIff_alphanum <|
    .cons keptIff_raw .nil) ?_
  constructor
  · rintro ⟨-, hid, hcode, -⟩
    exact ⟨hcode, fun id hid' => hid id hid'⟩
  · rintro ⟨hcode, hid⟩
    exact ⟨trivial, fun id hid' => hid id hid', hcode, trivial, trivial⟩

theorem keptIff_warnings (ws : List Warning) :
    warnings.KeptIff (.array (ws.map Warning.toJson)) (∀ w ∈ ws, w.IsClean) := by
  have hlist : (listOf warning "list of warnings").KeptIff (.array (ws.map Warning.toJson))
      (∀ w ∈ ws, w.IsClean) :=
    keptIff_listOf (fun _ => nofun) fun w _ => keptIff_warning w
  refine (keptIff_optional fun _ => hlist).congr ?_
  simp

end Kept

end Description

theorem Misfit.toError_output (m : Misfit) :
    ∃ path reason, m.toError .output = .invalidResponse path reason := by
  obtain ⟨path, fault⟩ := m
  cases fault <;> exact ⟨_, _, rfl⟩

end Campus
