import Campus.Proofs.Nulls

/-!
# The first fault

Arguments that do not fit are refused for the first thing that is wrong with them, and the error
names its place. An object's undeclared keys are checked before its fields, fields in the order of
their declaration, items in theirs. Arguments with nothing wrong are taken.
-/

namespace Campus

/-! ## Places -/

/-- One step of the walk into a value. Fields have numbers, since two of them may have one name. -/
inductive Turn where
  | key (name : String)
  | field (number : Nat) (name : String)
  | item (number : Nat)
deriving DecidableEq

namespace Turn

/-- What the step adds to a path. -/
def step : Turn → PathStep
  | .key name | .field _ name => .name name
  | .item number => .index number

/-- The order in which parts of one value are checked. -/
inductive Before : Turn → Turn → Prop
  | keys {name other : String} (h : name < other) : Before (.key name) (.key other)
  | keyField (name : String) (number : Nat) (other : String) :
      Before (.key name) (.field number other)
  | fields {number later : Nat} (h : number < later) (name other : String) :
      Before (.field number name) (.field later other)
  | items {number later : Nat} (h : number < later) : Before (.item number) (.item later)

end Turn

/-- A place in a value, by the steps that lead there. -/
abbrev Place := List Turn

namespace Place

def path (p : Place) : List PathStep := p.map Turn.step

/-- The order of checking: a value before its parts, and its parts one after the other. -/
def Before : Place → Place → Prop := List.Lex Turn.Before

theorem not_before_nil (q : Place) : ¬q.Before [] := nofun

theorem before_cons_iff {t u : Turn} {p q : Place} :
    Before (t :: q) (u :: p) ↔ t.Before u ∨ t = u ∧ q.Before p := by
  constructor
  · rintro (_ | h | h)
    · exact .inl h
    · exact .inr ⟨rfl, h⟩
  · rintro (h | ⟨rfl, h⟩)
    · exact .rel h
    · exact .cons h

end Place

/-! ## What is wrong where -/

namespace Description

/-- Something is wrong at a place of a value. There is no value where an object lacks the member,
and nothing is checked below what is absent or null. -/
inductive Offends : Description → Option Json → Place → Fault → Prop
  | missing {d : Description} {v : Option Json} (absent : v = none ∨ v = some .null)
      (required : d.presence = .required) : Offends d v [] .missing
  | rejected {type : ParamType} {desc : String} {presence : Presence} {v : Json} {r : Rejection}
      (present : v ≠ .null) (coerced : type.coerce v = .error r) :
      Offends (.value type desc presence) (some v) [] (.rejected r)
  | notObject {desc : String} {presence : Presence} {fields : List (String × Description)}
      {v : Json} (present : v ≠ .null) (kind : v.object? = none) :
      Offends (.single desc presence fields) (some v) [] (.rejected .notObject)
  | notList {desc : String} {presence : Presence} {content : Description} {v : Json}
      (present : v ≠ .null) (kind : v.array? = none) :
      Offends (.multiple desc presence content) (some v) [] (.rejected .notList)
  | undeclared {desc : String} {presence : Presence} {fields : List (String × Description)}
      {members : List (String × Json)} {key : String} (given : key ∈ Keyed.keys members)
      (unknown : key ∉ Keyed.keys fields) :
      Offends (.single desc presence fields) (some (.object members)) [.key key] .undeclared
  | field {desc : String} {presence : Presence} {fields : List (String × Description)}
      {members : List (String × Json)} {number : Nat} {name : String} {d : Description}
      {p : Place} {fault : Fault} (declared : fields[number]? = some (name, d))
      (below : Offends d (Keyed.get? name members) p fault) :
      Offends (.single desc presence fields) (some (.object members)) (.field number name :: p)
        fault
  | item {desc : String} {presence : Presence} {content : Description} {items : List Json}
      {number : Nat} {v : Json} {p : Place} {fault : Fault} (listed : items[number]? = some v)
      (below : Offends content (some v) p fault) :
      Offends (.multiple desc presence content) (some (.array items)) (.item number :: p) fault

/-- Something is wrong at the place, and nothing at any place that is checked before it. -/
structure FirstFault (d : Description) (v : Option Json) (p : Place) (fault : Fault) : Prop where
  offends : d.Offends v p fault
  first : ∀ q other, d.Offends v q other → ¬q.Before p

section Walk

variable {direction : Direction} {d : Description} {fields : List (String × Description)}
  {given members out : List (String × Json)} {m : Misfit} {v : Option Json} {p : Place}
  {fault : Fault}

/-! ## Where the walk ends -/

theorem exists_fitField_of_error (h : fitFields direction fields given out = .error m) :
    ∃ (number : Nat) (f : String × Description) (cause : Misfit), fields[number]? = some f ∧
      fitField direction given f = .error cause ∧ m = cause.under (.name f.1) ∧
      ∀ j g, j < number → fields[j]? = some g → ∃ w, fitField direction given g = .ok w := by
  induction fields generalizing out with
  | nil => cases h
  | cons f rest ih =>
    rw [fitFields_cons] at h
    cases hf : fitField direction given f with
    | error cause =>
      rw [hf] at h
      cases h
      exact ⟨0, f, cause, rfl, hf, rfl, fun j _ hj => absurd hj (Nat.not_lt_zero j)⟩
    | ok w =>
      rw [hf] at h
      obtain ⟨number, g, cause, hg, hfit, hm, hbefore⟩ := ih h
      refine ⟨number + 1, g, cause, hg, hfit, hm, fun j other hj hother => ?_⟩
      cases j with
      | zero =>
        cases hother
        exact ⟨w, hf⟩
      | succ j => exact hbefore j other (Nat.lt_of_succ_lt_succ hj) hother

theorem exists_fitField_of_mem (h : fitFields direction fields given out = .ok members) :
    ∀ f ∈ fields, ∃ w, fitField direction given f = .ok w := by
  induction fields generalizing out with
  | nil => simp
  | cons f rest ih =>
    obtain ⟨w, hf, hrest⟩ := fitFields_cons_eq_ok_iff.1 h
    exact List.forall_mem_cons.2 ⟨⟨w, hf⟩, ih hrest⟩

theorem exists_fit_of_fitItems_error {fit : Json → Except Misfit (Option Json)} {index : Nat}
    {items : List Json} (h : fitItems fit index items = .error m) :
    ∃ (number : Nat) (w : Json) (cause : Misfit), items[number]? = some w ∧
      fit w = .error cause ∧ m = cause.under (.index (index + number)) ∧
      ∀ j u, j < number → items[j]? = some u → ∃ out, fit u = .ok out := by
  induction items generalizing index with
  | nil => cases h
  | cons w rest ih =>
    rw [fitItems] at h
    cases hw : fit w with
    | error cause =>
      rw [hw] at h
      cases h
      exact ⟨0, w, cause, rfl, hw, rfl, fun j _ hj => absurd hj (Nat.not_lt_zero j)⟩
    | ok first =>
      rw [hw] at h
      cases hrest : fitItems fit (index + 1) rest with
      | ok others =>
        rw [hrest] at h
        cases h
      | error m' =>
        rw [hrest] at h
        cases h
        obtain ⟨number, u, cause, hu, hfit, hm, hbefore⟩ := ih hrest
        refine ⟨number + 1, u, cause, hu, hfit, ?_, fun j other hj hother => ?_⟩
        · rw [hm, Nat.add_assoc, Nat.add_comm 1 number]
        · cases j with
          | zero =>
            cases hother
            exact ⟨first, hw⟩
          | succ j => exact hbefore j other (Nat.lt_of_succ_lt_succ hj) hother

theorem undeclared?_eq_some {key : String} (hsorted : Keyed.Sorted given)
    (h : undeclared? fields given = some key) :
    key ∈ Keyed.keys given ∧ key ∉ Keyed.keys fields ∧
      ∀ other ∈ Keyed.keys given, other ∉ Keyed.keys fields → ¬other < key := by
  obtain ⟨member, hfind, rfl⟩ := Option.map_eq_some_iff.1 h
  obtain ⟨hunknown, before, after, rfl, hbefore⟩ := List.find?_eq_some_iff_append.1 hfind
  simp only [Bool.not_eq_true', ← Bool.not_eq_true, Keyed.contains_iff_mem_keys] at hunknown
  refine ⟨by simp [Keyed.keys], hunknown, fun other hother hnot hlt => ?_⟩
  obtain ⟨row, hrow, rfl⟩ := List.mem_map.1 hother
  rcases List.mem_append.1 hrow with hrow | hrow
  · have hknown := hbefore row hrow
    simp only [Bool.not_not, Keyed.contains_iff_mem_keys] at hknown
    exact hnot hknown
  · -- The keys from here on are no less.
    obtain ⟨-, hfrom, -⟩ := List.pairwise_append.1 hsorted
    rcases List.mem_cons.1 hrow with rfl | hrow
    · exact Std.lt_irrefl hlt
    · exact Std.lt_irrefl (Std.lt_trans hlt ((List.pairwise_cons.1 hfrom).1 row hrow))

/-! ## What fits has nothing wrong -/

theorem exists_error_of_offends (h : d.Offends v p fault) :
    ∃ m, d.fit .input (v.getD .null) = .error m := by
  induction h with
  | @missing d v absent required =>
    have hnull : v.getD .null = .null := by rcases absent with rfl | rfl <;> rfl
    exact ⟨⟨[], .missing⟩, by rw [hnull, fit_null, required]; rfl⟩
  | rejected present coerced =>
    exact ⟨_, by simp only [Option.getD_some, fit, Json.isNull_eq_false present, coerced]; rfl⟩
  | @notObject desc presence fields v present kind =>
    cases v with
    | null => exact absurd rfl present
    | object => cases kind
    | _ => exact ⟨_, rfl⟩
  | @notList desc presence content v present kind =>
    cases v with
    | null => exact absurd rfl present
    | array => cases kind
    | _ => exact ⟨_, rfl⟩
  | @undeclared desc presence fields members key hgiven unknown =>
    cases hfit : (single desc presence fields).fit .input (.object members) with
    | error m => exact ⟨m, hfit⟩
    | ok out =>
      obtain ⟨member, hmember, rfl⟩ := List.mem_map.1 hgiven
      exact absurd ((fit_object_eq_ok_iff.1 hfit).1 rfl member hmember) unknown
  | @field desc presence fields members number name d p fault declared _ ih =>
    cases hfit : (single desc presence fields).fit .input (.object members) with
    | error m => exact ⟨m, hfit⟩
    | ok out =>
      obtain ⟨-, fitted, hfields, -⟩ := fit_object_eq_ok_iff.1 hfit
      obtain ⟨w, hw⟩ := exists_fitField_of_mem hfields _ (List.mem_of_getElem? declared)
      obtain ⟨m, hm⟩ := ih
      cases hw.symm.trans hm
  | @item desc presence content items number v p fault listed _ ih =>
    cases hfit : (multiple desc presence content).fit .input (.array items) with
    | error m => exact ⟨m, hfit⟩
    | ok out =>
      obtain ⟨fitted, hitems, -⟩ := fit_array_eq_ok_iff.1 hfit
      obtain ⟨w, hw⟩ := exists_fit_of_mem hitems _ (List.mem_of_getElem? listed)
      obtain ⟨m, hm⟩ := ih
      cases hw.symm.trans hm

theorem not_offends_of_fit {w : Option Json} (h : d.fit .input (v.getD .null) = .ok w) :
    ¬d.Offends v p fault := by
  intro hoffends
  obtain ⟨m, hm⟩ := exists_error_of_offends hoffends
  rw [h] at hm
  cases hm

/-! ## What does not fit has a first fault -/

theorem firstFault_here (h : d.Offends v [] fault) : d.FirstFault v [] fault :=
  ⟨h, fun q _ _ => q.not_before_nil⟩

theorem firstFault_of_absent (hv : v = none ∨ v = some .null)
    (h : d.presence.absent = .error m) : d.FirstFault v [] m.fault ∧ [] = m.path := by
  cases hpresence : d.presence with
  | required =>
    rw [hpresence] at h
    cases h
    exact ⟨firstFault_here (.missing hv hpresence), rfl⟩
  | _ =>
    rw [hpresence] at h
    cases h

theorem firstFault_undeclared {desc : String} {presence : Presence} {key : String}
    (hsorted : Keyed.Sorted given) (h : undeclared? fields given = some key) :
    (single desc presence fields).FirstFault (some (.object given)) [.key key] .undeclared := by
  obtain ⟨hgiven, hunknown, hleast⟩ := undeclared?_eq_some hsorted h
  refine ⟨.undeclared hgiven hunknown, fun q other hoffends hbefore => ?_⟩
  cases hoffends with
  | missing absent => simp at absent
  | notObject _ kind => cases kind
  | undeclared hgiven' hunknown' =>
    rcases Place.before_cons_iff.1 hbefore with hlt | ⟨-, hlt⟩
    · cases hlt with
      | keys hlt => exact hleast _ hgiven' hunknown' hlt
    · exact Place.not_before_nil _ hlt
  | field =>
    rcases Place.before_cons_iff.1 hbefore with hlt | ⟨heq, -⟩
    · cases hlt
    · cases heq

theorem FirstFault.field {desc : String} {presence : Presence} {number : Nat}
    {f : String × Description} (hf : fields[number]? = some f)
    (honly : (Json.object given).HasOnly (Keyed.keys fields))
    (hbefore : ∀ j g, j < number → fields[j]? = some g → ∃ w, fitField .input given g = .ok w)
    (h : f.2.FirstFault (Keyed.get? f.1 given) p fault) :
    (single desc presence fields).FirstFault (some (.object given)) (.field number f.1 :: p)
      fault := by
  refine ⟨.field hf h.offends, fun q other hoffends hlt => ?_⟩
  cases hoffends with
  | missing absent => simp at absent
  | notObject _ kind => cases kind
  | undeclared hgiven hunknown =>
    obtain ⟨member, hmember, rfl⟩ := List.mem_map.1 hgiven
    exact hunknown (honly member hmember)
  | @field _ _ _ _ j name d q _ declared below =>
    rcases Place.before_cons_iff.1 hlt with hturn | ⟨heq, hbelow⟩
    · cases hturn with
      | fields hlt =>
        obtain ⟨w, hw⟩ := hbefore j _ hlt declared
        exact not_offends_of_fit hw below
    · cases heq
      obtain rfl : f.2 = d := congrArg Prod.snd (Option.some.inj (hf.symm.trans declared))
      exact h.first q other below hbelow

theorem FirstFault.item {desc : String} {presence : Presence} {content : Description}
    {number : Nat} {items : List Json} {w : Json} (hw : items[number]? = some w)
    (hbefore : ∀ j u, j < number → items[j]? = some u → ∃ out, content.fit .input u = .ok out)
    (h : content.FirstFault (some w) p fault) :
    (multiple desc presence content).FirstFault (some (.array items)) (.item number :: p)
      fault := by
  refine ⟨.item hw h.offends, fun q other hoffends hlt => ?_⟩
  cases hoffends with
  | missing absent => simp at absent
  | notList _ kind => cases kind
  | @item _ _ _ _ j u q _ listed below =>
    rcases Place.before_cons_iff.1 hlt with hturn | ⟨heq, hbelow⟩
    · cases hturn with
      | items hlt =>
        obtain ⟨out, hout⟩ := hbefore j u hlt listed
        exact not_offends_of_fit (v := some u) hout below
    · cases heq
      cases hw.symm.trans listed
      exact h.first q other below hbelow

theorem firstFault_of_coerce {type : ParamType} {desc : String} {presence : Presence}
    (h : (value type desc presence).fit .input (v.getD .null) = .error m) :
    ∃ p, (value type desc presence).FirstFault v p m.fault ∧ p.path = m.path := by
  by_cases hnull : v.getD .null = .null
  · rw [hnull] at h
    have habsent : v = none ∨ v = some .null := by cases v <;> simp_all
    exact ⟨[], firstFault_of_absent habsent h⟩
  · obtain ⟨w, rfl⟩ : ∃ w, v = some w := by cases v <;> simp_all
    have hw : w ≠ .null := hnull
    rw [Option.getD_some, fit, Json.isNull_eq_false hw, if_neg Bool.false_ne_true] at h
    cases hcoerce : type.coerce w with
    | ok out => simp [hcoerce] at h
    | error r =>
      rw [hcoerce] at h
      cases h
      exact ⟨[], firstFault_here (.rejected hw hcoerce), rfl⟩

theorem firstFault_of_fitFields {desc : String} {presence : Presence}
    (hbelow : ∀ f ∈ fields, ∀ cause, fitField .input given f = .error cause →
      ∃ p, f.2.FirstFault (Keyed.get? f.1 given) p cause.fault ∧ p.path = cause.path)
    (hknown : undeclared? fields given = none)
    (h : fitFields .input fields given [] = .error m) :
    ∃ p, (single desc presence fields).FirstFault (some (.object given)) p m.fault ∧
      p.path = m.path := by
  obtain ⟨number, f, cause, hf, hfit, rfl, hbefore⟩ := exists_fitField_of_error h
  obtain ⟨p, hp, hpath⟩ := hbelow f (List.mem_of_getElem? hf) cause hfit
  exact ⟨.field number f.1 :: p, hp.field hf (undeclared?_eq_none_iff.1 hknown) hbefore,
    congrArg (PathStep.name f.1 :: ·) hpath⟩

theorem firstFault_of_fitItems {desc : String} {presence : Presence} {content : Description}
    {items : List Json}
    (hbelow : ∀ w ∈ items, ∀ cause, content.fit .input w = .error cause →
      ∃ p, content.FirstFault (some w) p cause.fault ∧ p.path = cause.path)
    (h : fitItems (content.fit .input) 0 items = .error m) :
    ∃ p, (multiple desc presence content).FirstFault (some (.array items)) p m.fault ∧
      p.path = m.path := by
  obtain ⟨number, w, cause, hw, hfit, rfl, hbefore⟩ := exists_fit_of_fitItems_error h
  obtain ⟨p, hp, hpath⟩ := hbelow w (List.mem_of_getElem? hw) cause hfit
  refine ⟨.item number :: p, hp.item hw hbefore, ?_⟩
  rw [Nat.zero_add]
  exact congrArg (PathStep.index number :: ·) hpath

theorem firstFault_of_fit (hv : ∀ w, v = some w → w.Canonical)
    (h : d.fit .input (v.getD .null) = .error m) :
    ∃ p, d.FirstFault v p m.fault ∧ p.path = m.path := by
  -- On the description. The place of a fault in a part is that of the part, then the place in it.
  induction d generalizing v m with
  | value type desc presence => exact firstFault_of_coerce h
  | single desc presence fields ih =>
    cases v with
    | none => exact ⟨[], firstFault_of_absent (by simp) h⟩
    | some w =>
      cases w with
      | null => exact ⟨[], firstFault_of_absent (by simp) h⟩
      | object given =>
        obtain ⟨hsorted, hmembers⟩ := hv _ rfl
        cases hundeclared : undeclared? fields given with
        | some key =>
          simp only [Option.getD_some, fit, hundeclared] at h
          cases h
          exact ⟨[.key key], firstFault_undeclared hsorted hundeclared, rfl⟩
        | none =>
          simp only [Option.getD_some, fit, hundeclared] at h
          cases hfields : fitFields .input fields given [] with
          | ok out => simp [hfields, Except.map] at h
          | error m' =>
            rw [hfields] at h
            cases h
            refine firstFault_of_fitFields (fun f hf cause hfit => ?_) hundeclared hfields
            have hcanonical : ∀ w, Keyed.get? f.1 given = some w → w.Canonical := fun w hw =>
              Json.canonicalMembers_iff.1 hmembers _ (Keyed.mem_of_get? hw)
            exact ih f hf hcanonical hfit
      | _ =>
        cases h
        exact ⟨[], firstFault_here (.notObject (by simp) rfl), rfl⟩
  | multiple desc presence content ih =>
    cases v with
    | none => exact ⟨[], firstFault_of_absent (by simp) h⟩
    | some w =>
      cases w with
      | null => exact ⟨[], firstFault_of_absent (by simp) h⟩
      | array items =>
        simp only [Option.getD_some, fit] at h
        cases hitems : fitItems (content.fit .input) 0 items with
        | ok out => simp [hitems, Except.map] at h
        | error m' =>
          rw [hitems] at h
          cases h
          refine firstFault_of_fitItems (fun w hw cause hfit => ?_) hitems
          have hcanonical := Json.canonicalItems_iff.1 (hv _ rfl) w hw
          exact ih (by rintro _ ⟨⟩; exact hcanonical) hfit
      | _ =>
        cases h
        exact ⟨[], firstFault_here (.notList (by simp) rfl), rfl⟩

end Walk

end Description

/-! ## What the error says -/

theorem Rejection.reason_ne (r : Rejection) : r.reason ≠ "unexpected parameter" := by
  -- A reason ends in fixed words or begins with a quote, and these words do neither.
  have hends {what words : String} (hwords : ¬words.toList <:+ "unexpected parameter".toList) :
      what ++ words ≠ "unexpected parameter" := by
    rintro h
    exact hwords ⟨what.toList, by rw [← String.toList_append, h]⟩
  have hquoted (text rest : String) :
      Rejection.reason.inQuotes text ++ rest ≠ "unexpected parameter" := by
    intro h
    have hhead := congrArg (fun s : String => s.toList.head?) h
    simp [Rejection.reason.inQuotes] at hhead
  cases r with
  | notInteger what => exact hends (by decide)
  | notNumber what => exact hends (by decide)
  | notBoolean what => exact hends (by decide)
  | notAlphanumeric text => exact hquoted text _
  | notScalar kind => exact hends (by decide)
  | urlWithoutHost text => exact hquoted text _
  | invalidUrl text error =>
    rw [reason, String.append_assoc]
    exact hquoted text _
  | notEmail text => exact hquoted text _
  | notObject | notList => decide

/-- The error tells of a fault at a place: what is missing has an error of its own, and all else is
told apart by the reason. -/
def ExternalError.Reports (e : ExternalError) (p : Place) : Fault → Prop
  | .missing => e = .missingParameter (renderPath p.path)
  | .undeclared => e = .invalidParameter (renderPath p.path) "unexpected parameter"
  | .rejected r =>
    e = .invalidParameter (renderPath p.path) r.reason ∧ r.reason ≠ "unexpected parameter"

theorem Misfit.toError_reports {m : Misfit} {p : Place} (h : p.path = m.path) :
    (m.toError .input).Reports p m.fault := by
  obtain ⟨path, fault⟩ := m
  subst h
  cases fault with
  | missing | undeclared => rfl
  | rejected r => exact ⟨rfl, r.reason_ne⟩

/-! ## Validation -/

namespace Description

variable {desc : String} {presence : Presence} {fields : List (String × Description)} {v : Json}

theorem fit_of_validateArguments_error {e : ExternalError}
    (h : validateArguments (.single desc presence fields) v = .error e) :
    ∃ m, (single desc presence fields).fit .input (if v.isNull then .object [] else v) =
      .error m ∧ e = m.toError .input := by
  simp only [validateArguments] at h
  split at h
  · next m hfit =>
    cases h
    exact ⟨m, hfit, rfl⟩
  · cases h
  · next out hnone hfit =>
    -- An object that fits is fitted to an object.
    have hnull : (if v.isNull then Json.object [] else v) ≠ .null := by
      cases v <;> simp [Json.isNull]
    obtain ⟨given, hgiven⟩ := eq_object_of_fit hfit hnull
    rw [hgiven] at hfit
    obtain ⟨-, members, -, rfl⟩ := fit_object_eq_ok_iff.1 hfit
    exact absurd rfl (hnone members)

/-- Arguments are refused for the first fault in the order of checking, and the error tells of it
and its place. They are taken if and only if nothing is wrong anywhere. -/
theorem validateArguments_reports_first (desc : String) (presence : Presence)
    (fields : List (String × Description)) {v : Json} (hv : v.Canonical) :
    (∀ e, validateArguments (.single desc presence fields) v = .error e →
      ∃ p fault, (single desc presence fields).FirstFault
        (some (if v.isNull then .object [] else v)) p fault ∧ e.Reports p fault) ∧
    ((∃ members, validateArguments (.single desc presence fields) v = .ok members) ↔
      ∀ p fault, ¬(single desc presence fields).Offends
        (some (if v.isNull then .object [] else v)) p fault) := by
  have hcanonical : ∀ w, some (if v.isNull then Json.object [] else v) = some w →
      w.Canonical := by
    rintro _ ⟨⟩
    split
    · exact ⟨Keyed.sorted_nil, trivial⟩
    · exact hv
  have hreports : ∀ e, validateArguments (.single desc presence fields) v = .error e →
      ∃ p fault, (single desc presence fields).FirstFault
        (some (if v.isNull then .object [] else v)) p fault ∧ e.Reports p fault := by
    intro e he
    obtain ⟨m, hfit, rfl⟩ := fit_of_validateArguments_error he
    obtain ⟨p, hfirst, hpath⟩ := firstFault_of_fit hcanonical hfit
    exact ⟨p, m.fault, hfirst, Misfit.toError_reports hpath⟩
  refine ⟨hreports, ?_, fun hnone => ?_⟩
  · rintro ⟨members, hok⟩ p fault
    exact not_offends_of_fit (validateArguments_eq_ok_iff_fit.1 hok).2
  · cases hresult : validateArguments (.single desc presence fields) v with
    | ok members => exact ⟨members, rfl⟩
    | error e =>
      obtain ⟨p, fault, hfirst, -⟩ := hreports e hresult
      exact absurd hfirst.offends (hnone p fault)

/-- In the second note of a visit two keys are unknown and the text is missing. -/
theorem visit_reports_first :
    let given : Json := .object [
      ("notes", .array [.object [("text", .string "Late")],
        .object [("colour", .string "red"), ("weight", .int 3)]]),
      ("room", .int 7)]
    given.Canonical ∧
      validateArguments visit given =
        .error (.invalidParameter "notes[1].colour" "unexpected parameter") ∧
      ∃ p, visit.FirstFault (some given) p .undeclared ∧
        renderPath p.path = "notes[1].colour" := by
  intro given
  have hcanonical : given.Canonical :=
    ⟨by decide, ⟨⟨by decide, trivial, trivial⟩, ⟨by decide, trivial, trivial, trivial⟩, trivial⟩,
      trivial, trivial⟩
  have herror : validateArguments visit given =
      .error (.invalidParameter "notes[1].colour" "unexpected parameter") := by rfl
  obtain ⟨p, fault, hfirst, hreports⟩ :=
    (validateArguments_reports_first "visit" .required visit.fields hcanonical).1 _ herror
  refine ⟨hcanonical, herror, p, ?_⟩
  cases fault with
  | missing => cases hreports
  | undeclared =>
    injection hreports with hpath
    exact ⟨hfirst, hpath.symm⟩
  | rejected r =>
    obtain ⟨hsame, hne⟩ := hreports
    injection hsame with _ hreason
    exact absurd hreason.symm hne

end Description

end Campus
