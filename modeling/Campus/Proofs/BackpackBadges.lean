import Campus.Function.Badges
import Campus.Proofs.Nulls
import Campus.Proofs.RemovalArguments
import Campus.Proofs.Run

/-!
# The badges of a backpack

Who keeps a backpack at a service that the site knows may see any user's badges: those of all
collections of the user's backpack, in order. Of each badge what is declared is answered, as texts,
and one badge that does not fit its declaration keeps all of them from being answered.
-/

namespace Campus

/-! ## The first row -/

namespace Table

variable {α : Type} {t : Table α} {p : α → Bool} {id : Int} {record : α}

/-- The row of the least id whose record has a property. -/
structure FirstRow (t : Table α) (P : α → Prop) (id : Int) (record : α) : Prop where
  there : t.get? id = some record
  has : P record
  least : ∀ other r, t.get? other = some r → P r → id ≤ other

theorem firstRow_of_find? {row : Int × α} (h : t.rows.find? (p ∘ Prod.snd) = some row) :
    t.FirstRow (p · = true) row.1 row.2 := by
  obtain ⟨hp, before, after, hrows, hbefore⟩ := List.find?_eq_some_iff_append.1 h
  have hsorted : Keyed.Sorted (before ++ row :: after) := hrows ▸ t.sorted
  refine ⟨get?_eq_some_iff.2 (by simp [hrows]), hp, fun other r hother hr => ?_⟩
  have hmem : (other, r) ∈ before ++ row :: after := hrows ▸ get?_eq_some_iff.1 hother
  rcases List.mem_append.1 hmem with hmem | hmem
  · have hnot := hbefore _ hmem
    simp [hr] at hnot
  · obtain rfl | hmem := List.mem_cons.1 hmem
    · exact Int.le_refl _
    · have hafter := (List.pairwise_cons.1 (List.pairwise_append.1 hsorted).2.1).1
      exact Int.le_of_lt (hafter _ hmem)

theorem FirstRow.eq {P : α → Prop} {other : Int} {r : α} (h : t.FirstRow P id record)
    (h' : t.FirstRow P other r) : record = r := by
  have hid : id = other :=
    Int.le_antisymm (h.least other r h'.there h'.has) (h'.least id record h.there h.has)
  exact Option.some.inj (h.there.symm.trans (hid ▸ h'.there))

theorem find?_eq_some_iff :
    t.find? p = some record ↔ ∃ id, t.FirstRow (p · = true) id record := by
  rw [find?, records, Keyed.values, List.find?_map]
  constructor
  · intro h
    obtain ⟨row, hrow, rfl⟩ := Option.map_eq_some_iff.1 h
    exact ⟨row.1, firstRow_of_find? hrow⟩
  · rintro ⟨id, h⟩
    cases hrow : t.rows.find? (p ∘ Prod.snd) with
    | none =>
      have hnot := List.find?_eq_none.1 hrow _ (get?_eq_some_iff.1 h.there)
      exact absurd h.has hnot
    | some row => exact congrArg some ((firstRow_of_find? hrow).eq h)

end Table

/-! ## Backpacks and what they hold -/

namespace Site

/-- The backpack is the user's, of several the one of the least id. -/
def FirstBackpack (s : Site) (userid : Int) (b : UserBackpack) : Prop :=
  ∃ id, s.userBackpacks.FirstRow (·.userid = userid) id b

/-- The user's backpack is kept at a service that the site knows. -/
def IsConnected (s : Site) (userid : Int) : Prop :=
  ∃ b, s.FirstBackpack userid b ∧ s.siteBackpacks.contains b.externalbackpackid = true

variable {s : Site} {userid : Int} {b : UserBackpack}

theorem userBackpack?_eq_some_iff : s.userBackpack? userid = some b ↔ s.FirstBackpack userid b := by
  rw [userBackpack?, Table.find?_eq_some_iff]
  simp only [FirstBackpack, beq_iff_eq]

theorem isSome_connectedBackpack? :
    (s.connectedBackpack? userid).isSome = true ↔ s.IsConnected userid := by
  simp only [connectedBackpack?, Option.isSome_bind, IsConnected, ← userBackpack?_eq_some_iff]
  cases s.userBackpack? userid <;> simp [Table.contains]

end Site

/-- A badge, the collection that it is kept in, and its place among the badges stored there. -/
structure KeptBadge where
  collection : Int
  place : Nat
  badge : ExternalBadge

/-- By collections, and then as stored. -/
def KeptBadge.Before (a b : KeptBadge) : Prop :=
  a.collection < b.collection ∨ a.collection = b.collection ∧ a.place < b.place

/-- These are the badges of the backpack's collections, each once, in order. -/
structure Site.Shelf (s : Site) (backpack : Int) (shelf : List KeptBadge) : Prop where
  inOrder : shelf.Pairwise KeptBadge.Before
  mem_iff : ∀ kept, kept ∈ shelf ↔ ∃ c, s.collections.get? kept.collection = some c ∧
    c.backpackid = backpack ∧ (s.collectedBadges c.id)[kept.place]? = some kept.badge

namespace Site

/-- The badges of a collection, with their places. -/
def keptIn (s : Site) (row : Int × Collection) : List KeptBadge :=
  (s.collectedBadges row.2.id).zipIdx.map fun (badge, place) => ⟨row.1, place, badge⟩

def shelfOf (s : Site) (backpack : Int) : List KeptBadge :=
  (s.collections.rows.filter (·.2.backpackid == backpack)).flatMap s.keptIn

variable (s : Site) (backpack : Int)

theorem mem_keptIn_iff {row : Int × Collection} {kept : KeptBadge} :
    kept ∈ s.keptIn row ↔
      kept.collection = row.1 ∧ (s.collectedBadges row.2.id)[kept.place]? = some kept.badge := by
  obtain ⟨collection, place, badge⟩ := kept
  simp [keptIn, List.mem_zipIdx_iff_getElem?, and_comm, eq_comm]

theorem keptIn_pairwise (row : Int × Collection) :
    (s.keptIn row).Pairwise KeptBadge.Before := by
  have hplaces : ((s.collectedBadges row.2.id).zipIdx.map Prod.snd).Pairwise (· < ·) := by
    rw [List.zipIdx_map_snd]
    exact List.pairwise_lt_range'
  exact List.pairwise_map.2 ((List.pairwise_map.1 hplaces).imp fun hlt => .inr ⟨rfl, hlt⟩)

theorem shelfOf_shelf : s.Shelf backpack (s.shelfOf backpack) where
  inOrder := by
    refine List.pairwise_flatMap.2 ⟨fun row _ => s.keptIn_pairwise row, ?_⟩
    refine (s.collections.sorted.filter _).imp fun hlt a ha b hb => .inl ?_
    rwa [(s.mem_keptIn_iff.1 ha).1, (s.mem_keptIn_iff.1 hb).1]
  mem_iff kept := by
    simp only [shelfOf, List.mem_flatMap, List.mem_filter, beq_iff_eq, mem_keptIn_iff,
      Table.get?_eq_some_iff]
    constructor
    · rintro ⟨⟨id, c⟩, ⟨hmem, hbackpack⟩, rfl, hbadge⟩
      exact ⟨c, hmem, hbackpack, hbadge⟩
    · rintro ⟨c, hmem, hbackpack, hbadge⟩
      exact ⟨(kept.collection, c), ⟨hmem, hbackpack⟩, rfl, hbadge⟩

theorem Shelf.eq {s : Site} {backpack : Int} {shelf other : List KeptBadge}
    (h : s.Shelf backpack shelf) (h' : s.Shelf backpack other) : shelf = other := by
  have : Std.Irrefl KeptBadge.Before := ⟨fun _ hlt => by unfold KeptBadge.Before at hlt; omega⟩
  have : Std.Antisymm KeptBadge.Before :=
    ⟨fun _ _ hlt hgt => by unfold KeptBadge.Before at hlt hgt; omega⟩
  exact h.inOrder.eq_of_mem_iff h'.inOrder fun kept => (h.mem_iff kept).trans (h'.mem_iff kept).symm

theorem map_badge_shelfOf : (s.shelfOf backpack).map KeptBadge.badge =
    (s.collectionsOf backpack).flatMap fun c => s.collectedBadges c.id := by
  have hkept : ∀ row, (s.keptIn row).map KeptBadge.badge = s.collectedBadges row.2.id := by
    intro row
    rw [keptIn, List.map_map]
    exact List.zipIdx_map_fst 0 _
  simp only [shelfOf, List.map_flatMap, hkept, collectionsOf, Table.records, Keyed.values,
    List.filter_map, List.flatMap_map]
  rfl

end Site

/-! ## Members as texts -/

namespace Keyed

variable {α : Type} {names : List String} {value : String → Option α} {key : String}

theorem mem_of_mem_filterMap :
    ∀ entry ∈ names.filterMap fun name => (value name).map (name, ·), entry.1 ∈ names := by
  intro entry hentry
  obtain ⟨name, hname, hvalue⟩ := List.mem_filterMap.1 hentry
  obtain ⟨v, -, rfl⟩ := Option.map_eq_some_iff.1 hvalue
  exact hname

theorem nodup_keys_filterMap (hnames : names.Nodup) :
    (keys (names.filterMap fun name => (value name).map (name, ·))).Nodup := by
  induction names with
  | nil => exact List.nodup_nil
  | cons name rest ih =>
    obtain ⟨hname, hrest⟩ := List.nodup_cons.1 hnames
    rw [List.filterMap_cons]
    cases value name with
    | none => exact ih hrest
    | some v =>
      refine List.nodup_cons.2 ⟨fun h => ?_, ih hrest⟩
      obtain ⟨entry, hentry, rfl⟩ := List.mem_map.1 h
      exact hname (mem_of_mem_filterMap entry hentry)

theorem get?_filterMap_names :
    get? key (names.filterMap fun name => (value name).map (name, ·)) =
      if key ∈ names then value key else none := by
  induction names with
  | nil => rfl
  | cons name rest ih =>
    rw [List.filterMap_cons]
    by_cases hname : name = key
    · subst hname
      cases hvalue : value name with
      | none => simp [ih, hvalue]
      | some v => simp [get?_cons]
    · have hmem : key ∈ name :: rest ↔ key ∈ rest := by simp [Ne.symm hname]
      simp only [hmem, ← ih]
      cases value name with
      | none => rfl
      | some v => exact if_neg hname

end Keyed

/-- The text that a plain value is written as. -/
def Json.text? (v : Json) : Option String := v.scalarText?.toOption

/-- The member of a name as a text, if it is there and plain. -/
def textAt (members : List (String × Json)) (name : String) : Option Json :=
  ((Keyed.get? name members).bind Json.text?).map .string

/-- The members of these names, as texts. -/
def textMembers (names : List String) (members : List (String × Json)) : List (String × Json) :=
  Keyed.ofList (names.filterMap fun name => (textAt members name).map (name, ·))

theorem Json.membersWithoutNulls_of_texts {members : List (String × Json)}
    (h : ∀ m ∈ members, ∃ text, m.2 = .string text) : membersWithoutNulls members = members := by
  induction members with
  | nil => rfl
  | cons m rest ih =>
    obtain ⟨⟨text, hm⟩, hrest⟩ := List.forall_mem_cons.1 h
    obtain ⟨name, v⟩ := m
    cases hm
    exact congrArg ((name, .string text) :: ·) (ih hrest)

theorem get?_textMembers {names : List String} (hnames : names.Nodup)
    (members : List (String × Json)) (key : String) :
    Keyed.get? key (textMembers names members) =
      if key ∈ names then textAt members key else none := by
  rw [textMembers, Keyed.get?_ofList (Keyed.nodup_keys_filterMap hnames),
    Keyed.get?_filterMap_names]

theorem withoutNulls_textMembers {names : List String} (hnames : names.Nodup)
    (members : List (String × Json)) :
    (Json.object (textMembers names members)).withoutNulls =
      .object (textMembers names members) := by
  have htext : ∀ m ∈ textMembers names members, ∃ text, m.2 = .string text := by
    intro m hm
    have hget := (Keyed.get?_eq_some_iff (Keyed.sorted_ofList _)).2 hm
    rw [← textMembers, get?_textMembers hnames] at hget
    obtain ⟨-, hget⟩ := Option.ite_none_right_eq_some.1 hget
    obtain ⟨text, -, htext⟩ := Option.map_eq_some_iff.1 hget
    exact ⟨text, htext.symm⟩
  exact congrArg Json.object (Json.membersWithoutNulls_of_texts htext)

namespace Description

variable {direction : Direction} {desc : String} {v : Json} {out : Option Json}
  {fields : List (String × Description)} {given members expected : List (String × Json)}

theorem eq_of_fit_textual {type : ParamType} (htype : type.IsTextual)
    (h : (optional (plain type desc)).fit direction v = .ok out) :
    out = v.text?.map .string := by
  by_cases hv : v = .null
  · subst hv
    cases h
    rfl
  rw [fit_optional hv] at h
  cases hcoerce : type.coerce v with
  | error r => simp [plain, fit, Json.isNull_eq_false hv, hcoerce] at h
  | ok w =>
    obtain ⟨s, hs, rfl⟩ := htype.eq_string_of_coerce hcoerce
    rw [fit_plain_of_coerce (Json.isNull_eq_false hv) hcoerce] at h
    cases h
    rw [Json.text?, hs]
    rfl

theorem eq_of_fitFields (hnames : (Keyed.keys fields).Nodup) (hsorted : Keyed.Sorted expected)
    (hothers : ∀ name ∉ Keyed.keys fields, Keyed.get? name expected = none)
    (hfields : ∀ f ∈ fields, ∀ out, fitField direction given f = .ok out →
      out = Keyed.get? f.1 expected)
    (h : fitFields direction fields given [] = .ok members) : members = expected := by
  obtain ⟨-, -, hfit⟩ := (fitFields_eq_ok_iff hnames).1 h
  have hexpected : fitFields direction fields given [] = .ok expected := by
    refine (fitFields_eq_ok_iff hnames).2 ⟨hsorted, fun m hm => ?_, fun f hf => ?_⟩
    · by_contra hname
      cases (hothers m.1 hname).symm.trans ((Keyed.get?_eq_some_iff hsorted).2 hm)
    · rw [hfit f hf, hfields f hf _ (hfit f hf)]
  exact Except.ok.inj (h.symm.trans hexpected)

/-- All fields are of texts that may be absent. -/
inductive AreTexts : List (String × Description) → Prop
  | nil : AreTexts []
  | cons {name desc : String} {type : ParamType} {fields : List (String × Description)} :
      type.IsTextual → AreTexts fields → AreTexts ((name, optional (plain type desc)) :: fields)

theorem AreTexts.eq_of_fit (h : AreTexts fields) : ∀ f ∈ fields, ∀ v out,
    f.2.fit direction v = .ok out → out = v.text?.map .string := by
  induction h with
  | nil => simp
  | cons htype _ ih =>
    exact List.forall_mem_cons.2 ⟨fun _ _ => eq_of_fit_textual htype, ih⟩

theorem present?_of_fit_texts (hnames : (Keyed.keys fields).Nodup) (htexts : AreTexts fields)
    (h : (structureOf desc fields).fit direction (.object given) = .ok out) :
    out = (Json.object (textMembers (Keyed.keys fields) given)).present? := by
  change out = some (Json.object (textMembers (Keyed.keys fields) given)).withoutNulls
  rw [withoutNulls_textMembers hnames]
  obtain ⟨-, members, hfit, rfl⟩ := fit_object_eq_ok_iff.1 h
  refine congrArg (fun members => some (Json.object members)) ?_
  refine eq_of_fitFields hnames (Keyed.sorted_ofList _) ?_ (fun f hf out hout => ?_) hfit
  · intro name hname
    exact (get?_textMembers hnames given name).trans (if_neg hname)
  · have hlook : Keyed.get? f.1 (textMembers (Keyed.keys fields) given) = textAt given f.1 :=
      (get?_textMembers hnames given f.1).trans (if_pos (List.mem_map_of_mem hf))
    rw [hlook, htexts.eq_of_fit f hf _ out hout, textAt]
    cases Keyed.get? f.1 given <;> rfl

theorem eq_of_fit_ofMembers (entries kept : List (String × Json))
    (hnames : (Keyed.keys fields).Nodup) (hentries : (Keyed.keys entries).Nodup)
    (hkept : (Keyed.keys kept).Nodup)
    (hothers : ∀ name ∈ Keyed.keys kept, name ∈ Keyed.keys fields)
    (hfields : ∀ f ∈ fields, ∀ out,
      f.2.fit direction ((Keyed.get? f.1 entries).getD .null) = .ok out →
        out = ((Keyed.get? f.1 kept).getD .null).present?)
    (h : (structureOf desc fields).fit direction (.ofMembers entries) = .ok out) :
    out = some (Json.ofMembers kept).withoutNulls := by
  obtain ⟨-, members, hfit, rfl⟩ := fit_object_eq_ok_iff.1 h
  have hlook : ∀ name, Keyed.get? name (Json.membersWithoutNulls (Keyed.ofList kept)) =
      ((Keyed.get? name kept).getD .null).present? := by
    intro name
    rw [Json.get?_membersWithoutNulls name (Keyed.sorted_ofList kept), Keyed.get?_ofList hkept]
  refine congrArg (fun members => some (Json.object members)) ?_
  refine eq_of_fitFields hnames (Json.sorted_membersWithoutNulls (Keyed.sorted_ofList kept))
    (fun name hname => ?_) (fun f hf out hout => ?_) hfit
  · rw [hlook, Keyed.get?_eq_none_of_notMem (mt (hothers name) hname)]
    rfl
  · rw [hlook]
    rw [fitField, Keyed.get?_ofList hentries] at hout
    exact hfields f hf out hout

theorem KeptIff.eq_of_fit {d : Description} {P : Prop} (h : d.KeptIff v P)
    (hfit : d.fit .output v = .ok out) : out = v.present? :=
  Except.ok.inj (hfit.symm.trans (h.kept (h.iff_fits.2 ⟨out, hfit⟩)))

end Description

/-! ## The answered badge -/

namespace ExternalBadge

open ExternalBadges Description

/-- The badge, of whose parts only the declared members are left, as texts. -/
def declared (b : ExternalBadge) : ExternalBadge :=
  { b with
    issuer := textMembers issuerDescription.fieldNames b.issuer
    recipient := textMembers recipientDescription.fieldNames b.recipient
    criteria := textMembers criteriaDescription.fieldNames b.criteria }

/-- The badge as it is answered: its declared members, those that are there. -/
def shown (b : ExternalBadge) : Json := b.declared.toResult.withoutNulls

/-- The badge passes the structure that is declared for the badges of a backpack. -/
def Passes (b : ExternalBadge) : Prop := ∃ r, cleanResult badgeDescription b.toResult = .ok r

/-- The members of the badge in the functions' results. -/
def resultMembers (b : ExternalBadge) : List (String × Json) :=
  [("id", .string b.id), ("name", .string b.name), ("type", .ofOption .string b.type),
    ("image", .string b.image), ("hostedurl", .ofOption .string b.hostedUrl),
    ("description", .ofOption .string b.description), ("issuedon", .string b.issuedOn),
    ("issuer", .object b.issuer), ("recipient", .object b.recipient),
    ("criteria", .object b.criteria)]

variable {b : ExternalBadge} {out : Option Json}

theorem nodup_keys_resultMembers (b : ExternalBadge) : (Keyed.keys b.resultMembers).Nodup := by
  simp [resultMembers, Keyed.keys]

theorem shown_of_fit (h : badgeDescription.fit .output b.toResult = .ok out) :
    out = some b.shown := by
  refine eq_of_fit_ofMembers b.resultMembers b.declared.resultMembers (by decide)
    b.nodup_keys_resultMembers b.declared.nodup_keys_resultMembers ?_ ?_ h
  · simp [Keyed.keys, resultMembers]
  · simp only [List.forall_mem_cons, resultMembers, Keyed.get?_cons, String.reduceEq, if_true,
      if_false, Option.getD_some]
    refine ⟨fun _ => keptIff_url.eq_of_fit, fun _ => keptIff_text.eq_of_fit,
      fun _ => keptIff_url.eq_of_fit, fun _ => keptIff_text.eq_of_fit,
      fun _ => keptIff_optional_text.eq_of_fit, fun _ => keptIff_optional_url.eq_of_fit,
      fun _ => keptIff_optional_text.eq_of_fit, fun _ => present?_of_fit_texts (by decide) ?_,
      fun _ => present?_of_fit_texts (by decide) ?_, fun _ => present?_of_fit_texts (by decide) ?_,
      List.forall_mem_nil _⟩
    all_goals repeat first | exact .nil | refine .cons trivial ?_

end ExternalBadge

/-! ## The answer -/

/-- The arguments ask for the badges of a user, by an integer or by what is read as one. -/
structure Json.AsksForUser (arguments : Json) (userid : Int) : Prop where
  only : arguments.HasOnly ["userid"]
  user : arguments.integerAt? "userid" = some userid

/-- The site has badges and lets users keep backpacks elsewhere. -/
structure Features.ShowBackpacks (features : Features) : Prop where
  badges : features.enableBadges = true
  backpacks : features.allowExternalBackpack = true

namespace ExternalBadges

open Description

/-- The answer that there is nothing to show, and why. -/
def nothing (strings : Strings) (code : String) (userid : Int) : Json :=
  .object [("badges", .array []), ("status", .bool false),
    ("warnings", .array [(notConnected strings code userid).toJson])]

/-- The answer of badges in their order. -/
def answerOf (badges : List ExternalBadge) : Json :=
  .object [("badges", .array (badges.map ExternalBadge.shown)), ("status", .bool true),
    ("warnings", .array [])]

variable {strings : Strings} {s : Site} {ctx : CallContext} {arguments : Json} {userid : Int}

theorem validateArguments_user (h : arguments.AsksForUser userid) :
    validateArguments (externalBadgesFunction strings).input arguments =
      .ok [("userid", .int userid)] := by
  cases arguments with
  | object given =>
    refine (validateArguments_eq_ok_iff (by rintro ⟨⟩)).2 ⟨given, rfl, h.only, ?_⟩
    exact fitFields_cons_eq_ok_iff.2 ⟨_, fit_member_int_eq_ok_iff.2 ⟨userid, h.user, rfl⟩, rfl⟩
  | _ => cases h.only

theorem readArguments_user (h : IsInt64 userid) :
    readArguments argumentsReader [("userid", .int userid)] = .ok userid := by
  have hread : argumentsReader.read (.object [("userid", .int userid)]) = .ok userid := by
    simp [argumentsReader, Reader.record, Reader.checkMembers, Members.required, Members.member,
      Keyed.get?, Except.map, Reader.read_int64 h, bind, Except.bind]
  rw [readArguments, hread]

theorem call_eq_cleanResult (hfeatures : ctx.features.ShowBackpacks)
    (hasks : arguments.AsksForUser userid) :
    ((externalBadgesFunction strings).call ctx arguments) s =
      (cleanResult (externalBadgesFunction strings).output
        (toResult (fetch strings s ctx userid)), s) := by
  have hrequire : requireBackpacks strings ctx.features = .ok () := by
    simp only [requireBackpacks, requireBadges, hfeatures.badges, hfeatures.backpacks, if_true]
    rfl
  rw [ExternalFunction.call_of_ok (validateArguments_user hasks)]
  simp only [externalBadgesFunction, run, Run.bind_apply, Run.liftExcept_apply, Run.get_apply,
    readArguments_user (Json.isInt64_of_integerAt? hasks.user), hrequire, Run.pure_apply]

theorem cleanResult_envelope {status : Bool} {items kept : List Json} {ws : List Warning}
    (hws : ∀ w ∈ ws, w.IsClean)
    (hitems : fitItems (badgeDescription.fit .output) 0 items = .ok kept) :
    cleanResult (externalBadgesFunction strings).output
      (Envelope.toJson { status, payload := [("badges", .array items)], warnings := ws }) =
        .ok (.object [("badges", .array kept), ("status", .bool status),
          ("warnings", .array (ws.map Warning.toJson))]) :=
  Envelope.cleanResult_of_list (by decide) hws hitems

theorem cleanResult_nothing {code : String} (hcode : code.toList.all isAlphanumeric = true) :
    cleanResult (externalBadgesFunction strings).output
      (toResult (.failed [notConnected strings code userid])) =
        .ok (nothing strings code userid) := by
  refine cleanResult_envelope ?_ rfl
  exact List.forall_mem_singleton.2 ⟨hcode, nofun⟩

theorem cleanResult_of_passes {badges : List ExternalBadge} (h : ∀ b ∈ badges, b.Passes) :
    cleanResult (externalBadgesFunction strings).output (toResult (.ok badges)) =
      .ok (answerOf badges) := by
  refine cleanResult_envelope (List.forall_mem_nil _) (fitItems_map (fun b hb => ?_) 0)
  obtain ⟨r, hr⟩ := h b hb
  obtain ⟨out, hfit, -⟩ := cleanResult_eq_ok_iff.1 hr
  rw [hfit, ExternalBadge.shown_of_fit hfit]

theorem cleanResult_of_not_passes (strings : Strings) {badges : List ExternalBadge}
    (h : ∃ b ∈ badges, ¬b.Passes) :
    ∃ path reason, cleanResult (externalBadgesFunction strings).output (toResult (.ok badges)) =
      .error (.invalidResponse path reason) := by
  obtain ⟨b, hb, hnot⟩ := h
  cases hfit : (externalBadgesFunction strings).output.fit .output (toResult (.ok badges)) with
  | error m =>
    obtain ⟨path, reason, herror⟩ := m.toError_output
    exact ⟨path, reason, by rw [cleanResult, hfit, ← herror]⟩
  | ok out =>
    -- A result that fits has only badges that fit.
    have hresult : toResult (.ok badges) = .object [("badges", .array (badges.map
        ExternalBadge.toResult)), ("status", .bool true), ("warnings", .array [])] :=
      Envelope.toJson_eq_object_of_member (by decide) _ true []
    rw [hresult] at hfit
    obtain ⟨-, members, hfields, -⟩ := fit_object_eq_ok_iff.1 hfit
    obtain ⟨_, -, hfields⟩ := fitFields_cons_eq_ok_iff.1 hfields
    obtain ⟨_, hbadges, -⟩ := fitFields_cons_eq_ok_iff.1 hfields
    obtain ⟨kept, hitems, -⟩ := fit_array_eq_ok_iff.1 hbadges
    obtain ⟨out, hout⟩ := exists_fit_of_mem hitems _ (List.mem_map_of_mem hb)
    exact absurd ⟨_, cleanResult_eq_ok_iff.2 ⟨out, hout, rfl⟩⟩ hnot

theorem fetch_of_not_connected (h : ¬s.IsConnected ctx.caller) :
    fetch strings s ctx userid =
      .failed [notConnected strings "sitebackpackisnotconnected" userid] := by
  rw [← Site.isSome_connectedBackpack?, Bool.not_eq_true, Option.isSome_eq_false_iff,
    Option.isNone_iff_eq_none] at h
  rw [fetch, h]

theorem fetch_of_no_backpack (h : s.IsConnected ctx.caller)
    (hnone : s.userBackpack? userid = none) :
    fetch strings s ctx userid =
      .failed [notConnected strings "backpackisnotconnected" userid] := by
  rw [← Site.isSome_connectedBackpack?, Option.isSome_iff_exists] at h
  obtain ⟨service, hservice⟩ := h
  rw [fetch, hservice, hnone]

theorem fetch_of_backpack (h : s.IsConnected ctx.caller) {b : UserBackpack}
    (hb : s.userBackpack? userid = some b) :
    fetch strings s ctx userid = .ok ((s.shelfOf b.id).map KeptBadge.badge) := by
  rw [← Site.isSome_connectedBackpack?, Option.isSome_iff_exists] at h
  obtain ⟨service, hservice⟩ := h
  rw [fetch, hservice, hb, s.map_badge_shelfOf]

theorem fetch_congr {other : CallContext}
    (h : s.IsConnected ctx.caller ↔ s.IsConnected other.caller) :
    fetch strings s other userid = fetch strings s ctx userid := by
  by_cases hconnected : s.IsConnected ctx.caller
  · cases hb : s.userBackpack? userid with
    | none => rw [fetch_of_no_backpack hconnected hb, fetch_of_no_backpack (h.1 hconnected) hb]
    | some b => rw [fetch_of_backpack hconnected hb, fetch_of_backpack (h.1 hconnected) hb]
  · rw [fetch_of_not_connected hconnected, fetch_of_not_connected (mt h.2 hconnected)]

/-- A connected caller is answered with all badges of a user's first backpack, in order, as far as
they are declared, unless one of them does not pass. Whoever is not connected is told so, and so is
who asks for a user without a backpack. Nobody is told more than another who is connected. -/
theorem call_answers (strings : Strings) (s : Site) (hfeatures : ctx.features.ShowBackpacks)
    (hasks : arguments.AsksForUser userid) :
    (¬s.IsConnected ctx.caller →
      ((externalBadgesFunction strings).call ctx arguments) s =
        (.ok (nothing strings "sitebackpackisnotconnected" userid), s)) ∧
    (s.IsConnected ctx.caller → (∀ b, ¬s.FirstBackpack userid b) →
      ((externalBadgesFunction strings).call ctx arguments) s =
        (.ok (nothing strings "backpackisnotconnected" userid), s)) ∧
    (s.IsConnected ctx.caller → ∀ b, s.FirstBackpack userid b →
      ∃ shelf, s.Shelf b.id shelf ∧
        ((∀ kept ∈ shelf, kept.badge.Passes) →
          ((externalBadgesFunction strings).call ctx arguments) s =
            (.ok (answerOf (shelf.map KeptBadge.badge)), s)) ∧
        ((∃ kept ∈ shelf, ¬kept.badge.Passes) → ∃ path reason,
          ((externalBadgesFunction strings).call ctx arguments) s =
            (.error (.invalidResponse path reason), s))) ∧
    ∀ other : CallContext, other.features.ShowBackpacks →
      (s.IsConnected ctx.caller ↔ s.IsConnected other.caller) →
        ((externalBadgesFunction strings).call other arguments) s =
          ((externalBadgesFunction strings).call ctx arguments) s := by
  simp only [call_eq_cleanResult hfeatures hasks]
  refine ⟨fun hnot => ?_, fun hconnected hnone => ?_, fun hconnected b hb => ?_,
    fun other hother hiff => ?_⟩
  · rw [fetch_of_not_connected hnot, cleanResult_nothing (by decide)]
  · have hbackpack : s.userBackpack? userid = none := by
      cases hget : s.userBackpack? userid with
      | none => rfl
      | some b => exact absurd (Site.userBackpack?_eq_some_iff.1 hget) (hnone b)
    rw [fetch_of_no_backpack hconnected hbackpack, cleanResult_nothing (by decide)]
  · rw [fetch_of_backpack hconnected (Site.userBackpack?_eq_some_iff.2 hb)]
    refine ⟨s.shelfOf b.id, s.shelfOf_shelf b.id, fun hall => ?_, ?_⟩
    · rw [cleanResult_of_passes (List.forall_mem_map.2 hall)]
    · rintro ⟨kept, hkept, hnot⟩
      obtain ⟨path, reason, herror⟩ :=
        cleanResult_of_not_passes strings ⟨kept.badge, List.mem_map_of_mem hkept, hnot⟩
      exact ⟨path, reason, by rw [herror]⟩
  · rw [call_eq_cleanResult hother hasks, fetch_congr hiff]

/-! ## An example -/

/-- A badge with a key that nobody declares, and with a truth where a text is declared. -/
def certificate (name : String) : ExternalBadge where
  id := ""
  name := name
  type := none
  image := ""
  hostedUrl := none
  description := some "Passed"
  issuedOn := "2024-03-01"
  issuer := [("name", .string "Academy"), ("publicKey", .string "key")]
  recipient := [("hashed", .bool true)]
  criteria := []

def holdersBackpack : UserBackpack := ⟨1, 5, 1, "ada@example.com", "uid", false⟩

/-- A user keeps three badges in two collections. -/
def backpackSite : Site where
  siteBackpacks := Table.empty.put 1 ⟨1, "2", "", ""⟩
  userBackpacks := Table.empty.put 1 holdersBackpack
  collections := (Table.empty.put 2 ⟨2, 1, "", ""⟩).put 1 ⟨1, 1, "", ""⟩
  collected := [(1, [certificate "Rust", certificate "Go"]), (2, [certificate "Lean"])]

def holderContext : CallContext where
  caller := 5
  clock := ⟨200, ""⟩
  capabilities := {}
  features := {}

def forHolder : Json := .object [("userid", .string "5")]

theorem holderContext_showBackpacks : holderContext.features.ShowBackpacks := ⟨rfl, rfl⟩

theorem forHolder_asksForUser : forHolder.AsksForUser 5 :=
  ⟨by simp [forHolder, Json.HasOnly], by rfl⟩

theorem backpackSite_firstBackpack : backpackSite.FirstBackpack 5 holdersBackpack :=
  Site.userBackpack?_eq_some_iff.1 rfl

theorem backpackSite_isConnected : backpackSite.IsConnected 5 :=
  ⟨holdersBackpack, backpackSite_firstBackpack, rfl⟩

/-- What is left of a badge in an answer. -/
def answeredCertificate (name : String) : Json :=
  .object [("criteria", .object []), ("description", .string "Passed"), ("id", .string ""),
    ("image", .string ""), ("issuedon", .string "2024-03-01"),
    ("issuer", .object [("name", .string "Academy")]), ("name", .string name),
    ("recipient", .object [("hashed", .string "1")])]

/-- The badges with their places, by collections. -/
def holdersShelf : List KeptBadge :=
  [⟨1, 0, certificate "Rust"⟩, ⟨1, 1, certificate "Go"⟩, ⟨2, 0, certificate "Lean"⟩]

theorem holdersShelf_shelf : backpackSite.Shelf 1 holdersShelf := backpackSite.shelfOf_shelf 1

theorem holdersShelf_passes : ∀ kept ∈ holdersShelf, kept.badge.Passes := by
  simp only [holdersShelf, List.forall_mem_cons]
  exact ⟨⟨answeredCertificate "Rust", by rfl⟩, ⟨answeredCertificate "Go", by rfl⟩,
    ⟨answeredCertificate "Lean", by rfl⟩, List.forall_mem_nil _⟩

/-- The holder is answered with the three badges, less what is not declared. -/
theorem holder_answers :
    holderContext.features.ShowBackpacks ∧ forHolder.AsksForUser 5 ∧
      backpackSite.IsConnected 5 ∧ backpackSite.FirstBackpack 5 holdersBackpack ∧
      ((externalBadgesFunction {}).call holderContext forHolder) backpackSite =
        (.ok (.object [("badges", .array [answeredCertificate "Rust", answeredCertificate "Go",
          answeredCertificate "Lean"]), ("status", .bool true), ("warnings", .array [])]),
          backpackSite) := by
  refine ⟨holderContext_showBackpacks, forHolder_asksForUser, backpackSite_isConnected,
    backpackSite_firstBackpack, ?_⟩
  obtain ⟨-, -, hanswers, -⟩ :=
    call_answers {} backpackSite holderContext_showBackpacks forHolder_asksForUser
  obtain ⟨shelf, hshelf, hpass, -⟩ :=
    hanswers backpackSite_isConnected holdersBackpack backpackSite_firstBackpack
  obtain rfl := hshelf.eq holdersShelf_shelf
  exact hpass holdersShelf_passes

/-- What is declared as a text but stored as a truth is answered as a text, not as it is stored. -/
theorem truth_answered_as_text :
    holderContext.features.ShowBackpacks ∧ forHolder.AsksForUser 5 ∧
      backpackSite.IsConnected 5 ∧ backpackSite.FirstBackpack 5 holdersBackpack ∧
      backpackSite.Shelf holdersBackpack.id holdersShelf ∧
      (∀ kept ∈ holdersShelf, kept.badge.Passes) ∧
      ((externalBadgesFunction {}).call holderContext forHolder) backpackSite ≠
        (.ok (.object [("badges", .array (holdersShelf.map fun kept =>
          (badgeDescription.prune kept.badge.toResult).withoutNulls)), ("status", .bool true),
            ("warnings", .array [])]), backpackSite) := by
  refine ⟨holderContext_showBackpacks, forHolder_asksForUser, backpackSite_isConnected,
    backpackSite_firstBackpack, holdersShelf_shelf, holdersShelf_passes, fun h => ?_⟩
  -- The two differ in what the first badge says of its recipient.
  have hhashed := congrArg (fun answer => (((((answer.1.toOption.bind (Json.get? "badges")).bind
    Json.array?).bind List.head?).bind (Json.get? "recipient")).bind (Json.get? "hashed")).bind
      Json.bool?) h
  have hfalse : (none : Option Bool) = some true := hhashed
  cases hfalse

end ExternalBadges

end Campus
