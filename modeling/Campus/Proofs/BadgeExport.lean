import Mathlib.Tactic.MkIffOfInductiveProp
import Campus.Proofs.BadgePrivacy
import Campus.Proofs.Nulls

/-!
# The export of an award is what its function declares

The exported record and the declared result are two lists of the same fields. A call for an award
answers with the whole export, less its nulls, unless a link or an address in it is malformed: then
the call fails.
-/

namespace Campus

open Description

/-! ## Records as entries

The members of a record in the order of its fields, null where there is none.
-/

namespace Endorsement

theorem toJson_ne_null (e : Endorsement) : e.toJson ≠ .null := nofun

def entries (e : Endorsement) : List (String × Json) :=
  [("id", .int e.id), ("badgeid", .int e.badgeid), ("issuername", .string e.issuername),
    ("issuerurl", .string e.issuerurl), ("issueremail", .string e.issueremail),
    ("claimid", .ofOption .string e.claimid), ("claimcomment", .ofOption .string e.claimcomment),
    ("dateissued", .int e.dateissued)]

end Endorsement

namespace Alignment

theorem toJson_ne_null (a : Alignment) : a.toJson ≠ .null := nofun

def entries (a : Alignment) : List (String × Json) :=
  [("id", .int a.id), ("badgeid", .int a.badgeid), ("targetname", .string a.targetname),
    ("targeturl", .string a.targeturl),
    ("targetdescription", .ofOption .string a.targetdescription),
    ("targetframework", .ofOption .string a.targetframework),
    ("targetcode", .ofOption .string a.targetcode)]

theorem toJson_eq (a : Alignment) :
    a.toJson = .ofMembers (a.entries.filter fun e => !e.2.isNull) := by
  simp only [toJson, entries, optionalMember, Json.filter_present_cons,
    Json.filter_present_ofOption, Json.int_ne_null,
    ne_eq, reduceCtorEq, not_false_eq_true, implies_true, List.filter_nil, List.append_nil,
    List.cons_append, List.nil_append, List.append_assoc]

end Alignment

namespace RelatedBadge

theorem toJson_ne_null (r : RelatedBadge) : r.toJson ≠ .null := nofun

def entries (r : RelatedBadge) : List (String × Json) :=
  [("id", .int r.id), ("name", .string r.name), ("version", .ofOption .string r.version),
    ("language", .ofOption .string r.language), ("type", .ofOption (fun t => .int t.code) r.type)]

theorem toJson_eq (r : RelatedBadge) :
    r.toJson = .ofMembers (r.entries.filter fun e => !e.2.isNull) := by
  simp only [toJson, entries, optionalMember, Json.filter_present_cons,
    Json.filter_present_ofOption, Json.int_ne_null,
    ne_eq, reduceCtorEq, not_false_eq_true, implies_true, List.filter_nil, List.append_nil,
    List.cons_append, List.nil_append, List.append_assoc]

end RelatedBadge

namespace UserBadge

theorem toJson_ne_null (b : UserBadge) : b.toJson ≠ .null := nofun

def entries (b : UserBadge) : List (String × Json) :=
  [("id", .int b.id), ("name", .string b.name), ("description", .string b.description),
    ("timecreated", .ofOption .int b.timecreated), ("timemodified", .ofOption .int b.timemodified),
    ("usercreated", .ofOption .int b.usercreated), ("usermodified", .ofOption .int b.usermodified),
    ("issuername", .string b.issuername), ("issuerurl", .string b.issuerurl),
    ("issuercontact", .ofOption .string b.issuercontact),
    ("expiredate", .ofOption .int b.expiredate), ("expireperiod", .ofOption .int b.expireperiod),
    ("type", .int b.type.code), ("courseid", .ofOption .int b.courseid),
    ("message", .ofOption .string b.message),
    ("messagesubject", .ofOption .string b.messagesubject),
    ("attachment", .ofOption .int b.attachment), ("notification", .ofOption .int b.notification),
    ("nextcron", .ofOption .int b.nextcron), ("status", .int b.status.code),
    ("issuedid", .int b.issuedid), ("uniquehash", .string b.uniquehash),
    ("dateissued", .int b.dateissued), ("dateexpire", .ofOption .int b.dateexpire),
    ("visible", .bool b.visible), ("email", .ofOption .string b.email),
    ("version", .ofOption .string b.version), ("language", .ofOption .string b.language),
    ("imageauthorname", .ofOption .string b.imageauthorname),
    ("imageauthoremail", .ofOption .string b.imageauthoremail),
    ("imageauthorurl", .ofOption .string b.imageauthorurl),
    ("imagecaption", .ofOption .string b.imagecaption), ("badgeurl", .string b.badgeurl),
    ("endorsement", .ofOption Endorsement.toJson b.endorsement),
    ("alignment", .array (b.alignment.map Alignment.toJson)),
    ("relatedbadges", .array (b.relatedbadges.map RelatedBadge.toJson))]

theorem toJson_eq (b : UserBadge) :
    b.toJson = .ofMembers (b.entries.filter fun e => !e.2.isNull) := by
  simp only [toJson, entries, optionalMember, Json.filter_present_cons,
    Json.filter_present_ofOption, Json.int_ne_null,
    Endorsement.toJson_ne_null, ne_eq, reduceCtorEq, not_false_eq_true, implies_true,
    List.filter_nil, List.cons_append, List.nil_append, List.append_assoc]

end UserBadge

/-! ## Numbers, links and addresses

Numbers of a site are of 64 bits.
-/

structure Endorsement.HasWords (e : Endorsement) : Prop where
  id : IsInt64 e.id
  badgeid : IsInt64 e.badgeid
  dateissued : IsInt64 e.dateissued

structure Alignment.HasWords (a : Alignment) : Prop where
  id : IsInt64 a.id
  badgeid : IsInt64 a.badgeid

structure UserBadge.HasWords (b : UserBadge) : Prop where
  id : IsInt64 b.id
  timecreated : ∀ n ∈ b.timecreated, IsInt64 n
  timemodified : ∀ n ∈ b.timemodified, IsInt64 n
  usercreated : ∀ n ∈ b.usercreated, IsInt64 n
  usermodified : ∀ n ∈ b.usermodified, IsInt64 n
  expiredate : ∀ n ∈ b.expiredate, IsInt64 n
  expireperiod : ∀ n ∈ b.expireperiod, IsInt64 n
  courseid : ∀ n ∈ b.courseid, IsInt64 n
  attachment : ∀ n ∈ b.attachment, IsInt64 n
  notification : ∀ n ∈ b.notification, IsInt64 n
  nextcron : ∀ n ∈ b.nextcron, IsInt64 n
  issuedid : IsInt64 b.issuedid
  dateissued : IsInt64 b.dateissued
  dateexpire : ∀ n ∈ b.dateexpire, IsInt64 n
  endorsement : ∀ e ∈ b.endorsement, e.HasWords
  alignment : ∀ a ∈ b.alignment, a.HasWords
  relatedbadges : ∀ r ∈ b.relatedbadges, IsInt64 r.id

theorem BadgeType.isInt64_code (t : BadgeType) : IsInt64 t.code := by
  cases t <;> decide

theorem BadgeStatus.isInt64_code (s : BadgeStatus) : IsInt64 s.code := by
  cases s <;> decide

@[mk_iff]
structure Endorsement.IsWellAddressed (e : Endorsement) : Prop where
  issuerurl : IsLink e.issuerurl
  issueremail : IsAddress e.issueremail
  claimid : ∀ url ∈ e.claimid, IsLink url

/-- Every link that the export holds has a host and every address of email is well formed, unless
they are empty. -/
@[mk_iff]
structure UserBadge.IsWellAddressed (b : UserBadge) : Prop where
  issuerurl : IsLink b.issuerurl
  email : ∀ address ∈ b.email, IsAddress address
  imageauthoremail : ∀ address ∈ b.imageauthoremail, IsAddress address
  imageauthorurl : ∀ url ∈ b.imageauthorurl, IsLink url
  badgeurl : IsLink b.badgeurl
  endorsement : ∀ e ∈ b.endorsement, e.IsWellAddressed
  alignment : ∀ a ∈ b.alignment, IsLink a.targeturl

/-! ## Records are kept -/

theorem Endorsement.keptIff {o : Option Endorsement} (ho : ∀ e ∈ o, e.HasWords) :
    UserBadgeByHash.endorsementDescription.KeptIff (.ofOption toJson o)
      (∀ e ∈ o, e.IsWellAddressed) := by
  refine keptIff_ofOption toJson_ne_null fun e he => ?_
  have hwords := ho e he
  have hfields : EachKeptIff UserBadgeByHash.endorsementDescription.fields e.entries _ :=
    .cons (keptIff_word hwords.id) <| .cons (keptIff_word hwords.badgeid) <| .cons keptIff_text <|
    .cons keptIff_url <| .cons keptIff_email <| .cons keptIff_optional_url <|
    .cons keptIff_optional_raw <| .cons (keptIff_word hwords.dateissued) .nil
  refine (keptIff_ofMembers (by decide) hfields).congr ?_
  simp [isWellAddressed_iff]

theorem Alignment.keptIff {items : List Alignment} (hitems : ∀ a ∈ items, a.HasWords) :
    UserBadgeByHash.alignmentDescription.KeptIff (.array (items.map toJson))
      (∀ a ∈ items, IsLink a.targeturl) := by
  refine keptIff_listOf toJson_ne_null fun a ha => ?_
  have hwords := hitems a ha
  rw [toJson_eq]
  refine KeptIff.congr (keptIff_ofMembers_filter (by decide) <|
    .cons (keptIff_word hwords.id) <| .cons (keptIff_word hwords.badgeid) <| .cons keptIff_text <|
    .cons keptIff_url <| .cons keptIff_optional_raw <| .cons keptIff_optional_text <|
    .cons keptIff_optional_text .nil) ?_
  simp

theorem RelatedBadge.keptIff {items : List RelatedBadge} (hitems : ∀ r ∈ items, IsInt64 r.id) :
    UserBadgeByHash.relatedDescription.KeptIff (.array (items.map toJson)) True := by
  refine (keptIff_listOf toJson_ne_null fun r hr => ?_).congr (iff_true_intro fun _ _ => trivial)
  have htype : ∀ t ∈ r.type, (plain .int "Type").KeptIff (.int t.code) True :=
    fun t _ => keptIff_word t.isInt64_code
  rw [toJson_eq]
  refine KeptIff.congr (keptIff_ofMembers_filter (by decide) <|
    .cons (keptIff_word (hitems r hr)) <| .cons keptIff_text <| .cons keptIff_optional_text <|
    .cons keptIff_optional_text <| .cons (keptIff_ofOption (fun _ => nofun) htype) .nil) ?_
  simp

theorem UserBadge.keptIff {b : UserBadge} (hb : b.HasWords) :
    UserBadgeByHash.badgeDescription.KeptIff b.toJson b.IsWellAddressed := by
  rw [toJson_eq]
  refine KeptIff.congr (keptIff_ofMembers_filter (by decide) <|
    .cons (keptIff_word hb.id) <| .cons keptIff_text <| .cons keptIff_raw <|
    .cons (keptIff_optional_word hb.timecreated) <| .cons (keptIff_optional_word hb.timemodified) <|
    .cons (keptIff_optional_word hb.usercreated) <| .cons (keptIff_optional_word hb.usermodified) <|
    .cons keptIff_text <| .cons keptIff_url <| .cons keptIff_optional_raw <|
    .cons (keptIff_optional_word hb.expiredate) <| .cons (keptIff_optional_word hb.expireperiod) <|
    .cons (keptIff_word b.type.isInt64_code) <| .cons (keptIff_optional_word hb.courseid) <|
    .cons keptIff_optional_raw <| .cons keptIff_optional_text <|
    .cons (keptIff_optional_word hb.attachment) <| .cons (keptIff_optional_word hb.notification) <|
    .cons (keptIff_optional_word hb.nextcron) <| .cons (keptIff_word b.status.isInt64_code) <|
    .cons (keptIff_word hb.issuedid) <| .cons keptIff_text <| .cons (keptIff_word hb.dateissued) <|
    .cons (keptIff_optional_word hb.dateexpire) <| .cons keptIff_bool <|
    .cons keptIff_optional_email <| .cons keptIff_optional_text <| .cons keptIff_optional_text <|
    .cons keptIff_optional_text <| .cons keptIff_optional_email <| .cons keptIff_optional_url <|
    .cons keptIff_optional_text <| .cons keptIff_url <|
    .cons (Endorsement.keptIff hb.endorsement) <| .cons (Alignment.keptIff hb.alignment) <|
    .cons (RelatedBadge.keptIff hb.relatedbadges) .nil) ?_
  simp only [true_and, and_true, isWellAddressed_iff]

/-! ## The answer -/

/-- The arguments ask for a hash, of letters and digits, by a text or by what is read as one. -/
def Json.AsksForHash (arguments : Json) (hash : String) : Prop :=
  arguments.HasOnly ["hash"] ∧ hash.toList.all isAlphanumeric = true ∧
    ∃ v, arguments.get? "hash" = some v ∧ v.scalarText? = .ok hash

/-- The award as it is exported from a site for a caller. -/
def Site.exportOf (s : Site) (a : Award) (b : Badge) (owner : User) (ctx : CallContext) :
    UserBadge :=
  a.exportOf b (b.related.filterMap s.badge?) owner s.wwwroot (a.isFullFor b ctx)

section Answer

variable {strings : Strings} {s : Site} {ctx : CallContext} {arguments : Json} {hash : String}
  {a : Award} {owner : User} {b : Badge}

theorem validateArguments_hash (h : arguments.AsksForHash hash) :
    validateArguments (userBadgeByHashFunction strings Site.awardSource).input arguments =
      .ok [("hash", .string hash)] := by
  obtain ⟨honly, halphanumeric, v, hv, htext⟩ := h
  cases arguments with
  | object given =>
    have hnull : v.isNull = false := by cases v <;> first | rfl | cases htext
    have hcoerce : ParamType.alphanum.coerce v = .ok (.string hash) :=
      bind_eq_ok_iff.2 ⟨hash, htext, if_pos halphanumeric⟩
    refine (validateArguments_eq_ok_iff (by rintro ⟨⟩)).2 ⟨given, rfl, honly, ?_⟩
    refine fitFields_cons_eq_ok_iff.2 ⟨some (.string hash), ?_, rfl⟩
    rw [show Keyed.get? "hash" given = some v from hv, Option.getD_some]
    exact fit_plain_of_coerce hnull hcoerce
  | _ => cases honly

theorem find_eq_exportOf (henabled : ctx.features.enableBadges = true)
    (haward : s.awardByHash? hash = some a) (howner : s.user? a.userid = some owner)
    (hbadge : s.badge? a.badgeid = some b) :
    UserBadgeByHash.find strings s.awardSource ctx hash = .ok (.ok (s.exportOf a b owner ctx)) := by
  have hexported : s.awardSource.exported a owner ctx = .ok (s.exportOf a b owner ctx) := by
    show a.exported s.badge? owner s.wwwroot ctx = _
    rw [Award.exported, hbadge]
    rfl
  have hrequire : requireBadges strings ctx.features = .ok () := if_pos henabled
  have haward : s.awardSource.awardByHash hash = some a := haward
  have howner : s.awardSource.user a.userid = some owner := howner
  simp only [UserBadgeByHash.find, hrequire, haward, howner, hexported]
  rfl

theorem toResult_ok (b : UserBadge) : UserBadgeByHash.toResult (.ok b) =
    Envelope.toJson { status := true, payload := [("badge", .array ([b].map UserBadge.toJson))] } :=
  rfl

theorem withoutNulls_toResult (b : UserBadge) :
    (UserBadgeByHash.toResult (.ok b)).withoutNulls =
      .object [("badge", .array [b.toJson.withoutNulls]), ("status", .bool true),
        ("warnings", .array [])] := by
  rw [toResult_ok, Envelope.toJson_eq_object_of_member (by decide)]
  rfl

theorem keptIff_toResult {b : UserBadge} (hwords : b.HasWords) :
    (userBadgeByHashFunction strings Site.awardSource).output.KeptIff
      (UserBadgeByHash.toResult (.ok b)) b.IsWellAddressed := by
  have hbadges : (listOf UserBadgeByHash.badgeDescription "Badge awarded").KeptIff
      (.array ([b].map UserBadge.toJson)) (∀ c ∈ [b], c.IsWellAddressed) :=
    keptIff_listOf UserBadge.toJson_ne_null fun c hc =>
      UserBadge.keptIff (List.mem_singleton.1 hc ▸ hwords)
  rw [toResult_ok, Envelope.toJson]
  refine KeptIff.congr (keptIff_ofMembers (by decide) <|
    .cons keptIff_bool <| .cons hbadges <| .cons (keptIff_warnings []) .nil) ?_
  simp

/-- A call for an award answers with the whole export, less its nulls, or fails if a link or an
address in it is malformed. -/
theorem call_byHash_export (henabled : ctx.features.enableBadges = true)
    (hasks : arguments.AsksForHash hash) (haward : s.awardByHash? hash = some a)
    (howner : s.user? a.userid = some owner) (hbadge : s.badge? a.badgeid = some b)
    (hwords : (s.exportOf a b owner ctx).HasWords) :
    ((s.exportOf a b owner ctx).IsWellAddressed →
      ((userBadgeByHashFunction strings Site.awardSource).call ctx arguments) s =
        (.ok (.object [("badge", .array [(s.exportOf a b owner ctx).toJson.withoutNulls]),
          ("status", .bool true), ("warnings", .array [])]), s)) ∧
      (¬(s.exportOf a b owner ctx).IsWellAddressed → ∃ path reason,
        ((userBadgeByHashFunction strings Site.awardSource).call ctx arguments) s =
          (.error (.invalidResponse path reason), s)) := by
  have hkept : (userBadgeByHashFunction strings Site.awardSource).output.KeptIff
      (UserBadgeByHash.toResult (.ok (s.exportOf a b owner ctx)))
      (s.exportOf a b owner ctx).IsWellAddressed := keptIff_toResult hwords
  have hcall : ((userBadgeByHashFunction strings Site.awardSource).call ctx arguments) s =
      (cleanResult (userBadgeByHashFunction strings Site.awardSource).output
        (UserBadgeByHash.toResult (.ok (s.exportOf a b owner ctx))), s) := by
    rw [ExternalFunction.call_of_ok (validateArguments_hash hasks)]
    simp only [userBadgeByHashFunction, Run.bind_apply, Run.liftExcept_apply, Run.get_apply,
      readArguments_byHash, find_eq_exportOf henabled haward howner hbadge, Run.pure_apply]
  rw [hcall]
  constructor
  · intro hwell
    have hresult : UserBadgeByHash.toResult (.ok (s.exportOf a b owner ctx)) ≠ .null := by
      intro hnull
      cases hnull
    rw [cleanResult, hkept.kept hwell, Json.present?_of_ne_null hresult, withoutNulls_toResult]
    rfl
  · intro hill
    obtain ⟨m, hm⟩ := hkept.refused hill
    obtain ⟨path, reason, herror⟩ := m.toError_output
    refine ⟨path, reason, ?_⟩
    rw [cleanResult, hm, ← herror]

end Answer

/-! ## An example -/

/-- A badge with an endorsement, an alignment and a related badge, issued to one user. The image's
author may have an address on the web. -/
def issuedBadge (imageauthorurl : Option String) : Badge where
  id := 1
  name := "Analyst"
  description := ""
  timecreated := 10
  timemodified := 20
  usercreated := 2
  usermodified := 2
  issuername := "Campus"
  issuerurl := ""
  issuercontact := none
  expiredate := none
  expireperiod := none
  type := .site
  courseid := none
  messagesubject := "Well done"
  message := "You made it"
  attachment := 1
  notification := 0
  nextcron := none
  status := .active
  version := some "2"
  language := none
  imageauthorname := none
  imageauthoremail := some "ada@example.com"
  imageauthorurl
  imagecaption := none
  endorsement := some ⟨4, 1, "Academy", "", "office@example.com", none, none, 30⟩
  alignments := [⟨6, 1, "Mathematics", "", none, none, some "M1"⟩]
  related := [1, 9]

def recipient : User := ⟨5, "ada", "Ada", "Lovelace", "ada@example.com", false⟩

def issue : Award := ⟨3, 1, 5, "abc123", 40, none, true⟩

def issuingSite (imageauthorurl : Option String) : Site where
  wwwroot := "https://[2001:db8::1]/"
  users := Table.empty.put 5 recipient
  badges := Table.empty.put 1 (issuedBadge imageauthorurl)
  awards := Table.empty.put 1 issue

/-- Somebody without any capability asks. -/
def visitorContext : CallContext where
  caller := 7
  clock := ⟨200, ""⟩
  capabilities := {}
  features := {}

/-- The export as a visitor sees it, once its nulls are dropped. -/
def visitorsExport : Json :=
  .object [
    ("alignment", .array [.object [("badgeid", .int 1), ("id", .int 6),
      ("targetname", .string "Mathematics"), ("targeturl", .string "")]]),
    ("badgeurl",
      .string "https://[2001:db8::1]/webservice/pluginfile.php/badges/badgeimage/1/f3"),
    ("dateissued", .int 40), ("description", .string ""),
    ("endorsement", .object [("badgeid", .int 1), ("dateissued", .int 30), ("id", .int 4),
      ("issueremail", .string "office@example.com"), ("issuername", .string "Academy"),
      ("issuerurl", .string "")]),
    ("id", .int 1), ("imageauthoremail", .string "ada@example.com"), ("issuedid", .int 3),
    ("issuername", .string "Campus"), ("issuerurl", .string ""), ("name", .string "Analyst"),
    ("relatedbadges", .array [.object [("id", .int 1), ("name", .string "Analyst")]]),
    ("status", .int 1), ("type", .int 1), ("uniquehash", .string "abc123"),
    ("version", .string "2"), ("visible", .bool true)]

theorem asksForHash_byHash : (byHash "abc123").AsksForHash "abc123" :=
  ⟨by simp [byHash, Json.HasOnly], by decide, _, rfl, rfl⟩

section Example

variable (url : Option String)

theorem issuingSite_hasWords : ((issuingSite url).exportOf issue (issuedBadge url) recipient
    visitorContext).HasWords where
  id := (by decide : IsInt64 1)
  timecreated := nofun
  timemodified := nofun
  usercreated := nofun
  usermodified := nofun
  expiredate := nofun
  expireperiod := nofun
  courseid := nofun
  attachment := nofun
  notification := nofun
  nextcron := nofun
  issuedid := (by decide : IsInt64 3)
  dateissued := (by decide : IsInt64 40)
  dateexpire := nofun
  endorsement := by
    rintro e ⟨⟩
    exact ⟨by decide, by decide, by decide⟩
  alignment := by
    intro a ha
    cases List.mem_singleton.1 ha
    exact ⟨(by decide : IsInt64 6), (by decide : IsInt64 1)⟩
  relatedbadges := by
    intro r hr
    cases List.mem_singleton.1 hr
    exact (by decide : IsInt64 1)

theorem issuingSite_isWellAddressed : ((issuingSite none).exportOf issue (issuedBadge none)
    recipient visitorContext).IsWellAddressed where
  issuerurl := .inl rfl
  email := nofun
  imageauthoremail := by
    rintro address ⟨⟩
    exact .inr (by decide)
  imageauthorurl := nofun
  badgeurl := .inr ⟨⟨"https".toList, some (.ipv6 "2001:db8::1".toList)⟩, by decide +kernel, rfl⟩
  endorsement := by
    rintro e ⟨⟩
    exact ⟨.inl rfl, .inr (by decide), nofun⟩
  alignment := by
    intro a ha
    cases List.mem_singleton.1 ha
    exact .inl rfl

end Example

/-- A visitor is shown the badge, unless the author's address is on no host. -/
theorem issuingSite_answers :
    ((userBadgeByHashFunction .english Site.awardSource).call visitorContext (byHash "abc123"))
        (issuingSite none) =
      (.ok (.object [("badge", .array [visitorsExport]), ("status", .bool true),
        ("warnings", .array [])]), issuingSite none) ∧
    ∃ path reason,
      ((userBadgeByHashFunction .english Site.awardSource).call visitorContext (byHash "abc123"))
          (issuingSite (some "campus")) =
        (.error (.invalidResponse path reason), issuingSite (some "campus")) := by
  constructor
  · exact (call_byHash_export rfl asksForHash_byHash rfl rfl rfl (issuingSite_hasWords none)).1
      issuingSite_isWellAddressed
  · refine (call_byHash_export rfl asksForHash_byHash rfl rfl rfl
      (issuingSite_hasWords (some "campus"))).2 fun h => ?_
    rcases h.imageauthorurl "campus" rfl with hempty | ⟨url, hparse, -⟩
    · exact absurd hempty (by decide)
    · cases hparse

end Campus
