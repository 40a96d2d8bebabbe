import Campus.Proofs.Dispatch
import Campus.Proofs.Fitting

/-!
# What outsiders learn about an award

Whoever neither received the award nor may configure its badge gets the answer that the public part
of the site gives. Two sites with one public part cannot be told apart by such answers.
-/

namespace Campus

/-! ## The public part -/

/-- The address is not public. -/
def User.concealed (u : User) : User := { u with email := "" }

/-- The name and the address are public. -/
def Alignment.concealed (a : Alignment) : Alignment :=
  { a with targetdescription := none, targetframework := none, targetcode := none }

/-- The times, the editors and the messages are not public, and of badges that are not awarded
neither is what version they are. -/
def Badge.concealed (awarded : Bool) (b : Badge) : Badge :=
  { b with
    timecreated := 0
    timemodified := 0
    usercreated := 0
    usermodified := 0
    message := ""
    messagesubject := ""
    attachment := 0
    notification := 0
    nextcron := none
    alignments := b.alignments.map Alignment.concealed
    version := if awarded then b.version else none
    language := if awarded then b.language else none
    type := if awarded then b.type else .site }

namespace Site

/-- The badge is the one that the hash's award is of. -/
def isAwarded (s : Site) (hash : String) (badge : Int) : Bool :=
  (s.awardByHash? hash).any (·.badgeid == badge)

/-- The site without what is hidden from those who only know an award's hash. -/
def publicPart (hash : String) (s : Site) : Site :=
  { s with
    users := s.users.mapRows fun _ u => u.concealed
    badges := s.badges.mapRows fun id b => b.concealed (s.isAwarded hash id) }

section Public

variable (hash : String) (s : Site)

theorem publicPart_user? (id : Int) :
    (s.publicPart hash).user? id = (s.user? id).map User.concealed :=
  Table.get?_mapRows _ id s.users

theorem publicPart_badge? (id : Int) :
    (s.publicPart hash).badge? id = (s.badge? id).map (Badge.concealed (s.isAwarded hash id)) :=
  Table.get?_mapRows _ id s.badges

theorem publicPart_capabilitiesFor (userid : Int) :
    (s.publicPart hash).capabilitiesFor userid = s.capabilitiesFor userid := by
  unfold capabilitiesFor
  rw [publicPart_user?]
  cases s.user? userid <;> rfl

theorem publicPart_permits_iff {userid : Int} {capability : String} {path : ContextPath} :
    (s.publicPart hash).Permits userid capability path ↔ s.Permits userid capability path := by
  rw [← has_capabilitiesFor_iff, ← has_capabilitiesFor_iff, publicPart_capabilitiesFor]

theorem isAwarded_of_awardByHash? {a : Award} (h : s.awardByHash? hash = some a) :
    s.isAwarded hash a.badgeid = true := by
  simp [isAwarded, h]

end Public

end Site

/-! ## The export -/

theorem Alignment.exported_concealed (a : Alignment) :
    a.concealed.exported false = a.exported false := rfl

theorem Badge.asRelated_concealed (awarded : Bool) (b : Badge) :
    (b.concealed awarded).asRelated false = b.asRelated false := rfl

namespace Award

variable {a : Award} {ctx : CallContext}

theorem isFullFor_concealed (b : Badge) : a.isFullFor (b.concealed true) ctx = a.isFullFor b ctx :=
  rfl

theorem exportOf_concealed (b : Badge) {related concealed : List Badge}
    (hrelated : concealed.map (Badge.asRelated false) = related.map (Badge.asRelated false))
    (owner : User) (wwwroot : String) :
    a.exportOf (b.concealed true) concealed owner.concealed wwwroot false =
      a.exportOf b related owner wwwroot false := by
  have halignments : (b.alignments.map Alignment.concealed).map (Alignment.exported false) =
      b.alignments.map (Alignment.exported false) := by
    rw [List.map_map]
    exact List.map_congr_left fun alignment _ => alignment.exported_concealed
  simp only [exportOf, hrelated, Badge.concealed, halignments]
  rfl

theorem exported_concealed {badge? : Int → Option Badge} {awarded : Int → Bool}
    (hawarded : awarded a.badgeid = true)
    (hfull : ∀ b, badge? a.badgeid = some b → a.isFullFor b ctx = false) (owner : User)
    (wwwroot : String) :
    a.exported (fun id => (badge? id).map (Badge.concealed (awarded id))) owner.concealed wwwroot
        ctx =
      a.exported badge? owner wwwroot ctx := by
  cases hbadge : badge? a.badgeid with
  | none => simp only [exported, hbadge, Option.map_none]
  | some b =>
    have hrelated : (b.related.filterMap fun id =>
          (badge? id).map (Badge.concealed (awarded id))).map (Badge.asRelated false) =
        (b.related.filterMap badge?).map (Badge.asRelated false) := by
      rw [List.map_filterMap, List.map_filterMap]
      congr 1
      funext id
      cases badge? id with
      | none => rfl
      | some b => exact congrArg some (b.asRelated_concealed (awarded id))
    simp only [exported, hbadge, Option.map_some, hawarded, isFullFor_concealed, hfull b hbadge]
    exact congrArg Except.ok (exportOf_concealed b hrelated owner wwwroot)

end Award

/-! ## The answer -/

section Answer

variable {strings : Strings} {s : Site} {ctx : CallContext} {hash : String}

theorem exported_publicPart {a : Award} (haward : s.awardByHash? hash = some a)
    (hout : ∀ b, s.badge? a.badgeid = some b → a.isFullFor b ctx = false) (owner : User) :
    (s.publicPart hash).awardSource.exported a owner.concealed ctx =
      s.awardSource.exported a owner ctx := by
  have hbadge : (s.publicPart hash).badge? =
      fun id => (s.badge? id).map (Badge.concealed (s.isAwarded hash id)) :=
    funext (s.publicPart_badge? hash)
  show a.exported (s.publicPart hash).badge? owner.concealed s.wwwroot ctx = _
  rw [hbadge]
  exact Award.exported_concealed (s.isAwarded_of_awardByHash? hash haward) hout owner s.wwwroot

theorem find_congr {source other : AwardSource}
    (haward : other.awardByHash hash = source.awardByHash hash)
    (hfound : ∀ a, source.awardByHash hash = some a → ∃ conceal : User → User,
      other.user a.userid = (source.user a.userid).map conceal ∧
        ∀ owner, other.exported a (conceal owner) ctx = source.exported a owner ctx) :
    UserBadgeByHash.find strings other ctx hash = UserBadgeByHash.find strings source ctx hash := by
  unfold UserBadgeByHash.find
  rw [haward]
  cases ha : source.awardByHash hash with
  | none => rfl
  | some a =>
    obtain ⟨conceal, huser, hexported⟩ := hfound a ha
    simp only [huser]
    cases source.user a.userid with
    | none => rfl
    | some owner => simp only [Option.map_some, hexported]

theorem find_publicPart (hout : ∀ a b, s.awardByHash? hash = some a →
      s.badge? a.badgeid = some b → a.isFullFor b ctx = false) :
    UserBadgeByHash.find strings (s.publicPart hash).awardSource ctx hash =
      UserBadgeByHash.find strings s.awardSource ctx hash := by
  refine find_congr rfl fun a ha => ⟨User.concealed, s.publicPart_user? hash a.userid, ?_⟩
  exact exported_publicPart ha fun b => hout a b ha

/-- The arguments of a call for a hash. -/
def byHash (hash : String) : Json := .object [("hash", .string hash)]

theorem eq_of_validateArguments_byHash {members : List (String × Json)}
    (h : validateArguments (userBadgeByHashFunction strings Site.awardSource).input (byHash hash) =
      .ok members) : members = [("hash", .string hash)] := by
  obtain ⟨given, hgiven, -, hfields⟩ :=
    (Description.validateArguments_eq_ok_iff (by rintro ⟨⟩)).1 h
  cases hgiven
  obtain ⟨v, hfit, hfields⟩ := Description.fitFields_cons_eq_ok_iff.1 hfields
  rw [Description.eq_of_fit_plain_alphanum hfit] at hfields
  cases hfields
  rfl

theorem readArguments_byHash :
    readArguments UserBadgeByHash.argumentsReader [("hash", .string hash)] = .ok hash := rfl

theorem call_publicPart (hout : ∀ a b, s.awardByHash? hash = some a →
      s.badge? a.badgeid = some b → a.isFullFor b ctx = false) :
    (((userBadgeByHashFunction strings Site.awardSource).call ctx (byHash hash))
        (s.publicPart hash)).1 =
      (((userBadgeByHashFunction strings Site.awardSource).call ctx (byHash hash)) s).1 := by
  cases hvalid : validateArguments (userBadgeByHashFunction strings Site.awardSource).input
      (byHash hash) with
  | error e => rw [ExternalFunction.call_of_error hvalid, ExternalFunction.call_of_error hvalid]
  | ok members =>
    cases eq_of_validateArguments_byHash hvalid
    rw [ExternalFunction.call_of_ok hvalid, ExternalFunction.call_of_ok hvalid]
    simp only [userBadgeByHashFunction, Run.bind_apply, Run.liftExcept_apply, Run.get_apply,
      readArguments_byHash, find_publicPart hout]
    cases UserBadgeByHash.find strings s.awardSource ctx hash <;> rfl

end Answer

/-! ## Two sites -/

namespace Service

/-- The holder of the token neither received the award of the hash nor may configure its badge. -/
def IsOutsider (s : Service) (token hash : String) : Prop :=
  ∀ caller a b, s.caller? token = some caller → s.site.awardByHash? hash = some a →
    s.site.badge? a.badgeid = some b →
      caller ≠ a.userid ∧ ¬s.site.Permits caller Capability.configureBadges b.path

variable {s : Service} {clock : Clock} {token hash : String}

theorem isFullFor_of_isOutsider (h : s.IsOutsider token hash) {caller : Int}
    (hcaller : s.caller? token = some caller) (a : Award) (b : Badge)
    (ha : s.site.awardByHash? hash = some a) (hb : s.site.badge? a.badgeid = some b) :
    a.isFullFor b (s.contextOf clock caller) = false := by
  obtain ⟨hne, hpermits⟩ := h caller a b hcaller ha hb
  rw [← Site.has_capabilitiesFor_iff] at hpermits
  simp [Award.isFullFor, CallContext.isCaller, CallContext.has, contextOf, hne, hpermits]

/-- The service of the public part of the site. -/
def publicPart (hash : String) (s : Service) : Service :=
  { s with site := s.site.publicPart hash }

theorem publicPart_caller? (s : Service) (hash token : String) :
    (s.publicPart hash).caller? token = s.caller? token := by
  have huser : ∀ id, ((s.site.publicPart hash).user? id).isSome = (s.site.user? id).isSome := by
    simp [Site.publicPart_user?]
  simp only [caller?, publicPart, huser]
  rfl

theorem publicPart_contextOf (caller : Int) :
    (s.publicPart hash).contextOf clock caller = s.contextOf clock caller := by
  simp only [contextOf, publicPart, Site.publicPart_capabilitiesFor]

theorem publicPart_answer (h : s.IsOutsider token hash) :
    ((s.publicPart hash).call clock "core_badges_get_user_badge_by_hash" token (byHash hash)).1 =
      (s.call clock "core_badges_get_user_badge_by_hash" token (byHash hash)).1 := by
  rw [call_answer, call_answer]
  have hknown := s.publicPart_caller? hash token
  cases hcaller : s.caller? token with
  | none =>
    rw [hcaller] at hknown
    rw [run_of_unknownToken hcaller, run_of_unknownToken hknown]
  | some caller =>
    rw [hcaller] at hknown
    have hmem : userBadgeByHashFunction s.strings Site.awardSource ∈
        bundledFunctions s.strings := by simp [bundledFunctions]
    have hpublic := run_of_caller hknown hmem clock (byHash hash)
    have hwhole := run_of_caller hcaller hmem clock (byHash hash)
    rw [publicPart_contextOf] at hpublic
    refine (congrArg Prod.fst hpublic).trans (Eq.trans ?_ (congrArg Prod.fst hwhole).symm)
    exact call_publicPart (isFullFor_of_isOutsider h hcaller)

theorem publicPart_isOutsider_iff :
    (s.publicPart hash).IsOutsider token hash ↔ s.IsOutsider token hash := by
  unfold IsOutsider
  rw [publicPart_caller?]
  constructor
  · intro h caller a b hcaller ha hb
    have hpublic : (s.publicPart hash).site.badge? a.badgeid = some (b.concealed true) := by
      rw [publicPart, Site.publicPart_badge?, hb, s.site.isAwarded_of_awardByHash? hash ha]
      rfl
    obtain ⟨hne, hpermits⟩ := h caller a _ hcaller ha hpublic
    exact ⟨hne, fun hp => hpermits ((s.site.publicPart_permits_iff hash).2 hp)⟩
  · intro h caller a b hcaller ha hb
    replace ha : s.site.awardByHash? hash = some a := ha
    rw [publicPart, Site.publicPart_badge?, s.site.isAwarded_of_awardByHash? hash ha] at hb
    obtain ⟨whole, hwhole, rfl⟩ := Option.map_eq_some_iff.1 hb
    obtain ⟨hne, hpermits⟩ := h caller a whole hcaller ha hwhole
    exact ⟨hne, fun hp => hpermits ((s.site.publicPart_permits_iff hash).1 hp)⟩

/-- Sites with one public part answer an outsider alike. -/
theorem answer_eq_of_publicPart_eq {other : Site}
    (hsites : s.site.publicPart hash = other.publicPart hash) (h : s.IsOutsider token hash) :
    ({ s with site := other }.call clock "core_badges_get_user_badge_by_hash" token
        (byHash hash)).1 =
      (s.call clock "core_badges_get_user_badge_by_hash" token (byHash hash)).1 := by
  have hpublic : ({ s with site := other }.publicPart hash) = s.publicPart hash := by
    simp only [publicPart, hsites]
  have hother : IsOutsider { s with site := other } token hash := by
    rw [← publicPart_isOutsider_iff, hpublic, publicPart_isOutsider_iff]
    exact h
  rw [← publicPart_answer h, ← publicPart_answer hother, hpublic]

end Service

/-! ## An example -/

/-- A site that hides a message, an alignment's code and an address. One user has received a badge,
another holds a token. -/
def secretive (message code email : String) : Site where
  users := (Table.empty.put 5 ⟨5, "ada", "Ada", "Lovelace", email, false⟩).put 7
    ⟨7, "eve", "Eve", "Moneypenny", "eve@example.com", false⟩
  tokens := [("token", 7)]
  badges := Table.empty.put 1
    { id := 1, name := "Analyst", description := "", timecreated := 0, timemodified := 0
      usercreated := 2, usermodified := 2, issuername := "Campus", issuerurl := ""
      issuercontact := none, expiredate := none, expireperiod := none, type := .site
      courseid := none, messagesubject := "", message, attachment := 1, notification := 0
      nextcron := none, status := .active, version := none, language := none
      imageauthorname := none, imageauthoremail := none, imageauthorurl := none
      imagecaption := none, endorsement := none
      alignments := [⟨1, 1, "Mathematics", "", none, none, some code⟩], related := [] }
  awards := Table.empty.put 1 ⟨1, 1, 5, "abc", 0, none, true⟩

theorem secretive_isOutsider (message code email : String) :
    ({ site := secretive message code email } : Service).IsOutsider "token" "abc" := by
  intro caller a b hcaller ha hb
  cases hcaller
  cases ha
  refine ⟨by decide, ?_⟩
  rintro (⟨user, huser, hadmin⟩ | hroles)
  · cases huser
    cases hadmin
  · simp [resolveCapabilities, assignedRoles, secretive, Capabilities.has,
      Capabilities.onPath] at hroles

/-- Whoever holds the token cannot tell which message, code and address the site hides. -/
theorem secretive_answers :
    ((secretive "Well done" "M1" "ada@example.com").publicPart "abc" =
        (secretive "Try again" "M2" "ada@example.org").publicPart "abc" ∧
      ({ site := secretive "Well done" "M1" "ada@example.com" } : Service).IsOutsider "token"
        "abc") ∧
    (({ site := secretive "Try again" "M2" "ada@example.org" } : Service).call ⟨0, ""⟩
        "core_badges_get_user_badge_by_hash" "token" (byHash "abc")).1 =
      (({ site := secretive "Well done" "M1" "ada@example.com" } : Service).call ⟨0, ""⟩
        "core_badges_get_user_badge_by_hash" "token" (byHash "abc")).1 := by
  have hsites : (secretive "Well done" "M1" "ada@example.com").publicPart "abc" =
      (secretive "Try again" "M2" "ada@example.org").publicPart "abc" := rfl
  have hout := secretive_isOutsider "Well done" "M1" "ada@example.com"
  exact ⟨⟨hsites, hout⟩, Service.answer_eq_of_publicPart_eq hsites hout⟩

end Campus
