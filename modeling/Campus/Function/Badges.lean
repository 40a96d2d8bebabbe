import Campus.Contract.Registry
import Campus.Site.Change

/-!
# Functions on badges

Finding an award by its hash, and listing the badges that a user keeps in a backpack elsewhere.
-/

namespace Campus

/-- An error of the site, as the error of a call. -/
def SiteError.toExternal : SiteError → ExternalError
  | .userNotFound id => .recordNotFound "user" (toString id)
  | .courseNotFound id => .recordNotFound "course" (toString id)
  | .moduleNotFound id => .recordNotFound "course_modules" (toString id)
  | .badgeNotFound id => .recordNotFound "badge" (toString id)
  | .backpackNotFound id => .recordNotFound "badge_backpack" (toString id)
  | .reportNotFound id => .recordNotFound "reportbuilder_report" (toString id)
  | .roleNotFound name => .recordNotFound "role" name
  | e => .internal e.message

/-- Fails unless the site has badges. -/
def requireBadges (strings : Strings) (features : Features) : Except ExternalError Unit :=
  if features.enableBadges then .ok ()
  else .error (.localized .featureDisabled "badgesdisabled" "badges" strings)

/-- Fails unless the site has badges and lets users keep backpacks elsewhere. -/
def requireBackpacks (strings : Strings) (features : Features) : Except ExternalError Unit := do
  requireBadges strings features
  if features.allowExternalBackpack then .ok ()
  else .error (.localized .featureDisabled "externalbackpackdisabled" "badges" strings)

/-! ## The award of a hash -/

namespace UserBadgeByHash

def argumentsReader : Reader String :=
  .record "HashParams" <| .required "hash" .string

def notFound (strings : Strings) (hash : String) : Warning :=
  { warningcode := "badgeawardnotfound"
    message := strings.get "error:badgeawardnotfound" "badges"
    item := some hash }

def endorsementDescription : Description :=
  .optional <| .structureOf "Badge endorsement" [
    ("id", .plain .int "Endorsement id"),
    ("badgeid", .plain .int "Badge id"),
    ("issuername", .plain .text "Endorsement issuer name"),
    ("issuerurl", .plain .url "Endorsement issuer URL"),
    ("issueremail", .plain .email "Endorsement issuer email"),
    ("claimid", .optional (.plain .url "Claim URL")),
    ("claimcomment", .optional (.plain .raw "Claim comment")),
    ("dateissued", .plain .int "Date issued")]

def alignmentDescription : Description :=
  .listOf
    (.structureOf "Badge alignment" [
      ("id", .plain .int "Alignment id"),
      ("badgeid", .plain .int "Badge id"),
      ("targetname", .plain .text "Target name"),
      ("targeturl", .plain .url "Target URL"),
      ("targetdescription", .optional (.plain .raw "Target description")),
      ("targetframework", .optional (.plain .text "Target framework")),
      ("targetcode", .optional (.plain .text "Target code"))])
    "Badge alignments"

def relatedDescription : Description :=
  .listOf
    (.structureOf "Related badge" [
      ("id", .plain .int "Badge id"),
      ("name", .plain .text "Badge name"),
      ("version", .optional (.plain .text "Version")),
      ("language", .optional (.plain .text "Language")),
      ("type", .optional (.plain .int "Type"))])
    "Related badges"

def badgeDescription : Description :=
  .structureOf "Issued badge" [
    ("id", .plain .int "Badge id"),
    ("name", .plain .text "Badge name"),
    ("description", .plain .raw "Badge description"),
    ("timecreated", .optional (.plain .int "Time created")),
    ("timemodified", .optional (.plain .int "Time modified")),
    ("usercreated", .optional (.plain .int "User created")),
    ("usermodified", .optional (.plain .int "User modified")),
    ("issuername", .plain .text "Issuer name"),
    ("issuerurl", .plain .url "Issuer URL"),
    ("issuercontact", .optional (.plain .raw "Issuer contact")),
    ("expiredate", .optional (.plain .int "Expire date")),
    ("expireperiod", .optional (.plain .int "Expire period")),
    ("type", .plain .int "Type"),
    ("courseid", .optional (.plain .int "Course id")),
    ("message", .optional (.plain .raw "Message")),
    ("messagesubject", .optional (.plain .text "Message subject")),
    ("attachment", .optional (.plain .int "Attachment")),
    ("notification", .optional (.plain .int "Whether to notify when badge is awarded")),
    ("nextcron", .optional (.plain .int "Next cron")),
    ("status", .plain .int "Status"),
    ("issuedid", .plain .int "Issued id"),
    ("uniquehash", .plain .text "Unique hash"),
    ("dateissued", .plain .int "Date issued"),
    ("dateexpire", .optional (.plain .int "Date expire")),
    ("visible", .plain .bool "Visible"),
    ("email", .optional (.plain .email "User email")),
    ("version", .optional (.plain .text "Version")),
    ("language", .optional (.plain .text "Language")),
    ("imageauthorname", .optional (.plain .text "Name of the image author")),
    ("imageauthoremail", .optional (.plain .email "Email of the image author")),
    ("imageauthorurl", .optional (.plain .url "URL of the image author")),
    ("imagecaption", .optional (.plain .text "Caption of the image")),
    ("badgeurl", .plain .url "Badge URL"),
    ("endorsement", endorsementDescription),
    ("alignment", alignmentDescription),
    ("relatedbadges", relatedDescription)]

def toResult (o : Outcome UserBadge) : Json :=
  ((o.map fun b => [("badge", .array [b.toJson])]).toEnvelope [("badge", .array [])]).toJson

/-- Finds the award of a hash and exports it for the caller. -/
def find (strings : Strings) (source : AwardSource) (ctx : CallContext) (hash : String) :
    Except ExternalError (Outcome UserBadge) := do
  requireBadges strings ctx.features
  match source.awardByHash hash with
  | none => return .failed [notFound strings hash]
  | some award =>
    match source.user award.userid with
    | none => throw (.recordNotFound "user" (toString award.userid))
    | some owner => .ok <$> (source.exported award owner ctx).mapError SiteError.toExternal

end UserBadgeByHash

/-- The function over any state in which awards are found. -/
def userBadgeByHashFunction {σ : Type} (strings : Strings) (source : σ → AwardSource) :
    ExternalFunction σ where
  name := "core_badges_get_user_badge_by_hash"
  component := "core_badges"
  description := "Returns the badge awarded to a user by hash."
  input := .structureOf "params" [("hash", .plain .alphanum "Badge issued hash")]
  output := .structureOf "result" [
    ("status", .plain .bool "Whether the badge was found"),
    ("badge", .listOf UserBadgeByHash.badgeDescription "Badge awarded"),
    ("warnings", Description.warnings)]
  execute ctx arguments := do
    let hash ← liftExcept (readArguments UserBadgeByHash.argumentsReader arguments)
    let outcome ← liftExcept (UserBadgeByHash.find strings (source (← get)) ctx hash)
    return UserBadgeByHash.toResult outcome

/-! ## Badges kept elsewhere -/

namespace ExternalBadges

def argumentsReader : Reader Int :=
  .record "UserParams" <| .required "userid" .int64

def notConnected (strings : Strings) (code : String) (userid : Int) : Warning :=
  { warningcode := code
    message := strings.get ("error:" ++ code) "badges"
    item := some (toString userid) }

def issuerDescription : Description :=
  .structureOf "Issuer" [
    ("id", .optional (.plain .url "Issuer Badgr URL")),
    ("@context", .optional (.plain .raw "Issuer context")),
    ("type", .optional (.plain .text "Issuer type")),
    ("name", .optional (.plain .text "Issuer name")),
    ("url", .optional (.plain .url "Issuer URL")),
    ("email", .optional (.plain .email "Issuer email")),
    ("image", .optional (.plain .url "Issuer image")),
    ("description", .optional (.plain .text "Issuer description"))]

def recipientDescription : Description :=
  .structureOf "Recipient" [
    ("identity", .optional (.plain .text "Recipient identity")),
    ("hashed", .optional (.plain .text "Recipient hash")),
    ("type", .optional (.plain .text "Recipient type")),
    ("plainid", .optional (.plain .text "Recipient plain text identity")),
    ("salt", .optional (.plain .text "Recipient salt"))]

def criteriaDescription : Description :=
  .structureOf "Criteria" [
    ("id", .optional (.plain .url "Criteria id URL")),
    ("narrative", .optional (.plain .text "How the user earn the badge"))]

def badgeDescription : Description :=
  .structureOf "External badge" [
    ("id", .plain .url "Badgr id"),
    ("name", .plain .text "Badge name"),
    ("image", .plain .url "Image URL"),
    ("issuedon", .plain .text "Issued date"),
    ("type", .optional (.plain .text "Badgr type")),
    ("hostedurl", .optional (.plain .url "Hosted URL")),
    ("description", .optional (.plain .text "Description")),
    ("issuer", issuerDescription),
    ("recipient", recipientDescription),
    ("criteria", criteriaDescription)]

def toResult (o : Outcome (List ExternalBadge)) : Json :=
  ((o.map fun bs => [("badges", .array (bs.map ExternalBadge.toResult))]).toEnvelope
    [("badges", .array [])]).toJson

/-- The badges in the collections of a user's backpack. The caller must be connected to a backpack
service before anything else is looked at. -/
def fetch (strings : Strings) (s : Site) (ctx : CallContext) (userid : Int) :
    Outcome (List ExternalBadge) :=
  match s.connectedBackpack? ctx.caller, s.userBackpack? userid with
  | none, _ => .failed [notConnected strings "sitebackpackisnotconnected" userid]
  | some _, none => .failed [notConnected strings "backpackisnotconnected" userid]
  | some _, some backpack =>
    .ok ((s.collectionsOf backpack.id).flatMap fun c => s.collectedBadges c.id)

def run (strings : Strings) (ctx : CallContext) (userid : Int) :
    Run Site (Outcome (List ExternalBadge)) := do
  liftExcept (requireBackpacks strings ctx.features)
  return fetch strings (← get) ctx userid

end ExternalBadges

def externalBadgesFunction (strings : Strings) : ExternalFunction Site where
  name := "core_badges_get_external_badges"
  component := "core_badges"
  description := "Returns the badges a user keeps in their external backpack."
  input := .structureOf "params" [("userid", .plain .int "User id")]
  output := .structureOf "result" [
    ("status", .plain .bool "Whether the fetch was successful"),
    ("badges", .listOf ExternalBadges.badgeDescription "External badges"),
    ("warnings", Description.warnings)]
  execute ctx arguments := do
    let userid ← liftExcept (readArguments ExternalBadges.argumentsReader arguments)
    return ExternalBadges.toResult (← ExternalBadges.run strings ctx userid)

end Campus
