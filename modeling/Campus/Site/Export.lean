import Campus.Site.Badge

/-!
# Exported awards

An award together with its badge, as one viewer may see it. What a viewer may not see is absent.
-/

namespace Campus

/-- A badge that an exported one refers to. -/
structure RelatedBadge where
  id : Int
  name : String
  version : Option String
  language : Option String
  type : Option BadgeType
deriving DecidableEq, Repr

namespace RelatedBadge

def reader : Reader RelatedBadge :=
  .record "RelatedBadge" <| RelatedBadge.mk <$> .required "id" .int64 <*> .required "name" .string
    <*> .optional "version" .string <*> .optional "language" .string
    <*> .optional "type" BadgeType.reader

def toJson (r : RelatedBadge) : Json :=
  .ofMembers <|
    [("id", .int r.id), ("name", .string r.name)]
      ++ optionalMember "version" .string r.version
      ++ optionalMember "language" .string r.language
      ++ optionalMember "type" (fun t => .int t.code) r.type

end RelatedBadge

structure UserBadge where
  id : Int
  name : String
  description : String
  timecreated : Option Int
  timemodified : Option Int
  usercreated : Option Int
  usermodified : Option Int
  issuername : String
  issuerurl : String
  issuercontact : Option String
  expiredate : Option Int
  expireperiod : Option Int
  type : BadgeType
  courseid : Option Int
  message : Option String
  messagesubject : Option String
  attachment : Option Int
  notification : Option Int
  nextcron : Option Int
  status : BadgeStatus
  issuedid : Int
  uniquehash : String
  dateissued : Int
  dateexpire : Option Int
  visible : Bool
  email : Option String
  version : Option String
  language : Option String
  imageauthorname : Option String
  imageauthoremail : Option String
  imageauthorurl : Option String
  imagecaption : Option String
  badgeurl : String
  endorsement : Option Endorsement
  alignment : List Alignment
  relatedbadges : List RelatedBadge
deriving DecidableEq, Repr

namespace UserBadge

def reader : Reader UserBadge :=
  .record "UserBadge" <| UserBadge.mk <$> .required "id" .int64 <*> .required "name" .string
    <*> .required "description" .string <*> .nullable "timecreated" .int64
    <*> .nullable "timemodified" .int64 <*> .nullable "usercreated" .int64
    <*> .nullable "usermodified" .int64 <*> .required "issuername" .string
    <*> .required "issuerurl" .string <*> .nullable "issuercontact" .string
    <*> .nullable "expiredate" .int64 <*> .nullable "expireperiod" .int64
    <*> .required "type" BadgeType.reader <*> .nullable "courseid" .int64
    <*> .nullable "message" .string <*> .nullable "messagesubject" .string
    <*> .nullable "attachment" .int64 <*> .nullable "notification" .int64
    <*> .nullable "nextcron" .int64 <*> .required "status" BadgeStatus.reader
    <*> .required "issuedid" .int64 <*> .required "uniquehash" .string
    <*> .required "dateissued" .int64 <*> .nullable "dateexpire" .int64
    <*> .required "visible" .bool <*> .nullable "email" .string
    <*> .nullable "version" .string <*> .nullable "language" .string
    <*> .nullable "imageauthorname" .string <*> .nullable "imageauthoremail" .string
    <*> .nullable "imageauthorurl" .string <*> .nullable "imagecaption" .string
    <*> .required "badgeurl" .string <*> .nullable "endorsement" Endorsement.reader
    <*> .required "alignment" (.list Alignment.reader)
    <*> .required "relatedbadges" (.list RelatedBadge.reader)

def toJson (b : UserBadge) : Json :=
  .ofMembers <|
    [("id", .int b.id), ("name", .string b.name), ("description", .string b.description)]
      ++ optionalMember "timecreated" .int b.timecreated
      ++ optionalMember "timemodified" .int b.timemodified
      ++ optionalMember "usercreated" .int b.usercreated
      ++ optionalMember "usermodified" .int b.usermodified
      ++ [("issuername", .string b.issuername), ("issuerurl", .string b.issuerurl)]
      ++ optionalMember "issuercontact" .string b.issuercontact
      ++ optionalMember "expiredate" .int b.expiredate
      ++ optionalMember "expireperiod" .int b.expireperiod
      ++ [("type", .int b.type.code)]
      ++ optionalMember "courseid" .int b.courseid
      ++ optionalMember "message" .string b.message
      ++ optionalMember "messagesubject" .string b.messagesubject
      ++ optionalMember "attachment" .int b.attachment
      ++ optionalMember "notification" .int b.notification
      ++ optionalMember "nextcron" .int b.nextcron
      ++ [("status", .int b.status.code), ("issuedid", .int b.issuedid),
        ("uniquehash", .string b.uniquehash), ("dateissued", .int b.dateissued)]
      ++ optionalMember "dateexpire" .int b.dateexpire
      ++ [("visible", .bool b.visible)]
      ++ optionalMember "email" .string b.email
      ++ optionalMember "version" .string b.version
      ++ optionalMember "language" .string b.language
      ++ optionalMember "imageauthorname" .string b.imageauthorname
      ++ optionalMember "imageauthoremail" .string b.imageauthoremail
      ++ optionalMember "imageauthorurl" .string b.imageauthorurl
      ++ optionalMember "imagecaption" .string b.imagecaption
      ++ [("badgeurl", .string b.badgeurl)]
      ++ optionalMember "endorsement" Endorsement.toJson b.endorsement
      ++ [("alignment", .array (b.alignment.map Alignment.toJson)),
        ("relatedbadges", .array (b.relatedbadges.map RelatedBadge.toJson))]

end UserBadge

def seenIf {α : Type} (visible : Bool) (a : Option α) : Option α := if visible then a else none

/-- An alignment as seen in full or by its name and address only. -/
def Alignment.exported (full : Bool) (a : Alignment) : Alignment :=
  { a with
    targetdescription := seenIf full a.targetdescription
    targetframework := seenIf full a.targetframework
    targetcode := seenIf full a.targetcode }

/-- A related badge as seen in full or by its name only. -/
def Badge.asRelated (full : Bool) (b : Badge) : RelatedBadge where
  id := b.id
  name := b.name
  version := seenIf full b.version
  language := seenIf full b.language
  type := seenIf full (some b.type)

/-- The viewer sees the whole award. -/
def Award.isFullFor (a : Award) (b : Badge) (ctx : CallContext) : Bool :=
  ctx.isCaller a.userid || ctx.has Capability.configureBadges b.path

/-- Where the badge's image is found. Slashes at the end of the site's address do not count. -/
def badgeImageUrl (wwwroot : String) (badge : Int) : String :=
  let root := String.ofList ((wwwroot.toList.reverse.dropWhile (· == '/')).reverse)
  s!"{root}/webservice/pluginfile.php/badges/badgeimage/{badge}/f3"

def Award.exportOf (a : Award) (b : Badge) (related : List Badge) (owner : User)
    (wwwroot : String) (full : Bool) : UserBadge where
  id := b.id
  name := b.name
  description := b.description
  timecreated := seenIf full (some b.timecreated)
  timemodified := seenIf full (some b.timemodified)
  usercreated := seenIf full (some b.usercreated)
  usermodified := seenIf full (some b.usermodified)
  issuername := b.issuername
  issuerurl := b.issuerurl
  issuercontact := b.issuercontact
  expiredate := b.expiredate
  expireperiod := b.expireperiod
  type := b.type
  courseid := b.courseid
  message := seenIf full (some b.message)
  messagesubject := seenIf full (some b.messagesubject)
  attachment := seenIf full (some b.attachment)
  notification := seenIf full (some b.notification)
  nextcron := seenIf full b.nextcron
  status := b.status
  issuedid := a.id
  uniquehash := a.uniquehash
  dateissued := a.dateissued
  dateexpire := a.dateexpire
  visible := a.visible
  email := seenIf full (some owner.email)
  version := b.version
  language := b.language
  imageauthorname := b.imageauthorname
  imageauthoremail := b.imageauthoremail
  imageauthorurl := b.imageauthorurl
  imagecaption := b.imagecaption
  badgeurl := badgeImageUrl wwwroot b.id
  endorsement := b.endorsement
  alignment := b.alignments.map (Alignment.exported full)
  relatedbadges := related.map (Badge.asRelated full)

/-- Exports an award, given the badges there are. Related badges that are not there are left out. -/
def Award.exported (badge? : Int → Option Badge) (a : Award) (owner : User) (wwwroot : String)
    (ctx : CallContext) : Except SiteError UserBadge :=
  match badge? a.badgeid with
  | none => .error (.badgeNotFound a.badgeid)
  | some b =>
    .ok (a.exportOf b (b.related.filterMap badge?) owner wwwroot (a.isFullFor b ctx))

/-- Where awards and their owners are found, and how awards are exported. -/
structure AwardSource where
  awardByHash : String → Option Award
  user : Int → Option User
  exported : Award → User → CallContext → Except SiteError UserBadge

/-- The source of some records: the first award with a hash counts, and the last of users or badges
with one id. -/
def AwardSource.ofRecords (badges : List Badge) (awards : List Award) (users : List User)
    (wwwroot : String) : AwardSource where
  awardByHash hash := awards.find? (·.uniquehash == hash)
  user id := users.reverse.find? (·.id == id)
  exported a owner ctx :=
    a.exported (fun id => badges.reverse.find? (·.id == id)) owner wwwroot ctx

end Campus
