import Campus.Access.Capability
import Campus.Site.Error
import Campus.Site.User

/-!
# Badges and awards

A badge is awarded to users. An award is found by its hash and exported for whoever asks: the
recipient and those who may configure the badge see all of it, others the public part.
-/

namespace Campus

inductive BadgeType where
  | site | course
deriving DecidableEq, Repr

namespace BadgeType

def code : BadgeType → Int
  | .site => 1
  | .course => 2

def ofCode? (n : Int) : Option BadgeType :=
  if n = 1 then some .site else if n = 2 then some .course else none

def reader : Reader BadgeType where
  read v := do
    let n ← Reader.int64.read v
    match ofCode? n with
    | some t => .ok t
    | none => .error (.outOfRange n "a badge type")

end BadgeType

inductive BadgeStatus where
  | inactive | active | inactiveLocked | activeLocked | archived
deriving DecidableEq, Repr

namespace BadgeStatus

def code : BadgeStatus → Int
  | .inactive => 0
  | .active => 1
  | .inactiveLocked => 2
  | .activeLocked => 3
  | .archived => 4

def ofCode? (n : Int) : Option BadgeStatus :=
  if n = 0 then some .inactive
  else if n = 1 then some .active
  else if n = 2 then some .inactiveLocked
  else if n = 3 then some .activeLocked
  else if n = 4 then some .archived
  else none

def reader : Reader BadgeStatus where
  read v := do
    let n ← Reader.int64.read v
    match ofCode? n with
    | some s => .ok s
    | none => .error (.outOfRange n "a badge status")

/-- The status once the badge has been awarded, from when on its criteria stay. -/
def locked : BadgeStatus → BadgeStatus
  | .active => .activeLocked
  | .inactive => .inactiveLocked
  | s => s

end BadgeStatus

/-- Another issuer stands behind the badge. -/
structure Endorsement where
  id : Int
  badgeid : Int
  issuername : String
  issuerurl : String
  issueremail : String
  claimid : Option String
  claimcomment : Option String
  dateissued : Int
deriving DecidableEq, Repr

namespace Endorsement

def reader : Reader Endorsement :=
  .record "Endorsement" <| Endorsement.mk <$> .required "id" .int64 <*> .required "badgeid" .int64
    <*> .required "issuername" .string <*> .required "issuerurl" .string
    <*> .required "issueremail" .string <*> .nullable "claimid" .string
    <*> .nullable "claimcomment" .string <*> .required "dateissued" .int64

def toJson (e : Endorsement) : Json :=
  .ofMembers [("id", .int e.id), ("badgeid", .int e.badgeid), ("issuername", .string e.issuername),
    ("issuerurl", .string e.issuerurl), ("issueremail", .string e.issueremail),
    ("claimid", .ofOption .string e.claimid), ("claimcomment", .ofOption .string e.claimcomment),
    ("dateissued", .int e.dateissued)]

end Endorsement

/-- What the badge certifies, by someone's framework. -/
structure Alignment where
  id : Int
  badgeid : Int
  targetname : String
  targeturl : String
  targetdescription : Option String
  targetframework : Option String
  targetcode : Option String
deriving DecidableEq, Repr

/-- A member that is left out if there is none. -/
def optionalMember {α : Type} (name : String) (encode : α → Json) (a : Option α) :
    List (String × Json) :=
  a.toList.map fun a => (name, encode a)

namespace Alignment

def reader : Reader Alignment :=
  .record "Alignment" <| Alignment.mk <$> .required "id" .int64 <*> .required "badgeid" .int64
    <*> .withDefault "targetname" .string "" <*> .withDefault "targeturl" .string ""
    <*> .optional "targetdescription" .string <*> .optional "targetframework" .string
    <*> .optional "targetcode" .string

def toJson (a : Alignment) : Json :=
  .ofMembers <|
    [("id", .int a.id), ("badgeid", .int a.badgeid), ("targetname", .string a.targetname),
      ("targeturl", .string a.targeturl)]
      ++ optionalMember "targetdescription" .string a.targetdescription
      ++ optionalMember "targetframework" .string a.targetframework
      ++ optionalMember "targetcode" .string a.targetcode

end Alignment

structure Badge where
  id : Int
  name : String
  description : String
  timecreated : Int
  timemodified : Int
  usercreated : Int
  usermodified : Int
  issuername : String
  issuerurl : String
  issuercontact : Option String
  expiredate : Option Int
  expireperiod : Option Int
  type : BadgeType
  courseid : Option Int
  messagesubject : String
  message : String
  attachment : Int
  notification : Int
  nextcron : Option Int
  status : BadgeStatus
  version : Option String
  language : Option String
  imageauthorname : Option String
  imageauthoremail : Option String
  imageauthorurl : Option String
  imagecaption : Option String
  endorsement : Option Endorsement
  alignments : List Alignment
  related : List Int
deriving DecidableEq, Repr

namespace Badge

/-- Where the badge's capabilities are asked for. -/
def path (b : Badge) : ContextPath :=
  match b.type, b.courseid with
  | .course, some course => .course course
  | _, _ => .system

def reader : Reader Badge :=
  .record "BadgeDefinition" <| Badge.mk <$> .required "id" .int64 <*> .required "name" .string
    <*> .required "description" .string <*> .required "timecreated" .int64
    <*> .required "timemodified" .int64 <*> .required "usercreated" .int64
    <*> .required "usermodified" .int64 <*> .required "issuername" .string
    <*> .required "issuerurl" .string <*> .nullable "issuercontact" .string
    <*> .nullable "expiredate" .int64 <*> .nullable "expireperiod" .int64
    <*> .required "type" BadgeType.reader <*> .nullable "courseid" .int64
    <*> .required "messagesubject" .string <*> .required "message" .string
    <*> .required "attachment" .int64 <*> .required "notification" .int64
    <*> .nullable "nextcron" .int64 <*> .required "status" BadgeStatus.reader
    <*> .nullable "version" .string <*> .nullable "language" .string
    <*> .nullable "imageauthorname" .string <*> .nullable "imageauthoremail" .string
    <*> .nullable "imageauthorurl" .string <*> .nullable "imagecaption" .string
    <*> .nullable "endorsement" Endorsement.reader
    <*> .withDefault "alignments" (.list Alignment.reader) []
    <*> .withDefault "related" (.list .int64) []

def toJson (b : Badge) : Json :=
  .ofMembers [("id", .int b.id), ("name", .string b.name), ("description", .string b.description),
    ("timecreated", .int b.timecreated), ("timemodified", .int b.timemodified),
    ("usercreated", .int b.usercreated), ("usermodified", .int b.usermodified),
    ("issuername", .string b.issuername), ("issuerurl", .string b.issuerurl),
    ("issuercontact", .ofOption .string b.issuercontact),
    ("expiredate", .ofOption .int b.expiredate), ("expireperiod", .ofOption .int b.expireperiod),
    ("type", .int b.type.code), ("courseid", .ofOption .int b.courseid),
    ("messagesubject", .string b.messagesubject), ("message", .string b.message),
    ("attachment", .int b.attachment), ("notification", .int b.notification),
    ("nextcron", .ofOption .int b.nextcron), ("status", .int b.status.code),
    ("version", .ofOption .string b.version), ("language", .ofOption .string b.language),
    ("imageauthorname", .ofOption .string b.imageauthorname),
    ("imageauthoremail", .ofOption .string b.imageauthoremail),
    ("imageauthorurl", .ofOption .string b.imageauthorurl),
    ("imagecaption", .ofOption .string b.imagecaption),
    ("endorsement", .ofOption Endorsement.toJson b.endorsement),
    ("alignments", .array (b.alignments.map Alignment.toJson)),
    ("related", .array (b.related.map .int))]

end Badge

structure Award where
  id : Int
  badgeid : Int
  userid : Int
  uniquehash : String
  dateissued : Int
  dateexpire : Option Int
  visible : Bool
deriving DecidableEq, Repr

namespace Award

def reader : Reader Award :=
  .record "IssuedBadge" <| Award.mk <$> .required "id" .int64 <*> .required "badgeid" .int64
    <*> .required "userid" .int64 <*> .required "uniquehash" .string
    <*> .required "dateissued" .int64 <*> .nullable "dateexpire" .int64
    <*> .required "visible" .bool

def toJson (a : Award) : Json :=
  .ofMembers [("id", .int a.id), ("badgeid", .int a.badgeid), ("userid", .int a.userid),
    ("uniquehash", .string a.uniquehash), ("dateissued", .int a.dateissued),
    ("dateexpire", .ofOption .int a.dateexpire), ("visible", .bool a.visible)]

end Award

end Campus
