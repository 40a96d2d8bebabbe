import Campus.Json.Reader

/-!
# Backpacks

Users keep badges of other sites in a backpack service. The site knows some services, a user is
connected to one of them, and shows the badges of chosen collections there.
-/

namespace Campus

structure SiteBackpack where
  id : Int
  apiversion : String
  apiurl : String
  weburl : String
deriving DecidableEq, Repr

namespace SiteBackpack

/-- The version of the badge interface that new services speak. -/
def defaultVersion : String := "2"

/-- The service that a new site knows. -/
def defaultApiUrl : String := "https://api.badgr.io/v2"
def defaultWebUrl : String := "https://badgr.io"

def toJson (b : SiteBackpack) : Json :=
  .ofMembers [("id", .int b.id), ("apiversion", .string b.apiversion),
    ("backpackapiurl", .string b.apiurl), ("backpackweburl", .string b.weburl)]

end SiteBackpack

structure UserBackpack where
  id : Int
  userid : Int
  externalbackpackid : Int
  email : String
  backpackuid : String
  autosync : Bool := false
deriving DecidableEq, Repr

def UserBackpack.toJson (b : UserBackpack) : Json :=
  .ofMembers [("id", .int b.id), ("userid", .int b.userid),
    ("externalbackpackid", .int b.externalbackpackid), ("email", .string b.email),
    ("backpackuid", .string b.backpackuid), ("autosync", .bool b.autosync)]

/-- A collection that a user chose to show. -/
structure Collection where
  id : Int
  backpackid : Int
  collectionid : String
  entityid : String
deriving DecidableEq, Repr

def Collection.toJson (c : Collection) : Json :=
  .ofMembers [("id", .int c.id), ("backpackid", .int c.backpackid),
    ("collectionid", .string c.collectionid), ("entityid", .string c.entityid)]

/-- A badge as a service sends it; its parts may hold more than anyone declares. -/
structure ExternalBadge where
  id : String
  name : String
  type : Option String
  image : String
  hostedUrl : Option String
  description : Option String
  issuedOn : String
  issuer : List (String × Json)
  recipient : List (String × Json)
  criteria : List (String × Json)

namespace ExternalBadge

def reader : Reader ExternalBadge :=
  .record "ExternalBadge" <| ExternalBadge.mk <$> .required "id" .string
    <*> .required "name" .string <*> .optional "type" .string <*> .required "image" .string
    <*> .optional "hostedUrl" .string <*> .optional "description" .string
    <*> .required "issuedOn" .string <*> .withDefault "issuer" .object []
    <*> .withDefault "recipient" .object [] <*> .withDefault "criteria" .object []

/-- The badge as the service writes it, without what it lacks. -/
def toJson (b : ExternalBadge) : Json :=
  .ofMembers <|
    [("id", .string b.id), ("name", .string b.name)]
      ++ (b.type.toList.map fun s => ("type", .string s))
      ++ [("image", .string b.image)]
      ++ (b.hostedUrl.toList.map fun s => ("hostedUrl", .string s))
      ++ (b.description.toList.map fun s => ("description", .string s))
      ++ [("issuedOn", .string b.issuedOn), ("issuer", .object b.issuer),
        ("recipient", .object b.recipient), ("criteria", .object b.criteria)]

/-- The badge as the site's functions return it, with null for what it lacks. -/
def toResult (b : ExternalBadge) : Json :=
  .ofMembers [("id", .string b.id), ("name", .string b.name), ("type", .ofOption .string b.type),
    ("image", .string b.image), ("hostedurl", .ofOption .string b.hostedUrl),
    ("description", .ofOption .string b.description), ("issuedon", .string b.issuedOn),
    ("issuer", .object b.issuer), ("recipient", .object b.recipient),
    ("criteria", .object b.criteria)]

/-- The badge that a made-up collection holds: an assertion with keys that nobody declares. -/
def fake (collection : Int) (email : String) : ExternalBadge :=
  let base := "https://backpack.example.com"
  { id := s!"{base}/assertions/{collection}"
    name := s!"External badge {collection}"
    type := some "Assertion"
    image := s!"{base}/images/{collection}.png"
    hostedUrl := some s!"{base}/public/assertions/{collection}"
    description := some "Awarded for testing"
    issuedOn := "2024-03-01T10:00:00Z"
    issuer := Keyed.ofList [
      ("id", .string s!"{base}/issuers/1"),
      ("@context", .string "https://w3id.org/openbadges/v2"),
      ("type", .string "Issuer"),
      ("name", .string "Backpack issuer"),
      ("url", .string "https://issuer.example.com"),
      ("email", .string "issuer@example.com"),
      ("publicKey", .string s!"{base}/keys/1")]
    recipient := Keyed.ofList [
      ("identity", .string email),
      ("hashed", .string "false"),
      ("type", .string "email"),
      ("plainid", .string email),
      ("salt", .string "")]
    criteria := Keyed.ofList [
      ("id", .string s!"{base}/criteria/{collection}"),
      ("narrative", .string "Complete the test course"),
      ("rubric", .string "internal")] }

end ExternalBadge

end Campus
