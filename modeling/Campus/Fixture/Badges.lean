import Campus.Fixture.People

/-!
# Making badges, awards and backpacks
-/

namespace Campus

structure NewBadge where
  name : String := "Test badge"
  description : String := "Testing badges"
  type : BadgeType := .site
  courseid : Option Int := none
  usercreated : Int := 0
  messagesubject : String := "Test message subject for badge"
  message : String := "Test message body for badge"
  version : Option String := some "1"
  language : Option String := some "en"
deriving DecidableEq, Repr

def NewBadge.toBadge (r : NewBadge) (now id : Int) : Badge where
  id := id
  name := r.name
  description := r.description
  timecreated := now
  timemodified := now
  usercreated := r.usercreated
  usermodified := r.usercreated
  issuername := "Test issuer"
  issuerurl := "http://issuer-url.domain.co.nz"
  issuercontact := some "issuer@example.com"
  expiredate := none
  expireperiod := none
  type := r.type
  courseid := r.courseid
  messagesubject := r.messagesubject
  message := r.message
  attachment := 1
  notification := 0
  nextcron := none
  status := .active
  version := r.version
  language := r.language
  imageauthorname := some "Image author"
  imageauthoremail := some "imageauthor@example.com"
  imageauthorurl := some "http://image-author-url.domain.co.nz"
  imagecaption := some "Caption"
  endorsement := none
  alignments := []
  related := []

def Endorsement.generated (badgeid now id : Int) : Endorsement where
  id := id
  badgeid := badgeid
  issuername := "Issuer name"
  issuerurl := "http://endorsement-issuer-url.domain.co.nz"
  issueremail := "endorsementissuer@example.com"
  claimid := some "http://claim-url.domain.co.nz"
  claimcomment := some "Claim comment"
  dateissued := now

def Alignment.generated (badgeid : Int) (targetname : String) (id : Int) : Alignment where
  id := id
  badgeid := badgeid
  targetname := targetname
  targeturl := s!"https://framework.example/{id}"
  targetdescription := some s!"Alignment {id}"
  targetframework := some "Framework"
  targetcode := some s!"CODE{id}"

/-- Relates the badge to another, once. -/
def Badge.relate (other : Int) (b : Badge) : Badge :=
  if b.related.contains other then b else { b with related := b.related ++ [other] }

namespace Fixture

def createBadge (now : Int) (r : NewBadge) : Fixture Badge := do
  let s ← get
  match r.type, r.courseid with
  | .course, none => throw (.invalidProperty "courseid" "course badges need a course")
  | _, some course =>
    if !s.courses.contains course then fail (.courseNotFound course) else add s
  | .site, none => add s
where
  add (s : Site) : Fixture Badge := do
    let (b, badges) := s.badges.add (r.toBadge now)
    set { s with badges }
    return b

def withBadge (badgeid : Int) (change : Badge → Badge) : Fixture Unit := do
  let s ← get
  if s.badges.contains badgeid then set { s with badges := s.badges.modify badgeid change }
  else fail (.badgeNotFound badgeid)

/-- Endorses a badge. The id is issued even if there is no such badge. -/
def addEndorsement (now badgeid : Int) : Fixture Endorsement := do
  modify fun s => { s with endorsementsIssued := s.endorsementsIssued + 1 }
  let e := Endorsement.generated badgeid now (← get).endorsementsIssued
  withBadge badgeid ({ · with endorsement := some e })
  return e

/-- Aligns a badge. The id is issued even if there is no such badge. -/
def addAlignment (badgeid : Int) (targetname : String) : Fixture Alignment := do
  modify fun s => { s with alignmentsIssued := s.alignmentsIssued + 1 }
  let a := Alignment.generated badgeid targetname (← get).alignmentsIssued
  withBadge badgeid fun b => { b with alignments := b.alignments ++ [a] }
  return a

def addRelatedBadges (badgeid related : Int) : Fixture Unit := do
  withBadge related id
  withBadge badgeid (Badge.relate related)
  withBadge related (Badge.relate badgeid)

/-- Awards a badge. The badge is locked even if there is no such user. -/
def issueBadge (ambient : Ambient) (badgeid userid : Int) : Fixture Award := do
  withBadge badgeid fun b => { b with status := b.status.locked }
  let s ← get
  if !s.users.contains userid then fail (.userNotFound userid)
  else
    let (a, awards) := s.awards.add fun id =>
      { id, badgeid, userid, uniquehash := ambient.awardHash id, dateissued := ambient.now
        dateexpire := none, visible := true }
    set { s with awards }
    return a

/-- Gives an award a hash of choice. -/
def setAwardHash (issuedid : Int) (hash : String) : Fixture Unit := do
  let s ← get
  if s.awards.contains issuedid then
    set { s with awards := s.awards.modify issuedid ({ · with uniquehash := hash }) }
  else fail (.badgeNotFound issuedid)

/-! ## Backpacks -/

def createSiteBackpack (apiversion apiurl weburl : String) : StateM Site SiteBackpack := fun s =>
  let (b, siteBackpacks) := s.siteBackpacks.add (⟨·, apiversion, apiurl, weburl⟩)
  (b, { s with siteBackpacks })

/-- Connects a user to a service, by default the first one. -/
def createFakeBackpack (ambient : Ambient) (userid : Int) (service : Option Int) :
    Fixture UserBackpack := do
  let s ← get
  let user ← Change.require (.site (.userNotFound userid)) (s.user? userid)
  let service ←
    match service with
    | some id =>
      if s.siteBackpacks.contains id then pure id else fail (.backpackNotFound id)
    | none =>
      Change.require (.site (.backpackNotFound 0)) ((s.siteBackpacks.rows.head?).map (·.1))
  let (b, userBackpacks) := s.userBackpacks.add fun id =>
    { id, userid, externalbackpackid := service, email := user.email
      backpackuid := ambient.backpackUid id }
  set { s with userBackpacks }
  return b

def createFakeCollection (ambient : Ambient) (backpackid : Int) : Fixture Collection := do
  let s ← get
  let backpack ← Change.require (.site (.backpackNotFound backpackid))
    (s.userBackpacks.get? backpackid)
  let (c, collections) := s.collections.add fun id =>
    { id, backpackid, collectionid := s!"collection{id}", entityid := ambient.entityId id }
  let badge := ExternalBadge.fake c.id backpack.email
  set { s with collections, collected := Keyed.insert c.id [badge] s.collected }
  return c

def addExternalBadge (collectionid : Int) (badge : ExternalBadge) : Fixture Unit := do
  let s ← get
  if s.collections.contains collectionid then
    set { s with
      collected :=
        Keyed.insert collectionid (s.collectedBadges collectionid ++ [badge]) s.collected }
  else fail (.backpackNotFound collectionid)

end Fixture

end Campus
