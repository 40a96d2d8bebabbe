import Campus.Clock

/-!
# Time and chance

What the site takes from outside when a record is made: the time, and texts drawn at random.
-/

namespace Campus

/-- The time, and the texts drawn for records that are yet to be made, by their ids. -/
structure Ambient where
  clock : Clock
  awardHash : Int → String
  backpackUid : Int → String
  entityId : Int → String
  /-- The next token of a site that has handed out so many. -/
  token : Nat → String

def Ambient.now (a : Ambient) : Int := a.clock.seconds

end Campus
