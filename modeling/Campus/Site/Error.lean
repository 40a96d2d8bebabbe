/-!
# What can be wrong with a record
-/

namespace Campus

/-- A record that is not there, or that a site does not take. -/
inductive SiteError where
  | userNotFound (id : Int)
  | courseNotFound (id : Int)
  | moduleNotFound (id : Int)
  | roleNotFound (name : String)
  | badgeNotFound (id : Int)
  | backpackNotFound (id : Int)
  | reportNotFound (id : Int)
  | unknownModuleType (name : String)
  | unknownSource (name : String)
  | invalidIdentifier (kind identifier : String) (reportid : Int)
  | duplicate (kind key : String)
deriving DecidableEq, Repr

def SiteError.message : SiteError → String
  | .userNotFound id => s!"user {id} not found"
  | .courseNotFound id => s!"course {id} not found"
  | .moduleNotFound id => s!"course module {id} not found"
  | .roleNotFound name => s!"role '{name}' not found"
  | .badgeNotFound id => s!"badge {id} not found"
  | .backpackNotFound id => s!"backpack {id} not found"
  | .reportNotFound id => s!"report {id} not found"
  | .unknownModuleType name => s!"unknown module type '{name}'"
  | .unknownSource name => s!"unknown report source '{name}'"
  | .invalidIdentifier kind identifier reportid =>
    s!"invalid {kind} identifier '{identifier}' for report {reportid}"
  | .duplicate kind key => s!"duplicate {kind}: {key}"

/-- Why a fixture could not be made. -/
inductive FixtureError where
  | missingProperty (name : String)
  | invalidProperty (property reason : String)
  | site (error : SiteError)
  /-- The seed's file could not be read. -/
  | seedUnreadable (path reason : String)
  /-- The seed's file does not hold a seed. -/
  | seedMalformed (path : String)
deriving DecidableEq, Repr

def FixtureError.message : FixtureError → String
  | .missingProperty name => s!"Record must contain '{name}' property"
  | .invalidProperty property reason => s!"property '{property}' is invalid: {reason}"
  | .site error => error.message
  | .seedUnreadable path reason => s!"failed to read seed {path}: {reason}"
  | .seedMalformed path => s!"failed to parse seed {path}"

end Campus
