import Campus.Access.Context
import Campus.Clock

/-!
# Capabilities

What a caller may do, and where. A prohibition on the path to a place wins over any grant there.
-/

namespace Campus

/-- What a caller is granted and what is prohibited, each with its context. -/
structure Capabilities where
  unrestricted : Bool := false
  allowed : List (String × Context) := []
  prohibited : List (String × Context) := []
deriving DecidableEq

namespace Capabilities

def onPath (capability : String) (path : ContextPath) (grants : List (String × Context)) : Bool :=
  path.any fun context => grants.contains (capability, context)

/-- The capability holds at the end of the path. -/
def has (caps : Capabilities) (capability : String) (path : ContextPath) : Bool :=
  caps.unrestricted
    || (!onPath capability path caps.prohibited && onPath capability path caps.allowed)

def isEmpty (caps : Capabilities) : Bool := caps.allowed.isEmpty && !caps.unrestricted

end Capabilities

structure Features where
  enableBadges : Bool := true
  allowExternalBackpack : Bool := true
deriving DecidableEq, Repr

namespace Features

def reader : Reader Features :=
  .record "FeatureFlags" <| Features.mk <$> .withDefault "enable_badges" .bool true
    <*> .withDefault "badges_allow_external_backpack" .bool true

def toJson (f : Features) : Json :=
  .ofMembers [("enable_badges", .bool f.enableBadges),
    ("badges_allow_external_backpack", .bool f.allowExternalBackpack)]

end Features

/-- Who makes a call and when, what the caller may do and what the site offers. -/
structure CallContext where
  caller : Int
  clock : Clock
  capabilities : Capabilities
  features : Features

namespace CallContext

def isCaller (ctx : CallContext) (userid : Int) : Bool := ctx.caller == userid

def has (ctx : CallContext) (capability : String) (path : ContextPath) : Bool :=
  ctx.capabilities.has capability path

end CallContext

/-! ## The capabilities that functions ask for -/

namespace Capability

def configureBadges : String := "moodle/badges:configuredetails"
def submitAssignment : String := "mod/assign:submit"
def gradeAssignment : String := "mod/assign:grade"
def editOtherSubmission : String := "mod/assign:editothersubmission"
def chat : String := "mod/chat:chat"
def readChatLog : String := "mod/chat:readlog"

end Capability

end Campus
