import Campus.Function.Assign
import Campus.Function.Badges
import Campus.Function.Chat

/-!
# The service

A site with its functions, which callers reach by a token. The service counts the calls it answered
with a result and those it answered with an error.
-/

namespace Campus

/-- The functions of every service. -/
def bundledFunctions (strings : Strings) : List (ExternalFunction Site) :=
  [userBadgeByHashFunction strings Site.awardSource, externalBadgesFunction strings,
    removeSubmissionFunction strings, removeSubmissionsFunction, viewSessionsFunction strings]

structure Service where
  site : Site
  features : Features := {}
  strings : Strings := .english
  /-- When the service started, in seconds. -/
  started : Int := 0
  served : UInt64 := 0
  failed : UInt64 := 0

namespace Service

def registry (s : Service) : Registry Site := .ofList (bundledFunctions s.strings)

/-- The user that a token stands for, if they are there. -/
def caller? (s : Service) (token : String) : Option Int :=
  (s.site.userForToken? token).filter fun id => (s.site.user? id).isSome

def contextOf (s : Service) (clock : Clock) (caller : Int) : CallContext where
  caller := caller
  clock := clock
  capabilities := s.site.capabilitiesFor caller
  features := s.features

def context (s : Service) (clock : Clock) (token : String) : Except ExternalError CallContext :=
  match s.caller? token with
  | none => .error .invalidToken
  | some caller => .ok (s.contextOf clock caller)

/-- Runs a function on the site for the holder of a token. -/
def run (s : Service) (clock : Clock) (function token : String) (arguments : Json) :
    Except ExternalError Json × Site :=
  match s.context clock token with
  | .error e => (.error e, s.site)
  | .ok ctx => (s.registry.call function ctx arguments) s.site

/-- Runs a function and counts the call. -/
def call (s : Service) (clock : Clock) (function token : String) (arguments : Json) :
    Except ExternalError Json × Service :=
  match s.run clock function token arguments with
  | (.ok result, site) => (.ok result, { s with site, served := s.served + 1 })
  | (.error e, site) => (.error e, { s with site, failed := s.failed + 1 })

def uptime (s : Service) (clock : Clock) : Int := clock.seconds - s.started

end Service

end Campus
