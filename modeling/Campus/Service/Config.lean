import Campus.Seed.Load
import Campus.Service.Basic

/-!
# Configuration

A configuration file says where the service listens, what its site starts with, and what it offers.
All of it may be left out.
-/

namespace Campus

structure Environment where
  home : Option String := none
  user : Option String := none
  /-- The directory for sockets and the like. -/
  runtimeDir : Option String := none
  /-- The configuration file to use. -/
  configPath : Option String := none

structure Config where
  socketPath : Option String := none
  seedPath : Option String := none
  /-- The address of the site, in place of the seed's. -/
  wwwroot : Option String := none
  features : Features := {}
  strings : Strings.Overrides := []

inductive ConfigError where
  | unreadable (path reason : String)
  | malformed (path : String)
deriving DecidableEq, Repr

def ConfigError.message : ConfigError → String
  | .unreadable path reason => s!"failed to read config at {path}: {reason}"
  | .malformed path => s!"failed to parse config at {path}"

structure Files (m : Type → Type) where
  exists? : String → m Bool
  read : String → m (Except String String)

namespace Config

def reader : Reader Config :=
  .record "ServiceConfig" <| Config.mk <$> .optional "socket_path" .string
    <*> .optional "seed_path" .string <*> .optional "wwwroot" .string
    <*> .withDefault "features" Features.reader {}
    <*> .withDefault "strings" (.table (.table .string)) []

def toJson (c : Config) : Json :=
  let texts (ts : List (String × String)) : Json :=
    .ofMembers (ts.map fun (identifier, text) => (identifier, .string text))
  .ofMembers [("socket_path", .ofOption .string c.socketPath),
    ("seed_path", .ofOption .string c.seedPath), ("wwwroot", .ofOption .string c.wwwroot),
    ("features", c.features.toJson),
    ("strings", .ofMembers (c.strings.map fun (component, ts) => (component, texts ts)))]

/-! ## Where things are -/

def expandHome (env : Environment) (path : String) : String :=
  match Path.underHome? path, env.home with
  | some rest, some home => Path.join home rest
  | _, _ => path

/-- Where a service listens unless it is told otherwise. -/
def defaultSocket (env : Environment) : String :=
  match env.runtimeDir with
  | some directory => Path.join directory "lms-ws.sock"
  | none =>
    let user := env.user.getD "unknown"
    s!"/tmp/lms-ws-{user}.sock"

def socket (c : Config) (env : Environment) : String :=
  match c.socketPath with
  | some path => expandHome env path
  | none => defaultSocket env

def seed? (c : Config) (env : Environment) : Option String := c.seedPath.map (expandHome env)

/-- The configuration file of a user who names none. -/
def defaultPath (env : Environment) : String :=
  match env.home with
  | some home => Path.join (Path.join (Path.join home ".config") "lms-ws") "config.toml"
  | none => "config.toml"

/-! ## Loading -/

section Loading

variable {m : Type → Type} [Monad m]

def loadFile (files : Files m) (path : String) : m (Except ConfigError Config) := do
  match ← files.read path with
  | .error reason => return .error (.unreadable path reason)
  | .ok text =>
    match reader.ofToml? text with
    | some config => return .ok config
    | none => return .error (.malformed path)

/-- Loads the configuration of the file that is named, or named by the environment, or the user's
own, which may be missing. -/
def load (files : Files m) (env : Environment) (explicit : Option String) :
    m (Except ConfigError Config) := do
  match explicit, env.configPath with
  | some path, _ => loadFile files path
  | none, some path => loadFile files path
  | none, none =>
    if ← files.exists? (defaultPath env) then loadFile files (defaultPath env)
    else return .ok {}

/-- The service of a configuration, on a new site. -/
def start (files : Files m) (env : Environment) (ambient : Ambient) (c : Config) :
    m (Except FixtureError Service) := do
  let seed ←
    match c.seed? env with
    | some path => Seed.load files.read path
    | none => pure (.ok {})
  return do
    let seed ← seed
    let site ← Seed.build ambient { seed with wwwroot := c.wwwroot <|> seed.wwwroot }
    return { site, features := c.features, strings := Strings.english.withOverrides c.strings
             started := ambient.now }

end Loading

end Config

end Campus
