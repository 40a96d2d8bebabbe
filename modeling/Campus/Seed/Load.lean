import Campus.Path
import Campus.Seed.Apply
import Campus.Toml.Reader

/-!
# Seed files

A seed is written in JSON if its file's name says so, and in TOML otherwise.
-/

namespace Campus.Seed

def ofText? (path text : String) : Option Seed :=
  if Path.extension? path = some "json" then reader.ofText? text else reader.ofToml? text

def load {m : Type → Type} [Monad m] (readFile : String → m (Except String String))
    (path : String) : m (Except FixtureError Seed) := do
  match ← readFile path with
  | .error reason => return .error (.seedUnreadable path reason)
  | .ok text =>
    match ofText? path text with
    | some seed => return .ok seed
    | none => return .error (.seedMalformed path)

end Campus.Seed
