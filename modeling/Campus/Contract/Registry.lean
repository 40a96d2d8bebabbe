import Campus.Access.Capability
import Campus.Contract.Envelope

/-!
# Functions and their registry

A function declares what it takes and returns. A call fits the arguments to the declaration, runs
the function on a state, and fits the result.
-/

namespace Campus

/-- A run on a state, which gives a result or an error, and the state afterwards. -/
abbrev Run (σ α : Type) := ExceptT ExternalError (StateM σ) α

structure ExternalFunction (σ : Type) where
  name : String
  component : String
  description : String
  input : Description
  output : Description
  /-- Runs on arguments that fit `input`. -/
  execute : CallContext → List (String × Json) → Run σ Json

namespace ExternalFunction

variable {σ : Type}

def toJson (f : ExternalFunction σ) : Json :=
  .ofMembers [("name", .string f.name), ("component", .string f.component),
    ("description", .string f.description), ("input", f.input.toJson), ("output", f.output.toJson)]

/-- Fits the arguments, runs the function and fits the result. -/
def call (f : ExternalFunction σ) (ctx : CallContext) (arguments : Json) : Run σ Json := do
  let members ← liftExcept (validateArguments f.input arguments)
  let result ← f.execute ctx members
  liftExcept (cleanResult f.output result)

end ExternalFunction

abbrev Registry (σ : Type) := List (String × ExternalFunction σ)

namespace Registry

variable {σ : Type}

/-- Adds a function, which replaces one of the same name. -/
def register (f : ExternalFunction σ) (r : Registry σ) : Registry σ := Keyed.insert f.name f r

def ofList (fs : List (ExternalFunction σ)) : Registry σ := fs.foldl (fun r f => r.register f) []

def names (r : Registry σ) : List String := Keyed.keys r

def describe (r : Registry σ) : List Json := (Keyed.values r).map ExternalFunction.toJson

def call (r : Registry σ) (name : String) (ctx : CallContext) (arguments : Json) : Run σ Json :=
  match Keyed.get? name r with
  | none => throw (.unknownFunction name)
  | some f => f.call ctx arguments

end Registry

def readArguments {α : Type} (r : Reader α) (arguments : List (String × Json)) :
    Except ExternalError α :=
  match r.read (.object arguments) with
  | .ok a => .ok a
  | .error e => .error (.invalidParameter "" e.message)

end Campus
