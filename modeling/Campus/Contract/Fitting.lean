import Campus.Contract.Coercion

/-!
# Fitting values to descriptions

A value is walked beside its description. Arguments may hold declared keys only; from results the
undeclared keys are dropped. The first thing that does not fit ends the walk, with its place.
-/

namespace Campus

inductive Direction where
  | input | output
deriving DecidableEq, Repr

inductive PathStep where
  | name (key : String)
  | index (i : Nat)
deriving DecidableEq, Repr

/-- The text of a place: names joined by dots, indices in brackets. -/
def renderPath (path : List PathStep) : String :=
  path.foldl (fun text step =>
    match step with
    | .name key => if text.isEmpty then key else text ++ "." ++ key
    | .index i => text ++ "[" ++ toString i ++ "]") ""

inductive Fault where
  | missing
  | undeclared
  | rejected (reason : Rejection)
deriving DecidableEq, Repr

structure Misfit where
  path : List PathStep
  fault : Fault
deriving DecidableEq, Repr

def Misfit.under (step : PathStep) (m : Misfit) : Misfit := { m with path := step :: m.path }

/-- What stands for a value that is absent or null. -/
def Presence.absent : Presence → Except Misfit (Option Json)
  | .required => .error ⟨[], .missing⟩
  | .optional => .ok none
  | .default v => .ok (some v)

/-- Fits the items of a list one by one, from an index on. Items that stand for nothing are left
out. -/
def fitItems (fit : Json → Except Misfit (Option Json)) (index : Nat) :
    List Json → Except Misfit (List Json)
  | [] => .ok []
  | v :: rest => do
    let first ← (fit v).mapError (Misfit.under (.index index))
    let others ← fitItems fit (index + 1) rest
    return first.toList ++ others

/-- The least key of an object that no field declares. -/
def undeclared? (fields : List (String × Description)) (members : List (String × Json)) :
    Option String :=
  (members.find? fun (key, _) => !Keyed.contains key fields).map (·.1)

namespace Description

mutual

/-- Fits a value to a description. The answer is none if an optional value is absent. -/
def fit (direction : Direction) : Description → Json → Except Misfit (Option Json)
  | .value type _ presence, v =>
    if v.isNull then presence.absent
    else
      match type.coerce v with
      | .ok v => .ok (some v)
      | .error r => .error ⟨[], .rejected r⟩
  | .single _ presence fields, v =>
    match v with
    | .null => presence.absent
    | .object members =>
      match direction, undeclared? fields members with
      | .input, some key => .error ⟨[.name key], .undeclared⟩
      | _, _ => (fitFields direction fields members []).map fun out => some (.object out)
    | _ => .error ⟨[], .rejected .notObject⟩
  | .multiple _ presence content, v =>
    match v with
    | .null => presence.absent
    | .array items =>
      (fitItems (fun v => fit direction content v) 0 items).map fun out => some (.array out)
    | _ => .error ⟨[], .rejected .notList⟩

/-- Fits the members of an object to fields, in the fields' order. -/
def fitFields (direction : Direction) : List (String × Description) → List (String × Json) →
    List (String × Json) → Except Misfit (List (String × Json))
  | [], _, out => .ok out
  | (name, d) :: rest, members, out =>
    match fit direction d ((Keyed.get? name members).getD .null) with
    | .error m => .error (m.under (.name name))
    | .ok (some v) => fitFields direction rest members (Keyed.insert name v out)
    | .ok none => fitFields direction rest members out

end

end Description

end Campus
