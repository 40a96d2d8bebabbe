import Campus.Json.Basic

/-!
# Descriptions

What a function takes and returns is described by a tree of plain values, structures of named
fields, and lists. `toJson` is the published form of a description.
-/

namespace Campus

inductive ParamType where
  | int | float | bool
  /-- ASCII letters and digits only. -/
  | alphanum
  | text | url | email
  | raw
deriving DecidableEq, Repr

def ParamType.name : ParamType → String
  | .int => "int"
  | .float => "float"
  | .bool => "bool"
  | .alphanum => "alphanum"
  | .text => "text"
  | .url => "url"
  | .email => "email"
  | .raw => "raw"

inductive Presence where
  | required
  | optional
  | default (v : Json)

inductive Description where
  | value (type : ParamType) (desc : String) (presence : Presence)
  | single (desc : String) (presence : Presence) (fields : List (String × Description))
  | multiple (desc : String) (presence : Presence) (content : Description)

namespace Description

instance : Inhabited Description := ⟨.value .raw "" .required⟩

def presence : Description → Presence
  | .value _ _ presence => presence
  | .single _ presence _ => presence
  | .multiple _ presence _ => presence

def withPresence (presence : Presence) : Description → Description
  | .value type desc _ => .value type desc presence
  | .single desc _ fields => .single desc presence fields
  | .multiple desc _ content => .multiple desc presence content

def optional (d : Description) : Description := d.withPresence .optional

def withDefault (v : Json) (d : Description) : Description := d.withPresence (.default v)

def plain (type : ParamType) (desc : String) : Description := .value type desc .required

def structureOf (desc : String) (fields : List (String × Description)) : Description :=
  .single desc .required fields

def listOf (content : Description) (desc : String) : Description := .multiple desc .required content

def fields : Description → List (String × Description)
  | .single _ _ fields => fields
  | _ => []

def fieldNames (d : Description) : List String := d.fields.map (·.1)

/-- The first field of a structure with this name. -/
def field? (name : String) (d : Description) : Option Description := Keyed.get? name d.fields

/-- The members that say whether a value must be there. -/
def presenceMembers : Presence → List (String × Json)
  | .required => [("required", .bool true)]
  | .optional => [("required", .bool false)]
  | .default v => [("required", .bool false), ("default", v)]

mutual

def toJson : Description → Json
  | .value type desc presence =>
    .ofMembers ([("type", .string type.name), ("desc", .string desc)] ++ presenceMembers presence)
  | .single desc presence fields =>
    .ofMembers ([("type", .string "object"), ("desc", .string desc),
      ("keys", .ofMembers (fieldsToJson fields))] ++ presenceMembers presence)
  | .multiple desc presence content =>
    .ofMembers ([("type", .string "list"), ("desc", .string desc), ("content", toJson content)]
      ++ presenceMembers presence)

def fieldsToJson : List (String × Description) → List (String × Json)
  | [] => []
  | (name, d) :: rest => (name, toJson d) :: fieldsToJson rest

end

def warning : Description :=
  .structureOf "warning" [
    ("item", .optional (.plain .text "item")),
    ("itemid", .optional (.plain .int "item id")),
    ("warningcode", .plain .alphanum
      "the warning code can be used by the client app to implement specific behaviour"),
    ("message", .plain .raw "untranslated english message to explain the warning")]

def warnings : Description := .optional (.listOf warning "list of warnings")

def statusWithWarnings (statusDesc : String) : Description :=
  .structureOf "result" [("status", .plain .bool statusDesc), ("warnings", warnings)]

end Description

end Campus
