import Campus.Json.Basic

/-!
# JSON text

The compact form has no blanks and stands on one line. The spread form puts every member and item
on a line of its own, two blanks further in than what encloses it.
-/

namespace Campus.Json

def hexDigit (n : Nat) : Char := if n < 10 then Char.ofNat (48 + n) else Char.ofNat (87 + n)

/-- A character inside a quoted string. Quotes, backslashes and control characters are escaped. -/
def escapeChar (c : Char) : List Char :=
  if c = '"' then ['\\', '"']
  else if c = '\\' then ['\\', '\\']
  else if c = '\n' then ['\\', 'n']
  else if c = '\r' then ['\\', 'r']
  else if c = '\t' then ['\\', 't']
  else if c = '\x08' then ['\\', 'b']
  else if c = '\x0c' then ['\\', 'f']
  else if c.toNat < 0x20 then
    ['\\', 'u', '0', '0', hexDigit (c.toNat / 16), hexDigit (c.toNat % 16)]
  else [c]

def quote (s : String) : List Char := '"' :: s.toList.flatMap escapeChar ++ ['"']

def scalarText : Json → List Char
  | .bool true => "true".toList
  | .bool false => "false".toList
  | .number n => n.text.toList
  | .string s => quote s
  | _ => "null".toList

mutual

def compact : Json → List Char
  | .array items => '[' :: compactItems items ++ [']']
  | .object members => '\x7b' :: compactMembers members ++ ['\x7d']
  | v => scalarText v

def compactItems : List Json → List Char
  | [] => []
  | [v] => compact v
  | v :: rest => compact v ++ ',' :: compactItems rest

def compactMembers : List (String × Json) → List Char
  | [] => []
  | [(name, v)] => quote name ++ ':' :: compact v
  | (name, v) :: rest => quote name ++ ':' :: compact v ++ ',' :: compactMembers rest

end

def render (v : Json) : String := String.ofList (compact v)

/-- A line break and the blanks of a level. -/
def lineBreak (level : Nat) : List Char := '\n' :: List.replicate (2 * level) ' '

mutual

/-- The spread form of a value at a level of nesting. -/
def spread (level : Nat) : Json → List Char
  | .array [] => ['[', ']']
  | .object [] => ['\x7b', '\x7d']
  | .array items => '[' :: spreadItems (level + 1) items ++ lineBreak level ++ [']']
  | .object members => '\x7b' :: spreadMembers (level + 1) members ++ lineBreak level ++ ['\x7d']
  | v => scalarText v

def spreadItems (level : Nat) : List Json → List Char
  | [] => []
  | [v] => lineBreak level ++ spread level v
  | v :: rest => lineBreak level ++ spread level v ++ ',' :: spreadItems level rest

def spreadMembers (level : Nat) : List (String × Json) → List Char
  | [] => []
  | [(name, v)] => lineBreak level ++ quote name ++ ':' :: ' ' :: spread level v
  | (name, v) :: rest =>
    lineBreak level ++ quote name ++ ':' :: ' ' :: spread level v ++ ',' :: spreadMembers level rest

end

def renderSpread (v : Json) : String := String.ofList (spread 0 v)

end Campus.Json
