import Campus.Toml.Scalar

/-!
# TOML documents

A document is read line by line: a header opens a table, a key and a value add to the table that was
opened last. The text's length bounds the number of parts, and arrays and tables between braces
enclose one another at most 80 times.
-/

namespace Campus.Toml

/-! ## Line ends and keys -/

/-- What follows the end of a line; none if something else stands before it. -/
def endLine? (cs : List Char) : Option (List Char) :=
  let rest :=
    match cs.dropWhile isSpace with
    | '#' :: comment => comment.dropWhile isPlain
    | rest => rest
  match rest with
  | [] => some []
  | '\n' :: rest => some rest
  | '\r' :: '\n' :: rest => some rest
  | _ => none

def skipLines? (inComment : Bool) : List Char → Option (List Char)
  | [] => some []
  | '\n' :: rest => skipLines? false rest
  | '\r' :: '\n' :: rest => skipLines? false rest
  | c :: rest =>
    if inComment then if isPlain c then skipLines? true rest else none
    else if isSpace c then skipLines? false rest
    else if c = '#' then skipLines? true rest
    else some (c :: rest)

def isBareKeyChar (c : Char) : Bool := c.isAlphanum || c == '_' || c == '-'

/-- A key that is bare or quoted on one line. -/
def spanKey (cs : List Char) : Option (String × List Char) :=
  match cs with
  | '"' :: rest => (spanBasic rest).map fun (key, rest) => (String.ofList key, rest)
  | '\'' :: rest => (spanLiteral rest).map fun (key, rest) => (String.ofList key, rest)
  | _ =>
    let key := cs.takeWhile isBareKeyChar
    if key.isEmpty then none else some (String.ofList key, cs.dropWhile isBareKeyChar)

/-- Keys with dots between them: the path, the last key, and what follows. -/
def spanKeys (bound : Nat) (cs : List Char) : Option ((List String × String) × List Char) :=
  match bound with
  | 0 => none
  | bound + 1 => do
    let (key, rest) ← spanKey (cs.dropWhile isSpace)
    match rest.dropWhile isSpace with
    | '.' :: rest => do
      let ((path, last), rest) ← spanKeys bound rest
      return ((key :: path, last), rest)
    | rest => return (([], key), rest)

/-! ## Values -/

/-- How often arrays and tables between braces may enclose one another. -/
def maxLevels : Nat := 80

mutual

def spanValue (levels bound : Nat) (cs : List Char) : Option (Value × List Char) :=
  match bound with
  | 0 => none
  | bound + 1 =>
    match cs with
    | '[' :: rest => do
      guard (0 < levels)
      let (items, rest) ← spanItems (levels - 1) bound rest
      return (.array false items, rest)
    | '\x7b' :: rest => do
      guard (0 < levels)
      let (ms, rest) ← spanMembers (levels - 1) bound [] rest
      return (.table .inline ms, rest)
    | '"' :: _ | '\'' :: _ => (spanString cs).map fun (s, rest) => (.string s, rest)
    | _ => do
      let (word, rest) := spanWord cs
      return (← wordValue? word, rest)

/-- The items of an array up to its end. -/
def spanItems (levels bound : Nat) (cs : List Char) : Option (List Value × List Char) :=
  match bound with
  | 0 => none
  | bound + 1 => do
    match ← skipLines? false cs with
    | ']' :: rest => return ([], rest)
    | cs => do
      let (v, rest) ← spanValue levels bound cs
      match ← skipLines? false rest with
      | ',' :: rest => do
        let (items, rest) ← spanItems levels bound rest
        return (v :: items, rest)
      | ']' :: rest => return ([v], rest)
      | _ => none

/-- The members of a table between braces up to its end, after some that were read. -/
def spanMembers (levels bound : Nat) (ms : Members) (cs : List Char) :
    Option (Members × List Char) :=
  match bound with
  | 0 => none
  | bound + 1 => do
    match ← skipLines? false cs with
    | '\x7d' :: rest => return (ms, rest)
    | cs => do
      let ((path, key), rest) ← spanKeys (cs.length + 1) cs
      match rest with
      | '=' :: rest => do
        let (v, rest) ← spanValue levels bound (rest.dropWhile isSpace)
        let ms ← ms.addDotted? path key v
        match ← skipLines? false rest with
        | ',' :: rest => spanMembers levels bound ms rest
        | '\x7d' :: rest => return (ms, rest)
        | _ => none
      | _ => none

end

/-! ## Documents -/

/-- A document as far as it was read: its members and the path to the table that is open. -/
structure Document where
  members : Members := []
  opened : List String := []

namespace Document

/-- Reads a header after its first bracket. -/
def header? (d : Document) (cs : List Char) : Option (Document × List Char) :=
  match cs with
  | '[' :: rest => do
    let ((path, key), rest) ← spanKeys (cs.length + 1) rest
    match rest with
    | ']' :: ']' :: rest =>
      return ({ members := ← d.members.openItem? path key, opened := path ++ [key] }, rest)
    | _ => none
  | _ => do
    let ((path, key), rest) ← spanKeys (cs.length + 1) cs
    match rest with
    | ']' :: rest =>
      return ({ members := ← d.members.openTable? path key, opened := path ++ [key] }, rest)
    | _ => none

/-- Adds the value of a dotted key to the open table. -/
def add? (d : Document) (path : List String) (key : String) (v : Value) : Option Document := do
  let members ← Members.changeAt? false (Members.addDotted? path key v) d.opened d.members
  return { d with members }

def keyValue? (d : Document) (cs : List Char) : Option (Document × List Char) := do
  let ((path, key), rest) ← spanKeys (cs.length + 1) cs
  match rest with
  | '=' :: rest => do
    let (v, rest) ← spanValue maxLevels (rest.length + 1) (rest.dropWhile isSpace)
    return (← d.add? path key v, rest)
  | _ => none

/-- Reads the lines of a text. -/
def read? (bound : Nat) (d : Document) (cs : List Char) : Option Document :=
  match bound with
  | 0 => none
  | bound + 1 => do
    match ← skipLines? false cs with
    | [] => return d
    | '[' :: rest => do
      let (d, rest) ← d.header? rest
      read? bound d (← endLine? rest)
    | cs => do
      let (d, rest) ← d.keyValue? cs
      read? bound d (← endLine? rest)

end Document

def ofText? (s : String) : Option Members :=
  let cs :=
    match s.toList with
    | '\ufeff' :: rest => rest
    | cs => cs
  (Document.read? (cs.length + 1) {} cs).map (·.members)

end Campus.Toml
