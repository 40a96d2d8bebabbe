import Campus.Json.Basic

/-!
# JSON text as it is written

A tree keeps what a text says before it is decided what of it counts: object members in the order
written, repeated names included, numbers as literals, and strings with unpaired surrogates, which
have no text. A text is cut into tokens, and a stack of open arrays and objects takes one token
after the other, so nesting may be arbitrarily deep.
-/

namespace Campus.Json

/-- A string literal; none if it names an unpaired surrogate. -/
abbrev StringLiteral := Option String

inductive Token where
  | openArray | closeArray | openObject | closeObject | comma | colon
  | null
  | bool (b : Bool)
  | number (x : DecimalLiteral)
  | string (s : StringLiteral)

inductive Tree where
  | null
  | bool (b : Bool)
  | number (x : DecimalLiteral)
  | string (s : StringLiteral)
  | array (items : List Tree)
  | object (members : List (StringLiteral × Tree))

/-! ## Tokens -/

def hexValue? (c : Char) : Option Nat :=
  if '0' ≤ c && c ≤ '9' then some (c.toNat - 48)
  else if 'a' ≤ c && c ≤ 'f' then some (c.toNat - 87)
  else if 'A' ≤ c && c ≤ 'F' then some (c.toNat - 55)
  else none

/-- A code unit of four hexadecimal digits. -/
def hexUnit? (a b c d : Char) : Option Nat := do
  return ((← hexValue? a) * 4096 + (← hexValue? b) * 256 + (← hexValue? c) * 16 + (← hexValue? d))

def isHighSurrogate (n : Nat) : Bool := 0xD800 ≤ n && n ≤ 0xDBFF
def isLowSurrogate (n : Nat) : Bool := 0xDC00 ≤ n && n ≤ 0xDFFF

/-- The character that a backslash and a letter stand for. -/
def shortEscape? : Char → Option Char
  | '"' => some '"'
  | '\\' => some '\\'
  | '/' => some '/'
  | 'b' => some '\x08'
  | 'f' => some '\x0c'
  | 'n' => some '\n'
  | 'r' => some '\r'
  | 't' => some '\t'
  | _ => none

/-- A unit of a string literal: a character, or a surrogate that an escape names. -/
abbrev StringUnit := Char ⊕ Nat

/-- Reads the units of a string up to its closing quote, and answers what follows. -/
def spanUnits? : List Char → Option (List StringUnit × List Char)
  | '"' :: rest => some ([], rest)
  | '\\' :: 'u' :: a :: b :: c :: d :: rest => do
    let n ← hexUnit? a b c d
    let (units, after) ← spanUnits? rest
    let unit := if isHighSurrogate n || isLowSurrogate n then .inr n else .inl (Char.ofNat n)
    return (unit :: units, after)
  | '\\' :: e :: rest => do
    let c ← shortEscape? e
    let (units, after) ← spanUnits? rest
    return (.inl c :: units, after)
  | c :: rest => do
    guard (0x20 ≤ c.toNat && c != '\\')
    let (units, after) ← spanUnits? rest
    return (.inl c :: units, after)
  | [] => none

/-- The characters that units write; none if a surrogate has no partner. -/
def pairUnits? : List StringUnit → Option (List Char)
  | [] => some []
  | .inl c :: rest => (pairUnits? rest).map (c :: ·)
  | .inr high :: .inr low :: rest =>
    if isHighSurrogate high && isLowSurrogate low then
      (pairUnits? rest).map
        (Char.ofNat (0x10000 + (high - 0xD800) * 0x400 + (low - 0xDC00)) :: ·)
    else none
  | .inr _ :: _ => none

def isSpace (c : Char) : Bool := c == ' ' || c == '\n' || c == '\t' || c == '\r'

/-- Reads one token off the front of a text that starts with no blank. -/
def token? : List Char → Option (Token × List Char)
  | '[' :: rest => some (.openArray, rest)
  | ']' :: rest => some (.closeArray, rest)
  | '\x7b' :: rest => some (.openObject, rest)
  | '\x7d' :: rest => some (.closeObject, rest)
  | ',' :: rest => some (.comma, rest)
  | ':' :: rest => some (.colon, rest)
  | 'n' :: 'u' :: 'l' :: 'l' :: rest => some (.null, rest)
  | 't' :: 'r' :: 'u' :: 'e' :: rest => some (.bool true, rest)
  | 'f' :: 'a' :: 'l' :: 's' :: 'e' :: rest => some (.bool false, rest)
  | '"' :: rest => do
    let (units, after) ← spanUnits? rest
    return (.string ((pairUnits? units).map String.ofList), after)
  | cs => do
    let (x, after) ← DecimalLiteral.spanJson? cs
    return (.number x, after)

/-- The tokens of a text. A token leaves less than it was given, so the text's length bounds their
number. -/
def tokens? (cs : List Char) : Option (List Token) :=
  go cs.length cs
where
  go : Nat → List Char → Option (List Token)
    | bound, cs =>
      match cs.dropWhile isSpace with
      | [] => some []
      | c :: rest =>
        match bound with
        | 0 => none
        | bound + 1 => do
          let (t, after) ← token? (c :: rest)
          return t :: (← go bound after)

/-! ## The stack -/

/-- An array or object that is still open, its parts in reverse. -/
inductive Frame where
  | array (items : List Tree)
  | object (members : List (StringLiteral × Tree)) (name : StringLiteral)

/-- What may come next. -/
inductive Expect where
  | value
  /-- The first item of an array, or its end. -/
  | firstItem
  /-- The first name of an object, or its end. -/
  | firstName
  /-- A name, after members. -/
  | name (members : List (StringLiteral × Tree))
  | colon (members : List (StringLiteral × Tree)) (name : StringLiteral)
  /-- A comma or an end, after a value. -/
  | next (v : Tree)

structure Parse where
  stack : List Frame
  expect : Expect

def Parse.begin (stack : List Frame) : Token → Option Parse
  | .openArray => some ⟨stack, .firstItem⟩
  | .openObject => some ⟨stack, .firstName⟩
  | .null => some ⟨stack, .next .null⟩
  | .bool b => some ⟨stack, .next (.bool b)⟩
  | .number x => some ⟨stack, .next (.number x)⟩
  | .string s => some ⟨stack, .next (.string s)⟩
  | _ => none

def Parse.step (p : Parse) (t : Token) : Option Parse :=
  match p.expect, t with
  | .value, t => Parse.begin p.stack t
  | .firstItem, .closeArray => some ⟨p.stack, .next (.array [])⟩
  | .firstItem, t => Parse.begin (.array [] :: p.stack) t
  | .firstName, .closeObject => some ⟨p.stack, .next (.object [])⟩
  | .firstName, .string name => some ⟨p.stack, .colon [] name⟩
  | .name members, .string name => some ⟨p.stack, .colon members name⟩
  | .colon members name, .colon => some ⟨.object members name :: p.stack, .value⟩
  | .next v, t =>
    match p.stack, t with
    | .array items :: stack, .comma => some ⟨.array (v :: items) :: stack, .value⟩
    | .array items :: stack, .closeArray => some ⟨stack, .next (.array (v :: items).reverse)⟩
    | .object members name :: stack, .comma => some ⟨stack, .name ((name, v) :: members)⟩
    | .object members name :: stack, .closeObject =>
      some ⟨stack, .next (.object ((name, v) :: members).reverse)⟩
    | _, _ => none
  | _, _ => none

/-- The tree of a text that holds one value and blanks around it. -/
def Tree.ofText? (s : String) : Option Tree := do
  let tokens ← tokens? s.toList
  let final ← tokens.foldlM Parse.step ⟨[], .value⟩
  match final with
  | ⟨[], .next v⟩ => some v
  | _ => none

end Campus.Json
