import Campus.Json.Tree
import Campus.Number.Literal
import Campus.Toml.Table

/-!
# Plain values of TOML

Strings in their four forms, numbers, truth values and moments in time.
-/

namespace Campus.Toml

def isSpace (c : Char) : Bool := c == ' ' || c == '\t'

/-- A character that text may hold as it is. -/
def isPlain (c : Char) : Bool := c == '\t' || (0x20 ≤ c.toNat && c != '\x7f')

/-! ## Strings -/

def scalarChar? (n : Nat) : Option Char :=
  if n < 0xD800 ∨ (0xDFFF < n ∧ n ≤ 0x10FFFF) then some (Char.ofNat n) else none

/-- The character whose code point some hexadecimal digits write. -/
def hexChar? (digits : List Char) : Option Char := do
  let n ← digits.foldlM (fun n c => do return 16 * n + (← Json.hexValue? c)) 0
  scalarChar? n

/-- The character that a backslash and a letter stand for. -/
def shortEscape? : Char → Option Char
  | '"' => some '"'
  | '\\' => some '\\'
  | 'b' => some '\x08'
  | 'e' => some '\x1b'
  | 'f' => some '\x0c'
  | 'n' => some '\n'
  | 'r' => some '\r'
  | 't' => some '\t'
  | _ => none

/-- A character in front of what was read. -/
def prepend (c : Char) (span : Option (List Char × List Char)) : Option (List Char × List Char) :=
  span.map fun (cs, rest) => (c :: cs, rest)

/-- The rest of a string between quotes. -/
def spanBasic : List Char → Option (List Char × List Char)
  | [] => none
  | '"' :: rest => some ([], rest)
  | '\\' :: 'x' :: a :: b :: rest => do prepend (← hexChar? [a, b]) (spanBasic rest)
  | '\\' :: 'u' :: a :: b :: c :: d :: rest => do
    prepend (← hexChar? [a, b, c, d]) (spanBasic rest)
  | '\\' :: 'U' :: a :: b :: c :: d :: e :: f :: g :: h :: rest => do
    prepend (← hexChar? [a, b, c, d, e, f, g, h]) (spanBasic rest)
  | '\\' :: e :: rest => do prepend (← shortEscape? e) (spanBasic rest)
  | c :: rest => do
    guard (isPlain c && c != '\\')
    prepend c (spanBasic rest)

def spanLiteral : List Char → Option (List Char × List Char)
  | [] => none
  | '\'' :: rest => some ([], rest)
  | c :: rest => do
    guard (isPlain c)
    prepend c (spanLiteral rest)

/-- A line ends here, after blanks. -/
def endsLine (cs : List Char) : Bool :=
  match cs.dropWhile isSpace with
  | '\n' :: _ => true
  | '\r' :: '\n' :: _ => true
  | _ => false

/-- The rest of a string between triple quotes. While `skipping`, blanks and line ends are dropped,
as they are after a backslash that ends a line. -/
def spanLongBasic (skipping : Bool) : List Char → Option (List Char × List Char)
  | [] => none
  | '\r' :: '\n' :: rest =>
    if skipping then spanLongBasic true rest
    else prepend '\r' (prepend '\n' (spanLongBasic false rest))
  | '\n' :: rest =>
    if skipping then spanLongBasic true rest else prepend '\n' (spanLongBasic false rest)
  | '"' :: '"' :: '"' :: '"' :: '"' :: rest => some (['"', '"'], rest)
  | '"' :: '"' :: '"' :: '"' :: rest => some (['"'], rest)
  | '"' :: '"' :: '"' :: rest => some ([], rest)
  | '\\' :: 'x' :: a :: b :: rest => do prepend (← hexChar? [a, b]) (spanLongBasic false rest)
  | '\\' :: 'u' :: a :: b :: c :: d :: rest => do
    prepend (← hexChar? [a, b, c, d]) (spanLongBasic false rest)
  | '\\' :: 'U' :: a :: b :: c :: d :: e :: f :: g :: h :: rest => do
    prepend (← hexChar? [a, b, c, d, e, f, g, h]) (spanLongBasic false rest)
  | '\\' :: e :: rest =>
    if endsLine (e :: rest) then spanLongBasic true (e :: rest)
    else do prepend (← shortEscape? e) (spanLongBasic false rest)
  | c :: rest =>
    if skipping && isSpace c then spanLongBasic true rest
    else do
      guard (isPlain c && c != '\\')
      prepend c (spanLongBasic false rest)

/-- The rest of a string between triple apostrophes. -/
def spanLongLiteral : List Char → Option (List Char × List Char)
  | [] => none
  | '\r' :: '\n' :: rest => prepend '\r' (prepend '\n' (spanLongLiteral rest))
  | '\'' :: '\'' :: '\'' :: '\'' :: '\'' :: rest => some (['\'', '\''], rest)
  | '\'' :: '\'' :: '\'' :: '\'' :: rest => some (['\''], rest)
  | '\'' :: '\'' :: '\'' :: rest => some ([], rest)
  | c :: rest => do
    guard (isPlain c || c == '\n')
    prepend c (spanLongLiteral rest)

/-- Drops a line end at the front of a text. -/
def dropLineEnd : List Char → List Char
  | '\n' :: rest => rest
  | '\r' :: '\n' :: rest => rest
  | cs => cs

def spanString : List Char → Option (String × List Char)
  | '"' :: '"' :: '"' :: rest => text (spanLongBasic false (dropLineEnd rest))
  | '"' :: rest => text (spanBasic rest)
  | '\'' :: '\'' :: '\'' :: rest => text (spanLongLiteral (dropLineEnd rest))
  | '\'' :: rest => text (spanLiteral rest)
  | _ => none
where
  text (s : Option (List Char × List Char)) : Option (String × List Char) :=
    s.map fun (cs, rest) => (String.ofList cs, rest)

/-! ## Numbers -/

/-- Digits of a kind, with single underscores between them. -/
def digits? (p : Char → Bool) : List Char → Option (List Char)
  | [] => none
  | [c] => if p c then some [c] else none
  | c :: '_' :: rest => if p c then (digits? p rest).map (c :: ·) else none
  | c :: rest => if p c then (digits? p rest).map (c :: ·) else none

/-- Decimal digits without a zero that leads others. -/
def wholeDigits? (cs : List Char) : Option (List Char) := do
  let ds ← digits? isDigit cs
  guard (ds.head? != some '0' || ds.length == 1)
  return ds

/-- A natural number in a base, written in digits of the base. -/
def based? (base : Nat) (cs : List Char) : Option Int := do
  let inBase (c : Char) : Bool := (Json.hexValue? c).any (· < base)
  let ds ← digits? inBase cs
  return (ds.foldl (fun n c => base * n + (Json.hexValue? c).getD 0) 0 : Nat)

/-- The number fits a signed or an unsigned word of 128 bits. -/
def IsInt128 (n : Int) : Prop := -(1 <<< 127 : Nat) ≤ n ∧ n < (1 <<< 128 : Nat)

instance (n : Int) : Decidable (IsInt128 n) := inferInstanceAs (Decidable (_ ∧ _))

def integer? (cs : List Char) : Option Int := do
  let n ←
    match cs with
    | '0' :: 'x' :: ds => based? 16 ds
    | '0' :: 'o' :: ds => based? 8 ds
    | '0' :: 'b' :: ds => based? 2 ds
    | _ => do
      let (negative, ds) := spanSign cs
      let n : Int := digitsValue (← wholeDigits? ds)
      return if negative then -n else n
  guard (IsInt128 n)
  return n

/-- The digits after the point, if there is one. -/
def fraction? : List Char → Option (List Char)
  | [] => some []
  | '.' :: ds => digits? isDigit ds
  | _ => none

def float? (cs : List Char) : Option (Option Binary64) := do
  let (negative, rest) := spanSign cs
  match rest with
  | ['i', 'n', 'f'] => return none
  | ['n', 'a', 'n'] => return none
  | _ =>
    let isExponent (c : Char) : Bool := c == 'e' || c == 'E'
    let mantissa := rest.takeWhile (!isExponent ·)
    let exponent := (rest.dropWhile (!isExponent ·)).drop 1
    guard (mantissa.contains '.' || rest.any isExponent)
    let whole ← wholeDigits? (mantissa.takeWhile (· != '.'))
    let fraction ← fraction? (mantissa.dropWhile (· != '.'))
    let (exponentNegative, exponentDigits) := spanSign exponent
    let exponentDigits ← if rest.any isExponent then digits? isDigit exponentDigits else some []
    let x : DecimalLiteral := { negative, whole, fraction, exponentNegative, exponentDigits }
    return some (← x.toDouble?)

/-! ## Moments -/

def twoDigits? (least greatest : Nat) (a b : Char) : Option (List Char) := do
  let n := digitsValue [a, b]
  guard (isDigit a && isDigit b && least ≤ n && n ≤ greatest)
  return [a, b]

def isLeapYear (y : Nat) : Bool := y % 4 == 0 && (y % 100 != 0 || y % 400 == 0)

def daysIn (year month : Nat) : Nat :=
  if month == 2 then (if isLeapYear year then 29 else 28)
  else if month == 4 || month == 6 || month == 9 || month == 11 then 30
  else 31

def spanDate : List Char → Option (List Char × List Char)
  | a :: b :: c :: d :: '-' :: e :: f :: '-' :: g :: h :: rest => do
    guard ([a, b, c, d].all isDigit)
    let month ← twoDigits? 1 12 e f
    let day ← twoDigits? 1 (daysIn (digitsValue [a, b, c, d]) (digitsValue month)) g h
    return ([a, b, c, d, '-'] ++ month ++ '-' :: day, rest)
  | _ => none

/-- Up to nine digits of a fraction, without zeros at the end. -/
def fractionText (ds : List Char) : List Char :=
  let kept := ((ds.take 9).reverse.dropWhile (· == '0')).reverse
  if kept.isEmpty then [] else '.' :: kept

/-- The fraction of a second at the front of a text. -/
def spanFractionText : List Char → Option (List Char × List Char)
  | '.' :: rest => do
    let (ds, rest) := spanDigits rest
    guard !ds.isEmpty
    return (fractionText ds, rest)
  | rest => some ([], rest)

/-- A time of day at the front of a text. Seconds may be left out. -/
def spanTime : List Char → Option (List Char × List Char)
  | a :: b :: ':' :: c :: d :: ':' :: e :: f :: rest => do
    let hour ← twoDigits? 0 23 a b
    let minute ← twoDigits? 0 59 c d
    let second ← twoDigits? 0 60 e f
    let (fraction, rest) ← spanFractionText rest
    return (hour ++ ':' :: minute ++ ':' :: second ++ fraction, rest)
  | a :: b :: ':' :: c :: d :: rest => do
    let hour ← twoDigits? 0 23 a b
    let minute ← twoDigits? 0 59 c d
    return (hour ++ ':' :: minute, rest)
  | _ => none

/-- All of a text as the distance from universal time, which may be left out. -/
def offset? : List Char → Option (List Char)
  | [] => some []
  | ['Z'] | ['z'] => some ['Z']
  | [sign, a, b, ':', c, d] => do
    guard (sign == '+' || sign == '-')
    let hour ← twoDigits? 0 23 a b
    let minute ← twoDigits? 0 59 c d
    let isZero := digitsValue (hour ++ minute) == 0
    return (if isZero then '+' else sign) :: hour ++ ':' :: minute
  | _ => none

def datetime? (cs : List Char) : Option (List Char) :=
  match spanDate cs with
  | some (date, []) => some date
  | some (date, c :: rest) => do
    guard (c == 'T' || c == 't' || c == ' ')
    let (time, rest) ← spanTime rest
    return date ++ 'T' :: time ++ (← offset? rest)
  | none => do
    let (time, rest) ← spanTime cs
    guard rest.isEmpty
    return time

/-! ## Words -/

/-- A character of a value that is not quoted. -/
def isWordChar (c : Char) : Bool :=
  c.isAlphanum || c == '_' || c == '+' || c == '-' || c == '.' || c == ':'

/-- A word at the front of a text. One blank may stand between a date and a time. -/
def spanWord (cs : List Char) : List Char × List Char :=
  let word := cs.takeWhile isWordChar
  let rest := cs.dropWhile isWordChar
  match spanDate word, rest with
  | some (_, []), ' ' :: c :: after =>
    if isDigit c then
      (word ++ ' ' :: (c :: after).takeWhile isWordChar, (c :: after).dropWhile isWordChar)
    else (word, rest)
  | _, _ => (word, rest)

/-- The value that a word writes. -/
def wordValue? (word : List Char) : Option Value :=
  if word = "true".toList then some (.boolean true)
  else if word = "false".toList then some (.boolean false)
  else
    ((integer? word).map .integer <|> (float? word).map .double)
      <|> (datetime? word).map fun cs => .datetime (String.ofList cs)

end Campus.Toml
