import Campus.Text.Blank
import Campus.Url.Domain

/-!
# Absolute URLs

Splitting a URL into scheme, host and port by the rules of web browsers. Web schemes need a host,
`file` may have one, and any other scheme has one if `//` follows it. Paths, queries and fragments
cannot be wrong.
-/

namespace Campus

inductive UrlError where
  | noScheme | emptyHost | badPort | badIpv4 | badIpv6 | badHostCharacter | badDomainName
deriving DecidableEq, Repr

def UrlError.message : UrlError → String
  | .noScheme => "relative URL without a base"
  | .emptyHost => "empty host"
  | .badPort => "invalid port number"
  | .badIpv4 => "invalid IPv4 address"
  | .badIpv6 => "invalid IPv6 address"
  | .badHostCharacter => "invalid domain character"
  | .badDomainName => "invalid international domain name"

namespace Url

inductive Host where
  | domain (name : List Char)
  | ipv4 (address : Nat)
  | ipv6 (text : List Char)
deriving DecidableEq, Repr

end Url

structure Url where
  scheme : List Char
  host : Option Url.Host
deriving DecidableEq, Repr

namespace Url

def isAsciiAlpha (c : Char) : Bool := ('a' ≤ c && c ≤ 'z') || ('A' ≤ c && c ≤ 'Z')

def isSchemeChar (c : Char) : Bool :=
  isAsciiAlpha c || isDigit c || c == '+' || c == '-' || c == '.'

/-- Splits a scheme and its colon off the front of a text. -/
def spanScheme? (cs : List Char) : Option (List Char × List Char) :=
  match cs.head?, cs.dropWhile isSchemeChar with
  | some c, ':' :: rest =>
    if isAsciiAlpha c then some ((cs.takeWhile isSchemeChar).map Char.toLower, rest) else none
  | _, _ => none

/-- Schemes whose URLs must name a host. -/
def isWebScheme (scheme : List Char) : Bool :=
  ["http", "https", "ws", "wss", "ftp"].contains (String.ofList scheme)

def isSlash (c : Char) : Bool := c == '/' || c == '\\'

/-- The character ends the authority. A backslash does in a web address. -/
def endsAuthority (web : Bool) (c : Char) : Bool :=
  c == '/' || c == '?' || c == '#' || (web && c == '\\')

/-- Splits the last `@` and what stands before it in the authority off the front of a text. -/
def spanCredentials (web : Bool) (cs : List Char) : Option (List Char) × List Char :=
  let authority := cs.takeWhile (!endsAuthority web ·)
  if authority.contains '@' then
    let host := (authority.reverse.takeWhile (· != '@')).reverse
    let credentials := authority.take (authority.length - host.length - 1)
    (some credentials, cs.drop (credentials.length + 1))
  else (none, cs)

/-- Splits the host off the front of a text. A colon between brackets belongs to the host. -/
def spanHost (web : Bool) (bracket : Bool) : List Char → List Char × List Char
  | [] => ([], [])
  | c :: rest =>
    if (c == ':' && !bracket) || endsAuthority web c then ([], c :: rest)
    else
      let bracket := if c == '[' then true else if c == ']' then false else bracket
      let (host, after) := spanHost web bracket rest
      (c :: host, after)

/-- The host in brackets, if the text starts with one. -/
def bracketHost? (cs : List Char) : Option (Except UrlError Host) :=
  match cs with
  | '[' :: inner =>
    if inner.getLast? = some ']' && isIpv6 inner.dropLast then
      some (.ok (.ipv6 inner.dropLast))
    else some (.error .badIpv6)
  | _ => none

def webHost (cs : List Char) : Except UrlError Host :=
  match bracketHost? cs with
  | some host => host
  | none =>
    match utf8Text? (percentDecode (utf8Bytes cs)) >>= domain? with
    | none => .error .badDomainName
    | some [] => .error .emptyHost
    | some name =>
      if endsInNumber name then
        match ipv4? name with
        | some address => .ok (.ipv4 address)
        | none => .error .badIpv4
      else .ok (.domain name)

/-- A character that the host of no scheme may hold. -/
def isForbiddenInHost (c : Char) : Bool :=
  "\x00\t\n\r #/:<>?@[\\]^|".toList.contains c

/-- The host of an address with another scheme, which is kept as it is. -/
def plainHost (cs : List Char) : Except UrlError Host :=
  match bracketHost? cs with
  | some host => host
  | none => if cs.any isForbiddenInHost then .error .badHostCharacter else .ok (.domain cs)

def checkPort (cs : List Char) : Except UrlError Unit :=
  let (digits, rest) := spanDigits cs
  let ended := match rest with
    | [] => true
    | c :: _ => endsAuthority true c
  if ended && digitsValue digits ≤ 65535 then .ok () else .error .badPort

/-- The host of an authority; none if it is empty, which only other schemes allow. -/
def authority (web : Bool) (cs : List Char) : Except UrlError (Option Host) := do
  let (credentials, rest) := spanCredentials web cs
  match credentials, rest with
  | some [], c :: _ => if endsAuthority web c then throw .emptyHost
  | _, _ => pure ()
  let (name, rest) := spanHost web false rest
  if web && name.isEmpty then throw .emptyHost
  let host ← if web then webHost name else plainHost name
  let isEmpty := host == .domain []
  match rest with
  | ':' :: port =>
    if isEmpty then throw .emptyHost
    checkPort port
  | _ => pure ()
  let named := match credentials with
    | some cs => !cs.isEmpty && cs != [':']
    | none => false
  if isEmpty && named then throw .emptyHost
  return if isEmpty then none else some host

/-! ## File addresses -/

/-- A letter and a colon or a bar name a drive. -/
def isDrive : List Char → Bool
  | [c, d] => isAsciiAlpha c && (d == ':' || d == '|')
  | _ => false

def isDoubleDot (segment : List Char) : Bool :=
  ["..", "%2e.", ".%2e", "%2e%2e"].contains (String.ofList (segment.map Char.toLower))

def isSingleDot (segment : List Char) : Bool :=
  [".", "%2e"].contains (String.ofList (segment.map Char.toLower))

/-- Walking along a path, a segment at its root names a drive; `opened` holds the segments that lead
to here, the innermost first. -/
def rootDrive (opened : List (List Char)) : List (List Char) → Bool
  | [] => false
  | segment :: rest =>
    if isDoubleDot segment then
      match opened with
      | top :: below => if isDrive top then rootDrive opened rest else rootDrive below rest
      | [] => rootDrive [] rest
    else if isSingleDot segment then rootDrive opened rest
    else if opened.isEmpty && isDrive segment then true
    else rootDrive (segment :: opened) rest

/-- The segments of the path at the front of a text, without its first slash. -/
def pathSegments (cs : List Char) : List (List Char) :=
  let path := (cs.takeWhile fun c => c != '?' && c != '#').map fun c => if c == '\\' then '/' else c
  let path := if path.head? = some '/' then path.drop 1 else path
  path.splitOn '/'

/-- The host of a file address, after its scheme. A drive is no host, nor is `localhost`, and there
is none before a path that names a drive. -/
def fileHost (cs : List Char) : Except UrlError (Option Host) :=
  match cs with
  | a :: b :: rest =>
    if isSlash a && isSlash b then
      let name := rest.takeWhile (!endsAuthority true ·)
      if name.isEmpty || isDrive name then .ok none
      else do
        let host ← webHost name
        let path := rest.drop name.length
        if host == .domain "localhost".toList || rootDrive [] (pathSegments path) then return none
        return some host
    else .ok none
  | _ => .ok none

/-- Controls and blanks of ASCII, which do not count at the ends of a URL. -/
def isEdge (c : Char) : Bool := c.toNat ≤ 0x20

/-- Reads an absolute URL. Tabs and line breaks in it do not count. -/
def parse (s : String) : Except UrlError Url := do
  let cs := (trimChars isEdge s.toList).filter fun c => c != '\t' && c != '\n' && c != '\r'
  match spanScheme? cs with
  | none => throw .noScheme
  | some (scheme, rest) =>
    if String.ofList scheme = "file" then return ⟨scheme, ← fileHost rest⟩
    else if isWebScheme scheme then return ⟨scheme, ← authority true (rest.dropWhile isSlash)⟩
    else
      match rest with
      | '/' :: '/' :: rest => return ⟨scheme, ← authority false rest⟩
      | _ => return ⟨scheme, none⟩

end Url

end Campus
