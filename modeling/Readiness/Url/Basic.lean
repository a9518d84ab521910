import Readiness.Url.Host

/-! URLs.

`Url` holds the parts of a URL, `Url.text` writes it and `Url.parse` reads it. Reading never looks
back: the scheme comes first, then the authority up to the first slash, question mark or hash sign,
then the path, whose dot segments are resolved, the query and the fragment. For schemes with a
meaning of their own (`isSpecial`) a backslash counts as a slash. -/

namespace Readiness

structure Url where
  scheme : String
  username : String := ""
  password : Option String := none
  host : Option Url.Host := none
  /-- Left out if it is the default of the scheme. -/
  port : Option UInt16 := none
  path : String := ""
  query : Option String := none
  fragment : Option String := none
deriving DecidableEq, Repr, Inhabited

namespace Url

/-- The port that a scheme stands for. -/
def defaultPort (scheme : String) : Option UInt16 :=
  match scheme with
  | "http" | "ws" => some 80
  | "https" | "wss" => some 443
  | "ftp" => some 21
  | _ => none

/-- Schemes that name a host on the network and have a meaning of their own. -/
def isSpecial (scheme : String) : Bool := (defaultPort scheme).isSome

/-- The port to connect to, written or not. -/
def effectivePort (u : Url) : Option UInt16 := u.port <|> defaultPort u.scheme

def userinfoText (u : Url) : String :=
  match u.username, u.password with
  | "", none => ""
  | name, none => name ++ "@"
  | name, some password => name ++ ":" ++ password ++ "@"

/-- The host and the written port. -/
def authorityText (u : Url) : String :=
  (u.host.elim "" Host.text) ++ (u.port.elim "" fun p => ":" ++ toString p.toNat)

def pathAndQuery (u : Url) : String := u.path ++ u.query.elim "" ("?" ++ ·)

def text (u : Url) : String :=
  u.scheme ++ ":" ++ (if u.host.isSome then "//" ++ u.userinfoText ++ u.authorityText else "")
    ++ u.pathAndQuery ++ u.fragment.elim "" ("#" ++ ·)

def withoutUserinfo (u : Url) : Url := { u with username := "", password := none }

/-! ### Reading -/

/-- Whether a character is a control character or a blank. -/
def isBlank (c : Char) : Bool := c.toNat ≤ 0x20

def isLineSpace (c : Char) : Bool := c = '\t' || c = '\n' || c = '\r'

/-- Without control characters and blanks at both ends, and without tabs and line ends anywhere. -/
def tidy (s : List Char) : List Char :=
  (((s.dropWhile isBlank).reverse.dropWhile isBlank).reverse).filter fun c => !isLineSpace c

/-- Whether a scheme may go on with a character. -/
def isSchemeChar (c : Char) : Bool := c.isAlphanum || c = '+' || c = '-' || c = '.'

/-- The scheme, in lower case, and what follows its colon. -/
def splitScheme (s : List Char) : Option (String × List Char) :=
  match s with
  | [] => none
  | c :: _ =>
    if c.isAlpha then
      match s.dropWhile isSchemeChar with
      | ':' :: rest => some (String.ofList ((s.takeWhile isSchemeChar).map Char.toLower), rest)
      | _ => none
    else none

/-- Whether `c` ends the authority. -/
def endsAuthority (special : Bool) (c : Char) : Bool :=
  c = '/' || c = '?' || c = '#' || (special && c = '\\')

/-- What stands before and after the last `@`, if there is one. -/
def splitUserinfo (authority : List Char) : Option (List Char × List Char) :=
  let rest := (authority.reverse.takeWhile (· ≠ '@')).reverse
  if rest.length < authority.length then
    some (authority.take (authority.length - rest.length - 1), rest)
  else none

/-- The host, up to a colon outside of brackets, and what follows. -/
def splitHost (inBrackets : Bool) : List Char → List Char × List Char
  | [] => ([], [])
  | c :: rest =>
    if c = ':' ∧ !inBrackets then ([], c :: rest)
    else
      let inside := if c = '[' then true else if c = ']' then false else inBrackets
      let (host, after) := splitHost inside rest
      (c :: host, after)

/-- The number of a port; more than sixteen bits are an error, no digits no port. -/
def parsePort (digits : List Char) : Except Fault (Option UInt16) :=
  match digits with
  | [] => .ok none
  | digits =>
    if digits.all Char.isDigit then
      match number? 10 digits with
      | some n => if n < 65536 then .ok (some n.toUInt16) else .error .port
      | none => .error .port
    else .error .port

/-- The authority of a URL: user, password, host and port. -/
def parseAuthority (scheme : String) (authority : List Char) : Except Fault Url := do
  let special := isSpecial scheme
  let (userinfo, rest) := (splitUserinfo authority).getD ([], authority)
  let username := userinfo.takeWhile (· ≠ ':')
  let password := (userinfo.dropWhile (· ≠ ':')).drop 1
  let (hostText, portText) := splitHost false rest
  if hostText.isEmpty ∧ (special ∨ !userinfo.isEmpty ∨ !portText.isEmpty) then throw .emptyHost
  let host ← if special then Host.parse hostText else Host.parseOpaque hostText
  let port ← parsePort (portText.drop 1)
  return {
    scheme
    username := String.ofList (Percent.encode Percent.inUserinfo username)
    password := if password.isEmpty then none
      else some (String.ofList (Percent.encode Percent.inUserinfo password))
    host := some host
    port := if port = defaultPort scheme then none else port }

/-- The parts of a path between its slashes. -/
def splitSegments (special : Bool) : List Char → List (List Char)
  | [] => [[]]
  | c :: rest =>
    if c = '/' || (special && c = '\\') then [] :: splitSegments special rest
    else match splitSegments special rest with
      | [] => [[c]]
      | segment :: segments => (c :: segment) :: segments

/-- A segment with its encoded dots written out. -/
def writtenDots : List Char → List Char
  | '%' :: '2' :: 'e' :: rest | '%' :: '2' :: 'E' :: rest => '.' :: writtenDots rest
  | c :: rest => c :: writtenDots rest
  | [] => []

/-- Whether a segment stands for the place where it is. -/
def isSingleDot (segment : List Char) : Bool := writtenDots segment = ['.']

/-- Whether a segment takes back the one before. -/
def isDoubleDot (segment : List Char) : Bool := writtenDots segment = ['.', '.']

/-- A letter and a colon, which name a disk and are never taken back. -/
def isDrive (segment : List Char) : Bool :=
  match segment with
  | [letter, mark] => letter.isAlpha && (mark = ':' || mark = '|')
  | _ => false

/-- Takes back the last segment, of those kept last first. -/
def dropSegment : List (List Char) → List (List Char)
  | [] => []
  | segment :: kept => if isDrive segment then segment :: kept else kept

/-- Resolves dot segments; `kept` holds the segments so far, last first. -/
def resolveSegments (kept : List (List Char)) : List (List Char) → List (List Char)
  | [] => kept.reverse
  | segment :: rest =>
    if isDoubleDot segment then
      resolveSegments (if rest.isEmpty then [] :: dropSegment kept else dropSegment kept) rest
    else if isSingleDot segment then
      resolveSegments (if rest.isEmpty then [] :: kept else kept) rest
    else
      resolveSegments (Percent.encode Percent.inPath segment :: kept) rest

def joinSegments (segments : List (List Char)) : String :=
  String.ofList (segments.flatMap fun segment => '/' :: segment)

/-- Reads a path behind its first slash. -/
def parseSegments (special : Bool) (s : List Char) : String :=
  joinSegments (resolveSegments [] (splitSegments special s))

/-- Adds the query and the fragment, which `rest` starts with. -/
def withQueryAndFragment (u : Url) (rest : List Char) : Url :=
  let queryChars := if isSpecial u.scheme then Percent.inSpecialQuery else Percent.inQuery
  let fragment (s : List Char) := String.ofList (Percent.encode Percent.inFragment s)
  match rest with
  | '?' :: rest =>
    let query := String.ofList (Percent.encode queryChars (rest.takeWhile (· ≠ '#')))
    match rest.dropWhile (· ≠ '#') with
    | [] => { u with query := some query }
    | _ :: rest => { u with query := some query, fragment := some (fragment rest) }
  | '#' :: rest => { u with fragment := some (fragment rest) }
  | _ => u

/-- Whether `c` ends the path. -/
def endsPath (c : Char) : Bool := c = '?' || c = '#'

/-- Reads what follows the authority. -/
def parseRest (u : Url) (s : List Char) : Url :=
  let special := isSpecial u.scheme
  let pathText := s.takeWhile fun c => !endsPath c
  let rest := s.dropWhile fun c => !endsPath c
  let path := match pathText with
    | [] => if special then "/" else ""
    | c :: segments =>
      if c = '/' || (special && c = '\\') then parseSegments special segments
      else parseSegments special pathText
  withQueryAndFragment { u with path } rest

/-- Reads a URL behind the two slashes that announce an authority. -/
def parseHierarchical (scheme : String) (s : List Char) : Except Fault Url := do
  let ends := endsAuthority (isSpecial scheme)
  let u ← parseAuthority scheme (s.takeWhile fun c => !ends c)
  return parseRest u (s.dropWhile fun c => !ends c)

/-- Reads a URL whose path has no authority before it. -/
def parseOpaque (scheme : String) (s : List Char) : Url :=
  let pathText := s.takeWhile fun c => !endsPath c
  let path := match pathText with
    | '/' :: segments => parseSegments false segments
    | _ => String.ofList (Percent.encode Percent.everywhere pathText)
  withQueryAndFragment { scheme, path } (s.dropWhile fun c => !endsPath c)

def parse (text : String) : Except Fault Url :=
  match splitScheme (tidy text.toList) with
  | none => .error .relative
  | some (scheme, rest) =>
    if isSpecial scheme then
      parseHierarchical scheme (rest.dropWhile fun c => c = '/' || c = '\\')
    else match rest with
      | '/' :: '/' :: rest => parseHierarchical scheme rest
      | rest => .ok (parseOpaque scheme rest)

end Url

end Readiness
