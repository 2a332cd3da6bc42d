import DynamicForm.Number.Literal
import DynamicForm.Text.Encoding
import DynamicForm.Text.Letters
import DynamicForm.Text.Quoted
import DynamicForm.Web.Host

/-!
# Web addresses

An address has a scheme, an authority, a path, a query and a fragment. Reading one percent-encodes
what may not stand in its parts; escapes that are there already are kept. The path of an address
with a scheme or an authority is freed of segments of dots.

- `Url.read` reads an address, `Url.text` writes one.
- `Url.join` puts a relative address behind a base address. It may fail, since the parts of the base
  are read once more.
- `Url.target` is what a request asks for: the path and the query.
-/

namespace DynamicForm

/-- An address. The parts are in their plain form. -/
structure Url where
  scheme : String := ""
  authority : String := ""
  path : String := ""
  query : Option String := none
  fragment : Option String := none
deriving DecidableEq, Repr

/-- Why a text is no address. -/
inductive UrlError where
  | tooLong
  /-- A control character, and where it stands. -/
  | controlCharacter (c : Char) (position : Nat)
  | port (s : String)
  /-- A host that is not what it looks like. -/
  | host (kind : Host.Kind) (s : String)
  /-- A path that may not stand alone, by what it begins with. -/
  | relativePath (start : String)
  | partTooLong (name : String)
deriving DecidableEq, Repr

namespace UrlError

/-- What a host looks like. -/
def hostName : Host.Kind → String
  | .fourBytes => "IPv4 address"
  | .eightGroups => "IPv6 address"
  | .plainName => "hostname"
  | .domain => "IDNA hostname"

def message : UrlError → String
  | tooLong => "URL too long"
  | controlCharacter c position =>
    "Invalid non-printable ASCII character in URL, " ++ Text.quoted (String.ofList [c]) ++
      " at position " ++ toString position ++ "."
  | port s => "Invalid port: " ++ Text.quoted s
  | host kind s => "Invalid " ++ hostName kind ++ ": " ++ Text.quoted s
  | relativePath start => "Relative URLs cannot have a path starting with '" ++ start ++ "'"
  | partTooLong name => "URL component '" ++ name ++ "' too long"

end UrlError

namespace Url

open Text (cutAt)

/-! ## Percent-encoding -/

/-- A hexadecimal digit in upper case. -/
def hexDigit (n : Nat) : Char := if n < 10 then Char.ofNat (48 + n) else Char.ofNat (55 + n)

/-- A byte as an escape. -/
def escapeByte (b : UInt8) : List Char := ['%', hexDigit (b.toNat / 16), hexDigit (b.toNat % 16)]

/-- A character as escapes of its bytes. -/
def escapeChar (c : Char) : List Char := (String.utf8EncodeChar c).flatMap escapeByte

/-- Escapes the characters that are not safe. A percent sign is always safe, so escapes that are
there are kept. -/
def escape (safe : Char → Bool) (cs : List Char) : List Char :=
  cs.flatMap fun c => if safe c then [c] else escapeChar c

/-- The characters of ASCII that can be seen, apart from some. -/
def visibleExcept (without : String) (c : Char) : Bool :=
  decide (0x20 < c.toNat ∧ c.toNat < 0x7f) && !without.toList.contains c

def isPathSafe : Char → Bool := visibleExcept "\"#<>?\x60\x7b\x7d"

def isQuerySafe : Char → Bool := visibleExcept "\"#<>"

def isFragmentSafe : Char → Bool := visibleExcept "\"<>\x60"

def isUserSafe : Char → Bool := visibleExcept "\"#<>?\x60\x7b\x7d/;=@[\\]^|"

def isHostSafe : Char → Bool := visibleExcept "#/:<>?@[]^"

/-- Takes escapes back. -/
def unescapeBytes : List Char → List UInt8
  | '%' :: a :: b :: rest =>
    match Text.hexValue? a, Text.hexValue? b with
    | some m, some n => UInt8.ofNat (m * 16 + n) :: unescapeBytes rest
    | _, _ => String.utf8EncodeChar '%' ++ unescapeBytes (a :: b :: rest)
  | c :: rest => String.utf8EncodeChar c ++ unescapeBytes rest
  | [] => []

/-- The text that an escaped text stands for. -/
def unescape (s : String) : String := String.ofList (Text.decodeLeniently (unescapeBytes s.toList))

/-! ## Parts -/

/-- The parts of a text between slashes. -/
def segments (cs : List Char) : List (List Char) := Text.parts (· == '/') cs

/-- Drops a segment of one dot, and with a segment of two dots the one before it. The segments that
are kept are in reverse. -/
def resolveDots : List (List Char) → List (List Char) → List (List Char)
  | kept, [] => kept.reverse
  | kept, ['.'] :: rest => resolveDots kept rest
  | kept, ['.', '.'] :: rest =>
    resolveDots (if kept = [] ∨ kept = [[]] then kept else kept.tail) rest
  | kept, part :: rest => resolveDots (part :: kept) rest

/-- A path without segments of dots. -/
def plainPath (cs : List Char) : List Char := (['/'].intercalate (resolveDots [] (segments cs)))

/-- A character of a scheme. -/
def isSchemeChar (c : Char) : Bool :=
  Text.isAsciiLetter c || Text.isAsciiDigit c || "+.-".toList.contains c

/-- Splits off a scheme. It may be empty in front of a colon. -/
def splitScheme (cs : List Char) : List Char × List Char :=
  match cutAt (fun c => !isSchemeChar c) cs with
  | (scheme, some rest) =>
    if (scheme.head?.all Text.isAsciiLetter) && cs[scheme.length]? = some ':' then (scheme, rest)
    else ([], cs)
  | (_, none) => ([], cs)

/-- Splits off an authority: what stands between two slashes and the path. -/
def splitAuthority : List Char → List Char × List Char
  | '/' :: '/' :: rest =>
    (rest.takeWhile fun c => !"/?#".toList.contains c,
      rest.dropWhile fun c => !"/?#".toList.contains c)
  | cs => ([], cs)

/-- The port that a scheme implies. -/
def impliedPort (scheme : List Char) : Option Int :=
  match String.ofList scheme with
  | "http" => some 80
  | "https" => some 443
  | "ws" => some 80
  | "wss" => some 443
  | "ftp" => some 21
  | _ => none

/-- Splits off the user: what stands before the last at sign. -/
def splitUser (cs : List Char) : List Char × List Char :=
  let rest := (cs.reverse.takeWhile (· != '@')).reverse
  ((cs.take (cs.length - rest.length)).dropLast, rest)

/-- Splits off the host: what stands between brackets, or before a colon. -/
def splitHost (cs : List Char) : List Char × List Char :=
  if cs.head? = some '[' ∧ cs.contains ']' then
    let after := (cs.reverse.takeWhile (· != ']')).reverse
    (cs.take (cs.length - after.length), after)
  else cs.span (· != ':')

/-- The port that is written after a host, unless the scheme implies it. -/
def plainPort (scheme cs : List Char) : Except UrlError (List Char) :=
  let digits := if cs.head? = some ':' then cs.tail else cs
  if digits.isEmpty then .ok []
  else match readInteger (String.ofList digits) with
    | some n => .ok (if impliedPort scheme = some n then [] else ':' :: (toString n).toList)
    | none => .error (.port (String.ofList digits))

/-- An authority in its plain form: the user is escaped, the host is in its plain form and escaped,
and a port that the scheme implies is left out. -/
def plainAuthority (scheme cs : List Char) : Except UrlError (List Char) := do
  let (user, cs) := splitUser cs
  let (host, rest) := splitHost cs
  let name ← (Host.plain host).mapError fun kind => .host kind (String.ofList host)
  let name := if Host.kind host = .plainName then escape isHostSafe name else name
  let port ← plainPort scheme rest
  let user := if user.isEmpty then [] else escape isUserSafe user ++ ['@']
  return user ++ name ++ port

/-- Whether a character is a control character of ASCII. -/
def isControl (c : Char) : Bool := decide (c.toNat < 0x20 ∨ c.toNat = 0x7f)

/-- Refuses control characters. -/
def checkControls (cs : List Char) : Except UrlError Unit :=
  match cs.findIdx? isControl with
  | some i => .error (.controlCharacter (cs[i]?.getD ' ') i)
  | none => .ok ()

/-- The longest text that is read. -/
def maxLength : Nat := 65536

/-- Refuses a path that would be taken for something else. -/
def checkRelativePath : List Char → Except UrlError Unit
  | '/' :: '/' :: _ => .error (.relativePath "//")
  | ':' :: _ => .error (.relativePath ":")
  | _ => .ok ()

/-- An address of the given parts, each in its plain form. -/
def ofParts (scheme authority path : List Char) (query fragment : Option (List Char)) :
    Except UrlError Url := do
  let authority ← plainAuthority scheme authority
  let isRelative := scheme.isEmpty && authority.isEmpty
  if isRelative then checkRelativePath path
  let path := if isRelative then path else plainPath path
  return {
    scheme := String.ofList (scheme.map Char.toLower)
    authority := String.ofList authority
    path := String.ofList (escape isPathSafe path)
    query := query.map fun q => String.ofList (escape isQuerySafe q)
    fragment := fragment.map fun f => String.ofList (escape isFragmentSafe f) }

/-- Reads an address. -/
def read (s : String) : Except UrlError Url := do
  let cs := s.toList
  if maxLength < cs.length then throw .tooLong
  checkControls cs
  let (scheme, cs) := splitScheme cs
  let (authority, cs) := splitAuthority cs
  let (cs, fragment) := cutAt (· == '#') cs
  let (path, query) := cutAt (· == '?') cs
  ofParts scheme authority path query fragment

/-! ## Use -/

/-- An address as a text. -/
def text (u : Url) : String :=
  (if u.scheme = "" then "" else u.scheme ++ ":") ++
    (if u.authority = "" then "" else "//" ++ u.authority) ++ u.path ++
    (match u.query with
      | some q => "?" ++ q
      | none => "") ++
    (match u.fragment with
      | some f => "#" ++ f
      | none => "")

/-- The path and the query. -/
def target (u : Url) : String :=
  (if u.path = "" then "/" else u.path) ++
    match u.query with
    | some q => "?" ++ q
    | none => ""

/-- Refuses a part of an address that is too long. -/
def checkPart (name : String) (cs : List Char) : Except UrlError Unit :=
  if maxLength < cs.length then .error (.partTooLong name) else .ok ()

/-- The address with another path and query. Its other parts are read once more. -/
def withTarget (u : Url) (target : String) : Except UrlError Url := do
  let (path, query) := cutAt (· == '?') target.toList
  checkPart "authority" u.authority.toList
  checkPart "path" path
  checkPart "query" (query.getD [])
  checkPart "fragment" (u.fragment.getD "").toList
  ofParts u.scheme.toList u.authority.toList path query (u.fragment.map String.toList)

/-- A base address, to which relative ones can be joined: it ends in a slash. -/
def asBase (u : Url) : Except UrlError Url :=
  if u.target.toList.getLast? = some '/' then .ok u else u.withTarget (u.target ++ "/")

/-- Whether an address says where to ask. -/
def isAbsolute (u : Url) : Bool :=
  u.scheme != "" && !(splitHost (splitUser u.authority.toList).2).1.isEmpty

/-- Puts an address behind a base address, unless it is absolute. -/
def join (base u : Url) : Except UrlError Url :=
  if u.isAbsolute then .ok u
  else base.withTarget (base.target ++ String.ofList (u.target.toList.dropWhile (· == '/')))

/-- The host and the port. -/
def host (u : Url) : String := String.ofList (splitUser u.authority.toList).2

/-- The path as a text, with the escapes taken back. -/
def decodedPath (u : Url) : String := unescape (if u.path = "" then "/" else u.path)

/-- A text without slashes at its end. -/
def dropSlashes (s : String) : String :=
  String.ofList (s.toList.reverse.dropWhile (· == '/')).reverse

end Url

end DynamicForm
