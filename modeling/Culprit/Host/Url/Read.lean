import Culprit.Host.Domain.Name
import Culprit.Text.DecimalDigit
import Culprit.Host.Url.Address
import Culprit.Host.Url.Basic

/-!
# Reading URLs

A text is cut into the parts of a URL at the marks between them, and the parts are brought into
their usual form: the scheme and the host in small letters, the host in ASCII, no port where it is
the usual one, no steps back in the path, and escapes where a part needs them. A text that cannot
be used is reported with its cause.
-/

namespace Culprit.Url

inductive ReadError
  | tooLong
  | longPart (name : String)
  | unprintable (c : Char) (index : Nat)
  | badPort (port : Text)
  | badShortAddress (host : Text)
  | badLongAddress (host : Text)
  | badName (host : Text)
  | leadingSlashes
  | leadingColon
  deriving DecidableEq, Repr

def ReadError.message : ReadError → String
  | .tooLong => "URL too long"
  | .longPart name => "URL component '" ++ name ++ "' too long"
  | .unprintable c index =>
    "Invalid non-printable ASCII character in URL, " ++ String.ofList (Text.quote [c])
      ++ " at position " ++ toString index ++ "."
  | .badPort port => "Invalid port: " ++ String.ofList (Text.quote port)
  | .badShortAddress host => "Invalid IPv4 address: " ++ String.ofList (Text.quote host)
  | .badLongAddress host => "Invalid IPv6 address: " ++ String.ofList (Text.quote host)
  | .badName host => "Invalid IDNA hostname: " ++ String.ofList (Text.quote host)
  | .leadingSlashes => "Relative URLs cannot have a path starting with '//'"
  | .leadingColon => "Relative URLs cannot have a path starting with ':'"

def lengthLimit : Nat := 65536

/-! ### Cutting a text into parts -/

/-- The text in front of a mark and the text behind it; the text behind is missing if the mark
is. -/
def cutAt (mark : Char) (text : Text) : Text × Option Text :=
  let front := text.takeWhile (· != mark)
  (front, (text.drop front.length).tail?)

def cutAtLast (mark : Char) (text : Text) : Option Text × Text :=
  let (back, front) := cutAt mark text.reverse
  (front.map List.reverse, back.reverse)

/-- The scheme that a text starts with, up to a colon, and the rest. A colon in front counts as an
empty scheme. -/
def cutScheme (text : Text) : Text × Text :=
  let isSchemeChar (c : Char) : Bool := c.isAlphanum || c == '+' || c == '.' || c == '-'
  let scheme := match text with
    | c :: _ => if c.isAlpha then text.takeWhile isSchemeChar else []
    | [] => []
  match text.drop scheme.length with
  | ':' :: rest => (scheme, rest)
  | _ => ([], text)

/-- The host at the front of a text and the rest. An address in brackets may hold colons. -/
def cutHost (text : Text) : Text × Text :=
  match text, cutAtLast ']' text with
  | '[' :: _, (some address, rest) => (address ++ [']'], rest)
  | _, _ =>
    let host := text.takeWhile fun c => c != ':' && c != '@'
    (host, text.drop host.length)

structure Pieces where
  scheme : Text
  userinfo : Text
  host : Text
  port : Text
  path : Text
  query : Option Text
  fragment : Option Text
  deriving Repr

def Pieces.ofText (text : Text) : Pieces :=
  let (front, fragment) := cutAt '#' text
  let (front, query) := cutAt '?' front
  let (scheme, behind) := cutScheme front
  let (authority, path) := match behind with
    | '/' :: '/' :: rest =>
      let authority := rest.takeWhile (· != '/')
      (authority, rest.drop authority.length)
    | _ => ([], behind)
  let (userinfo, server) := cutAtLast '@' authority
  let (host, behindHost) := cutHost server
  let port := match behindHost with
    | ':' :: rest => rest
    | _ => behindHost
  { scheme, userinfo := userinfo.getD [], host, port, path, query, fragment }

/-! ### The usual form of the parts -/

/-- The number that digits write, with single underscores between them. `last` is the value of the
digits before, if the character before is a digit. -/
def decimalNumber? (last : Option Nat) (value : Nat) : Text → Option Nat
  | [] => last
  | c :: rest =>
    match Text.decimalValue? c with
    | some digit => decimalNumber? (some (value * 10 + digit)) (value * 10 + digit) rest
    | none => if c == '_' && last.isSome then decimalNumber? none value rest else none

def portDigitLimit : Nat := 4300

def portNumber? (text : Text) : Option Int :=
  let (isNegative, digits) := match Text.trim text with
    | '-' :: rest => (true, rest)
    | '+' :: rest => (false, rest)
    | digits => (false, digits)
  if portDigitLimit < (digits.filter (· != '_')).length then none
  else
    (decimalNumber? none 0 digits).map fun value =>
      if isNegative then -(value : Int) else (value : Int)

def usualPort? (scheme : Text) : Option Int :=
  match String.ofList scheme with
  | "ftp" => some 21
  | "http" => some 80
  | "https" => some 443
  | "ws" => some 80
  | "wss" => some 443
  | _ => none

def readPort (scheme port : Text) : Except ReadError (Option Int) :=
  if port.isEmpty then .ok none
  else
    match portNumber? port with
    | none => .error (.badPort port)
    | some number => .ok (if usualPort? scheme = some number then none else some number)

def readHost (host : Text) : Except ReadError Text :=
  if shortAddressShape.accepts host then
    if isShortAddress host then .ok host else .error (.badShortAddress host)
  else if host.head? == some '[' && host.getLast? == some ']' then
    let address := (host.drop 1).dropLast
    if isLongAddress address then .ok address else .error (.badLongAddress host)
  else if host.all fun c => c.toNat < 0x80 then .ok (escape .host (host.map Char.toLower))
  else (Domain.asciiName (Text.toSmall host)).mapError fun _ => .badName host

def straightSteps (done : List Text) : List Text → List Text
  | [] => done.reverse
  | step :: rest =>
    if step == ['.'] then straightSteps done rest
    else if step == ['.', '.'] then
      straightSteps (if done == [[]] then done else done.drop 1) rest
    else straightSteps (step :: done) rest

def straightPath (path : Text) : Text :=
  List.intercalate ['/'] (straightSteps [] (splitAt '/' path))

def isControl (c : Char) : Bool := c.toNat < 0x20 || c.toNat == 0x7F

def checkText (text : Text) : Except ReadError Unit :=
  if lengthLimit < text.length then .error .tooLong
  else
    match text.findIdx? isControl with
    | none => .ok ()
    | some index => .error (.unprintable (text.getD index ' ') index)

def read (text : Text) : Except ReadError Url := do
  checkText text
  let pieces := Pieces.ofText text
  let host ← readHost pieces.host
  let port ← readPort pieces.scheme pieces.port
  let userinfo := escape .userinfo pieces.userinfo
  let isAnchored :=
    !(pieces.scheme.isEmpty && userinfo.isEmpty && host.isEmpty && port.isNone)
  if !isAnchored && ['/', '/'].isPrefixOf pieces.path then throw .leadingSlashes
  if !isAnchored && pieces.path.head? == some ':' then throw .leadingColon
  return {
    scheme := pieces.scheme.map Char.toLower
    userinfo
    host
    port
    path := escape .path (if isAnchored then straightPath pieces.path else pieces.path)
    query := pieces.query.map (escape .query)
    fragment := pieces.fragment.map (escape .fragment) }

/-- The URL that a request for a URL goes to: the URL itself if it is absolute, otherwise what it
asks for. -/
def requested (url : Url) : Except ReadError Url :=
  if url.isAbsolute then .ok url
  else
    let (path, query) := cutAt '?' ('/' :: url.target.dropWhile (· == '/'))
    if lengthLimit < path.length then .error (.longPart "path")
    else if query.any fun query => lengthLimit < query.length then .error (.longPart "query")
    else .ok ⟨[], [], [], none, path, query, none⟩

end Culprit.Url
