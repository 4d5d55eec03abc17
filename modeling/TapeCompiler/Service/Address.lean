import TapeCompiler.Service.HostName
import TapeCompiler.Text.IntegerLiteral
import TapeCompiler.Text.Numeral
import TapeCompiler.Text.Quoted

/-!
# Addresses of requests

A request is sent to an address: a scheme, an authority, a path, a query and a fragment, each of
which may be missing. An address with a scheme and a host stands for itself; of any other, the path
is taken as one from the root of the service. Single dots in a path are dropped, and two dots lead
out of the part in front of them. Only then are the escapes of the path read, once on the way to the
service and once more in it. Which host is meant, the query and the fragment do not matter.

## Main definitions

* `Address` — the parts of an address
* `Address.ofText` — takes an address apart
* `Address.path` — the path that the service gets to see
-/

namespace TapeCompiler.Service

/-- Why no request can be sent to an address. -/
inductive Address.Fault where
  /-- The address is too long. -/
  | tooLong
  /-- There is a control character at an offset. -/
  | controlCharacter (c : Char) (offset : Nat)
  /-- What stands behind the colon of a host is not a number. -/
  | socket (t : Text)
  /-- The host is written like an address of four numbers, but is none. -/
  | host (t : Text)
  /-- The host is written in brackets, but is no address of eight units. -/
  | bracketedHost (t : Text)
  /-- The host is no name that can be written in ASCII. -/
  | hostName (t : Text)
  /-- The path begins with two slashes, without a scheme or an authority. -/
  | twoSlashes
  /-- The path begins with a colon, without a scheme or an authority. -/
  | colon
  /-- Requests are not sent under this scheme. -/
  | scheme (t : Text)
  /-- The scheme asks for a lasting connection. -/
  | connection
deriving DecidableEq, Repr

/-- The wording of a fault, where there is one. -/
def Address.Fault.message? : Address.Fault → Option Text
  | tooLong => some "URL too long".toList
  | controlCharacter c offset =>
    some ("Invalid non-printable ASCII character in URL, ".toList ++ Quoted.ofText [c]
      ++ " at position ".toList ++ Numeral.ofNat offset ++ ['.'])
  | socket t => some ("Invalid port: ".toList ++ Quoted.ofText t)
  | host t => some ("Invalid IPv4 address: ".toList ++ Quoted.ofText t)
  | bracketedHost t => some ("Invalid IPv6 address: ".toList ++ Quoted.ofText t)
  | hostName t => some ("Invalid IDNA hostname: ".toList ++ Quoted.ofText t)
  | twoSlashes => some "Relative URLs cannot have a path starting with '//'".toList
  | colon => some "Relative URLs cannot have a path starting with ':'".toList
  | scheme t => some (Quoted.ofText t)
  | connection => none

/-- The parts of an address that matter. -/
structure Address where
  /-- The scheme, in small letters; empty if there is none. -/
  scheme : Text
  /-- The host; empty if there is none. -/
  host : Text
  /-- The number of the socket, if one is given other than that of the scheme. -/
  socket : Option Int
  /-- The path, without dots that lead from one part to another if there is a scheme or an
  authority. -/
  rawPath : Text
deriving DecidableEq

namespace Address

/-! ### Taking apart -/

/-- A text up to the first character with a property, and from there on. -/
def splitAt (p : Char → Bool) (t : Text) : Text × Text :=
  (t.takeWhile fun c => !p c, t.dropWhile fun c => !p c)

/-- The scheme at the beginning of a text, and what follows its colon. The scheme may be empty. -/
def splitScheme (t : Text) : Text × Text :=
  let scheme :=
    if (t.head?.map Char.isAlpha).getD false then
      t.takeWhile fun c => c.isAlphanum || c = '+' || c = '.' || c = '-'
    else []
  match t.drop scheme.length with
  | ':' :: rest => (scheme, rest)
  | _ => ([], t)

/-- The authority at the beginning of a text, behind two slashes, and what follows it. -/
def splitAuthority : Text → Text × Text
  | '/' :: '/' :: rest => splitAt (fun c => c = '/' || c = '?' || c = '#') rest
  | t => ([], t)

/-- The user in an authority, up to the last at sign, and what follows. -/
def splitUser (t : Text) : Text × Text :=
  if '@' ∈ t then
    let host := (t.reverse.takeWhile (· ≠ '@')).reverse
    (t.take (t.length - host.length - 1), host)
  else ([], t)

/-- The host at the beginning of a text, and what follows it. A host in brackets goes to the last
closing one, any other to the first colon. -/
def splitHost (t : Text) : Text × Text :=
  if t.head? = some '[' ∧ ']' ∈ t then
    let behind := (t.reverse.takeWhile (· ≠ ']')).reverse
    (t.take (t.length - behind.length), behind)
  else splitAt (· = ':') t

/-- Whether a host is written like an address of four bytes: as four numerals with dots between
them. -/
def looksNumeric (t : Text) : Bool :=
  let parts := t.pieces (· = '.')
  parts.length = 4 && parts.all fun part => part ≠ [] && part.all Char.isDigit

/-- Whether a text is a numeral below 256 without leading zeros. -/
def isByte (t : Text) : Bool :=
  t ≠ [] && t.all Char.isDigit && t.length ≤ 3 && (t.length = 1 || t.head? ≠ some '0')
    && (IntegerLiteral.digits? DecimalDigit.asciiValue? t).getD 256 < 256

/-- Whether a host is an address of four bytes. -/
def isFourBytes (t : Text) : Bool :=
  let parts := t.pieces (· = '.')
  parts.length = 4 && parts.all isByte

/-- Whether a text is a hexadecimal numeral of at most four digits. -/
def isUnit (t : Text) : Bool :=
  t.length ≤ 4 && t.all fun c => (Numeral.hexDigit? c).isSome

/-- The parts of an address of eight units. The last two can be written as four bytes. -/
def unitParts (t : Text) : List Text :=
  let parts := t.pieces (· = ':')
  let last := parts.getLastD []
  if '.' ∈ last then parts.dropLast ++ (if isFourBytes last then [['0'], ['0']] else [last])
  else parts

/-- Whether a text is an address of eight units. One row of units that are zero can be left out
between two colons. A zone may follow behind a percent sign. -/
def isEightUnits (t : Text) : Bool :=
  let (units, zone) := splitAt (· = '%') t
  let parts := unitParts units
  let inner := parts.tail.dropLast
  let given := parts.filter (· ≠ [])
  (zone = [] || (1 < zone.length && '%' ∉ zone.tail)) && given.all isUnit &&
    match inner.count [] with
    | 0 => parts.length = 8 && given.length = 8
    | 1 =>
      given.length < 8 && (parts.head? ≠ some [] || inner.head? = some [])
        && (parts.getLast? ≠ some [] || inner.getLast? = some [])
    | _ => false

/-- The host, if it can be one. -/
def checkHost (t : Text) : Except Fault Text :=
  if looksNumeric t then if isFourBytes t then .ok t else .error (.host t)
  else if t.head? = some '[' ∧ t.getLast? = some ']' then
    if isEightUnits t.tail.dropLast then .ok t else .error (.bracketedHost t)
  else if t.all (·.toNat < 128) || HostName.isValid t then .ok t
  else .error (.hostName t)

/-- The number of the socket that goes without saying under a scheme. -/
def standardSocket? (scheme : Text) : Option Int :=
  if scheme = "http".toList ∨ scheme = "ws".toList then some 80
  else if scheme = "https".toList ∨ scheme = "wss".toList then some 443
  else if scheme = "ftp".toList then some 21
  else none

/-- The number of the socket that a text names, if it is not the one that goes without saying. -/
def readSocket (scheme t : Text) : Except Fault (Option Int) :=
  if t = [] then .ok none
  else
    match IntegerLiteral.read? t with
    | some n => .ok (if some n = standardSocket? scheme then none else some n)
    | none => .error (.socket t)

/-- Enters the next part of a path; the parts so far stand in reverse. Two dots leave the last part,
but not the root. -/
def enter (parts : List Text) (part : Text) : List Text :=
  if part = ['.'] then parts
  else if part = ['.', '.'] then if parts = [[]] then parts else parts.tail
  else part :: parts

/-- A path without dots that lead from one part to another. -/
def dropDots (path : Text) : Text :=
  let parts := path.pieces (· = '/')
  if parts.any fun part => part = ['.'] || part = ['.', '.'] then
    Text.join ['/'] (parts.foldl enter []).reverse
  else path

/-- Whether a character is one of the control characters of ASCII. -/
def isControl (c : Char) : Bool :=
  c < ' ' || c.toNat = 0x7F

/-- The greatest length of an address. -/
def maxLength : Nat := 65536

/-- Takes an address apart. -/
def ofText (t : Text) : Except Fault Address := do
  if maxLength < t.length then throw .tooLong
  match t.dropWhile fun c => !isControl c with
  | c :: rest => throw (.controlCharacter c (t.length - rest.length - 1))
  | [] =>
    let (scheme, rest) := splitScheme t
    let (authority, rest) := splitAuthority rest
    let path := rest.takeWhile fun c => c ≠ '?' && c ≠ '#'
    let (user, place) := splitUser authority
    let (host, behind) := splitHost place
    let host ← checkHost host
    let socket ← readSocket scheme (if behind.head? = some ':' then behind.tail else behind)
    let hasAuthority := user ≠ [] || host ≠ [] || socket.isSome
    if scheme = [] && !hasAuthority then
      if ['/', '/'].isPrefixOf path then throw .twoSlashes
      if path.head? = some ':' then throw .colon
    return {
      scheme := scheme.map Char.toLower
      host
      socket
      rawPath := if scheme ≠ [] || hasAuthority then dropDots path else path }

/-! ### Paths -/

/-- Whether an address stands for itself. -/
def isAbsolute (a : Address) : Bool :=
  a.scheme ≠ [] && a.host ≠ []

/-- Checks that a request can be sent to the host of an address that stands for itself. -/
def checkAuthority (a : Address) : Except Fault Unit := do
  if standardSocket? a.scheme = none ∨ a.scheme = "ftp".toList then throw (.scheme a.scheme)
  if a.scheme = "ws".toList ∨ a.scheme = "wss".toList then throw .connection

/-- The character for which an escape with two hexadecimal digits stands. Bytes beyond ASCII are not
told apart. -/
def escaped? (high low : Char) : Option Char := do
  let high ← Numeral.hexDigit? high
  let low ← Numeral.hexDigit? low
  return if high < 8 then Char.ofNat (16 * high + low) else '\ufffd'

/-- Reads the escapes in a path. A percent sign without two digits stands for itself. -/
def unescape : Text → Text
  | '%' :: a :: b :: rest =>
    match escaped? a b with
    | some c => c :: unescape rest
    | none => '%' :: unescape (a :: b :: rest)
  | c :: rest => c :: unescape rest
  | [] => []

/-- The path of an address from the root, with its escapes. -/
def rootedPath (a : Address) : Text :=
  if a.isAbsolute then a.rawPath
  else dropDots ('/' :: a.rawPath.dropWhile (· = '/'))

/-- The path that the service gets to see, if the request can be sent. -/
def path (a : Address) : Except Fault Text := do
  if a.isAbsolute then a.checkAuthority
  let path := unescape (unescape a.rootedPath)
  return if path = [] then ['/'] else path

end Address

end TapeCompiler.Service
