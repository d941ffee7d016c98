import ChartSpec.Url.Address
import ChartSpec.Url.Domain

/-!
# URLs

Only the authority of a URL can be wrong: user information without a host behind it, a host that
is no domain and no address, or a port that is no number below 65536.  A text without a scheme
is a reference and is read relative to the root of the file system.
-/

namespace ChartSpec

namespace Url

/-- What a URL's scheme says about its authority. -/
inductive SchemeKind where
  | file
  /-- A scheme whose URLs must have a host. -/
  | web
  | other
  deriving DecidableEq

def SchemeKind.ofName (scheme : List Char) : SchemeKind :=
  match String.ofList scheme with
  | "file" => file
  | "http" => web
  | "https" => web
  | "ws" => web
  | "wss" => web
  | "ftp" => web
  | _ => other

def isSlash (c : Char) : Bool := c == '/' || c == '\\'

/-- The text without surrounding controls and spaces, and without any tab or line break. -/
def clean (s : List Char) : List Char :=
  let trim (s : List Char) : List Char := s.dropWhile fun c => c.toNat ≤ 32
  ((trim (trim s).reverse).reverse).filter fun c => c != '\t' && c != '\n' && c != '\r'

/-- The scheme in lower case and what follows its colon. -/
def scheme? (s : List Char) : Option (List Char × List Char) :=
  let isSchemeChar (c : Char) : Bool := c.isAlphanum || c == '+' || c == '-' || c == '.'
  match s.head?.any Char.isAlpha, s.dropWhile isSchemeChar with
  | true, ':' :: rest => some ((s.takeWhile isSchemeChar).map Char.toLower, rest)
  | _, _ => none

/-- Whether a character ends the authority. -/
def endsAuthority (kind : SchemeKind) (c : Char) : Bool :=
  c == '/' || c == '?' || c == '#' || (c == '\\' && kind != .other)

/-- The characters before the last at sign, and those behind it. -/
def splitUser (s : List Char) : Option (List Char × List Char) :=
  match s.reverse.dropWhile (· != '@') with
  | [] => none
  | _ :: before => some (before.reverse, (s.reverse.takeWhile (· != '@')).reverse)

/-- The host at the front, and the rest.  A colon between brackets belongs to the host. -/
def spanHost (kind : SchemeKind) : Bool → List Char → List Char × List Char
  | _, [] => ([], [])
  | bracketed, c :: rest =>
    if (c == ':' && !bracketed) || endsAuthority kind c then ([], c :: rest)
    else
      let (host, tail) := spanHost kind (c == '[' || (bracketed && c != ']')) rest
      (c :: host, tail)

/-- Replaces percent signs with two hexadecimal digits by the bytes that they stand for. -/
def percentDecode : List Char → List UInt8
  | [] => []
  | '%' :: a :: b :: rest =>
    match Text.hexDigit? a, Text.hexDigit? b with
    | some x, some y => UInt8.ofNat (16 * x + y) :: percentDecode rest
    | _, _ => '%'.toUInt8 :: percentDecode (a :: b :: rest)
  | c :: rest => (String.singleton c).toUTF8.toList ++ percentDecode rest

/-- Checks an address between brackets. -/
def checkBracketed (host : List Char) : Except UrlError Unit :=
  if host.getLast? = some ']' then checkIpv6 (host.drop 1).dropLast else .error .invalidIpv6

/-- Checks a host of a scheme that knows domains. -/
def checkHost (host : List Char) : Except UrlError Unit :=
  if host.head? = some '[' then checkBracketed host
  else
    let bytes := ByteArray.mk (percentDecode host).toArray
    match (String.fromUTF8? bytes).bind fun s => domain? s.toList with
    | none => .error .invalidDomain
    | some [] => .error .emptyHost
    | some domain => if endsInNumber domain then checkIpv4 domain else .ok ()

/-- Checks a host of any other scheme. -/
def checkOpaqueHost (host : List Char) : Except UrlError Unit :=
  if host.head? = some '[' then checkBracketed host
  else if host.any fun c => "\x00\t\n\r #/:<>?@[\\]^|".toList.contains c then
    .error .invalidHostCharacter
  else .ok ()

/-- Checks the port at the front. -/
def checkPort : Nat → List Char → Except UrlError Unit
  | _, [] => .ok ()
  | port, c :: rest =>
    if c.isDigit then
      let port := 10 * port + (c.toNat - '0'.toNat)
      if port ≤ 65535 then checkPort port rest else .error .invalidPort
    else if isSlash c || c == '?' || c == '#' then .ok ()
    else .error .invalidPort

/-- Checks host and port.  `named` tells whether a user stands before the host.  A host may be
empty only where neither a user nor a port stands beside it. -/
def checkHostAndPort (kind : SchemeKind) (named : Bool) (s : List Char) : Except UrlError Unit := do
  let (host, rest) := spanHost kind false s
  if host.isEmpty && (kind = .web || named || rest.head? = some ':') then throw .emptyHost
  if kind = .other then checkOpaqueHost host else checkHost host
  match rest with
  | ':' :: port => checkPort 0 port
  | _ => return

/-- Checks what follows the two slashes. -/
def checkAuthority (kind : SchemeKind) (s : List Char) : Except UrlError Unit :=
  let authority := s.takeWhile fun c => !endsAuthority kind c
  let path := s.dropWhile fun c => !endsAuthority kind c
  match splitUser authority with
  | none => checkHostAndPort kind false s
  | some (user, host) =>
    if user.isEmpty && host.isEmpty && !path.isEmpty then .error .emptyHost
    else checkHostAndPort kind (!user.isEmpty && user != [':']) (host ++ path)

/-- Whether a text is the letter of a drive and its colon. -/
def isDrive : List Char → Bool
  | [letter, colon] => letter.isAlpha && (colon == ':' || colon == '|')
  | _ => false

/-- Checks a file URL behind its scheme, or a reference to a file. -/
def checkFile : List Char → Except UrlError Unit
  | a :: b :: rest =>
    if isSlash a && isSlash b then
      let host := rest.takeWhile fun c => !endsAuthority .file c
      if host.isEmpty || isDrive host then .ok () else checkHost host
    else .ok ()
  | _ => .ok ()

/-- Checks a URL behind its scheme. -/
def checkBehindScheme (scheme rest : List Char) : Except UrlError Unit :=
  match SchemeKind.ofName scheme, rest with
  | .file, rest => checkFile rest
  | .web, rest => checkAuthority .web (rest.dropWhile isSlash)
  | .other, '/' :: '/' :: rest => checkAuthority .other rest
  | .other, _ => .ok ()

/-- Checks a URL that must have a scheme. -/
def checkAbsolute (url : String) : Except UrlError Unit :=
  match scheme? (clean url.toList) with
  | some (scheme, rest) => checkBehindScheme scheme rest
  | none => .error .relativeWithoutBase

/-- Checks a URL or a reference. -/
def check (url : String) : Except UrlError Unit :=
  match scheme? (clean url.toList) with
  | some (scheme, rest) => checkBehindScheme scheme rest
  | none => checkFile (clean url.toList)

end Url

end ChartSpec
