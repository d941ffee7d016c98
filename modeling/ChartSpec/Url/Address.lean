import ChartSpec.Text.HexDigit
import ChartSpec.Url.Error

/-!
# Numeric hosts

Hosts that are IPv4 addresses, in one to four numbers, each decimal, octal or hexadecimal, and
hosts that are IPv6 addresses between brackets.
-/

namespace ChartSpec

namespace Url

/-- The parts of a text between separators. -/
def splitAt (separator : Char) : List Char → List (List Char)
  | [] => [[]]
  | c :: rest =>
    match splitAt separator rest with
    | [] => [[c]]
    | part :: more => if c = separator then [] :: part :: more else (c :: part) :: more

/-- A number in a base; nothing when a digit does not fit. -/
def numberIn? (base : Nat) (s : List Char) : Option Nat :=
  s.foldlM (fun n c => do
    let d ← Text.hexDigit? c
    if d < base then some (base * n + d) else none) 0

/-- A number of an IPv4 address, as written in one of three bases. -/
def ipv4Number? : List Char → Option Nat
  | [] => none
  | '0' :: 'x' :: s => numberIn? 16 s
  | '0' :: 'X' :: s => numberIn? 16 s
  | '0' :: c :: s => numberIn? 8 (c :: s)
  | s => numberIn? 10 s

/-- The parts of a host without an empty last one, if others stand before it. -/
def hostParts (host : List Char) : List (List Char) :=
  let parts := splitAt '.' host
  if parts.getLast? = some [] ∧ 1 < parts.length then parts.dropLast else parts

/-- Whether a host must be an IPv4 address: its last part is a number. -/
def endsInNumber (host : List Char) : Bool :=
  match (hostParts host).getLast? with
  | none => false
  | some last => (!last.isEmpty && last.all Char.isDigit) || (ipv4Number? last).isSome

/-- Checks an IPv4 address.  The last number fills the bytes that the others leave. -/
def checkIpv4 (host : List Char) : Except UrlError Unit :=
  let parts := hostParts host
  match parts.mapM ipv4Number? with
  | none => .error .invalidIpv4
  | some numbers =>
    let last := numbers.getLast?.getD 0
    let room := Nat.pow 256 (5 - numbers.length)
    if numbers.length ≤ 4 ∧ numbers.dropLast.all (· ≤ 255) ∧ last < room then .ok ()
    else .error .invalidIpv4

/-- A decimal byte without a leading zero. -/
def isByte (s : List Char) : Bool :=
  match s with
  | [] => false
  | ['0'] => true
  | '0' :: _ => false
  | s => s.length ≤ 3 && s.all Char.isDigit && (numberIn? 10 s).any (· ≤ 255)

/-- Whether a text is four decimal bytes. -/
def isByteQuad (s : List Char) : Bool :=
  let parts := splitAt '.' s
  parts.length == 4 && parts.all isByte

/-- Whether a text is one to four hexadecimal digits. -/
def isPiece (s : List Char) : Bool :=
  !s.isEmpty && decide (s.length ≤ 4) && s.all fun c => (Text.hexDigit? c).isSome

/-- How many of the eight pieces of an address a sequence of written pieces fills.  Four decimal
bytes may stand for the last two. -/
def pieceCount? (closing : Bool) : List (List Char) → Option Nat
  | [] => some 0
  | [s] =>
    if isPiece s then some 1 else if closing && isByteQuad s then some 2 else none
  | s :: rest => do
    if isPiece s then return 1 + (← pieceCount? closing rest) else none

/-- The texts before and after the first double colon. -/
def splitGap : List Char → Option (List Char × List Char)
  | ':' :: ':' :: rest => some ([], rest)
  | [] => none
  | c :: rest => (splitGap rest).map fun (before, after) => (c :: before, after)

/-- The pieces between single colons; none in an empty text. -/
def pieces (s : List Char) : List (List Char) := if s.isEmpty then [] else splitAt ':' s

/-- Checks an IPv6 address.  A double colon stands for at least one piece. -/
def checkIpv6 (s : List Char) : Except UrlError Unit :=
  let valid :=
    match splitGap s with
    | none => pieceCount? true (pieces s) == some 8
    | some (before, after) =>
      match pieceCount? false (pieces before), pieceCount? true (pieces after) with
      | some n, some m => decide (n + m < 8)
      | _, _ => false
  if valid then .ok () else .error .invalidIpv6

end Url

end ChartSpec
