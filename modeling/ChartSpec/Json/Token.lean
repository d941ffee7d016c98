import ChartSpec.Json.Numeral
import ChartSpec.Text.HexDigit

/-!
# JSON tokens

A text is cut into tokens one character at a time.  `Lexer.feed` takes a character in the state
that the characters before it have led to; an unfinished text, numeral or word is part of the
state.  A control character inside a text, half of a surrogate pair without its other half, a
malformed numeral and an unknown word have no next state.
-/

namespace ChartSpec

namespace Json

inductive Token where
  | openArray
  | closeArray
  | openObject
  | closeObject
  | comma
  | colon
  | text (s : String)
  | value (v : Json)

/-- What is being read.  Characters read so far stand in reverse order. -/
inductive Lexeme where
  | between
  | word (letters : List Char)
  | numeral (chars : List Char)
  | text (chars : List Char)
  /-- After a backslash. -/
  | escape (chars : List Char)
  /-- Inside four hexadecimal digits; a first half of a surrogate pair may stand before them. -/
  | unicode (chars : List Char) (half : Option Nat) (digits : Nat) (code : Nat)
  /-- After a first half of a surrogate pair: the backslash that must follow. -/
  | halfPair (chars : List Char) (half : Nat)
  /-- After that backslash. -/
  | halfPairEscape (chars : List Char) (half : Nat)

/-- The tokens read so far, the last one first, and the unfinished one. -/
structure Lexer where
  tokens : List Token
  lexeme : Lexeme

namespace Lexer

def start : Lexer := ⟨[], .between⟩

def push (l : Lexer) (t : Token) : Lexer := ⟨t :: l.tokens, .between⟩

def isBlank (c : Char) : Bool := c == ' ' || c == '\n' || c == '\t' || c == '\r'

def isNumeralChar (c : Char) : Bool :=
  c.isDigit || c == '-' || c == '+' || c == '.' || c == 'e' || c == 'E'

/-- A character between two tokens. -/
def opening (l : Lexer) (c : Char) : Option Lexer :=
  if isBlank c then some l
  else if c = '"' then some ⟨l.tokens, .text []⟩
  else if c.isDigit ∨ c = '-' then some ⟨l.tokens, .numeral [c]⟩
  else if c.isLower then some ⟨l.tokens, .word [c]⟩
  else match c with
    | '[' => some (l.push .openArray)
    | ']' => some (l.push .closeArray)
    | '\x7b' => some (l.push .openObject)
    | '\x7d' => some (l.push .closeObject)
    | ',' => some (l.push .comma)
    | ':' => some (l.push .colon)
    | _ => none

def wordToken? (letters : List Char) : Option Token :=
  match String.ofList letters.reverse with
  | "null" => some (.value .null)
  | "true" => some (.value (.bool true))
  | "false" => some (.value (.bool false))
  | _ => none

def numeralToken? (chars : List Char) : Option Token := do
  let m ← Numeral.ofList? chars.reverse
  return .value (← m.value?)

/-- The character behind a one-letter escape. -/
def escapeChar? (c : Char) : Option Char :=
  match c with
  | '"' => some '"'
  | '\\' => some '\\'
  | '/' => some '/'
  | 'b' => some '\x08'
  | 'f' => some '\x0c'
  | 'n' => some '\n'
  | 'r' => some '\r'
  | 't' => some '\t'
  | _ => none

/-- After the fourth hexadecimal digit: a character, or the first half of a pair. -/
def codeUnit (tokens : List Token) (chars : List Char) (half : Option Nat) (code : Nat) :
    Option Lexer :=
  match half with
  | none =>
    if 0xD800 ≤ code ∧ code < 0xDC00 then some ⟨tokens, .halfPair chars code⟩
    else if 0xDC00 ≤ code ∧ code < 0xE000 then none
    else some ⟨tokens, .text (Char.ofNat code :: chars)⟩
  | some first =>
    if 0xDC00 ≤ code ∧ code < 0xE000 then
      let point := 0x10000 + (first - 0xD800) * 0x400 + (code - 0xDC00)
      some ⟨tokens, .text (Char.ofNat point :: chars)⟩
    else none

/-- Takes one character. -/
def feed (l : Lexer) (c : Char) : Option Lexer :=
  match l.lexeme with
  | .between => l.opening c
  | .word letters =>
    if c.isLower then some ⟨l.tokens, .word (c :: letters)⟩
    else do (l.push (← wordToken? letters)).opening c
  | .numeral chars =>
    if isNumeralChar c then some ⟨l.tokens, .numeral (c :: chars)⟩
    else do (l.push (← numeralToken? chars)).opening c
  | .text chars =>
    if c = '"' then some (l.push (.text (String.ofList chars.reverse)))
    else if c = '\\' then some ⟨l.tokens, .escape chars⟩
    else if c.toNat < 32 then none
    else some ⟨l.tokens, .text (c :: chars)⟩
  | .escape chars =>
    if c = 'u' then some ⟨l.tokens, .unicode chars none 0 0⟩
    else (escapeChar? c).map fun e => ⟨l.tokens, .text (e :: chars)⟩
  | .unicode chars half digits code => do
    let code := 16 * code + (← Text.hexDigit? c)
    if digits = 3 then codeUnit l.tokens chars half code
    else return ⟨l.tokens, .unicode chars half (digits + 1) code⟩
  | .halfPair chars half =>
    if c = '\\' then some ⟨l.tokens, .halfPairEscape chars half⟩ else none
  | .halfPairEscape chars half =>
    if c = 'u' then some ⟨l.tokens, .unicode chars (some half) 0 0⟩ else none

/-- The tokens in order, once the characters have ended. -/
def finish (l : Lexer) : Option (List Token) :=
  match l.lexeme with
  | .between => some l.tokens.reverse
  | .word letters => (wordToken? letters).map fun t => (t :: l.tokens).reverse
  | .numeral chars => (numeralToken? chars).map fun t => (t :: l.tokens).reverse
  | _ => none

end Lexer

/-- The tokens of a text; nothing when it is no sequence of tokens. -/
def tokens? (s : List Char) : Option (List Token) := do
  (← s.foldlM Lexer.feed Lexer.start).finish

end Json

end ChartSpec
