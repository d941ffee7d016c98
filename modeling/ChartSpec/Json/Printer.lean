import ChartSpec.Decimal.Written
import ChartSpec.Json.Basic

/-!
# JSON text out

`compact` writes a value without any space.  `pretty` writes one entry a line, two spaces deeper
on each level, and leaves empty arrays and objects on one line.
-/

namespace ChartSpec

namespace Json

/-- A number in lower-case hexadecimal digits, at least as many as asked for. -/
def hex (width n : Nat) : String :=
  let ds := Nat.toDigits 16 n
  String.ofList (List.replicate (width - ds.length) '0' ++ ds)

/-- A character inside a text: the quote, the backslash and the controls are escaped. -/
def escaped (c : Char) : String :=
  match c with
  | '"' => "\\\""
  | '\\' => "\\\\"
  | '\n' => "\\n"
  | '\t' => "\\t"
  | '\r' => "\\r"
  | '\x08' => "\\b"
  | '\x0c' => "\\f"
  | c => if c.toNat < 32 then "\\u" ++ hex 4 c.toNat else String.singleton c

/-- A text in quotes. -/
def quoted (s : String) : String :=
  s.toList.foldl (fun out c => out ++ escaped c) "\"" ++ "\""

/-- A number as documents spell it. -/
def floatText (x : Binary64) : String := x.write Decimal.documentStyle

mutual

def compact : Json → String
  | null => "null"
  | bool true => "true"
  | bool false => "false"
  | int n => toString n
  | float x => floatText x
  | str s => quoted s
  | arr items => "[" ++ compactItems items ++ "]"
  | obj entries => "\x7b" ++ compactEntries entries ++ "\x7d"

def compactItems : List Json → String
  | [] => ""
  | [v] => compact v
  | v :: rest => compact v ++ "," ++ compactItems rest

def compactEntries : List (String × Json) → String
  | [] => ""
  | [(k, v)] => quoted k ++ ":" ++ compact v
  | (k, v) :: rest => quoted k ++ ":" ++ compact v ++ "," ++ compactEntries rest

end

/-- The line break before an entry on a level. -/
def lineBreak (level : Nat) : String :=
  "\n" ++ String.ofList (List.replicate (2 * level) ' ')

mutual

/-- A value whose container stands on the given level. -/
def prettyAt (level : Nat) : Json → String
  | arr [] => "[]"
  | arr items => "[" ++ prettyItems (level + 1) items ++ lineBreak level ++ "]"
  | obj [] => "\x7b\x7d"
  | obj entries => "\x7b" ++ prettyEntries (level + 1) entries ++ lineBreak level ++ "\x7d"
  | null => "null"
  | bool b => compact (bool b)
  | int n => compact (int n)
  | float x => compact (float x)
  | str s => compact (str s)

def prettyItems (level : Nat) : List Json → String
  | [] => ""
  | [v] => lineBreak level ++ prettyAt level v
  | v :: rest => lineBreak level ++ prettyAt level v ++ "," ++ prettyItems level rest

def prettyEntries (level : Nat) : List (String × Json) → String
  | [] => ""
  | [(k, v)] => lineBreak level ++ quoted k ++ ": " ++ prettyAt level v
  | (k, v) :: rest =>
    lineBreak level ++ quoted k ++ ": " ++ prettyAt level v ++ "," ++ prettyEntries level rest

end

/-- A value over several lines. -/
def pretty (v : Json) : String := prettyAt 0 v

end Json

end ChartSpec
