import ChartSpec.Json.Printer
import ChartSpec.Text.Printable

/-!
# Texts in messages

A message that repeats a text puts it into quotes and escapes what could not be read: the quote,
the backslash, the common controls, and every character that is not printable by its code point.
-/

namespace ChartSpec

namespace Text

/-- A character between the quotes. -/
def shown (c : Char) : String :=
  match c with
  | '"' => "\\\""
  | '\\' => "\\\\"
  | '\n' => "\\n"
  | '\r' => "\\r"
  | '\t' => "\\t"
  | '\x00' => "\\0"
  | c =>
    if isPrintable c then String.singleton c else "\\u\x7b" ++ Json.hex 1 c.toNat ++ "\x7d"

/-- A text as a message shows it. -/
def quoted (s : String) : String :=
  s.toList.foldl (fun out c => out ++ shown c) "\"" ++ "\""

end Text

end ChartSpec
