import ChartSpec.Text.CodePoints

/-!
# Blanks

The characters with the property White_Space.  A text is blank when it has no other characters.
-/

namespace ChartSpec

namespace Text

/-- Code points with the property White_Space. -/
def blankRanges : List (Nat × Nat) := [
  (0x9, 0xD), (0x20, 0x20), (0x85, 0x85), (0xA0, 0xA0), (0x1680, 0x1680), (0x2000, 0x200A),
  (0x2028, 0x2029), (0x202F, 0x202F), (0x205F, 0x205F), (0x3000, 0x3000)]

/-- Whether a character is white space. -/
def isBlankCharacter (c : Char) : Bool :=
  CodePoints.inRanges c.toNat blankRanges

/-- Whether nothing but white space is in a text. -/
def isBlank (s : String) : Bool := s.toList.all isBlankCharacter

end Text

end ChartSpec
