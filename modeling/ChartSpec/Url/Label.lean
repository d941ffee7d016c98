import ChartSpec.Text.CombiningClass
import ChartSpec.Text.Composed
import ChartSpec.Text.Direction
import ChartSpec.Text.Joining
import ChartSpec.Url.Punycode
import ChartSpec.Url.Substitution

/-!
# Labels of domains

A label beyond ASCII must not be too long nor begin with a mark, may have joiners only where they
make a difference, and in a domain with letters from right to left must keep to one direction.
-/

namespace ChartSpec

namespace Url

/-- Whether a label has only ASCII characters. -/
def isAscii (label : List Char) : Bool := label.all fun c => decide (c.toNat < 128)

/-- Whether each joiner has its place, `before` being the text before it, the last character
first.  Both joiners may stand behind a sign that takes the vowel from a letter; the one that
keeps letters apart may also stand between two letters that would join. -/
def joinersFit (before : List Char) : List Char → Bool
  | [] => true
  | c :: rest =>
    let behindVirama := before.head?.any fun b => Text.combiningClass b == Text.viramaClass
    let apart := ((before.dropWhile Text.isTransparent).head?.any Text.joinsNext) &&
      ((rest.dropWhile Text.isTransparent).head?.any Text.joinsPrevious)
    let fits :=
      if c.toNat = 0x200C then behindVirama || apart
      else if c.toNat = 0x200D then behindVirama
      else true
    fits && joinersFit (c :: before) rest

/-- How many characters a label may have if they are not only ASCII. -/
def maxLength : Nat := 1000

/-- Whether a label is well formed.  One that is only ASCII always is. -/
def isWellFormed (label : List Char) : Bool :=
  isAscii label ||
    (decide (label.length ≤ maxLength) && !(label.head?.any Text.isMark) && joinersFit [] label)

/-- Whether a domain with this label has text from right to left. -/
def hasRightToLeft (label : List Char) : Bool :=
  label.any fun c =>
    let d := Text.direction c
    d == .rightToLeft || d == .arabicDigit

/-- Whether a label keeps to one direction, which its first letter gives. -/
def keepsDirection (label : List Char) : Bool :=
  let ds := label.map Text.direction
  let last := (ds.reverse.dropWhile (· == .attached)).head?
  match ds.head? with
  | none => true
  | some .leftToRight =>
    ds.all (fun d => d != .rightToLeft && d != .arabicDigit) &&
      (last == some .leftToRight || last == some .europeanDigit)
  | some .rightToLeft =>
    ds.all (· != .leftToRight) && (last != some .neutral) &&
      !(ds.contains .europeanDigit && ds.contains .arabicDigit)
  | some _ => false

/-- What marks a label that is written in Punycode. -/
def encodedMark : List Char := "xn--".toList

/-- How many characters may follow the mark of a label in Punycode. -/
def maxEncodedLength : Nat := 2000

/-- Whether a label is what the substitution and composition of characters would have made of
it. -/
def isPlain (label : List Char) : Bool :=
  label.all isUnaltered && Text.isComposed label && !encodedMark.isPrefixOf label

/-- The label that a text stands for.  A label in Punycode must need it, and must not stand for
any other. -/
def decodeLabel? (label : List Char) : Option (List Char) :=
  if encodedMark.isPrefixOf label then
    let encoded := label.drop encodedMark.length
    if isAscii label && decide (encoded.length ≤ maxEncodedLength) then
      (Punycode.decode? encoded).filter fun decoded => !isAscii decoded && isPlain decoded
    else none
  else some label

end Url

end ChartSpec
