import ChartSpec.Url.Address
import ChartSpec.Url.Label

/-!
# Domain names

A domain is read with every character replaced by what it stands for, then composed, and with
every label decoded.  A character that a domain cannot have may disappear in the composition: the
sign `<` with a stroke through it is one character, and a valid one.  The labels must be well
formed, and all keep to one direction each if one of them has text from right to left.
-/

namespace ChartSpec

namespace Url

/-- The composed text that a domain stands for; nothing if some character of it cannot stand in a
domain. -/
def plainText? (s : List Char) : Option (List Char) := do
  let parts ← s.mapM substitute?
  let text := Text.composed parts.flatten
  if text.any isForbidden then none else return text

/-- The labels of a domain; nothing when it is not valid. -/
def labels? (s : List Char) : Option (List (List Char)) := do
  let text ← plainText? s
  let labels ← (splitAt '.' text).mapM decodeLabel?
  if labels.all isWellFormed && (!labels.any hasRightToLeft || labels.all keepsDirection) then
    return labels
  else none

/-- The domain with its labels decoded; nothing when it is not valid. -/
def domain? (s : List Char) : Option (List Char) :=
  (labels? s).map fun labels => ['.'].intercalate labels

end Url

end ChartSpec
