import ChartSpec.Text.Alphanumeric
import ChartSpec.Text.LetterCase

/-!
# Names in two spellings

Parts of a chart are described under names like `stroke_width` and written under names like
`strokeWidth`.  Both spellings are made from the words of a name.  Everything but letters and
numbers separates words; inside such a stretch a new word begins where lower case meets upper
case, and before the last capital of several that a small letter follows.
-/

namespace ChartSpec

namespace Naming

/-- The case of the letters read last. -/
inductive Mode where
  | boundary
  | lower
  | upper
  deriving DecidableEq

/-- The mode after a character that begins no word: other characters keep the mode. -/
def Mode.after (mode : Mode) (c : Char) : Mode :=
  if Text.isLower c then .lower else if Text.isUpper c then .upper else mode

/-- The words of a stretch of letters and numbers, after the beginning of a word. -/
def wordsAfter (mode : Mode) (word : List Char) : List Char → List (List Char)
  | [] => if word.isEmpty then [] else [word]
  | [c] => [word ++ [c]]
  | c :: next :: rest =>
    if mode.after c = .lower ∧ Text.isUpper next then
      (word ++ [c]) :: wordsAfter .boundary [] (next :: rest)
    else if mode = .upper ∧ Text.isUpper c ∧ Text.isLower next then
      word :: wordsAfter .boundary [c] (next :: rest)
    else wordsAfter (mode.after c) (word ++ [c]) (next :: rest)

/-- The stretches of letters and numbers, empty ones included. -/
def stretches : List Char → List (List Char)
  | [] => [[]]
  | c :: rest =>
    match stretches rest with
    | [] => [[c]]
    | s :: more => if Text.isAlphanumeric c then (c :: s) :: more else [] :: s :: more

/-- The words of a name. -/
def words (name : String) : List (List Char) :=
  (stretches name.toList).flatMap (wordsAfter .boundary [])

/-- A word in lower case.  A capital sigma at the end becomes the final sigma. -/
def lowerWord : List Char → List Char
  | [] => []
  | [c] => if c = 'Σ' then ['ς'] else Text.lower c
  | c :: rest => Text.lower c ++ lowerWord rest

/-- A word in lower case but for its first character. -/
def capitalWord : List Char → List Char
  | [] => []
  | c :: rest => Text.upper c ++ lowerWord rest

/-- The words joined by capitals. -/
def joinCapitals : List (List Char) → List Char
  | [] => []
  | w :: rest => lowerWord w ++ rest.flatMap capitalWord

/-- The words joined by underscores. -/
def joinUnderscores : List (List Char) → List Char
  | [] => []
  | [w] => lowerWord w
  | w :: rest => lowerWord w ++ '_' :: joinUnderscores rest

end Naming

/-- The spelling of the document.  A name without an underscore is already spelled so. -/
def toCamel (name : String) : String :=
  if '_' ∈ name.toList then String.ofList (Naming.joinCapitals (Naming.words name)) else name

/-- The spelling of the description. -/
def toSnake (name : String) : String :=
  String.ofList (Naming.joinUnderscores (Naming.words name))

end ChartSpec
