import ChartSpec.DecodeError
import ChartSpec.OneOrMany

/-!
# Shapes of properties

The properties of transforms come in a few shapes.  A shape says which values there are, how one
is read from JSON and written to it, and which texts in it name fields.
-/

namespace ChartSpec

/-- The words that select an element by its rank. -/
def rankWords : List String := ["min", "max", "median"]

/-- Which elements a slice takes: one by position, those of a range, or one by rank. -/
inductive SliceBy where
  | position (x : Binary64)
  | range (xs : List Binary64)
  | rank (word : { w : String // w ∈ rankWords })
  deriving DecidableEq

inductive Shape where
  | text
  | texts
  | flag
  | number
  | numbers
  | count
  | any
  | sortKeys
  | sides
  | slice
  | word (words : List String)

namespace Shape

/-- The values of a shape. -/
abbrev Value : Shape → Type
  | text => String
  | texts => List String
  | flag => Bool
  | number => Binary64
  | numbers => List Binary64
  | count => UInt32
  | any => Json
  | sortKeys => OneOrMany String
  | sides => OneOrMany Binary64
  | slice => SliceBy
  | word words => { w : String // w ∈ words }

instance instDecidableEqValue : (s : Shape) → DecidableEq s.Value
  | text => inferInstanceAs (DecidableEq String)
  | texts => inferInstanceAs (DecidableEq (List String))
  | flag => inferInstanceAs (DecidableEq Bool)
  | number => inferInstanceAs (DecidableEq Binary64)
  | numbers => inferInstanceAs (DecidableEq (List Binary64))
  | count => inferInstanceAs (DecidableEq UInt32)
  | any => inferInstanceAs (DecidableEq Json)
  | sortKeys => inferInstanceAs (DecidableEq (OneOrMany String))
  | sides => inferInstanceAs (DecidableEq (OneOrMany Binary64))
  | slice => inferInstanceAs (DecidableEq SliceBy)
  | word words => inferInstanceAs (DecidableEq { w : String // w ∈ words })

/-- A form that a value may take, if every item of a list has it. -/
def list? {α : Type} (item : Json → Except DecodeError α) (v : Json) : Option (List α) :=
  (Decode.list item v).toOption

def decodeSortKeys (v : Json) : Except DecodeError (OneOrMany String) :=
  match v with
  | .str s => .ok (.one s)
  | v =>
    match list? Decode.text v with
    | some ss => .ok (.many ss)
    | none => .error (.noForm "StringOrStringList")

def decodeSides (v : Json) : Except DecodeError (OneOrMany Binary64) :=
  match v.number? with
  | some x => .ok (.one x)
  | none =>
    match list? Decode.double v with
    | some xs => .ok (.many xs)
    | none => .error (.noForm "TreemapPadding")

/-- A rank word as a text, or as the only key of an object, over null. -/
def rankWord? (v : Json) : Option { w : String // w ∈ rankWords } :=
  match v with
  | .str s => known? s
  | .obj [(s, .null)] => known? s
  | _ => none
where
  known? (s : String) : Option { w : String // w ∈ rankWords } :=
    if h : s ∈ rankWords then some ⟨s, h⟩ else none

def decodeSlice (v : Json) : Except DecodeError SliceBy :=
  match v.number?, list? Decode.double v, rankWord? v with
  | some x, _, _ => .ok (.position x)
  | none, some xs, _ => .ok (.range xs)
  | none, none, some w => .ok (.rank w)
  | none, none, none => .error (.noForm "SliceBy")

/-- Reads a value. -/
def decode : (s : Shape) → Json → Except DecodeError s.Value
  | text, v => Decode.text v
  | texts, v => Decode.list Decode.text v
  | flag, v => Decode.flag v
  | number, v => Decode.double v
  | numbers, v => Decode.list Decode.double v
  | count, v => Decode.count v
  | any, v => .ok v
  | sortKeys, v => decodeSortKeys v
  | sides, v => decodeSides v
  | slice, v => decodeSlice v
  | word words, v => Decode.word words v

def encodeOneOrMany {α : Type} (item : α → Json) : OneOrMany α → Json
  | .one a => item a
  | .many as => .arr (as.map item)

def encodeSlice : SliceBy → Json
  | .position x => .float x
  | .range xs => .arr (xs.map .float)
  | .rank w => .str w.val

/-- Writes a value. -/
def encode : (s : Shape) → s.Value → Json
  | text, v => .str v
  | texts, v => .arr (v.map .str)
  | flag, v => .bool v
  | number, v => .float v
  | numbers, v => .arr (v.map .float)
  | count, v => .int v.toNat
  | any, v => v
  | sortKeys, v => encodeOneOrMany .str v
  | sides, v => encodeOneOrMany .float v
  | slice, v => encodeSlice v
  | word _, v => .str v.val

/-- Changes the texts of a value, which keeps its form. -/
def mapTexts (f : String → String) : (s : Shape) → s.Value → s.Value
  | text, v => f v
  | texts, v => v.map f
  | sortKeys, v => v.map f
  | flag, v => v
  | number, v => v
  | numbers, v => v
  | count, v => v
  | any, v => v
  | sides, v => v
  | slice, v => v
  | word _, v => v

/-- The texts of a value. -/
def textsOf : (s : Shape) → s.Value → List String
  | text, v => [v]
  | texts, v => v
  | sortKeys, .one a => [a]
  | sortKeys, .many as => as
  | _, _ => []

/-- The value as a number, for the shape of one number. -/
def number? : (s : Shape) → s.Value → Option Binary64
  | number, v => some v
  | _, _ => none

/-- The value as JSON, for the shape that takes any. -/
def json? : (s : Shape) → s.Value → Option Json
  | any, v => some v
  | _, _ => none

/-- How many numbers a value that is a list of numbers has. -/
def numberCount? : (s : Shape) → s.Value → Option Nat
  | numbers, v => some v.length
  | sides, .many xs => some xs.length
  | slice, .range xs => some xs.length
  | _, _ => none

end Shape

end ChartSpec
