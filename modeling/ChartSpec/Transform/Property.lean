import ChartSpec.Transform.Kind
import ChartSpec.Transform.Shape

/-!
# Properties of transforms

Each kind of transform has a closed list of properties.  A property has a name, for some names a
second spelling, a shape, and a role: whether it names fields, sort keys or a data set.  A rule
may restrict its values further than the shape does.
-/

namespace ChartSpec

/-- What the texts of a property name. -/
inductive Role where
  | plain
  /-- Fields of the records that go through the transform. -/
  | field
  /-- Sort keys: fields, with a minus sign for descending order. -/
  | sortKey
  /-- A registered data set. -/
  | data
  /-- Fields of the data set that another property names. -/
  | fieldOf (property : String)
  deriving DecidableEq

/-- A restriction on the values of a property. -/
inductive Rule where
  | free
  /-- An expression that mentions the record `d`. -/
  | datum
  /-- If a list of numbers, then one of this length. -/
  | count (expected : Nat)
  /-- A number from zero to one. -/
  | unitInterval
  /-- A field, or a mode with a list of angles. -/
  | rotation
  deriving DecidableEq

structure Property where
  name : String
  shape : Shape
  required : Bool := false
  /-- A second spelling of the name. -/
  otherName : Option String := none
  role : Role := .plain
  rule : Rule := .free

namespace Property

/-- A property that must be given. -/
def need (name : String) (shape : Shape) : Property := { name, shape, required := true }

/-- A property that may be given. -/
def may (name : String) (shape : Shape) : Property := { name, shape }

def called (p : Property) (other : String) : Property := { p with otherName := some other }

def naming (p : Property) (role : Role) : Property := { p with role := role }

def under (p : Property) (rule : Rule) : Property := { p with rule := rule }

/-- The spellings of a property, in the order of their bytes. -/
def spellings (p : Property) : List String := p.otherName.toList ++ [p.name]

/-- Whether a key is a spelling of the property. -/
def answersTo (p : Property) (key : String) : Bool := p.name == key || p.otherName == some key

end Property

open Property in
/-- The properties that the two projections share. -/
def projectionProperties : List Property := [
  may "projection" .text,
  (may "center" .numbers).under (.count 2),
  (may "translate" .numbers).under (.count 2),
  may "scale" .number,
  may "rotate" .number,
  may "precision" .number,
  (may "clip_angle" .number).called "clipAngle"]

open Property in
/-- The properties of each kind, in the order in which they are written. -/
def TransformKind.properties : TransformKind → List Property
  | .array => [(need "fields" .texts).naming .field]
  | .copy => [need "from" .text, need "fields" .texts, may "as" .texts]
  | .cross => [(may "with" .text).naming .data, may "diagonal" .flag]
  | .facet => [(need "keys" .texts).naming .field, (may "sort" .sortKeys).naming .sortKey]
  | .filter => [(need "test" .text).under .datum]
  | .flatten => []
  | .fold => [(need "fields" .texts).naming .field]
  | .formula => [need "field" .text, (need "expr" .text).under .datum]
  | .slice => [(need "by" .slice).under (.count 2), (may "field" .text).naming .field]
  | .sort => [(need "by" .sortKeys).naming .sortKey]
  | .stats => [(need "value" .text).naming .field, may "median" .flag, may "assign" .flag]
  | .truncate => [
      (need "value" .text).naming .field,
      may "output" .text,
      may "limit" .number,
      may "position" (.word ["front", "middle", "end"]),
      may "ellipsis" .text,
      (may "word_break" .flag).called "wordBreak"]
  | .unique => [(need "field" .text).naming .field, need "as" .text]
  | .window => [may "size" .count, may "step" .count]
  | .zip => [
      (need "with" .text).naming .data,
      need "as" .text,
      (may "key" .text).naming .field,
      ((may "with_key" .text).called "withKey").naming (.fieldOf "with"),
      may "default" .any]
  | .force => [
      (may "links" .text).naming .data,
      (may "size" .numbers).under (.count 2),
      may "iterations" .count,
      may "charge" .any,
      (may "link_distance" .number).called "linkDistance",
      (may "link_strength" .number).called "linkStrength",
      may "friction" .number,
      may "theta" .number,
      may "gravity" .number,
      may "alpha" .number]
  | .geo => projectionProperties ++ [
      (need "lon" .text).naming .field,
      (need "lat" .text).naming .field]
  | .geopath => projectionProperties ++ [(may "value" .text).naming .field]
  | .link => [
      (may "source" .text).naming .field,
      (may "target" .text).naming .field,
      may "shape" (.word ["line", "curve", "diagonal", "diagonalX", "diagonalY"]),
      (may "tension" .number).under .unitInterval]
  | .pie => [(may "value" .text).naming .field, may "sort" .flag]
  | .stack => [
      (need "point" .text).naming .field,
      (need "height" .text).naming .field,
      may "offset" (.word ["zero", "silhouette", "wiggle", "expand"]),
      may "order" (.word ["default", "reverse", "inside-out"])]
  | .treemap => [
      (may "value" .text).naming .field,
      (may "size" .numbers).under (.count 2),
      may "round" .flag,
      may "sticky" .flag,
      may "ratio" .number,
      (may "padding" .sides).under (.count 4),
      (may "sort" .sortKeys).naming .sortKey]
  | .wordcloud => [
      (may "text" .text).naming .field,
      may "font" .any,
      (may "font_size" .any).called "fontSize",
      (may "font_style" .any).called "fontStyle",
      (may "font_weight" .any).called "fontWeight",
      (may "size" .numbers).under (.count 2),
      (may "rotate" .any).under .rotation,
      may "padding" .any]

end ChartSpec
