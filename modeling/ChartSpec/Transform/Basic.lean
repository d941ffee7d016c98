import ChartSpec.Attribute
import ChartSpec.Error
import ChartSpec.Transform.Record

/-!
# Transforms

A transform is a kind together with a record of that kind's properties.  It tells the fields
that it adds to the records, the data sets that it reads, and how it is written.
-/

namespace ChartSpec

structure Transform where
  kind : TransformKind
  record : Record kind.properties

namespace Transform

instance : DecidableEq Transform := fun t u =>
  if hk : t.kind = u.kind then
    if hr : hk ▸ t.record = u.record then
      isTrue (by cases t; cases u; cases hk; cases hr; rfl)
    else isFalse (by rintro rfl; exact hr rfl)
  else isFalse (by rintro rfl; exact hk rfl)

/-- The fields that the transform adds, as records spell them.  Some kinds add fields of their
own, some add what the user has named. -/
def outputs (t : Transform) : List String :=
  let named (property : String) := ((t.record.text? property).toList)
  match t.kind with
  | .cross => ["a", "b"].map toCamel
  | .facet => ["key", "keys", "values"].map toCamel
  | .fold => ["key", "value"].map toCamel
  | .formula => named "field"
  | .stats => ["count", "min", "max", "sum", "mean", "variance", "stdev", "median"].map toCamel
  | .truncate => [(t.record.text? "output").getD "truncate"]
  | .unique => named "as"
  | .window => ["key", "values"].map toCamel
  | .zip => named "as"
  | .copy => ((Record.texts? "as" t.record).orElse fun _ => Record.texts? "fields" t.record).getD []
  | .force => ["x", "y"].map toCamel
  | .geo => ["x", "y"].map toCamel
  | .geopath => ["path"].map toCamel
  | .link => ["path"].map toCamel
  | .pie => ["start_angle", "end_angle"].map toCamel
  | .stack => ["y", "y2"].map toCamel
  | .treemap => ["x", "y", "width", "height"].map toCamel
  | .wordcloud => ["x", "y", "font", "font_size", "angle"].map toCamel
  | .array => []
  | .filter => []
  | .flatten => []
  | .slice => []
  | .sort => []

/-- The data sets that the transform reads beside the records that go through it. -/
def sources (t : Transform) : List String := Record.textsOfRole .data t.record

/-- The transform as a JSON object: its kind, then what is given. -/
def encode (t : Transform) : Json := .obj (("type", .str t.kind.name) :: t.record.encode)

def attributes (t : Transform) : Attributes := Attributes.ofJson t.encode

end Transform

end ChartSpec
