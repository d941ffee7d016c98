import ChartSpec.Data.Format
import ChartSpec.Field.Set
import ChartSpec.Transform.Basic

/-!
# Data sets

A data set has its records inline, behind a URL, or from another data set, and may send them
through transforms.  It knows which fields its records have beside the user's data.
-/

namespace ChartSpec

structure Data where
  name : String
  format : Option DataFormat := none
  values : Option Json := none
  source : Option String := none
  url : Option String := none
  transforms : List Transform := []
  /-- The structural fields, those of the source, and those that the transforms add. -/
  fields : FieldSet := .structural

namespace Data

/-- Whether the inline values are a list of plain values and not of records. -/
def isFlat (d : Data) : Bool :=
  match d.values with
  | some (.arr items) => !items.isEmpty && items.all fun v => !v.isObject
  | _ => false

def attributes (d : Data) : Attributes := [
  ("name", .text d.name),
  ("format", .optionalNode (d.format.map DataFormat.attributes)),
  ("values", .ofOption id d.values),
  ("source", .optionalText d.source),
  ("url", .optionalText d.url),
  ("transform", .nodes (d.transforms.map Transform.attributes))]

end Data

end ChartSpec
