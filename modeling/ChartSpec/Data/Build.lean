import ChartSpec.Draft
import ChartSpec.Json.Parser
import ChartSpec.Registry
import ChartSpec.Text.Blank
import ChartSpec.Url.Parser

/-!
# Building data sets

The source must be set before the first transform, since transforms resolve fields against the
fields of the source.
-/

namespace ChartSpec

inductive DataCall where
  | values (v : Json)
  /-- Values as JSON text, and what the reader says of the text if it is malformed.  The words are
  the reader's own, and taken as they come. -/
  | valuesText (text : String) (problem : String := "<malformed JSON>")
  | source (name : String)
  | url (url : String)
  | format (f : DataFormat)
  | transform (t : Transform)
  | transforms (ts : List Transform)

namespace Data

/-- Sets inline values, which are a list or an object. -/
def setValues (d : Data) (v : Json) : Except Error Data :=
  if v.isArray || v.isObject then .ok { d with values := some v }
  else .error (.refused (.valuesShape d.name v))

/-- Sets the source, whose fields become the data set's own. -/
def setSource (r : Registry) (d : Data) (name : String) : Except Error Data :=
  if d.transforms.isEmpty then do
    let source ← r.expectData name
    return { d with source := some name, fields := FieldSet.structural.union source.fields }
  else .error (.refused (.sourceAfterTransforms d.name))

/-- Adds a transform, which resolves fields against those behind the transforms before it. -/
def addTransform (r : Registry) (d : Data) (t : Transform) : Except Error Data := do
  let (t, fields) ← inPlace (.attaching d.name) (t.attach r.known d.fields)
  return { d with transforms := d.transforms ++ [t], fields }

def apply (r : Registry) (d : Data) : DataCall → Except Error Data
  | .values v => d.setValues v
  | .valuesText text problem => do
    let v ← inPlace (.valuesOf d.name) (demand (.malformedJson problem) (Json.parse? text))
    d.setValues v
  | .source name => d.setSource r name
  | .url url =>
    match Url.check url with
    | .ok _ => .ok { d with url := some url }
    | .error e => inPlace (.urlOf d.name) (.error ⟨.url e, []⟩)
  | .format f => .ok { d with format := some f }
  | .transform t => d.addTransform r t
  | .transforms ts => ts.foldlM (addTransform r) d

end Data

namespace Registry

/-- Registers a data set whose name is not blank. -/
def addData (r : Registry) (d : Data) : Except Error (Registry × Data) :=
  if Text.isBlank d.name then .error (.refused (.blankName "Data"))
  else do return (← r.registerData d, d)

/-- Builds and registers a data set. -/
def buildData (r : Registry) (name : String) (calls : List DataCall) :
    Except Failure (Registry × Data) := do
  let draft ← applyAll (Data.apply r) { name } calls
  finishing calls r.addData draft

end Registry

end ChartSpec
