import ChartSpec.Attribute
import ChartSpec.Error

/-!
# Data formats

How the records behind a URL are decoded.
-/

namespace ChartSpec

/-- A format and its options. -/
structure DataFormat where
  type : FormatType
  /-- The types of fields, under their names as the user gives them. -/
  parse : List (String × ParseType) := []
  property : Option String := none
  feature : Option String := none
  mesh : Option String := none
  children : Option String := none
  deriving DecidableEq

/-- A setting of a format. -/
inductive FormatSetting where
  | parse (fields : List String) (type : ParseType)
  | option (o : FormatOption) (value : String)

namespace DataFormat

/-- Gives a field a type. -/
def parseField (type : ParseType) (f : DataFormat) (field : String) : Except Error DataFormat :=
  if f.type.supportsParse then .ok { f with parse := Entries.put field type f.parse }
  else .error (.refused (.unsupportedOption f.type "parse"))

/-- Writes an option that the format has. -/
def setOption (f : DataFormat) (value : String) : FormatOption → DataFormat
  | .property => { f with property := some value }
  | .feature => { f with feature := some value }
  | .mesh => { f with mesh := some value }
  | .children => { f with children := some value }

def apply (f : DataFormat) : FormatSetting → Except Error DataFormat
  | .parse fields type => fields.foldlM (parseField type) f
  | .option o value =>
    if f.type.supports o then .ok (f.setOption value o)
    else .error (.refused (.unsupportedOption f.type o.name))

/-- The format with a name. -/
def ofName (name : String) : Except Error DataFormat :=
  (demand (.unknownName .dataFormat name) (FormatType.ofName? name)).map fun type => { type }

/-- Fields keep their names as the user gives them. -/
def attributes (f : DataFormat) : Attributes := [
  ("type", .text f.type.name),
  ("parse",
    if f.parse.isEmpty then .undefined
    else .value (.obj (f.parse.map fun (field, type) => (field, .str type.name)))),
  ("property", .optionalText f.property),
  ("feature", .optionalText f.feature),
  ("mesh", .optionalText f.mesh),
  ("children", .optionalText f.children)]

end DataFormat

end ChartSpec
