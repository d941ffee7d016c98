/-!
# Types of data formats

The formats that the records behind a URL can have, and the options of formats.  Each option
belongs to some of the formats only.
-/

namespace ChartSpec

inductive FormatType where
  | json
  | csv
  | tsv
  | topojson
  | treejson
  deriving DecidableEq

namespace FormatType

def name : FormatType → String
  | json => "json"
  | csv => "csv"
  | tsv => "tsv"
  | topojson => "topojson"
  | treejson => "treejson"

def all : List FormatType := [json, csv, tsv, topojson, treejson]

def ofName? (s : String) : Option FormatType := all.find? fun t => t.name == s

end FormatType

/-- The type that a field of the records is read as. -/
inductive ParseType where
  | number
  | boolean
  | date
  deriving DecidableEq

def ParseType.name : ParseType → String
  | number => "number"
  | boolean => "boolean"
  | date => "date"

/-- The options of a format that hold one text. -/
inductive FormatOption where
  | property
  | feature
  | mesh
  | children
  deriving DecidableEq

def FormatOption.name : FormatOption → String
  | property => "property"
  | feature => "feature"
  | mesh => "mesh"
  | children => "children"

namespace FormatType

/-- Whether fields can be given types: not where the records are shapes. -/
def supportsParse (t : FormatType) : Bool := t != topojson

def supports (t : FormatType) : FormatOption → Bool
  | .property => t == json
  | .feature => t == topojson
  | .mesh => t == topojson
  | .children => t == treejson

end FormatType

end ChartSpec
