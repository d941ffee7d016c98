import ChartSpec.Axis.Type
import ChartSpec.Data.FormatType
import ChartSpec.DecodeError
import ChartSpec.Mark.Channel
import ChartSpec.Scale.Type
import ChartSpec.Transform.Kind
import ChartSpec.Url.Error

/-!
# Errors

An error is a cause and the places that it came through, the innermost one first.  Adding a
place changes neither the cause nor what is said about it.  All wording is in this module.
-/

namespace ChartSpec

/-- The kinds of parts that a registry keeps. -/
inductive EntityKind where
  | data
  | scale
  | mark
  | transform
  | axis
  deriving DecidableEq

def EntityKind.name : EntityKind → String
  | data => "Data"
  | scale => "Scale"
  | mark => "Mark"
  | transform => "Transform"
  | axis => "Axis"

/-- The vocabularies that names are looked up in. -/
inductive Vocabulary where
  | dataFormat
  | scaleType
  | rangeLiteral
  | transformType
  | visualProperty
  | easing
  deriving DecidableEq

/-- Why an input is refused. -/
inductive Refusal where
  | said (message : String)
  /-- A text is no JSON, in the words of the reader. -/
  | malformedJson (problem : String)
  | decoding (e : DecodeError)
  | unknownName (vocabulary : Vocabulary) (name : String)
  -- names and references
  | duplicateName (kind : EntityKind) (name : String)
  | notRegistered (kind : EntityKind) (name : String)
  | blankName (what : String)
  -- numbers of arguments
  | singleValue (name : String) (received : Nat)
  | valueCount (name : String) (expected received : Nat)
  | noValue (name : String)
  -- data
  | valuesShape (data : String) (received : Json)
  | sourceAfterTransforms (data : String)
  | unsupportedOption (format : FormatType) (option : String)
  -- transforms
  | propertiesShape (kind : TransformKind) (received : Json)
  | typeKey
  | datumMissing (property expression : String)
  | copyNames (fields names : Nat)
  | linkTension (received : Binary64)
  | rotateShape (received : Json)
  | rotateMode (received : String)
  | rotateAngles
  -- scales
  | halfBounds (scale : String)
  | domainOfSeveral (data : List String)
  | scaleProperty (property : String) (type : ScaleType) (scale : String)
  -- marks
  | notNumeric (property : String) (received : Json)
  | channelType (channel : Channel) (type : Option MarkType)
  | afterTransforms (what : String)
  | notAGroup (type : MarkType)
  | groupOnly (property : String) (type : MarkType)
  -- axes
  | orientation (type : AxisType) (orient : AxisOrient)
  | axisWithoutScale (type : AxisType)
  -- visualizations
  | viewportShape (received : Json)
  | viewportSide (side : String)
  | paddingNumber (received : Json)
  | paddingSide (side : String)
  | paddingShape (received : Json)
  deriving DecidableEq

/-- What went wrong. -/
inductive Cause where
  | refused (r : Refusal)
  /-- A fault of the library itself. -/
  | internal (message : String)
  /-- A fault of a JSON text. -/
  | json (message : String)
  | url (e : UrlError)
  deriving DecidableEq

/-- A place that an error comes through on its way out. -/
inductive Place where
  | said (text : String)
  | transform (kind : TransformKind)
  | fieldsOf (kind : TransformKind)
  | attaching (data : String)
  | dataProperty (property : String)
  | valuesOf (data : String)
  | urlOf (data : String)
  | domainOf (scale : String)
  | rangeOf (scale : String)
  | channel (c : Channel)
  | markData
  | axisScale (type : AxisType)
  deriving DecidableEq

structure Error where
  cause : Cause
  places : List Place := []
  deriving DecidableEq

/-! ## Wording -/

def Vocabulary.refusal : Vocabulary → String
  | dataFormat => "Unknown data format: "
  | scaleType => "Unknown scale type: "
  | rangeLiteral => "Unrecognized range literal: "
  | transformType => "Unknown transform type: "
  | visualProperty => "Unknown visual property: "
  | easing => "Unknown easing function: "

def Refusal.message : Refusal → String
  | said message => message
  | malformedJson problem => problem
  | decoding e => e.message
  | unknownName vocabulary name => vocabulary.refusal ++ name
  | duplicateName kind name => "Duplicate " ++ kind.name ++ " name: " ++ name
  | notRegistered kind name => "No " ++ kind.name ++ " registered with name: " ++ name
  | blankName what => what ++ " name must not be empty"
  | singleValue name received =>
    "Attribute " ++ name ++ " expects exactly one value, received " ++ toString received
  | valueCount name expected received =>
    "Attribute " ++ name ++ " expects " ++ toString expected ++ " values, received " ++
      toString received
  | noValue name => "Attribute " ++ name ++ " expects at least one value"
  | valuesShape data received =>
    "Values of Data " ++ data ++ " must be a list or an object, received " ++ received.compact
  | sourceAfterTransforms data =>
    "Source of Data " ++ data ++ " must be set before its transforms"
  | unsupportedOption format option =>
    "Format " ++ format.name ++ " does not support " ++ option
  | propertiesShape kind received =>
    "Properties of a " ++ kind.name ++ " transform must be an object, received " ++
      received.compact
  | typeKey => "Transform properties may not contain a type key"
  | datumMissing property expression =>
    "Expression for " ++ property ++ " must reference the datum d: " ++ expression
  | copyNames fields names =>
    "Copy transform must have as many output names as fields: " ++ toString fields ++
      " fields, " ++ toString names ++ " names"
  | linkTension received =>
    "Link tension must be between 0 and 1, received " ++ received.write Decimal.plainStyle
  | rotateShape received =>
    "Rotate must be a field or a rotation mode, received " ++ received.compact
  | rotateMode received => "Rotate mode must be random or alternate, received " ++ received
  | rotateAngles => "Rotate angles must be a list of numbers"
  | halfBounds scale => "Scale " ++ scale ++ " needs both a domain minimum and maximum"
  | domainOfSeveral data =>
    "Fields of a multi-field domain must come from one Data, received " ++ ", ".intercalate data
  | scaleProperty property type scale =>
    "Property " ++ property ++ " is not valid for " ++ type.name ++ " scale " ++ scale
  | notNumeric property received =>
    "Property " ++ property ++ " must be numeric, received " ++ received.compact
  | channelType channel type =>
    "Visual property " ++ channel.name ++ " is not valid for " ++
      (type.map MarkType.name).getD "these" ++ " marks"
  | afterTransforms what => "The " ++ what ++ " of a mark must be set before its transforms"
  | notAGroup type =>
    "Marks can only be nested within group marks, not " ++ type.name ++ " marks"
  | groupOnly property type =>
    "Property " ++ property ++ " is only valid for group marks, not " ++ type.name ++ " marks"
  | orientation type orient =>
    "A " ++ type.name ++ " axis cannot be oriented " ++ orient.name
  | axisWithoutScale type => "A " ++ type.name ++ " axis requires a scale"
  | viewportShape received =>
    "Viewport must be [width, height] or an object with width and height, received " ++
      received.compact
  | viewportSide side => "Viewport " ++ side ++ " must be a non-negative integer"
  | paddingNumber received => "Padding must be an integer, received " ++ received.compact
  | paddingSide side => "Padding requires an integer " ++ side
  | paddingShape received =>
    "Padding must be a number or an object, received " ++ received.compact

def Cause.message : Cause → String
  | refused r => r.message
  | internal message => message
  | json message => message
  | url e => e.message

/-- The words that introduce a cause of this sort. -/
def Cause.introduction : Cause → String
  | refused _ => "Invalid input: "
  | internal _ => "Internal error: "
  | json _ => "Serde JSON Error: "
  | url _ => "URL parse error: "

def Place.text : Place → String
  | said text => text
  | transform kind => "Invalid " ++ kind.name ++ " transform"
  | fieldsOf kind => "Failed to resolve fields of " ++ kind.name ++ " transform"
  | attaching data => "Failed to attach transform to Data " ++ data
  | dataProperty property => "Property " ++ property ++ " must name a registered Data"
  | valuesOf data => "Malformed values for Data " ++ data
  | urlOf data => "Invalid URL for Data " ++ data
  | domainOf scale => "Invalid domain for scale " ++ scale
  | rangeOf scale => "Invalid range for scale " ++ scale
  | channel c => "Invalid value for visual property " ++ c.name
  | markData => "Invalid mark data"
  | axisScale type => "Invalid scale for " ++ type.name ++ " axis"

namespace Error

def refused (r : Refusal) : Error := ⟨.refused r, []⟩

def internal (message : String) : Error := ⟨.internal message, []⟩

/-- The error as it comes out of one more place. -/
def through (e : Error) (p : Place) : Error := { e with places := e.places ++ [p] }

/-- What went wrong, without the places. -/
def message (e : Error) : String := e.cause.message

/-- Whether the user's input is to blame; malformed texts and URLs count as input. -/
def isInput (e : Error) : Bool :=
  match e.cause with
  | .internal _ => false
  | _ => true

/-- One line for each place, numbered from zero. -/
def placeLines : Nat → List Place → String
  | _, [] => ""
  | i, p :: rest =>
    "    Context[" ++ toString i ++ "]: " ++ p.text ++ "\n" ++ placeLines (i + 1) rest

/-- The whole error as text. -/
def display (e : Error) : String :=
  e.cause.introduction ++ e.message ++ "\n" ++ placeLines 0 e.places

end Error

/-- A result whose error, if it is one, comes through a place. -/
def inPlace {α : Type} (p : Place) : Except Error α → Except Error α
  | .ok a => .ok a
  | .error e => .error (e.through p)

/-- An optional value that must be there. -/
def demand {α : Type} (r : Refusal) : Option α → Except Error α
  | some a => .ok a
  | none => .error (.refused r)

end ChartSpec
