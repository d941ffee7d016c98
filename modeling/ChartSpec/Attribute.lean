import ChartSpec.Json.Printer
import ChartSpec.Naming
import ChartSpec.Text.Quoted

/-!
# Attributes

Every part of a chart tells its attributes in the order of the document and under the names of
the description.  An attribute is undefined, a JSON value, a part again, a list or a map of
attributes.  `collect` makes the JSON object of a part: undefined attributes and null values are
left out, names get the spelling of the document, and JSON values are taken as they are.
-/

namespace ChartSpec

inductive Attribute where
  | undefined
  | value (v : Json)
  | node (attributes : List (String × Attribute))
  | list (items : List Attribute)
  | map (entries : List (String × Attribute))

/-- The attributes of a part. -/
abbrev Attributes := List (String × Attribute)

namespace Attribute

instance : Inhabited Attribute := ⟨undefined⟩

def ofOption {α : Type} (toJson : α → Json) : Option α → Attribute
  | some a => value (toJson a)
  | none => undefined

def text (s : String) : Attribute := value (.str s)

def optionalText (s : Option String) : Attribute := ofOption .str s

def optionalDouble (x : Option Binary64) : Attribute := ofOption .float x

/-- An attribute that is there and true, or not there. -/
def flag (set : Bool) : Attribute := if set then value (.bool true) else undefined

def optionalNode (attributes : Option Attributes) : Attribute :=
  match attributes with
  | some as => node as
  | none => undefined

/-- A list of parts; the empty list is undefined. -/
def nodes : List Attributes → Attribute
  | [] => undefined
  | parts => list (parts.map node)

mutual

/-- The value of an attribute, if it is defined. -/
def collect : Attribute → Option Json
  | undefined => none
  | value .null => none
  | value v => some v
  | node attributes => some (.obj (collectEntries [] attributes))
  | list items => some (.arr (collectItems items))
  | map entries => some (.obj (collectEntries [] entries))

def collectItems : List Attribute → List Json
  | [] => []
  | a :: rest =>
    match collect a with
    | some v => v :: collectItems rest
    | none => collectItems rest

/-- Adds defined attributes to an object, each under the spelling of the document. -/
def collectEntries (object : List (String × Json)) :
    List (String × Attribute) → List (String × Json)
  | [] => object
  | (name, a) :: rest =>
    match collect a with
    | some v => collectEntries (Entries.put (toCamel name) v object) rest
    | none => collectEntries object rest

end

mutual

/-- An attribute as a message shows it. -/
def describe : Attribute → String
  | undefined => "Undefined"
  | value v => "Value(" ++ v.compact ++ ")"
  | node attributes => "Node(" ++ (Json.obj (collectEntries [] attributes)).compact ++ ")"
  | list items => "[" ++ describeItems items ++ "]"
  | map entries => "\x7b" ++ describeEntries entries ++ "\x7d"

def describeItems : List Attribute → String
  | [] => ""
  | [a] => describe a
  | a :: rest => describe a ++ ", " ++ describeItems rest

def describeEntries : List (String × Attribute) → String
  | [] => ""
  | [(name, a)] => Text.quoted name ++ ": " ++ describe a
  | (name, a) :: rest => Text.quoted name ++ ": " ++ describe a ++ ", " ++ describeEntries rest

end

end Attribute

namespace Attributes

/-- The JSON object of a part. -/
def collect (attributes : Attributes) : Json := .obj (Attribute.collectEntries [] attributes)

/-- The keys of an object as attributes; other values have none. -/
def ofJson : Json → Attributes
  | .obj entries => entries.map fun (name, v) => (name, .value v)
  | _ => []

/-- A list of attributes as a message shows it. -/
def describe (attributes : Attributes) : String :=
  "[" ++ ", ".intercalate
    (attributes.map fun (name, a) => "(" ++ Text.quoted name ++ ", " ++ a.describe ++ ")") ++ "]"

end Attributes

end ChartSpec
