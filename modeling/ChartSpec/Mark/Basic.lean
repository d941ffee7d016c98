import ChartSpec.Axis.Basic
import ChartSpec.Field.Set
import ChartSpec.Mark.Styling
import ChartSpec.Scale.Basic
import ChartSpec.Transform.Basic

/-!
# Marks

A mark is drawn for every record of its data.  Only group marks have contents: scales, axes and
further marks.
-/

namespace ChartSpec

/-- Where a mark's records come from. -/
structure Origin where
  data : Option String := none
  transforms : List Transform := []

def Origin.attributes (o : Origin) : Attributes := [
  ("data", .optionalText o.data),
  ("transform", .nodes (o.transforms.map Transform.attributes))]

/-- The states of a mark that can be styled. -/
inductive MarkState where
  | enter
  | update
  | exit
  | hover
  deriving DecidableEq

/-- The styling of each state. -/
structure MarkStates where
  enter : Option Styling := none
  update : Option Styling := none
  exit : Option Styling := none
  hover : Option Styling := none

namespace MarkStates

def get (s : MarkStates) : MarkState → Option Styling
  | .enter => s.enter
  | .update => s.update
  | .exit => s.exit
  | .hover => s.hover

def set (s : MarkStates) (styling : Styling) : MarkState → MarkStates
  | .enter => { s with enter := some styling }
  | .update => { s with update := some styling }
  | .exit => { s with exit := some styling }
  | .hover => { s with hover := some styling }

/-- The stylings that there are, in the order of the states. -/
def stylings (s : MarkStates) : List Styling :=
  s.enter.toList ++ s.update.toList ++ s.exit.toList ++ s.hover.toList

def toAttribute (s : MarkStates) : Attribute :=
  if s.stylings.isEmpty then .undefined
  else .node [
    ("enter", .optionalNode (s.enter.map Styling.attributes)),
    ("update", .optionalNode (s.update.map Styling.attributes)),
    ("exit", .optionalNode (s.exit.map Styling.attributes)),
    ("hover", .optionalNode (s.hover.map Styling.attributes))]

end MarkStates

/-- The type of a mark and, for a group, its contents. -/
inductive Body (μ : Type) where
  | plain (type : MarkType) (plain : type ≠ .group)
  | group (scales : List Scale) (axes : List Axis) (marks : List μ)

/-- An empty body of a type. -/
def Body.ofType {μ : Type} (type : MarkType) : Body μ :=
  if h : type = .group then .group [] [] [] else .plain type h

def Body.type {μ : Type} : Body μ → MarkType
  | .plain type _ => type
  | .group _ _ _ => .group

structure Mark where
  body : Body Mark
  name : Option String := none
  description : Option String := none
  origin : Option Origin := none
  states : MarkStates := {}
  /-- The field that tells records apart when they change. -/
  key : Option String := none
  delay : Option ValueRef := none
  ease : Option String := none
  /-- The fields that the mark's properties can use beside the user's data. -/
  fields : FieldSet := .structural

namespace Mark

def ofType (type : MarkType) : Mark := { body := Body.ofType type }

def type (m : Mark) : MarkType := m.body.type

def isGroup (m : Mark) : Bool := m.type == .group

/-- The names of the scales that the mark itself uses, in order. -/
def scaleNames (m : Mark) : List String :=
  m.states.stylings.flatMap Styling.scaleNames ++ (m.delay.bind ValueRef.scale).toList

/-- The names of the data sets that the mark itself refers to, in order. -/
def dataNames (m : Mark) : List String :=
  match m.origin with
  | some o => o.data.toList ++ o.transforms.flatMap Transform.sources
  | none => []

/-- The attributes that do not depend on the contents. -/
def ownAttributes (m : Mark) : Attributes := [
  ("type", .text m.type.name),
  ("name", .optionalText m.name),
  ("description", .optionalText m.description),
  ("from", .optionalNode (m.origin.map Origin.attributes)),
  ("properties", m.states.toAttribute),
  ("key", .optionalText m.key),
  ("delay", .optionalNode (m.delay.map ValueRef.attributes)),
  ("ease", .optionalText m.ease)]

mutual

def attributes : Mark → Attributes
  | m@⟨body, _, _, _, _, _, _, _, _⟩ => m.ownAttributes ++ bodyAttributes body

def bodyAttributes : Body Mark → Attributes
  | .plain _ _ => []
  | .group scales axes marks => [
      ("scales", .nodes (scales.map Scale.attributes)),
      ("axes", .nodes (axes.map Axis.attributes)),
      ("marks", .nodes (marksAttributes marks))]

def marksAttributes : List Mark → List Attributes
  | [] => []
  | m :: rest => m.attributes :: marksAttributes rest

end

end Mark

end ChartSpec
