import ChartSpec.Draft
import ChartSpec.Field.Reference
import ChartSpec.Mark.Easing
import ChartSpec.Registry
import ChartSpec.Text.Blank

/-!
# Building marks

The visual properties of a mark resolve fields in the mark's context: that of its data set or of
the group around it, then extended by its own transforms.  Data set and group must be set before
the transforms.
-/

namespace ChartSpec

/-- A channel, or a name for one in either spelling. -/
inductive ChannelKey where
  | channel (c : Channel)
  | named (name : String)

/-- Setting one channel. -/
structure ChannelEdit where
  key : ChannelKey
  value : ValueSpec
  /-- Whether a refusal leaves the styling as it is and does not end the edits. -/
  lenient : Bool := false

inductive MarkCall where
  | name (name : String)
  | description (text : String)
  | fromData (name : String)
  | within (group : Mark)
  | fromTransform (t : Transform)
  | style (state : MarkState) (edits : List ChannelEdit)
  | key (field : String)
  | delay (value : ValueSpec)
  | ease (easing : String)
  | scales (scales : List Scale)
  | axes (axes : List Axis)
  | marks (marks : List Mark)

/-- The name of a referenced scale.  A scale given as itself is trusted. -/
def ScaleReference.resolve (r : Registry) : ScaleReference → Except Error String
  | .name key => (r.expectScale key).map Scale.name
  | .object key => .ok key

/-- A number that a property may have. -/
def numeric (property : String) : Option Json → Except Error (Option Binary64)
  | none => .ok none
  | some v => (demand (.notNumeric property v) v.number?).map some

/-- Resolves a value in a context. -/
def ValueSpec.resolve (r : Registry) (fields : FieldSet) (v : ValueSpec) :
    Except Error ValueRef := do
  let scale ← match v.scale with
    | some s => (s.resolve r).map some
    | none => .ok none
  let mult ← numeric "mult" v.mult
  let offset ← numeric "offset" v.offset
  return {
    value := v.value
    field := v.field.map (resolveField fields)
    scale, mult, offset
    band := v.band
    group := v.group }

namespace ChannelKey

def resolve : ChannelKey → Except Error Channel
  | channel c => .ok c
  | named name => demand (.unknownName .visualProperty name) (Channel.ofName? name)

end ChannelKey

namespace Styling

/-- Sets a channel that marks of the type have. -/
def setChannel (r : Registry) (type : Option MarkType) (fields : FieldSet) (s : Styling)
    (c : Channel) (v : ValueSpec) : Except Error Styling :=
  if c.validFor type then do
    let v ← inPlace (.channel c) (v.resolve r fields)
    return s.set c v
  else .error (.refused (.channelType c type))

/-- Sets a channel under one of its names. -/
def setKey (r : Registry) (type : Option MarkType) (fields : FieldSet) (s : Styling)
    (key : ChannelKey) (v : ValueSpec) : Except Error Styling := do
  let c ← key.resolve
  s.setChannel r type fields c v

def edit (r : Registry) (type : Option MarkType) (fields : FieldSet) (s : Styling)
    (e : ChannelEdit) : Except Error Styling :=
  match s.setKey r type fields e.key e.value, e.lenient with
  | .error _, true => .ok s
  | result, _ => result

/-- The styling that edits make, the first refused one deciding. -/
def ofEdits (r : Registry) (type : Option MarkType) (fields : FieldSet)
    (edits : List ChannelEdit) : Except Error Styling :=
  edits.foldlM (edit r type fields) empty

end Styling

namespace Mark

/-- Refuses to change the context once a transform has been resolved in it. -/
def expectNoTransforms (m : Mark) (what : String) : Except Error Unit :=
  match m.origin with
  | some ⟨_, _ :: _⟩ => .error (.refused (.afterTransforms what))
  | _ => .ok ()

def setData (r : Registry) (m : Mark) (name : String) : Except Error Mark := do
  m.expectNoTransforms "data"
  let d ← inPlace .markData (r.expectData name)
  return { m with
    fields := d.fields
    origin := some { m.origin.getD {} with data := some name } }

def setGroup (m group : Mark) : Except Error Mark := do
  m.expectNoTransforms "enclosing group"
  if group.isGroup then return { m with fields := group.fields }
  else .error (.refused (.notAGroup group.type))

def addTransform (r : Registry) (m : Mark) (t : Transform) : Except Error Mark := do
  let (t, fields) ← t.attach r.known m.fields
  let origin := m.origin.getD {}
  return { m with
    fields
    origin := some { origin with transforms := origin.transforms ++ [t] } }

def apply (r : Registry) (m : Mark) : MarkCall → Except Error Mark
  | .name name => .ok { m with name := some name }
  | .description text => .ok { m with description := some text }
  | .fromData name => m.setData r name
  | .within group => m.setGroup group
  | .fromTransform t => m.addTransform r t
  | .style state edits => do
    let s ← Styling.ofEdits r (some m.type) m.fields edits
    return { m with states := m.states.set s state }
  | .key field => .ok { m with key := some (resolveField m.fields field) }
  | .delay value => do return { m with delay := some (← value.resolve r m.fields) }
  | .ease easing =>
    if Easing.isEasing easing then .ok { m with ease := some easing }
    else .error (.refused (.unknownName .easing easing))
  | .scales new =>
    match m.body with
    | .group scales axes marks => .ok { m with body := .group (scales ++ new) axes marks }
    | .plain type _ => .error (.refused (.groupOnly "scales" type))
  | .axes new =>
    match m.body with
    | .group scales axes marks => .ok { m with body := .group scales (axes ++ new) marks }
    | .plain type _ => .error (.refused (.groupOnly "axes" type))
  | .marks new =>
    match m.body with
    | .group scales axes marks => .ok { m with body := .group scales axes (marks ++ new) }
    | .plain type _ => .error (.refused (.groupOnly "marks" type))

end Mark

namespace Registry

/-- Registers a mark whose name, if it has one, is not blank. -/
def addMark (r : Registry) (m : Mark) : Except Error (Registry × Mark) :=
  if m.name.any Text.isBlank then .error (.refused (.blankName "Mark"))
  else do return (← r.registerMark m, m)

/-- Builds and registers a mark. -/
def buildMark (r : Registry) (type : MarkType) (calls : List MarkCall) :
    Except Failure (Registry × Mark) := do
  let draft ← applyAll (Mark.apply r) (Mark.ofType type) calls
  finishing calls r.addMark draft

end Registry

end ChartSpec
