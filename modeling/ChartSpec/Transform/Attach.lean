import ChartSpec.Field.Reference
import ChartSpec.Transform.Check

/-!
# Attaching transforms

A transform is attached in a field context, beside data sets whose own fields are known.  It is
checked, the data sets that it reads must be registered, and its field names are resolved: each
becomes the place of the value in the records that come in.  Behind the transform the context
has the fields that it adds.
-/

namespace ChartSpec

/-- The fields of the registered data sets. -/
abbrev KnownData := String → Option FieldSet

/-- The fields of a data set that must be registered. -/
def KnownData.demand (known : KnownData) (name : String) : Except Error FieldSet :=
  ChartSpec.demand (.notRegistered .data name) (known name)

/-- Refuses the name of a data set that is not registered. -/
def KnownData.check (known : KnownData) (property name : String) : Except Error Unit :=
  inPlace (.dataProperty property) ((known.demand name).map fun _ => ())

/-- Refuses a property that names data sets which are not registered. -/
def Slot.validate (known : KnownData) {p : Property} (slot : Slot p) : Except Error Unit :=
  if p.role = .data then slot.texts.forM (known.check p.name) else .ok ()

/-- Refuses a record that names data sets which are not registered. -/
def Record.validate (known : KnownData) : {ps : List Property} → Record ps → Except Error Unit
  | _, .nil => .ok ()
  | _, .cons slot rest => do
    slot.validate known
    Record.validate known rest

/-- Resolves the field names of a property.  `other` finds the texts of another property. -/
def Slot.resolve (known : KnownData) (fields : FieldSet) (other : String → Option String)
    {p : Property} (slot : Slot p) : Except Error (Slot p) :=
  match p.role with
  | .plain => .ok slot
  | .data => .ok slot
  | .field => .ok (slot.map (p.shape.mapTexts (resolveField fields)))
  | .sortKey => .ok (slot.map (p.shape.mapTexts (resolveSortKey fields)))
  | .fieldOf property =>
    match slot, other property with
    | .given v, some name => do
      let theirs ← known.demand name
      return .given (p.shape.mapTexts (resolveField theirs) v)
    | slot, _ => .ok slot

/-- Resolves the field names of a record. -/
def Record.resolve (known : KnownData) (fields : FieldSet) (other : String → Option String) :
    {ps : List Property} → Record ps → Except Error (Record ps)
  | _, .nil => .ok .nil
  | _, .cons slot rest => do
    let slot ← slot.resolve known fields other
    return .cons slot (← Record.resolve known fields other rest)

namespace Transform

/-- Refuses a transform that reads data sets which are not registered. -/
def validate (known : KnownData) (t : Transform) : Except Error Unit :=
  Record.validate known t.record

/-- Resolves the field names of a transform. -/
def resolve (known : KnownData) (fields : FieldSet) (t : Transform) : Except Error Transform := do
  return ⟨t.kind, ← Record.resolve known fields t.record.text? t.record⟩

/-- Attaches a transform in a context: the resolved transform and the context behind it. -/
def attach (known : KnownData) (fields : FieldSet) (t : Transform) :
    Except Error (Transform × FieldSet) := do
  inPlace (.transform t.kind) do
    t.check
    t.validate known
  let resolved ← inPlace (.fieldsOf t.kind) (t.resolve known fields)
  return (resolved, fields.extend resolved.outputs)

end Transform

end ChartSpec
