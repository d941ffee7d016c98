import ChartSpec.Arguments
import ChartSpec.Text.WordCharacter
import ChartSpec.Transform.Decode

/-!
# Rules for transforms

What a transform must satisfy beyond the shapes of its properties.  `Transform.ofProperties`
makes a transform from an object of properties and checks it.
-/

namespace ChartSpec

namespace Rule

/-- A rotation is a field, or an object with one mode over a list of angles. -/
def checkRotation (property : String) : Json → Except Error Unit
  | .str _ => .ok ()
  | .obj entries => do
    let (mode, angles) ← Arguments.single property entries
    if mode ≠ "random" ∧ mode ≠ "alternate" then .error (.refused (.rotateMode mode))
    else match angles with
      | .arr items =>
        if (Json.leavesOf items).all Json.isNumber then .ok ()
        else .error (.refused .rotateAngles)
      | _ => .error (.refused .rotateAngles)
  | v => .error (.refused (.rotateShape v))

/-- Whether an expression mentions the record. -/
def checkDatum (property expression : String) : Except Error Unit :=
  if Text.hasWord "d" expression then .ok ()
  else .error (.refused (.datumMissing property expression))

/-- Checks a value of a property against its rule. -/
def check (r : Rule) (property : String) (s : Shape) (v : s.Value) : Except Error Unit :=
  match r with
  | free => .ok ()
  | datum => (s.textsOf v).forM (checkDatum property)
  | count expected =>
    match s.numberCount? v with
    | some n => if n = expected then .ok () else .error (.refused (.valueCount property expected n))
    | none => .ok ()
  | unitInterval =>
    match s.number? v with
    | some x => if x.inUnitInterval then .ok () else .error (.refused (.linkTension x))
    | none => .ok ()
  | rotation =>
    match s.json? v with
    | some j => checkRotation property j
    | none => .ok ()

end Rule

/-- Checks a property that is given. -/
def Slot.check {p : Property} : Slot p → Except Error Unit
  | .given v => p.rule.check p.name p.shape v
  | .absent _ => .ok ()

/-- Checks the properties in order. -/
def Record.check : {ps : List Property} → Record ps → Except Error Unit
  | _, .nil => .ok ()
  | _, .cons slot rest => do
    slot.check
    Record.check rest

namespace Transform

/-- A copy gives as many names as it has fields, if it gives any. -/
def checkCopy (t : Transform) : Except Error Unit :=
  match t.kind, Record.texts? "as" t.record with
  | .copy, some names =>
    let fields := (Record.texts? "fields" t.record).getD []
    if names.length = fields.length then .ok ()
    else .error (.refused (.copyNames fields.length names.length))
  | _, _ => .ok ()

/-- Checks a transform by itself. -/
def check (t : Transform) : Except Error Unit := do
  t.record.check
  t.checkCopy

/-- Makes a transform from an object of properties, or from null for no properties. -/
def ofProperties (kind : TransformKind) (properties : Json) : Except Error Transform :=
  match properties with
  | .null => make []
  | .obj entries => make entries
  | v => .error (.refused (.propertiesShape kind v))
where
  make (entries : List (String × Json)) : Except Error Transform :=
    if (Entries.find? "type" entries).isSome then .error (.refused .typeKey)
    else inPlace (.transform kind) <|
      match ofEntries kind entries with
      | .error e => .error (.refused (.decoding e))
      | .ok t => do
        t.check
        return t

end Transform

end ChartSpec
