import ChartSpec.Transform.Property

/-!
# Records of properties

A row has one entry for each property of a list.  A record is a row of slots: every property is
given or absent, and only optional ones are absent.  So a record has no other values than those
that the properties allow.
-/

namespace ChartSpec

/-- What a record holds for a property. -/
inductive Slot (p : Property) where
  | given (value : p.shape.Value)
  | absent (optional : p.required = false)
  deriving DecidableEq

/-- One entry for each property. -/
inductive Row (F : Property → Type) : List Property → Type where
  | nil : Row F []
  | cons {p : Property} {ps : List Property} (entry : F p) (rest : Row F ps) : Row F (p :: ps)

/-- A value or its absence for each property. -/
abbrev Record := Row Slot

namespace Row

/-- Equal entries make equal rows. -/
def decEq {F : Property → Type} [∀ p, DecidableEq (F p)] :
    {ps : List Property} → (r s : Row F ps) → Decidable (r = s)
  | _, nil, nil => isTrue rfl
  | _, cons a r, cons b s =>
    match decEq r s with
    | isFalse h => isFalse (by intro e; cases e; exact h rfl)
    | isTrue h =>
      if h' : a = b then isTrue (by rw [h, h']) else isFalse (by intro e; cases e; exact h' rfl)

instance {F : Property → Type} [∀ p, DecidableEq (F p)] {ps : List Property} :
    DecidableEq (Row F ps) := decEq

/-- The row whose entries depend on the property alone. -/
def fill {F : Property → Type} (entry : (p : Property) → F p) : (ps : List Property) → Row F ps
  | [] => nil
  | p :: ps => cons (entry p) (fill entry ps)

end Row

namespace Slot

def value? {p : Property} : Slot p → Option p.shape.Value
  | given v => some v
  | absent _ => none

/-- Changes a value that is given. -/
def map {p : Property} (f : p.shape.Value → p.shape.Value) : Slot p → Slot p
  | given v => given (f v)
  | absent h => absent h

/-- The entry of a written record. -/
def encode {p : Property} : Slot p → List (String × Json)
  | given v => [(p.name, p.shape.encode v)]
  | absent _ => []

/-- The texts of a value that is given. -/
def texts {p : Property} : Slot p → List String
  | given v => p.shape.textsOf v
  | absent _ => []

end Slot

namespace Record

/-- The record written as entries of an object: the given values in order. -/
def encode : {ps : List Property} → Record ps → List (String × Json)
  | _, .nil => []
  | _, .cons slot rest => slot.encode ++ encode rest

/-- The texts under a property, if it is given. -/
def texts? (name : String) : {ps : List Property} → Record ps → Option (List String)
  | _, .nil => none
  | p :: _, .cons slot rest =>
    if p.name = name then slot.value?.map p.shape.textsOf else texts? name rest

/-- The text under a property, if it is given. -/
def text? {ps : List Property} (r : Record ps) (name : String) : Option String :=
  (texts? name r).bind List.head?

/-- The texts under the properties of a role, in order. -/
def textsOfRole (role : Role) : {ps : List Property} → Record ps → List String
  | _, .nil => []
  | p :: _, .cons slot rest =>
    if p.role = role then slot.texts ++ textsOfRole role rest else textsOfRole role rest

end Record

end ChartSpec
