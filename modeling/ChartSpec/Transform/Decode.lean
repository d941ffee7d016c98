import ChartSpec.Transform.Basic

/-!
# Reading transforms

A record is read from the entries of an object.  Entries are taken in their order and the first
one that does not fit decides; missing properties are looked for at the end.  Null stands for
the absence of an optional property.  A property may come under one of its spellings only once.

A transform on its own carries its kind as the entry `type`, or as the first item of an array
whose other items are the properties by position.
-/

namespace ChartSpec

/-- What has been read for a property. -/
abbrev Seen (p : Property) := Option (Slot p)

/-- Reads the value of a property. -/
def Slot.decode (p : Property) (v : Json) : Except DecodeError (Slot p) :=
  match v, h : p.required with
  | .null, false => .ok (.absent h)
  | v, _ => (p.shape.decode v).map .given

namespace Record

/-- Takes one entry. -/
def take (known : List String) (key : String) (v : Json) :
    {ps : List Property} → Row Seen ps → Except DecodeError (Row Seen ps)
  | _, .nil => .error (.unknownField key known)
  | p :: _, .cons entry rest =>
    if p.answersTo key then
      match entry with
      | some _ => .error (.duplicateField p.name)
      | none => do return .cons (some (← Slot.decode p v)) rest
    else do return .cons entry (← take known key v rest)

/-- The record, once all entries have been taken. -/
def close : {ps : List Property} → Row Seen ps → Except DecodeError (Record ps)
  | _, .nil => .ok .nil
  | p :: _, .cons entry rest =>
    match entry with
    | some slot => do return .cons slot (← close rest)
    | none =>
      if h : p.required = false then do return .cons (.absent h) (← close rest)
      else .error (.missingField p.name)

/-- Reads a record from entries. -/
def ofEntries (ps : List Property) (entries : List (String × Json)) :
    Except DecodeError (Record ps) := do
  let known := ps.flatMap Property.spellings
  let seen ← entries.foldlM (fun row e => take known e.1 e.2 row) (Row.fill (fun _ => none) ps)
  close seen

/-- Reads a record from items by position; every property needs one. -/
def ofItems (type : String) (count : Nat) :
    (ps : List Property) → List Json → Except DecodeError (Record ps)
  | [], [] => .ok .nil
  | [], rest => .error (.wrongLength (count + rest.length) (elements count ++ " in sequence"))
  | ps, [] => .error (.wrongLength count
      ("struct " ++ type ++ " with " ++ elements (count + ps.length)))
  | p :: ps, v :: rest => do
    let slot ← Slot.decode p v
    return .cons slot (← ofItems type (count + 1) ps rest)
where
  elements (n : Nat) : String := if n = 1 then "1 element" else toString n ++ " elements"

end Record

namespace Transform

/-- The kind that a value names. -/
def decodeKind : Json → Except DecodeError TransformKind
  | .str s =>
    match TransformKind.ofName? s with
    | some kind => .ok kind
    | none => .error (.unknownVariant s (TransformKind.all.map TransformKind.name))
  | v => .error (.mismatch v "variant identifier")

/-- Reads the properties of a kind. -/
def ofEntries (kind : TransformKind) (entries : List (String × Json)) :
    Except DecodeError Transform := do
  return ⟨kind, ← Record.ofEntries kind.properties entries⟩

/-- Reads a transform on its own.  The kind is read before any property, wherever it stands. -/
def decode : Json → Except DecodeError Transform
  | .obj entries =>
    match Entries.find? "type" entries with
    | none => .error (.missingField "type")
    | some v => do
      let kind ← decodeKind v
      ofEntries kind (entries.filter fun e => e.1 != "type")
  | .arr [] => .error (.missingField "type")
  | .arr (v :: items) => do
    let kind ← decodeKind v
    let record ← Record.ofItems (kind.name.capitalize ++ "TransformSpec") 0 kind.properties items
    return ⟨kind, record⟩
  | v => .error (.mismatch v "internally tagged enum TransformSpec")

end Transform

end ChartSpec
