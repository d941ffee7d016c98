import ChartSpec.Field.Set
import ChartSpec.Naming

/-!
# Field references

A token names a field, or a data set and a field of it.  Resolving it gives the place of the
value in a record: the record's position `index`, the name of a field that a transform has
added, or `data.` and the name of a user's field.
-/

namespace ChartSpec

namespace FieldSet

/-- The stored name of a field.  The name itself comes first; a name with an underscore is also
found under its other spelling.  Case never folds. -/
def lookup (s : FieldSet) (field : String) : Option String :=
  if field ∈ s.names then some field
  else if '_' ∈ field.toList ∧ toCamel field ∈ s.names then some (toCamel field)
  else none

def contains (s : FieldSet) (field : String) : Bool := (s.lookup field).isSome

end FieldSet

/-- A token taken apart. -/
structure FieldReference where
  source : Option String
  field : Option String
  /-- Whether the source names a data set and not the record's data. -/
  qualified : Bool
  deriving DecidableEq

namespace FieldReference

/-- The characters before the first point and those behind it. -/
def splitPoint (s : List Char) : Option (List Char × List Char) :=
  match s.dropWhile (· != '.') with
  | [] => none
  | _ :: rest => some (s.takeWhile (· != '.'), rest)

def nonEmpty (s : String) : Option String := if s = "" then none else some s

/-- Reads a token whose first part names a data set. -/
def parseQualified (token : String) : FieldReference :=
  match splitPoint token.toList with
  | some (source, field) =>
    ⟨some (String.ofList source), nonEmpty (String.ofList field), true⟩
  | none => ⟨some token, none, true⟩

/-- Reads a token about the records of a known data set; without a point it is a field. -/
def parseField (token : String) : FieldReference :=
  match splitPoint token.toList with
  | some (source, field) =>
    ⟨some (String.ofList source), nonEmpty (String.ofList field), false⟩
  | none => ⟨none, nonEmpty token, false⟩

/-- The place of a field among the added ones or under the user's data. -/
def place (fields : FieldSet) (field : String) : String :=
  (fields.lookup field).getD ("data." ++ field)

/-- The place that a reference means.  No field, and the field `index`, mean the position.  An
unqualified source `data` means the user's field whatever has been added.  The structural names
on their own mean themselves. -/
def resolve (r : FieldReference) (fields : FieldSet) : String :=
  match r.field with
  | none => "index"
  | some field =>
    if field = "index" then "index"
    else if r.source = some "data" ∧ r.qualified = false then "data." ++ field
    else if r.source = none ∧ field ∈ FieldSet.structural.names then field
    else place fields field

end FieldReference

/-- Resolves a field of the records of a known data set. -/
def resolveField (fields : FieldSet) (token : String) : String :=
  (FieldReference.parseField token).resolve fields

/-- Resolves a field behind the name of its data set. -/
def resolveQualified (fields : FieldSet) (token : String) : String :=
  (FieldReference.parseQualified token).resolve fields

/-- Resolves a sort key; the minus sign of descending order stays. -/
def resolveSortKey (fields : FieldSet) (token : String) : String :=
  match token.toList with
  | '-' :: rest => "-" ++ resolveField fields (String.ofList rest)
  | _ => resolveField fields token

end ChartSpec
