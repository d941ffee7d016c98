/-!
# Sets of fields

The names of the fields that records hold beside the user's data, in the order in which they
came in.  No name is in a set twice.
-/

namespace ChartSpec

/-- An ordered set of field names. -/
structure FieldSet where
  names : List String
  nodup : names.Nodup
  deriving DecidableEq

namespace FieldSet

theorem nodup_append_of_not_mem {names : List String} {field : String} (h : names.Nodup)
    (hf : field ∉ names) : (names ++ [field]).Nodup :=
  List.nodup_append.2 ⟨h, by simp, fun a ha b hb hab => by
    simp only [List.mem_singleton] at hb
    exact hf (hb ▸ hab ▸ ha)⟩

def empty : FieldSet := ⟨[], List.nodup_nil⟩

/-- The record's data and its position, which every record has. -/
def structural : FieldSet := ⟨["data", "index"], by decide⟩

/-- Adds a name at the end unless it is there. -/
def insert (s : FieldSet) (field : String) : FieldSet :=
  if h : field ∈ s.names then s else ⟨s.names ++ [field], nodup_append_of_not_mem s.nodup h⟩

/-- Adds names one after the other. -/
def extend (s : FieldSet) (fields : List String) : FieldSet :=
  fields.foldl insert s

/-- The names of the first set, then those of the second that are new. -/
def union (s t : FieldSet) : FieldSet := s.extend t.names

def size (s : FieldSet) : Nat := s.names.length

def isEmpty (s : FieldSet) : Bool := s.names.isEmpty

end FieldSet

end ChartSpec
