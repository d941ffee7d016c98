import ChartSpec.Field.Reference
import ChartSpec.Proofs.Distinct

/-!
# Ordered sets of fields

A set of fields is made by additions: a name, several names, or all names of another set.  Whatever
is added one after the other comes to one list of names, and the set holds its first occurrences in
their order (`FieldSet.names_run`).  So a set only grows at its end, and a name that was added once
is found as it is from then on (`FieldSet.run_ordered`).

    added                                      the set
    data, index    y, y2, y    index, z        data index y y2 z
-/

namespace ChartSpec

namespace FieldSet

/-- Adds names to a set. -/
inductive Addition where
  | insert (field : String)
  | extend (fields : List String)
  | union (other : FieldSet)

/-- The names that an addition brings, in order. -/
def Addition.fields : Addition → List String
  | insert field => [field]
  | extend fields => fields
  | union other => other.names

def add (s : FieldSet) : Addition → FieldSet
  | .insert field => s.insert field
  | .extend fields => s.extend fields
  | .union other => s.union other

/-- Makes all additions. -/
def run (s : FieldSet) (additions : List Addition) : FieldSet := additions.foldl add s

/-! ## Lemmas -/

/-! ### Adding names -/

theorem prefix_insert (s : FieldSet) (field : String) : s.names <+: (s.insert field).names := by
  unfold insert
  split
  · exact List.prefix_rfl
  · exact List.prefix_append _ _

theorem prefix_extend (s : FieldSet) (fields : List String) :
    s.names <+: (s.extend fields).names := by
  induction fields generalizing s with
  | nil => exact List.prefix_rfl
  | cons field rest ih =>
    have hrest : (s.insert field).names <+: (s.extend (field :: rest)).names := ih (s.insert field)
    exact (s.prefix_insert field).trans hrest

theorem extend_extend (s : FieldSet) (fields more : List String) :
    (s.extend fields).extend more = s.extend (fields ++ more) := List.foldl_append.symm

theorem insert_of_mem {s : FieldSet} {field : String} (h : field ∈ s.names) :
    s.insert field = s := dif_pos h

theorem names_insert_of_not_mem {s : FieldSet} {field : String} (h : field ∉ s.names) :
    (s.insert field).names = s.names ++ [field] := by
  rw [insert, dif_neg h]

theorem extend_of_subset {s : FieldSet} {fields : List String} (h : fields ⊆ s.names) :
    s.extend fields = s := by
  induction fields with
  | nil => rfl
  | cons field rest ih =>
    obtain ⟨hfield, hrest⟩ := List.cons_subset.1 h
    show (s.insert field).extend rest = s
    rw [insert_of_mem hfield, ih hrest]

/-- Extending a set appends the new names and removes later repetitions. -/
theorem names_extend (s : FieldSet) (fields : List String) :
    (s.extend fields).names = (s.names ++ fields).eraseDups := by
  induction fields generalizing s with
  | nil =>
    rw [List.append_nil, eraseDups_of_nodup s.nodup]
    rfl
  | cons field rest ih =>
    show ((s.insert field).extend rest).names = _
    rw [ih]
    by_cases hfield : field ∈ s.names
    · rw [insert_of_mem hfield, eraseDups_append_cons_of_mem hfield]
    · rw [names_insert_of_not_mem hfield, List.append_assoc, List.singleton_append]

/-- Names that are new and different from each other all go to the end. -/
theorem names_extend_of_nodup {s : FieldSet} {fields : List String}
    (h : (s.names ++ fields).Nodup) : (s.extend fields).names = s.names ++ fields := by
  rw [names_extend, eraseDups_of_nodup h]

/-- Behind a set come the new names, each one once. -/
theorem names_extend_new (s : FieldSet) (fields : List String) :
    (s.extend fields).names = s.names ++ (fields.filter (· ∉ s.names)).eraseDups := by
  have hnew : fields.removeAll s.names = fields.filter (· ∉ s.names) := by
    unfold List.removeAll
    exact List.filter_congr fun field _ => by simp
  rw [names_extend, List.eraseDups_append, eraseDups_of_nodup s.nodup, hnew]

theorem eq_of_names_eq {s t : FieldSet} (h : s.names = t.names) : s = t := by
  cases s
  cases t
  cases h
  rfl

/-- A set that another one begins with adds nothing in front of it. -/
theorem union_of_prefix {s t : FieldSet} (h : s.names <+: t.names) : s.union t = t := by
  obtain ⟨rest, hrest⟩ := h
  have hextend : s.union t = s.extend rest := by
    show t.names.foldl insert s = rest.foldl insert s
    rw [← hrest, List.foldl_append]
    congr 1
    exact extend_of_subset (List.Subset.refl s.names)
  refine eq_of_names_eq ?_
  rw [hextend, names_extend_of_nodup (hrest ▸ t.nodup), hrest]

/-! ### Unions -/

theorem names_union (s t : FieldSet) :
    (s.union t).names = s.names ++ t.names.filter (· ∉ s.names) := by
  rw [union, names_extend_new, eraseDups_of_nodup (t.nodup.filter _)]

/-- Repetitions are left out anyway. -/
theorem extend_eraseDups (s : FieldSet) (fields : List String) :
    s.extend fields.eraseDups = s.extend fields := by
  apply eq_of_names_eq
  rw [names_extend_new, names_extend_new, eraseDups_filter, eraseDups_filter,
    eraseDups_of_nodup (nodup_eraseDups fields)]

theorem union_assoc (s t u : FieldSet) : (s.union t).union u = s.union (t.union u) := by
  have hnames : (t.union u).names = (t.names ++ u.names).eraseDups := names_extend t u.names
  rw [union, union, extend_extend, union, hnames, extend_eraseDups]

theorem union_self (s : FieldSet) : s.union s = s := extend_of_subset (List.Subset.refl s.names)

theorem empty_union (s : FieldSet) : empty.union s = s := union_of_prefix List.nil_prefix

/-! ### Runs -/

theorem add_eq_extend (s : FieldSet) (a : Addition) : s.add a = s.extend a.fields := by
  cases a <;> rfl

/-- All additions come to one. -/
theorem run_eq_extend (s : FieldSet) (additions : List Addition) :
    s.run additions = s.extend (additions.flatMap Addition.fields) := by
  induction additions generalizing s with
  | nil => rfl
  | cons a rest ih =>
    show (s.add a).run rest = _
    rw [ih, add_eq_extend, extend_extend, List.flatMap_cons]

theorem run_append (s : FieldSet) (additions more : List Addition) :
    s.run (additions ++ more) = (s.run additions).run more := List.foldl_append

theorem names_run (s : FieldSet) (additions : List Addition) :
    (s.run additions).names = (s.names ++ additions.flatMap Addition.fields).eraseDups := by
  rw [run_eq_extend, names_extend]

theorem prefix_run (s : FieldSet) (additions : List Addition) :
    s.names <+: (s.run additions).names := by
  rw [run_eq_extend]
  exact s.prefix_extend _

/-! ## Top theorem -/

/-- Additions lead to the names that were there or were added, each at its first place, so that no
name is there twice, the order is that of the first additions, and further additions change nothing
in front of them.  Each of these names is found under itself, whatever other names there are.  Sets
may be united in any grouping, a set with itself or with the empty set stays, and the union is the
first set and then the names of the second that are new. -/
theorem run_ordered (s : FieldSet) (additions : List Addition) :
    let given := s.names ++ additions.flatMap Addition.fields
    let made := s.run additions
    made.names = given.eraseDups ∧ made.names.Nodup ∧
    (∀ f, f ∈ made.names ↔ f ∈ s.names ∨ ∃ a ∈ additions, f ∈ a.fields) ∧
    (∀ f g, made.names.idxOf f < made.names.idxOf g ↔ given.idxOf f < given.idxOf g) ∧
    (∀ more, made.names <+: (s.run (additions ++ more)).names) ∧
    (∀ f ∈ given, ∀ more, (s.run (additions ++ more)).lookup f = some f) ∧
    (∀ t u : FieldSet, (s.union t).union u = s.union (t.union u)) ∧
    s.union s = s ∧ empty.union s = s ∧ s.union empty = s ∧
    ∀ t : FieldSet, (s.union t).names = s.names ++ t.names.filter (· ∉ s.names) := by
  intro given made
  have hnames : made.names = given.eraseDups := names_run s additions
  have hbegins : ∀ more, made.names <+: (s.run (additions ++ more)).names := by
    intro more
    rw [run_append]
    exact made.prefix_run more
  refine ⟨hnames, made.nodup, ?_, ?_, hbegins, ?_, s.union_assoc, s.union_self, s.empty_union, rfl,
    s.names_union⟩
  · intro f
    rw [hnames, List.mem_eraseDups, List.mem_append, List.mem_flatMap]
  · intro f g
    rw [hnames]
    exact idxOf_eraseDups_lt_iff f g given
  · intro f hf more
    have hmade : f ∈ made.names := by rwa [hnames, List.mem_eraseDups]
    exact if_pos ((hbegins more).subset hmade)

theorem run_ordered_structural :
    let more : List Addition := [.union ((empty.insert "index").insert "z"), .insert "y_2"]
    (structural.run (.extend ["y", "y2", "y"] :: more)).names =
      ["data", "index", "y", "y2", "z", "y_2"] ∧
    ["data", "index", "y", "y2"] <+: (structural.run (.extend ["y", "y2", "y"] :: more)).names ∧
    (structural.run (.extend ["y", "y2", "y"] :: more)).lookup "y2" = some "y2" ∧
    (structural.run (.extend ["y", "y2", "y"] :: more)).lookup "y_2" = some "y_2" := by
  intro more
  obtain ⟨hnames, -, -, -, -, hlookup, -⟩ :=
    run_ordered structural (.extend ["y", "y2", "y"] :: more)
  obtain ⟨-, -, -, -, hbegins, -⟩ := run_ordered structural [.extend ["y", "y2", "y"]]
  have hlast := hlookup "y_2" (by decide) []
  rw [List.append_nil] at hlast
  have hearlier := hlookup "y2" (by decide) []
  rw [List.append_nil] at hearlier
  exact ⟨hnames, hbegins more, hearlier, hlast⟩

end FieldSet

end ChartSpec
