import ChartSpec.Attribute
import ChartSpec.Proofs.Entries

/-!
# Collecting values

As long as no two attributes are spelled alike in the document, they are collected one by one, each
under the spelling of the document, and those that are undefined are left out
(`Attributes.collect_eq`).  So the document has under each name what the attribute is collected to
(`Attributes.get?_collect`).
-/

namespace ChartSpec

/-- The entries of an object as the document spells them. -/
def Entries.toCamel (entries : List (String × Json)) : List (String × Json) :=
  entries.map fun e => (ChartSpec.toCamel e.1, e.2)

/-- The names of attributes in the spelling of the document. -/
def Attributes.keys (as : Attributes) : List String := as.map fun e => toCamel e.1

/-- The attributes that are defined, with their values, in the spelling of the document. -/
def Attributes.defined (as : Attributes) : List (String × Json) :=
  as.filterMap fun e => e.2.collect.map fun v => (toCamel e.1, v)

/-! ## Lemmas -/

theorem Attribute.collect_value {v : Json} (h : v ≠ .null) : (value v).collect = some v := by
  cases v with
  | null => exact absurd rfl h
  | _ => rfl

namespace Attributes

theorem defined_cons (name : String) (a : Attribute) (rest : Attributes) :
    defined ((name, a) :: rest) =
      (a.collect.map fun v => (toCamel name, v)).toList ++ defined rest := by
  unfold defined
  rw [List.filterMap_cons]
  cases a.collect <;> rfl

theorem find?_defined_of_not_mem {key : String} {as : Attributes} (h : key ∉ as.keys) :
    Entries.find? key as.defined = none := by
  induction as with
  | nil => rfl
  | cons e rest ih =>
    obtain ⟨hne, hrest⟩ := List.ne_and_not_mem_of_not_mem_cons h
    rw [defined_cons]
    cases e.2.collect with
    | none => exact ih hrest
    | some v =>
      show (if toCamel e.1 = key then some v else Entries.find? key (defined rest)) = none
      rw [if_neg hne.symm, ih hrest]

theorem find?_defined {name : String} {a : Attribute} {as : Attributes} (hkeys : as.keys.Nodup)
    (h : (name, a) ∈ as) : Entries.find? (toCamel name) as.defined = a.collect := by
  induction as with
  | nil => cases h
  | cons e rest ih =>
    obtain ⟨hfresh, hnodup⟩ := List.nodup_cons.1 hkeys
    rw [defined_cons]
    rcases List.mem_cons.1 h with rfl | h
    · cases ha : a.collect with
      | none => exact find?_defined_of_not_mem hfresh
      | some v =>
        show (if toCamel name = toCamel name then some v else _) = some v
        rw [if_pos rfl]
    · have hne : toCamel e.1 ≠ toCamel name :=
        fun heq => hfresh (List.mem_map.2 ⟨(name, a), h, heq.symm⟩)
      cases e.2.collect with
      | none => exact ih hnodup h
      | some v =>
        show (if toCamel e.1 = toCamel name then some v else _) = _
        rw [if_neg hne]
        exact ih hnodup h

end Attributes

/-- Attributes with names of their own go to the end, the defined ones. -/
theorem Attribute.collectEntries_eq {object : List (String × Json)} {as : Attributes}
    (h : (Entries.keys object ++ as.keys).Nodup) :
    collectEntries object as = object ++ as.defined := by
  induction as generalizing object with
  | nil => simp [collectEntries, Attributes.defined]
  | cons e rest ih =>
    have hsplit : Entries.keys object ++ Attributes.keys (e :: rest) =
        Entries.keys object ++ [toCamel e.1] ++ Attributes.keys rest := by
      simp [Attributes.keys]
    rw [collectEntries, Attributes.defined_cons]
    cases ha : e.2.collect with
    | none =>
      refine ih (h.sublist ?_)
      exact List.Sublist.append_left (List.sublist_cons_self _ _) _
    | some v =>
      have hfresh : toCamel e.1 ∉ Entries.keys object :=
        fun hmem => (List.nodup_append.1 h).2.2 _ hmem _ List.mem_cons_self rfl
      have hkeys : Entries.keys (object ++ [(toCamel e.1, v)]) =
          Entries.keys object ++ [toCamel e.1] := by
        simp [Entries.keys]
      show collectEntries (Entries.put (toCamel e.1) v object) rest = _
      rw [Entries.put_of_not_mem hfresh, ih (by rwa [hkeys, ← hsplit]), List.append_assoc]
      rfl

/-- No part of a list is left out. -/
theorem Attributes.collectItems_nodes (parts : List Attributes) :
    Attribute.collectItems (parts.map .node) = parts.map collect := by
  induction parts with
  | nil => rfl
  | cons part rest ih =>
    rw [List.map_cons, Attribute.collectItems, ih]
    rfl

theorem Attributes.defined_ofJson {entries : List (String × Json)}
    (hnull : ∀ e ∈ entries, e.2 ≠ .null) :
    defined (ofJson (.obj entries)) = Entries.toCamel entries := by
  induction entries with
  | nil => rfl
  | cons e rest ih =>
    obtain ⟨he, hrest⟩ := List.forall_mem_cons.1 hnull
    show defined ((e.1, .value e.2) :: ofJson (.obj rest)) = _
    rw [defined_cons, Attribute.collect_value he, ih hrest]
    rfl

theorem Attributes.keys_ofJson (entries : List (String × Json)) :
    keys (ofJson (.obj entries)) = Entries.keys (Entries.toCamel entries) := by
  simp [keys, ofJson, Entries.keys, Entries.toCamel]

/-! ## Top theorems -/

namespace Attributes

theorem collect_eq {as : Attributes} (h : as.keys.Nodup) : as.collect = .obj as.defined :=
  congrArg Json.obj (Attribute.collectEntries_eq h)

/-- What the document has under the name of an attribute. -/
theorem get?_collect {name : String} {a : Attribute} {as : Attributes} (hkeys : as.keys.Nodup)
    (h : (name, a) ∈ as) : as.collect.get? (toCamel name) = a.collect := by
  rw [collect_eq hkeys]
  exact find?_defined hkeys h

theorem get?_collect_of_not_mem {key : String} {as : Attributes} (hkeys : as.keys.Nodup)
    (h : key ∉ as.keys) : as.collect.get? key = none := by
  rw [collect_eq hkeys]
  exact find?_defined_of_not_mem h

theorem collect_ofJson {entries : List (String × Json)}
    (hnull : ∀ e ∈ entries, e.2 ≠ .null)
    (hkeys : (Entries.keys (Entries.toCamel entries)).Nodup) :
    (ofJson (.obj entries)).collect = .obj (Entries.toCamel entries) := by
  rw [collect_eq (by rwa [keys_ofJson]), defined_ofJson hnull]

end Attributes

end ChartSpec
