import ChartSpec.Entries

/-!
# What entries hold

Entries whose keys do not repeat are known by their keys and by what is found under each
(`Entries.eq_of_find?_eq`).
-/

namespace ChartSpec

namespace Entries

variable {κ α : Type} [DecidableEq κ] {key : κ} {value : α} {entries entries' : List (κ × α)}

theorem mem_of_find? (h : find? key entries = some value) : (key, value) ∈ entries := by
  induction entries with
  | nil => cases h
  | cons e rest ih =>
    rw [find?] at h
    split at h
    · rename_i hkey
      cases h
      exact hkey ▸ List.mem_cons_self
    · exact List.mem_cons_of_mem e (ih h)

theorem find?_of_mem (hkeys : (keys entries).Nodup) (h : (key, value) ∈ entries) :
    find? key entries = some value := by
  induction entries with
  | nil => cases h
  | cons e rest ih =>
    obtain ⟨hfresh, hrest⟩ := List.nodup_cons.1 hkeys
    rcases List.mem_cons.1 h with rfl | h
    · exact if_pos rfl
    · have hne : e.1 ≠ key := fun heq => hfresh (heq ▸ List.mem_map_of_mem (f := Prod.fst) h)
      rw [find?, if_neg hne]
      exact ih hrest h

theorem find?_eq_none : find? key entries = none ↔ key ∉ keys entries := by
  induction entries with
  | nil => simp [find?, keys]
  | cons e rest ih =>
    by_cases he : e.1 = key
    · simp [find?, keys, he]
    · rw [find?, if_neg he, ih]
      simp [keys, Ne.symm he]

/-- A new key goes to the end. -/
theorem put_of_not_mem (h : key ∉ keys entries) :
    put key value entries = entries ++ [(key, value)] := by
  induction entries with
  | nil => rfl
  | cons e rest ih =>
    obtain ⟨hne, hrest⟩ := not_or.1 (fun hmem => h (List.mem_cons.2 hmem))
    rw [put, if_neg (Ne.symm hne), ih hrest, List.cons_append]

theorem eq_of_find?_eq (hsame : keys entries = keys entries') (hkeys : (keys entries).Nodup)
    (hfind : ∀ key ∈ keys entries, find? key entries = find? key entries') :
    entries = entries' := by
  induction entries generalizing entries' with
  | nil => exact (List.map_eq_nil_iff.1 hsame.symm).symm
  | cons e rest ih =>
    obtain ⟨k, v⟩ := e
    obtain ⟨hfresh, hnodup⟩ := List.nodup_cons.1 hkeys
    match entries' with
    | (k', v') :: rest' =>
      obtain ⟨rfl, hrest⟩ := List.cons_eq_cons.1 hsame
      have hfirst := hfind _ List.mem_cons_self
      rw [find?, find?, if_pos rfl, if_pos rfl, Option.some.injEq] at hfirst
      rw [hfirst, ih hrest hnodup]
      -- Under other keys nothing is found in the first entry.
      intro key hkey
      have hne : k ≠ key := fun heq => hfresh (heq ▸ hkey)
      have hlater := hfind key (List.mem_cons_of_mem _ hkey)
      rwa [find?, find?, if_neg hne, if_neg hne] at hlater

end Entries

end ChartSpec
