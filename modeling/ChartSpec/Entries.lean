/-!
# Ordered entries

Objects, property sets and option lists keep their keys in the order in which the keys first
came.  They are lists of pairs.  `put` writes a key: a new key goes to the end, a known key
keeps its place and takes the new value.  The keys never repeat when they did not before.
-/

namespace ChartSpec

namespace Entries

variable {κ α : Type} [DecidableEq κ]

/-- The value under a key. -/
def find? (key : κ) : List (κ × α) → Option α
  | [] => none
  | (k, v) :: rest => if k = key then some v else find? key rest

/-- Writes a value under a key, in the key's old place or at the end. -/
def put (key : κ) (value : α) : List (κ × α) → List (κ × α)
  | [] => [(key, value)]
  | (k, v) :: rest =>
    if k = key then (key, value) :: rest else (k, v) :: put key value rest

/-- The keys, in order. -/
def keys (entries : List (κ × α)) : List κ :=
  entries.map Prod.fst

/-! ## Lemmas -/

theorem find?_put_self (key : κ) (value : α) (entries : List (κ × α)) :
    find? key (put key value entries) = some value := by
  induction entries with
  | nil => simp [put, find?]
  | cons e rest ih => by_cases h : e.1 = key <;> simp [put, find?, h, ih]

theorem find?_put_of_ne {key other : κ} (value : α) (entries : List (κ × α)) (h : other ≠ key) :
    find? other (put key value entries) = find? other entries := by
  induction entries with
  | nil => simp [put, find?, h.symm]
  | cons e rest ih =>
    by_cases hk : e.1 = key
    · simp [put, find?, hk, h.symm]
    · simp [put, find?, hk, ih]

theorem keys_put (key : κ) (value : α) (entries : List (κ × α)) :
    keys (put key value entries) =
      if key ∈ keys entries then keys entries else keys entries ++ [key] := by
  induction entries with
  | nil => simp [put, keys]
  | cons e rest ih =>
    by_cases h : e.1 = key
    · subst h
      simp [put, keys]
    · have h' : key ≠ e.1 := fun he => h he.symm
      simp only [keys] at ih
      by_cases hm : key ∈ rest.map Prod.fst
      · simp [put, keys, h, h', hm, ih]
      · simp [put, keys, h, h', hm, ih]

theorem mem_put {key : κ} {value : α} {entries : List (κ × α)} {e : κ × α}
    (h : e ∈ put key value entries) : e = (key, value) ∨ e ∈ entries := by
  induction entries with
  | nil => exact Or.inl (List.mem_singleton.1 h)
  | cons e' rest ih =>
    rw [put] at h
    split at h
    · rcases List.mem_cons.1 h with h | h
      · exact Or.inl h
      · exact Or.inr (List.mem_cons_of_mem _ h)
    · rcases List.mem_cons.1 h with h | h
      · exact Or.inr (h ▸ List.mem_cons_self)
      · rcases ih h with h | h
        · exact Or.inl h
        · exact Or.inr (List.mem_cons_of_mem _ h)

theorem nodup_keys_put (key : κ) (value : α) {entries : List (κ × α)}
    (h : (keys entries).Nodup) : (keys (put key value entries)).Nodup := by
  rw [keys_put]
  split
  · exact h
  · next hm =>
    refine List.nodup_append.2 ⟨h, by simp, ?_⟩
    intro a ha b hb hab
    simp only [List.mem_singleton] at hb
    exact hm (hb ▸ hab ▸ ha)

end Entries

end ChartSpec
