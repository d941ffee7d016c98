import ChartSpec.Proofs.Text.Lower
import Mathlib.Data.List.Basic
import Mathlib.Tactic.MkIffOfInductiveProp

/-!
# Names of plain words

A plain word is a small letter with small letters and digits behind it.  A name of plain words has
exactly these words (`IsJoined.words_eq`), so it stays as it is in the spelling of the description
(`toSnake_of_isBuilt`), and in the spelling of the document the later words are written with
capitals instead of underscores (`IsJoined.toList_toCamel`).
-/

namespace ChartSpec

namespace Naming

/-- A small letter and then small letters and digits. -/
def IsWord (w : List Char) : Prop :=
  ∃ c rest, w = c :: rest ∧ c.isLower = true ∧
    ∀ d ∈ rest, d.isLower = true ∨ d.isDigit = true

/-- A word that begins with two small letters. -/
def IsLaterWord (w : List Char) : Prop :=
  ∃ c d rest, w = c :: d :: rest ∧ c.isLower = true ∧ d.isLower = true ∧
    ∀ e ∈ rest, e.isLower = true ∨ e.isDigit = true

/-- Words joined by single underscores. -/
def IsBuilt (name : List Char) : Prop :=
  ∃ (first : List Char) (later : List (List Char)),
    IsWord first ∧ (∀ w ∈ later, IsLaterWord w) ∧ name = first ++ later.flatMap ('_' :: ·)

def isWord : List Char → Bool
  | [] => false
  | c :: rest => c.isLower && rest.all fun d => d.isLower || d.isDigit

def isLaterWord : List Char → Bool
  | [] => false
  | c :: rest => c.isLower && isWord rest

/-- Checks a name for words joined by single underscores, without respelling it. -/
def isBuilt (name : String) : Bool :=
  match name.toList.splitOn '_' with
  | [] => false
  | first :: later => isWord first && later.all isLaterWord

/-- A first word and later ones, joined by single underscores. -/
structure IsJoined (name first : List Char) (later : List (List Char)) : Prop where
  name_eq : name = first ++ later.flatMap ('_' :: ·)
  isWord_first : IsWord first
  isWord_later : ∀ w ∈ later, IsWord w

/-! ## Lemmas -/

/-! ### Plain characters -/

/-- A letter or a number that is no capital and has no other lower-case form. -/
@[mk_iff]
structure IsPlain (c : Char) : Prop where
  notUpper : Text.isUpper c = false
  alphanumeric : Text.isAlphanumeric c = true
  lower : Text.lower c = [c]

@[mk_iff]
structure IsNumeral (c : Char) : Prop extends IsPlain c where
  notLower : Text.isLower c = false

@[mk_iff]
structure IsCapital (c : Char) : Prop where
  isUpper : Text.isUpper c = true
  notLower : Text.isLower c = false
  alphanumeric : Text.isAlphanumeric c = true
  ne_sigma : c ≠ 'Σ'

/-- A small letter with its capital. -/
@[mk_iff]
structure IsLetter (c : Char) : Prop extends IsPlain c where
  isLower : Text.isLower c = true
  upper : Text.upper c = [c.toUpper]
  capital : IsCapital c.toUpper
  back : Text.lower c.toUpper = [c]

instance : DecidablePred IsPlain := fun c => decidable_of_iff _ (isPlain_iff c).symm

instance : DecidablePred IsNumeral := fun c => decidable_of_iff _ (isNumeral_iff c).symm

instance : DecidablePred IsCapital := fun c => decidable_of_iff _ (isCapital_iff c).symm

instance : DecidablePred IsLetter := fun c => decidable_of_iff _ (isLetter_iff c).symm

theorem toNat_lt_of_isLower {c : Char} (h : c.isLower = true) : c.toNat < 128 := by
  have hbounds : (decide (c.val ≥ 'a'.val) && decide (c.val ≤ 'z'.val)) = true := h
  obtain ⟨-, hlast⟩ := Bool.and_eq_true_iff.1 hbounds
  exact Nat.lt_of_le_of_lt (UInt32.le_iff_toNat_le.1 (of_decide_eq_true hlast)) (by decide)

theorem toNat_lt_of_isDigit {c : Char} (h : c.isDigit = true) : c.toNat < 128 := by
  have hbounds : (decide (c.val ≥ '0'.val) && decide (c.val ≤ '9'.val)) = true := h
  obtain ⟨-, hlast⟩ := Bool.and_eq_true_iff.1 hbounds
  exact Nat.lt_of_le_of_lt (UInt32.le_iff_toNat_le.1 (of_decide_eq_true hlast)) (by decide)

/-- What holds of the first 128 characters is checked one by one. -/
theorem of_toNat_lt {P : Char → Prop} (h : ∀ n < 128, P (Char.ofNat n)) {c : Char}
    (hc : c.toNat < 128) : P c := by
  have hchecked := h c.toNat hc
  rwa [Char.ofNat_toNat] at hchecked

theorem isLetter_of_isLower {c : Char} (h : c.isLower = true) : IsLetter c :=
  of_toNat_lt (P := fun c => c.isLower = true → IsLetter c) (by decide +kernel)
    (toNat_lt_of_isLower h) h

theorem isNumeral_of_isDigit {c : Char} (h : c.isDigit = true) : IsNumeral c :=
  of_toNat_lt (P := fun c => c.isDigit = true → IsNumeral c) (by decide +kernel)
    (toNat_lt_of_isDigit h) h

theorem isPlain_of_isLower_or_isDigit {c : Char} (h : c.isLower = true ∨ c.isDigit = true) :
    IsPlain c := by
  rcases h with h | h
  · exact (isLetter_of_isLower h).toIsPlain
  · exact (isNumeral_of_isDigit h).toIsPlain

/-! ### Plain words -/

namespace IsWord

variable {w : List Char} (h : IsWord w)
include h

theorem isPlain : ∀ c ∈ w, IsPlain c := by
  obtain ⟨c, rest, rfl, hc, hrest⟩ := h
  exact List.forall_mem_cons.2 ⟨(isLetter_of_isLower hc).toIsPlain,
    fun d hd => isPlain_of_isLower_or_isDigit (hrest d hd)⟩

theorem notUpper : ∀ c ∈ w, Text.isUpper c = false := fun c hc => (h.isPlain c hc).notUpper

theorem alphanumeric : ∀ c ∈ w, Text.isAlphanumeric c = true :=
  fun c hc => (h.isPlain c hc).alphanumeric

theorem ne_nil : w ≠ [] := by
  obtain ⟨c, rest, rfl, -⟩ := h
  simp

end IsWord

theorem IsLaterWord.isWord {w : List Char} (h : IsLaterWord w) : IsWord w := by
  obtain ⟨c, d, rest, rfl, hc, hd, hrest⟩ := h
  exact ⟨c, d :: rest, rfl, hc, List.forall_mem_cons.2 ⟨.inl hd, hrest⟩⟩

theorem IsBuilt.exists_isJoined {name : List Char} (h : IsBuilt name) :
    ∃ first later, IsJoined name first later ∧ ∀ w ∈ later, IsLaterWord w := by
  obtain ⟨first, later, hfirst, hlater, rfl⟩ := h
  exact ⟨first, later, ⟨rfl, hfirst, fun w hw => (hlater w hw).isWord⟩, hlater⟩

/-- Only a sigma depends on what stands behind it. -/
theorem lowerWord_eq_flatMap {w : List Char} (h : 'Σ' ∉ w) : lowerWord w = w.flatMap Text.lower := by
  fun_induction lowerWord w with
  | case1 => rfl
  | case2 => exact absurd (List.mem_singleton_self 'Σ') h
  | case3 c hc => exact (List.flatMap_singleton Text.lower c).symm
  | case4 c rest hrest ih =>
    rw [ih (List.not_mem_of_not_mem_cons h), List.flatMap_cons]

theorem ne_sigma_of_lower {c : Char} (h : Text.lower c = [c]) : c ≠ 'Σ' := by
  rintro rfl
  exact absurd h (by decide +kernel)

theorem lowerWord_of_lower {w : List Char} (h : ∀ c ∈ w, Text.lower c = [c]) : lowerWord w = w := by
  rw [lowerWord_eq_flatMap fun hsigma => ne_sigma_of_lower (h 'Σ' hsigma) rfl,
    List.flatMap_congr h, List.flatMap_singleton']

theorem IsWord.lowerWord_eq {w : List Char} (h : IsWord w) : lowerWord w = w :=
  lowerWord_of_lower fun c hc => (h.isPlain c hc).lower

/-- Without capitals nothing is cut. -/
theorem wordsAfter_of_not_upper {s : List Char} (hs : ∀ c ∈ s, Text.isUpper c = false)
    (mode : Mode) {word : List Char} (hne : word ++ s ≠ []) :
    wordsAfter mode word s = [word ++ s] := by
  fun_induction wordsAfter mode word s with
  | case1 mode word hempty => simp_all
  | case2 mode word hempty => simp
  | case3 mode word c => rfl
  | case4 mode word c next rest hlower ih =>
    have hnext := hs next (by simp)
    rw [hnext] at hlower
    cases hlower.2
  | case5 mode word c next rest hlower hupper ih =>
    have hc := hs c List.mem_cons_self
    rw [hc] at hupper
    cases hupper.2.1
  | case6 mode word c next rest hlower hupper ih =>
    rw [ih (fun d hd => hs d (List.mem_cons_of_mem c hd)) (by simp), List.append_assoc,
      List.singleton_append]

/-! ### Names of plain words -/

theorem stretches_append {s rest w : List Char} {more : List (List Char)}
    (h : ∀ c ∈ s, Text.isAlphanumeric c = true) (hrest : stretches rest = w :: more) :
    stretches (s ++ rest) = (s ++ w) :: more := by
  induction s with
  | nil => exact hrest
  | cons c s ih =>
    obtain ⟨hc, hs⟩ := List.forall_mem_cons.1 h
    rw [List.cons_append, stretches, ih hs]
    simp [hc]

theorem stretches_underscore (rest : List Char) :
    stretches ('_' :: rest) = [] :: stretches rest := by
  obtain ⟨w, more, hrest⟩ := List.exists_cons_of_ne_nil (stretches_ne_nil rest)
  rw [stretches, hrest]
  simp [Text.isSeparator_underscore.cuts]

theorem stretches_join {first : List Char} {later : List (List Char)}
    (hfirst : ∀ c ∈ first, Text.isAlphanumeric c = true)
    (hlater : ∀ w ∈ later, ∀ c ∈ w, Text.isAlphanumeric c = true) :
    stretches (first ++ later.flatMap ('_' :: ·)) = first :: later := by
  induction later generalizing first with
  | nil => simpa using stretches_append hfirst (rfl : stretches [] = [[]])
  | cons w later ih =>
    obtain ⟨hw, hlater⟩ := List.forall_mem_cons.1 hlater
    have hrest := stretches_underscore (w ++ later.flatMap ('_' :: ·))
    rw [ih hw hlater] at hrest
    rw [List.flatMap_cons, List.cons_append, stretches_append hfirst hrest, List.append_nil]

theorem joinUnderscores_cons (w : List Char) (ws : List (List Char)) :
    joinUnderscores (w :: ws) = lowerWord w ++ ws.flatMap ('_' :: lowerWord ·) := by
  induction ws generalizing w with
  | nil => simp [joinUnderscores]
  | cons v ws ih =>
    rw [joinUnderscores, ih, List.flatMap_cons, List.cons_append]
    simp

namespace IsJoined

variable {name : String} {first : List Char} {later : List (List Char)}
  (h : IsJoined name.toList first later)
include h

theorem words_eq : words name = first :: later := by
  have hwords : ∀ w ∈ first :: later, IsWord w :=
    List.forall_mem_cons.2 ⟨h.isWord_first, h.isWord_later⟩
  have halone : (first :: later).flatMap (wordsAfter .boundary []) =
      (first :: later).flatMap fun w => [w] :=
    List.flatMap_congr fun w hw =>
      wordsAfter_of_not_upper (hwords w hw).notUpper .boundary (hwords w hw).ne_nil
  have hstretches := stretches_join h.isWord_first.alphanumeric fun w hw =>
    (h.isWord_later w hw).alphanumeric
  rw [words, h.name_eq, hstretches, halone, List.flatMap_singleton']

/-- The underscores go, and capitals come in their place. -/
theorem toList_toCamel : (toCamel name).toList = first ++ later.flatMap capitalWord := by
  by_cases hunderscore : '_' ∈ name.toList
  · rw [toCamel, if_pos hunderscore, String.toList_ofList, h.words_eq, joinCapitals,
      h.isWord_first.lowerWord_eq]
  · have hname := h.name_eq
    cases later with
    | nil => rw [toCamel, if_neg hunderscore, hname, List.flatMap_nil, List.flatMap_nil]
    | cons w later => exact absurd (by simp [hname]) hunderscore

theorem toSnake_eq : toSnake name = name := by
  have hjoined : later.flatMap ('_' :: lowerWord ·) = later.flatMap ('_' :: ·) :=
    List.flatMap_congr fun w hw => by rw [(h.isWord_later w hw).lowerWord_eq]
  rw [toSnake, h.words_eq, joinUnderscores_cons, h.isWord_first.lowerWord_eq, hjoined, ← h.name_eq,
    String.ofList_toList]

end IsJoined

/-! ### Checking names -/

theorem isWord_iff {w : List Char} : isWord w = true ↔ IsWord w := by
  cases w with
  | nil => simp [isWord, IsWord]
  | cons c rest =>
    simp only [isWord, Bool.and_eq_true, List.all_eq_true, Bool.or_eq_true]
    constructor
    · exact fun h => ⟨c, rest, rfl, h⟩
    · rintro ⟨_, _, heq, h⟩
      obtain ⟨rfl, rfl⟩ := List.cons.inj heq
      exact h

theorem isLaterWord_iff {w : List Char} : isLaterWord w = true ↔ IsLaterWord w := by
  cases w with
  | nil => simp [isLaterWord, IsLaterWord]
  | cons c rest =>
    rw [isLaterWord, Bool.and_eq_true, isWord_iff]
    constructor
    · rintro ⟨hc, d, rest, rfl, hd, hrest⟩
      exact ⟨c, d, rest, rfl, hc, hd, hrest⟩
    · rintro ⟨c, d, rest, heq, hc, hd, hrest⟩
      obtain ⟨rfl, rfl⟩ := List.cons.inj heq
      exact ⟨hc, d, rest, rfl, hd, hrest⟩

theorem intercalate_underscore (first : List Char) (later : List (List Char)) :
    ['_'].intercalate (first :: later) = first ++ later.flatMap ('_' :: ·) := by
  induction later generalizing first with
  | nil => simp
  | cons w later ih =>
    rw [List.intercalate_cons_cons, ih, List.flatMap_cons]
    simp

theorem isBuilt_of_check {name : String} (h : isBuilt name = true) : IsBuilt name.toList := by
  rw [isBuilt] at h
  split at h
  · cases h
  · rename_i first later hsplit
    obtain ⟨hfirst, hlater⟩ := Bool.and_eq_true_iff.1 h
    refine ⟨first, later, isWord_iff.1 hfirst,
      fun w hw => isLaterWord_iff.1 (List.all_eq_true.1 hlater w hw), ?_⟩
    rw [← intercalate_underscore, ← hsplit, List.intercalate_splitOn]

end Naming

/-! ## Top theorem -/

/-- Names of plain words have the spelling of the description. -/
theorem toSnake_of_isBuilt {name : String} (h : Naming.IsBuilt name.toList) :
    toSnake name = name := by
  obtain ⟨first, later, hjoined, -⟩ := h.exists_isJoined
  exact hjoined.toSnake_eq

end ChartSpec
