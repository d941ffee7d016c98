import ChartSpec.Proofs.Naming.PlainWords
import Mathlib.Algebra.BigOperators.Group.List.Basic
import Mathlib.Data.List.Nodup
import Mathlib.Data.List.SplitBy

/-!
# From the spelling of the document back

In the spelling of the document the words of a name begin at its capitals.  They are told apart
again if a small letter stands between two capitals or behind the second; otherwise a word runs on
into the next one, and their underscore does not come back (`IsJoined.toList_toSnake_toCamel`):

    stroke_dash_offset   strokeDashOffset   stroke_dash_offset
    a_b_cd               aBCd               a_b_cd
    a_b_c                aBC                a_bc
    a_b1_c2              aB1C2              a_b1c2
-/

namespace ChartSpec

namespace Naming

/-- A letter, and digits at most. -/
def isInitial (w : List Char) : Bool := w.tail.all Char.isDigit

/-- Whether a word runs on into the next one if both begin with capitals. -/
def runsOn (w next : List Char) : Bool := isInitial w && !isLaterWord next

/-- Nothing follows, or a capital does. -/
def StopsWord (s : List Char) : Prop := ∀ c ∈ s.head?, IsCapital c

/-! ## Lemmas -/

/-! ### Modes -/

theorem after_of_isLower {c : Char} (h : c.isLower = true) (mode : Mode) :
    mode.after c = .lower := if_pos (isLetter_of_isLower h).isLower

theorem after_of_capital {c : Char} (h : IsCapital c) (mode : Mode) : mode.after c = .upper := by
  simp [Mode.after, h.notLower, h.isUpper]

theorem after_of_isDigit {c : Char} (h : c.isDigit = true) (mode : Mode) : mode.after c = mode := by
  have hnumeral := isNumeral_of_isDigit h
  simp [Mode.after, hnumeral.notLower, hnumeral.notUpper]

/-- Lower case stays the mode where no capital comes. -/
theorem foldl_after_lower {s : List Char} (hs : ∀ c ∈ s, Text.isUpper c = false) :
    s.foldl Mode.after .lower = .lower := by
  induction s with
  | nil => rfl
  | cons c s ih =>
    obtain ⟨hc, hs⟩ := List.forall_mem_cons.1 hs
    have hafter : Mode.after .lower c = .lower := by
      unfold Mode.after
      simp [hc]
    rw [List.foldl_cons, hafter, ih hs]

theorem foldl_after_of_isLower {s : List Char} (hs : ∀ c ∈ s, Text.isUpper c = false) {c : Char}
    (hc : c ∈ s) (hlower : c.isLower = true) (mode : Mode) :
    s.foldl Mode.after mode = .lower := by
  obtain ⟨before, behind, rfl⟩ := List.append_of_mem hc
  rw [List.foldl_append, List.foldl_cons, after_of_isLower hlower]
  exact foldl_after_lower fun d hd => hs d (by simp [hd])

/-! ### Reading on -/

/-- Behind lower case a word ends. -/
theorem wordsAfter_append_stop {s rest : List Char} (hs : ∀ c ∈ s, Text.isUpper c = false)
    (hne : s ≠ []) {mode : Mode} (hmode : s.foldl Mode.after mode = .lower)
    (hrest : StopsWord rest) (word : List Char) :
    wordsAfter mode word (s ++ rest) = (word ++ s) :: wordsAfter .boundary [] rest := by
  cases rest with
  | nil =>
    rw [List.append_nil, wordsAfter_of_not_upper hs mode (by simp [hne])]
    rfl
  | cons capital rest =>
    have hcapital := (hrest capital rfl).isUpper
    induction s generalizing mode word with
    | nil => exact absurd rfl hne
    | cons c s ih =>
      obtain ⟨hc, hs⟩ := List.forall_mem_cons.1 hs
      rw [List.foldl_cons] at hmode
      cases s with
      | nil =>
        have hcut : mode.after c = .lower ∧ Text.isUpper capital = true := ⟨hmode, hcapital⟩
        rw [List.singleton_append, wordsAfter, if_pos hcut]
      | cons next s =>
        have hnext : Text.isUpper next = false := hs next List.mem_cons_self
        rw [List.cons_append, List.cons_append, wordsAfter, if_neg (by simp [hnext]),
          if_neg (by simp [hc]), ← List.cons_append, ih hs (by simp) hmode]
        simp

/-- Digits are never cut off behind capitals. -/
theorem wordsAfter_digits {s : List Char} (hs : ∀ c ∈ s, c.isDigit = true)
    (word rest : List Char) :
    wordsAfter .upper word (s ++ rest) = wordsAfter .upper (word ++ s) rest := by
  induction s generalizing word with
  | nil => rw [List.nil_append, List.append_nil]
  | cons c s ih =>
    obtain ⟨hc, hs⟩ := List.forall_mem_cons.1 hs
    have hstep : ∀ t, wordsAfter .upper word (c :: t) = wordsAfter .upper (word ++ [c]) t := by
      intro t
      cases t with
      | nil => simp [wordsAfter]
      | cons next t =>
        simp [wordsAfter, after_of_isDigit hc, (isNumeral_of_isDigit hc).notUpper]
    rw [List.cons_append, hstep, ih hs, List.append_assoc, List.singleton_append]

/-- A capital is read on to if there is none before it or no small letter behind it. -/
theorem wordsAfter_capital {capital : Char} (hcapital : IsCapital capital) {mode : Mode}
    {word rest : List Char} (hrest : mode = .upper → ∀ c ∈ rest.head?, Text.isLower c = false) :
    wordsAfter mode word (capital :: rest) = wordsAfter .upper (word ++ [capital]) rest := by
  cases rest with
  | nil => simp [wordsAfter]
  | cons next rest =>
    have hcut : ¬(mode = .upper ∧ Text.isUpper capital = true ∧ Text.isLower next = true) := by
      rintro ⟨hmode, -, hnext⟩
      rw [hrest hmode next rfl] at hnext
      cases hnext
    rw [wordsAfter, after_of_capital hcapital, if_neg (by simp), if_neg hcut]

/-! ### Words with capitals -/

theorem capitalWord_eq {c : Char} {rest : List Char} (h : IsWord (c :: rest)) :
    capitalWord (c :: rest) = c.toUpper :: rest ∧ IsCapital c.toUpper ∧
      Text.lower c.toUpper = [c] := by
  obtain ⟨_, _, heq, hc, -⟩ := id h
  obtain ⟨rfl, rfl⟩ := List.cons.inj heq
  have hletter := isLetter_of_isLower hc
  have hrest : lowerWord rest = rest := lowerWord_of_lower fun d hd =>
    (h.isPlain d (List.mem_cons_of_mem c hd)).lower
  exact ⟨by rw [capitalWord, hletter.upper, hrest, List.singleton_append], hletter.capital,
    hletter.back⟩

theorem alphanumeric_capitalWord {w : List Char} (h : IsWord w) :
    ∀ c ∈ capitalWord w, Text.isAlphanumeric c = true := by
  obtain ⟨c, rest, rfl, -⟩ := id h
  obtain ⟨hword, hcapital, -⟩ := capitalWord_eq h
  rw [hword]
  exact List.forall_mem_cons.2 ⟨hcapital.alphanumeric, (List.forall_mem_cons.1 h.alphanumeric).2⟩

theorem sigma_not_mem_capitalWord {w : List Char} (h : IsWord w) : 'Σ' ∉ capitalWord w := by
  have hplain := h.isPlain
  obtain ⟨c, rest, rfl, -⟩ := id h
  obtain ⟨hword, hcapital, -⟩ := capitalWord_eq h
  rw [hword, List.mem_cons, not_or]
  exact ⟨hcapital.ne_sigma.symm, fun hsigma =>
    ne_sigma_of_lower (hplain 'Σ' (List.mem_cons_of_mem c hsigma)).lower rfl⟩

/-- Lower case undoes the capital. -/
theorem flatMap_lower_capitalWord {w : List Char} (h : IsWord w) :
    (capitalWord w).flatMap Text.lower = w := by
  have hplain := h.isPlain
  obtain ⟨c, rest, rfl, -⟩ := id h
  obtain ⟨hword, -, hback⟩ := capitalWord_eq h
  have hrest : ∀ d ∈ rest, Text.lower d = [d] := fun d hd =>
    (hplain d (List.mem_cons_of_mem c hd)).lower
  rw [hword, List.flatMap_cons, hback, List.flatMap_congr hrest, List.flatMap_singleton',
    List.singleton_append]

theorem stopsWord_nil : StopsWord [] := by simp [StopsWord]

theorem stopsWord_append {ws : List (List Char)} (h : ∀ w ∈ ws, IsWord w) {rest : List Char}
    (hrest : StopsWord rest) : StopsWord (ws.flatMap capitalWord ++ rest) := by
  cases ws with
  | nil => exact hrest
  | cons w ws =>
    have hw := h w List.mem_cons_self
    obtain ⟨c, s, rfl, -⟩ := id hw
    obtain ⟨hword, hcapital, -⟩ := capitalWord_eq hw
    simp [StopsWord, hword, hcapital]

/-- A small letter behind a capital does not begin a word, so the capital does. -/
theorem wordsAfter_later {w : List Char} (h : IsLaterWord w) (word rest : List Char) :
    wordsAfter .upper word (capitalWord w ++ rest) =
      word :: wordsAfter .boundary [] (capitalWord w ++ rest) := by
  have hw := h.isWord
  obtain ⟨c, d, s, rfl, -, hd, -⟩ := h
  obtain ⟨hword, hcapital, -⟩ := capitalWord_eq hw
  have hletter := isLetter_of_isLower hd
  -- The small letter sets the mode, whatever it has been.
  have hmode : ∀ t, wordsAfter .boundary [c.toUpper] (d :: t) =
      wordsAfter .upper [c.toUpper] (d :: t) := by
    intro t
    cases t with
    | nil => rfl
    | cons next t => simp [wordsAfter, after_of_isLower hd, hletter.notUpper]
  have hbegin : ∀ t, wordsAfter .boundary [] (c.toUpper :: d :: t) =
      wordsAfter .boundary [c.toUpper] (d :: t) := by
    intro t
    rw [wordsAfter_capital hcapital (by simp), hmode, List.nil_append]
  rw [hword, List.cons_append, List.cons_append, hbegin, wordsAfter,
    if_neg (by simp [hletter.notUpper]), if_pos ⟨rfl, hcapital.isUpper, hletter.isLower⟩]

/-- A word that is read on to ends at the next capital if a small letter has come. -/
theorem wordsAfter_word {w rest : List Char} (h : IsWord w) (hrest : StopsWord rest) {mode : Mode}
    (hmode : mode = .upper → isLaterWord w = false) (word : List Char) :
    wordsAfter mode word (capitalWord w ++ rest) =
      if isInitial w then wordsAfter .upper (word ++ capitalWord w) rest
      else (word ++ capitalWord w) :: wordsAfter .boundary [] rest := by
  obtain ⟨c, s, rfl, hc, hs⟩ := id h
  obtain ⟨hword, hcapital, -⟩ := capitalWord_eq h
  have hnext : mode = .upper → ∀ d ∈ (s ++ rest).head?, Text.isLower d = false := by
    intro hupper d hd
    cases s with
    | nil => exact (hrest d hd).notLower
    | cons e s =>
      obtain rfl : e = d := Option.some.inj hd
      rcases hs e List.mem_cons_self with hsmall | hdigit
      · have hlater : IsLaterWord (c :: e :: s) :=
          ⟨c, e, s, rfl, hc, hsmall, fun f hf => hs f (List.mem_cons_of_mem e hf)⟩
        rw [isLaterWord_iff.2 hlater] at hmode
        cases hmode hupper
      · exact (isNumeral_of_isDigit hdigit).notLower
  rw [hword, List.cons_append, wordsAfter_capital hcapital hnext]
  cases hinitial : isInitial (c :: s) with
  | true =>
    have hdigits : ∀ d ∈ s, d.isDigit = true := List.all_eq_true.1 hinitial
    rw [wordsAfter_digits hdigits, if_pos rfl, List.append_assoc, List.singleton_append]
  | false =>
    obtain ⟨d, hd, hdigit⟩ := List.all_eq_false.1 hinitial
    have hsmall : d.isLower = true := (hs d hd).resolve_right hdigit
    have hupper : ∀ e ∈ s, Text.isUpper e = false := (List.forall_mem_cons.1 h.notUpper).2
    rw [wordsAfter_append_stop hupper (List.ne_nil_of_mem hd)
      (foldl_after_of_isLower hupper hd hsmall _) hrest, List.append_assoc,
      List.singleton_append, if_neg (by simp)]

/-! ### Blocks of words that run on -/

section

variable {α : Type}

/-- Blocks that are no fewer than what stands in them have one thing each. -/
theorem eq_map_singleton {blocks : List (List α)} (hne : [] ∉ blocks)
    (hlength : blocks.flatten.length ≤ blocks.length) : blocks = blocks.flatten.map ([·]) := by
  induction blocks with
  | nil => rfl
  | cons block blocks ih =>
    obtain ⟨hblock, hnext⟩ := List.ne_and_not_mem_of_not_mem_cons hne
    obtain ⟨a, rest, rfl⟩ := List.exists_cons_of_ne_nil hblock.symm
    have hle : blocks.length ≤ blocks.flatten.length := by
      rw [List.length_flatten, ← List.length_map (f := List.length)]
      refine List.length_le_sum_of_one_le _ ?_
      rw [List.forall_mem_map]
      intro block hmem
      exact List.length_pos_iff.2 fun hnil => hnext (hnil ▸ hmem)
    rw [List.flatten_cons, List.length_append, List.length_cons, List.length_cons] at hlength
    obtain rfl : rest = [] := List.length_eq_zero_iff.1 (by omega)
    have htail := ih hnext (by omega)
    rw [List.flatten_cons, List.singleton_append, List.map_cons, ← htail]

theorem splitBy_eq_map_iff {r : α → α → Bool} {l : List α} :
    l.splitBy r = l.map ([·]) ↔ l.IsChain fun a b => r a b = false := by
  rw [List.splitBy_eq_iff, List.isChain_map]
  simp [← List.flatMap_def]

theorem length_flatMap_cons {β : Type} (b : β) (f : α → List β) (l : List α) :
    (l.flatMap fun a => b :: f a).length = l.length + (l.flatMap f).length := by
  induction l with
  | nil => rfl
  | cons a l ih =>
    simp only [List.flatMap_cons, List.length_append, List.length_cons, ih]
    omega

end

/-- Words that run on are read as one, up to where the last of them ends. -/
theorem wordsAfter_block {w : List Char} {ws : List (List Char)} {rest : List Char}
    (hwords : ∀ v ∈ w :: ws, IsWord v) (hruns : (w :: ws).IsChain fun v next => runsOn v next)
    (hrest : StopsWord rest)
    (hends : isInitial ((w :: ws).getLast (by simp)) = true → ∀ word ≠ [],
      wordsAfter .upper word rest = word :: wordsAfter .boundary [] rest) {mode : Mode}
    (hmode : mode = .upper → isLaterWord w = false) (word : List Char) :
    wordsAfter mode word ((w :: ws).flatMap capitalWord ++ rest) =
      (word ++ (w :: ws).flatMap capitalWord) :: wordsAfter .boundary [] rest := by
  induction ws generalizing w mode word with
  | nil =>
    have hw := hwords w List.mem_cons_self
    rw [List.flatMap_singleton, wordsAfter_word hw hrest hmode]
    split
    · rename_i hinitial
      obtain ⟨c, s, rfl, -⟩ := id hw
      exact hends hinitial _ (by simp [(capitalWord_eq hw).1])
    · rfl
  | cons next ws ih =>
    obtain ⟨hw, hwords⟩ := List.forall_mem_cons.1 hwords
    obtain ⟨hrun, hruns⟩ := List.isChain_cons_cons.1 hruns
    obtain ⟨hinitial, hnext⟩ := Bool.and_eq_true_iff.1 hrun
    rw [List.flatMap_cons, List.append_assoc,
      wordsAfter_word hw (stopsWord_append hwords hrest) hmode, if_pos hinitial,
      ih hwords hruns hends (fun _ => by simpa using hnext), List.append_assoc]

theorem wordsAfter_blocks {blocks : List (List (List Char))} (hne : [] ∉ blocks)
    (hwords : ∀ w ∈ blocks.flatten, IsWord w)
    (hruns : ∀ block ∈ blocks, block.IsChain fun w next => runsOn w next)
    (hbreaks : blocks.IsChain fun block next =>
      ∃ h h', runsOn (block.getLast h) (next.head h') = false) :
    wordsAfter .boundary [] (blocks.flatten.flatMap capitalWord) =
      blocks.map (·.flatMap capitalWord) := by
  induction blocks with
  | nil => rfl
  | cons block blocks ih =>
    obtain ⟨hblock, hnext⟩ := List.ne_and_not_mem_of_not_mem_cons hne
    obtain ⟨w, ws, rfl⟩ := List.exists_cons_of_ne_nil hblock.symm
    rw [List.flatten_cons, List.forall_mem_append] at hwords
    obtain ⟨hrun, hruns⟩ := List.forall_mem_cons.1 hruns
    have hrest := stopsWord_append hwords.2 stopsWord_nil
    rw [List.append_nil] at hrest
    have hends : isInitial ((w :: ws).getLast (by simp)) = true → ∀ word ≠ [],
        wordsAfter .upper word (blocks.flatten.flatMap capitalWord) =
          word :: wordsAfter .boundary [] (blocks.flatten.flatMap capitalWord) := by
      intro hinitial word hword
      cases blocks with
      | nil => simp [wordsAfter, hword]
      | cons next blocks =>
        obtain ⟨⟨_, hnil, hbreak⟩, -⟩ := List.isChain_cons_cons.1 hbreaks
        obtain ⟨v, vs, rfl⟩ := List.exists_cons_of_ne_nil hnil
        have hlater : isLaterWord v = true := by simpa [runsOn, hinitial] using hbreak
        rw [List.flatten_cons, List.cons_append, List.flatMap_cons]
        exact wordsAfter_later (isLaterWord_iff.1 hlater) word _
    rw [List.flatten_cons, List.flatMap_append,
      wordsAfter_block hwords.1 hrun hrest hends (by simp), List.nil_append,
      ih hnext hwords.2 hruns hbreaks.tail, List.map_cons]

theorem lowerWord_capitals {ws : List (List Char)} (h : ∀ w ∈ ws, IsWord w) :
    lowerWord (ws.flatMap capitalWord) = ws.flatten := by
  have hsigma : 'Σ' ∉ ws.flatMap capitalWord := by
    intro hmem
    obtain ⟨w, hw, hmem⟩ := List.mem_flatMap.1 hmem
    exact sigma_not_mem_capitalWord (h w hw) hmem
  rw [lowerWord_eq_flatMap hsigma, List.flatMap_assoc,
    List.flatMap_congr fun w hw => flatMap_lower_capitalWord (h w hw), List.flatMap_id']

namespace IsJoined

variable {name : String} {first : List Char} {later : List (List Char)}
  (h : IsJoined name.toList first later)
include h

theorem isWord_of_mem_splitBy {block : List (List Char)} (hblock : block ∈ later.splitBy runsOn) :
    ∀ w ∈ block, IsWord w := by
  intro w hw
  have hmem := List.mem_flatten_of_mem hblock hw
  rw [List.flatten_splitBy] at hmem
  exact h.isWord_later w hmem

theorem words_toCamel :
    words (toCamel name) = first :: (later.splitBy runsOn).map (·.flatMap capitalWord) := by
  have halphanumeric : ∀ c ∈ (toCamel name).toList, Text.isAlphanumeric c = true := by
    rw [h.toList_toCamel, List.forall_mem_append]
    refine ⟨h.isWord_first.alphanumeric, fun c hc => ?_⟩
    obtain ⟨w, hw, hc⟩ := List.mem_flatMap.1 hc
    exact alphanumeric_capitalWord (h.isWord_later w hw) c hc
  have hstretches := stretches_append halphanumeric (rfl : stretches [] = [[]])
  have hfirst : first.foldl Mode.after .boundary = .lower := by
    obtain ⟨c, rest, rfl, hc, -⟩ := id h.isWord_first
    exact foldl_after_of_isLower h.isWord_first.notUpper List.mem_cons_self hc _
  have hstop := stopsWord_append h.isWord_later stopsWord_nil
  have hblocks : wordsAfter .boundary [] (later.flatMap capitalWord) =
      (later.splitBy runsOn).map (·.flatMap capitalWord) := by
    have hread := wordsAfter_blocks (List.nil_notMem_splitBy runsOn later)
      (by rw [List.flatten_splitBy]; exact h.isWord_later) (fun _ => List.isChain_of_mem_splitBy)
      (List.isChain_getLast_head_splitBy runsOn later)
    rwa [List.flatten_splitBy] at hread
  rw [List.append_nil] at hstretches hstop
  rw [words, hstretches, List.flatMap_singleton, h.toList_toCamel,
    wordsAfter_append_stop h.isWord_first.notUpper h.isWord_first.ne_nil hfirst hstop, hblocks,
    List.nil_append]

/-- Words that run on come back without their underscore. -/
theorem toList_toSnake_toCamel : (toSnake (toCamel name)).toList =
    first ++ (later.splitBy runsOn).flatMap fun block => '_' :: block.flatten := by
  have hblocks : ∀ block ∈ later.splitBy runsOn,
      '_' :: lowerWord (block.flatMap capitalWord) = '_' :: block.flatten := by
    intro block hblock
    rw [lowerWord_capitals (h.isWord_of_mem_splitBy hblock)]
  rw [toSnake, String.toList_ofList, h.words_toCamel, joinUnderscores_cons,
    h.isWord_first.lowerWord_eq, List.flatMap_map, List.flatMap_congr hblocks]

/-- A name comes back exactly if no word of it runs on. -/
theorem toSnake_toCamel_eq_iff :
    toSnake (toCamel name) = name ↔ later.IsChain fun w next => runsOn w next = false := by
  have hback := h.toList_toSnake_toCamel
  rw [← splitBy_eq_map_iff]
  constructor
  · intro heq
    have hlengths : (later.splitBy runsOn).length = later.length := by
      rw [heq, h.name_eq] at hback
      have hsame := congrArg List.length (List.append_cancel_left hback)
      rw [length_flatMap_cons, length_flatMap_cons] at hsame
      have hflatten : (later.splitBy runsOn).flatMap List.flatten = later.flatMap id := by
        rw [← List.flatten_eq_flatMap, List.flatMap_def, ← List.flatten_flatten,
          List.flatten_splitBy]
      rw [hflatten] at hsame
      exact (Nat.add_right_cancel hsame).symm
    have halone := eq_map_singleton (List.nil_notMem_splitBy runsOn later)
    rw [List.flatten_splitBy] at halone
    exact halone hlengths.ge
  · intro halone
    rw [halone, List.flatMap_map] at hback
    rw [← String.toList_inj, hback, h.name_eq]
    simp

end IsJoined

end Naming

/-- Names of plain words come back from the spelling of the document. -/
theorem toSnake_toCamel {name : String} (h : Naming.IsBuilt name.toList) :
    toSnake (toCamel name) = name := by
  obtain ⟨first, later, hjoined, hlater⟩ := h.exists_isJoined
  refine hjoined.toSnake_toCamel_eq_iff.2 (List.Pairwise.isChain ?_)
  refine List.pairwise_of_forall_mem_list fun w _ next hnext => ?_
  simp [Naming.runsOn, Naming.isLaterWord_iff.2 (hlater next hnext)]

/-- Different names of plain words are spelled differently in the document. -/
theorem nodup_map_toCamel {names : List String} (hbuilt : names.all Naming.isBuilt = true)
    (hnodup : names.Nodup) : (names.map toCamel).Nodup := by
  have hback : ∀ name ∈ names, (toSnake ∘ toCamel) name = id name := fun name hname =>
    toSnake_toCamel (Naming.isBuilt_of_check (List.all_eq_true.1 hbuilt name hname))
  refine List.Nodup.of_map toSnake ?_
  rw [List.map_map, List.map_congr_left hback, List.map_id]
  exact hnodup

/-! ## Top theorem -/

/-- A name comes back from the spelling of the document if its later words begin with two small
letters, so no two such names are spelled alike there.  Of all names of plain words those come back
that have no word running on: nowhere does a letter with digits at most stand before a word whose
second character is no small letter. -/
theorem toSnake_toCamel_laws (name : String) :
    (Naming.IsBuilt name.toList → toSnake (toCamel name) = name ∧
      ∀ other, Naming.IsBuilt other.toList → toCamel other = toCamel name → other = name) ∧
    ∀ first later, Naming.IsJoined name.toList first later →
      (toSnake (toCamel name) = name ↔
        later.IsChain fun w next => Naming.runsOn w next = false) := by
  refine ⟨fun h => ⟨toSnake_toCamel h, fun other hother heq => ?_⟩,
    fun first later hjoined => hjoined.toSnake_toCamel_eq_iff⟩
  calc other = toSnake (toCamel other) := (toSnake_toCamel hother).symm
    _ = toSnake (toCamel name) := by rw [heq]
    _ = name := toSnake_toCamel h

theorem toSnake_toCamel_laws_initials :
    (toSnake (toCamel "stroke_dash_offset") = "stroke_dash_offset" ∧
      toCamel "strokedash_offset" ≠ toCamel "stroke_dash_offset") ∧
    toSnake (toCamel "a_b_cd") = "a_b_cd" ∧ toSnake (toCamel "a_b_c") ≠ "a_b_c" := by
  have hbuilt : Naming.IsBuilt "stroke_dash_offset".toList := Naming.isBuilt_of_check (by decide)
  have hother : Naming.IsBuilt "strokedash_offset".toList := Naming.isBuilt_of_check (by decide)
  obtain ⟨hback, hinjective⟩ := (toSnake_toCamel_laws "stroke_dash_offset").1 hbuilt
  have hinitials : ∀ w, Naming.isWord w = true →
      Naming.IsJoined ('a' :: '_' :: 'b' :: '_' :: w) ['a'] [['b'], w] := by
    intro w hw
    have hletter : ∀ c : Char, c.isLower = true → Naming.IsWord [c] := fun c hc =>
      ⟨c, [], rfl, hc, nofun⟩
    refine ⟨by simp, hletter 'a' rfl, ?_⟩
    simpa using ⟨hletter 'b' rfl, Naming.isWord_iff.1 hw⟩
  have hlast := (toSnake_toCamel_laws "a_b_cd").2 _ _ (hinitials ['c', 'd'] rfl)
  have hruns := (toSnake_toCamel_laws "a_b_c").2 _ _ (hinitials ['c'] rfl)
  exact ⟨⟨hback, fun heq => absurd (hinjective _ hother heq) (by decide)⟩,
    hlast.2 (by decide), hruns.not.2 (by decide)⟩

end ChartSpec
