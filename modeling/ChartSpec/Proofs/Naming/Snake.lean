import ChartSpec.Proofs.Text.Lower
import Mathlib.Data.List.Basic

/-!
# The spelling of the description

Whatever name it is made from, a name in the spelling of the description is in lower case and has
its underscores between words (`isSnake_toSnake`):

    strokeDashOffset     stroke_dash_offset
    Count_               count
-/

namespace ChartSpec

namespace Naming

/-- Nothing in the name has another lower-case form, and its underscores stand one by one between
other characters. -/
structure IsSnake (name : List Char) : Prop where
  lower : ∀ c ∈ name, Text.lower c = [c]
  begins : name.head? ≠ some '_'
  ends : name.getLast? ≠ some '_'
  single : ¬ ['_', '_'] <:+: name

/-! ## Lemmas -/

/-! ### Words in lower case -/

/-- Upper case is the mode of a word that has begun. -/
theorem ne_nil_of_mem_wordsAfter {mode : Mode} {word s : List Char}
    (hword : mode = .upper → word ≠ []) : ∀ w ∈ wordsAfter mode word s, w ≠ [] := by
  fun_induction wordsAfter mode word s with
  | case1 mode word hempty => simp
  | case2 mode word hempty => simpa using hempty
  | case3 mode word c => simp
  | case4 mode word c next rest hlower ih =>
    rw [List.forall_mem_cons]
    exact ⟨by simp, ih (by simp)⟩
  | case5 mode word c next rest hlower hupper ih =>
    rw [List.forall_mem_cons]
    exact ⟨hword hupper.1, ih (by simp)⟩
  | case6 mode word c next rest hlower hupper ih => exact ih fun _ => by simp

theorem ne_nil_of_mem_words {name : String} : ∀ w ∈ words name, w ≠ [] := by
  intro w hw
  obtain ⟨stretch, -, hword⟩ := List.mem_flatMap.1 hw
  exact ne_nil_of_mem_wordsAfter (by simp) w hword

theorem lowerWord_ne_nil {w : List Char} (h : w ≠ []) : lowerWord w ≠ [] := by
  fun_induction lowerWord w with
  | case1 => exact h
  | case2 => simp
  | case3 c hc => exact Text.lower_ne_nil c
  | case4 c rest hrest ih => simp [Text.lower_ne_nil]

theorem lower_of_mem_lowerWord {w : List Char} : ∀ c ∈ lowerWord w, Text.lower c = [c] := by
  fun_induction lowerWord w with
  | case1 => simp
  | case2 => exact List.forall_mem_singleton.2 (by decide +kernel)
  | case3 c hc => exact fun c' hc' => Text.lower_of_mem_lower hc'
  | case4 c rest hrest ih =>
    intro c' hc'
    rcases List.mem_append.1 hc' with hc' | hc'
    · exact Text.lower_of_mem_lower hc'
    · exact ih c' hc'

/-! ### Words joined by underscores -/

namespace IsSnake

theorem of_word {w : List Char} (hlower : ∀ c ∈ w, Text.lower c = [c]) (hfree : '_' ∉ w) :
    IsSnake w where
  lower := hlower
  begins hbegins := hfree (List.mem_of_head? hbegins)
  ends hends := hfree (List.mem_of_getLast? hends)
  single hsingle := hfree (hsingle.subset List.mem_cons_self)

theorem append {w rest : List Char} (hw : w ≠ []) (hlower : ∀ c ∈ w, Text.lower c = [c])
    (hfree : '_' ∉ w) (hrest : rest ≠ []) (h : IsSnake rest) : IsSnake (w ++ '_' :: rest) where
  lower := by
    have hunderscore : Text.lower '_' = ['_'] := by decide +kernel
    rw [List.forall_mem_append, List.forall_mem_cons]
    exact ⟨hlower, hunderscore, h.lower⟩
  begins hbegins := by
    rw [List.head?_append_of_ne_nil _ hw] at hbegins
    exact hfree (List.mem_of_head? hbegins)
  ends hends := by
    obtain ⟨c, rest, rfl⟩ := List.exists_cons_of_ne_nil hrest
    rw [List.getLast?_append_cons, List.getLast?_cons_cons] at hends
    exact h.ends hends
  single hsingle := by
    obtain ⟨before, after, hsplit⟩ := hsingle
    rw [List.append_assoc, List.append_eq_append_iff] at hsplit
    -- The two underscores begin in the word, or they begin behind it.
    rcases hsplit with ⟨between, hbefore, hbehind⟩ | ⟨between, hbefore, hbehind⟩
    · cases between with
      | nil =>
        have hbegins : rest = '_' :: after := by simpa using hbehind.symm
        exact h.begins (by rw [hbegins, List.head?_cons])
      | cons c between =>
        have hc : c = '_' := by simpa using congrArg List.head? hbehind.symm
        exact hfree (by simp [hbefore, hc])
    · cases between with
      | nil =>
        have hbegins : rest = '_' :: after := by simpa using hbehind
        exact h.begins (by rw [hbegins, List.head?_cons])
      | cons c between =>
        obtain ⟨-, hrest⟩ := List.cons.inj hbehind
        exact h.single ⟨between, after, (List.append_assoc _ _ _).trans hrest.symm⟩

end IsSnake

theorem joinUnderscores_ne_nil {ws : List (List Char)} (hne : ws ≠ []) (h : ∀ w ∈ ws, w ≠ []) :
    joinUnderscores ws ≠ [] := by
  fun_cases joinUnderscores ws with
  | case1 => exact absurd rfl hne
  | case2 w => exact lowerWord_ne_nil (h w List.mem_cons_self)
  | case3 w rest hrest => simp

theorem isSnake_joinUnderscores {ws : List (List Char)} (hne : ∀ w ∈ ws, w ≠ [])
    (hfree : ∀ w ∈ ws, '_' ∉ w) : IsSnake (joinUnderscores ws) := by
  fun_induction joinUnderscores ws with
  | case1 => exact IsSnake.of_word (by simp) List.not_mem_nil
  | case2 w =>
    exact IsSnake.of_word lower_of_mem_lowerWord
      (not_mem_lowerWord Text.isSeparator_underscore (hfree w List.mem_cons_self))
  | case3 w rest hrest ih =>
    obtain ⟨hw, hne⟩ := List.forall_mem_cons.1 hne
    obtain ⟨hwfree, hfree⟩ := List.forall_mem_cons.1 hfree
    exact IsSnake.append (lowerWord_ne_nil hw) lower_of_mem_lowerWord
      (not_mem_lowerWord Text.isSeparator_underscore hwfree)
      (joinUnderscores_ne_nil (by simpa using hrest) hne) (ih hne hfree)

end Naming

/-! ## Top theorem -/

/-- The spelling of the description, whatever name it is made from. -/
theorem isSnake_toSnake (name : String) : Naming.IsSnake (toSnake name).toList := by
  rw [toSnake, String.toList_ofList]
  exact Naming.isSnake_joinUnderscores Naming.ne_nil_of_mem_words
    (Naming.not_mem_words Text.isSeparator_underscore name)

end ChartSpec
