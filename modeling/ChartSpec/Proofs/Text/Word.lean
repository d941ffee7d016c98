import ChartSpec.Text.WordCharacter

/-!
# Words in texts

Looking for a word from left to right finds it exactly if the text can be cut around it so that
no word character touches it (`Text.hasWord_iff`).
-/

namespace ChartSpec

namespace Text

/-- A word stands in a text, with no word character directly before or behind it. -/
def StandsIn (word s : List Char) : Prop :=
  ∃ before after, s = before ++ word ++ after ∧
    (∀ c ∈ before.getLast?, isWordCharacter c = false) ∧
    ∀ c ∈ after.head?, isWordCharacter c = false

/-! ## Lemmas -/

theorem startsWithWord_iff {word s : List Char} :
    startsWithWord word s = true ↔
      ∃ after, s = word ++ after ∧ ∀ c ∈ after.head?, isWordCharacter c = false := by
  unfold startsWithWord
  rw [Bool.and_eq_true, List.isPrefixOf_iff_prefix]
  constructor
  · rintro ⟨⟨after, rfl⟩, hafter⟩
    refine ⟨after, rfl, fun c hc => ?_⟩
    rw [List.drop_left, Option.mem_def.1 hc] at hafter
    simpa using hafter
  · rintro ⟨after, rfl, hafter⟩
    refine ⟨List.prefix_append _ _, ?_⟩
    rw [List.drop_left]
    cases hc : after.head? with
    | none => rfl
    | some c => simp [hafter c hc]

/-- What stands before the text joins the word only if the word begins the text. -/
theorem hasWordAfter_iff {word s : List Char} {joined : Bool} (hword : word ≠ []) :
    hasWordAfter word joined s = true ↔
      ∃ before after, s = before ++ word ++ after ∧
        (before = [] → joined = false) ∧
        (∀ c ∈ before.getLast?, isWordCharacter c = false) ∧
        ∀ c ∈ after.head?, isWordCharacter c = false := by
  induction s generalizing joined with
  | nil =>
    simp only [hasWordAfter, Bool.false_eq_true, false_iff]
    rintro ⟨before, after, hnil, -⟩
    simp [hword] at hnil
  | cons c s ih =>
    rw [hasWordAfter, Bool.or_eq_true, Bool.and_eq_true, startsWithWord_iff, ih]
    constructor
    · rintro (⟨hjoined, after, heq, hafter⟩ | ⟨before, after, rfl, hfirst, hbefore, hafter⟩)
      · exact ⟨[], after, heq, fun _ => by simpa using hjoined, by simp, hafter⟩
      · refine ⟨c :: before, after, rfl, by simp, fun d hd => ?_, hafter⟩
        cases before with
        | nil =>
          obtain rfl : c = d := by simpa using hd
          exact hfirst rfl
        | cons b before => exact hbefore d (by simpa using hd)
    · rintro ⟨before, after, heq, hfirst, hbefore, hafter⟩
      cases before with
      | nil => exact .inl ⟨by simp [hfirst rfl], after, heq, hafter⟩
      | cons b before =>
        obtain ⟨rfl, rfl⟩ := List.cons.inj heq
        refine .inr ⟨before, after, rfl, ?_, fun d hd => ?_, hafter⟩
        · rintro rfl
          exact hbefore c (by simp)
        · cases before with
          | nil => cases hd
          | cons b before => exact hbefore d (by simpa using hd)

/-! ## Top theorem -/

theorem hasWord_iff {word s : String} (hword : word.toList ≠ []) :
    hasWord word s = true ↔ StandsIn word.toList s.toList := by
  rw [hasWord, hasWordAfter_iff hword]
  simp [StandsIn]

end Text

end ChartSpec
