import ChartSpec.Proofs.Field.Qualified
import ChartSpec.Proofs.Naming.RoundTrip
import ChartSpec.Proofs.Naming.Snake

/-!
# What an added field is found under

An added field is meant to be found under its name and under the name in the spelling of the
description, whatever their case.  A token with an underscore is found under whatever it is
respelled to, so the two are missed exactly where respelling the token twice gives another one
(`FieldSet.lookup_spellings`):

    added         token          finds         meant for it
    startAngle    start_angle    startAngle    yes
    startAngle    Start_Angle    startAngle    no
    count         Count          nothing       yes
    count         Count_         count         no
-/

namespace ChartSpec

namespace FieldSet

variable {s : FieldSet} {token name : String}

/-! ## Lemmas -/

theorem lookup_eq_some :
    s.lookup token = some name ↔ (token ∈ s.names ∧ name = token) ∨
      (token ∉ s.names ∧ '_' ∈ token.toList ∧ toCamel token ∈ s.names ∧ name = toCamel token) := by
  unfold lookup
  by_cases hmem : token ∈ s.names
  · simp [hmem, eq_comm]
  · by_cases hcamel : '_' ∈ token.toList ∧ toCamel token ∈ s.names
    · simp [hmem, hcamel, eq_comm]
    · simp only [hmem, hcamel, if_false, reduceCtorEq, false_and, not_false_eq_true, true_and,
        false_or, false_iff]
      rintro ⟨hunderscore, hrespelled, -⟩
      exact hcamel ⟨hunderscore, hrespelled⟩

theorem lookup_eq_none :
    s.lookup token = none ↔
      token ∉ s.names ∧ ('_' ∈ token.toList → toCamel token ∉ s.names) := by
  unfold lookup
  by_cases hmem : token ∈ s.names
  · simp [hmem]
  · simp [hmem]

/-- No stored name is the user's field of the token that it is found under. -/
theorem ne_user_of_lookup (h : s.lookup token = some name) : name ≠ "data." ++ token := by
  intro heq
  rcases lookup_eq_some.1 h with ⟨-, hname⟩ | ⟨-, hunderscore, -, hname⟩
  · have hlength := congrArg String.length (hname.symm.trans heq)
    rw [String.length_append] at hlength
    have hprefix : "data.".length = 5 := rfl
    omega
  · refine not_mem_toCamel Text.isSeparator_point hunderscore ?_
    rw [← hname, heq]
    simp

theorem respelled_of_isSnake (h : ¬ Naming.IsSnake token.toList) :
    toSnake (toCamel token) ≠ token := by
  intro heq
  exact h (heq ▸ isSnake_toSnake (toCamel token))

theorem isSnake_structural : ∀ field ∈ structural.names, Naming.IsSnake field.toList := by
  have hsnake : ∀ field ∈ structural.names, toSnake field = field := by decide +kernel
  intro field hfield
  have hfieldSnake := isSnake_toSnake field
  rwa [hsnake field hfield] at hfieldSnake

theorem resolveField_eq_place (hpoint : '.' ∉ token.toList) (hempty : token ≠ "")
    (hstructural : token ∉ structural.names) :
    resolveField s token = FieldReference.place s token := by
  have hindex : token ≠ "index" := by
    rintro rfl
    exact hstructural (by decide)
  rw [resolveField, FieldReference.parseField_of_noPoint hpoint,
    FieldReference.resolve_eq_place (by simp) fun _ hmem => absurd hmem hstructural,
    if_neg (not_or.2 ⟨hempty, hindex⟩)]

/-! ## Top theorem -/

/-- A stored token finds itself.  A stored name that a token finds is the token, or has it as the
spelling of the description, exactly if the token is stored or comes back when it is respelled.
Tokens of plain words come back.  A token with a character that has another lower-case form, or
with an underscore at an end or behind another one, does not: it finds nothing meant for it unless
it is stored itself, and means the user's field exactly if it finds nothing. -/
theorem lookup_spellings (s : FieldSet) (token : String) :
    (token ∈ s.names → s.lookup token = some token) ∧
    (∀ name, s.lookup token = some name →
      ((name = token ∨ toSnake name = token) ↔
        (token ∈ s.names ∨ toSnake (toCamel token) = token))) ∧
    (Naming.IsBuilt token.toList → ∀ name, s.lookup token = some name →
      name = token ∨ toSnake name = token) ∧
    (¬ Naming.IsSnake token.toList → token ∉ s.names →
      (∀ name, s.lookup token = some name ↔
        '_' ∈ token.toList ∧ toCamel token ∈ s.names ∧ name = toCamel token) ∧
      ∀ name, s.lookup token = some name → name ≠ token ∧ toSnake name ≠ token) ∧
    (¬ Naming.IsSnake token.toList → '.' ∉ token.toList →
      (resolveField s token = "data." ++ token ↔
        token ∉ s.names ∧ ('_' ∈ token.toList → toCamel token ∉ s.names))) := by
  have hlaw : ∀ name, s.lookup token = some name →
      ((name = token ∨ toSnake name = token) ↔
        (token ∈ s.names ∨ toSnake (toCamel token) = token)) := by
    intro name h
    rcases lookup_eq_some.1 h with ⟨hmem, rfl⟩ | ⟨hmem, -, hcamel, rfl⟩
    · simp [hmem]
    · have hne : toCamel token ≠ token := by
        intro heq
        exact hmem (heq ▸ hcamel)
      simp [hmem, hne]
  refine ⟨fun hmem => lookup_eq_some.2 (.inl ⟨hmem, rfl⟩), hlaw, ?_, ?_, ?_⟩
  · intro hbuilt name h
    exact (hlaw name h).2 (.inr (toSnake_toCamel hbuilt))
  · intro hsnake hmem
    refine ⟨fun name => by simp [lookup_eq_some, hmem], fun name h => ?_⟩
    have hmissed : ¬ (name = token ∨ toSnake name = token) := by
      rw [hlaw name h]
      rintro (hstored | hrespelled)
      · exact hmem hstored
      · exact respelled_of_isSnake hsnake hrespelled
    exact not_or.1 hmissed
  · intro hsnake hpoint
    have hempty : token ≠ "" := by
      rintro rfl
      exact hsnake (.of_word nofun List.not_mem_nil)
    have hstructural : token ∉ structural.names := fun hmem => hsnake (isSnake_structural token hmem)
    rw [resolveField_eq_place hpoint hempty hstructural, ← lookup_eq_none, FieldReference.place]
    cases h : s.lookup token with
    | none => simp
    | some name => simpa using ne_user_of_lookup h

theorem lookup_spellings_startAngle :
    (structural.insert "startAngle").lookup "start_angle" = some "startAngle" ∧
      ("startAngle" = "start_angle" ∨ toSnake "startAngle" = "start_angle") := by
  have hfound : (structural.insert "startAngle").lookup "start_angle" = some "startAngle" := by
    decide +kernel
  have hbuilt : Naming.IsBuilt "start_angle".toList := by
    refine ⟨['s', 't', 'a', 'r', 't'], [['a', 'n', 'g', 'l', 'e']], ⟨_, _, rfl, rfl, ?_⟩,
      List.forall_mem_singleton.2 ⟨_, _, _, rfl, rfl, rfl, ?_⟩, rfl⟩
    · simp only [List.forall_mem_cons]
      exact ⟨.inl rfl, .inl rfl, .inl rfl, .inl rfl, nofun⟩
    · simp only [List.forall_mem_cons]
      exact ⟨.inl rfl, .inl rfl, .inl rfl, nofun⟩
  obtain ⟨-, -, hlaw, -⟩ := lookup_spellings (structural.insert "startAngle") "start_angle"
  exact ⟨hfound, hlaw hbuilt _ hfound⟩

/-- The statistics' field is found under a token with a capital. -/
theorem lookup_foldsCase :
    (structural.insert "count").lookup "Count_" = some "count" ∧ "count" ≠ "Count_" ∧
      toSnake "count" ≠ "Count_" ∧
      resolveField (structural.insert "count") "Count_" ≠ "data.Count_" := by
  decide +kernel

end FieldSet

end ChartSpec
