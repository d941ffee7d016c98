import ChartSpec.Proofs.Mark.LastValue

/-!
# Names of channels

A channel is meant to have two names, its own and the one of the document.  A name is looked up by
its words in lower case, so all that leads to the same words is accepted as well:

    stroke_width     words stroke, width    strokeWidth
    strokeWidth      words stroke, Width    strokeWidth
    Stroke  WIDTH    words Stroke, WIDTH    strokeWidth
    strokewidth      word strokewidth       refused

Among the names of plain words, joined by underscores or by capitals, only the two are accepted
(`ChannelKey.resolve_named_iff`).
-/

namespace ChartSpec

/-- Words joined by capitals. -/
def Naming.IsHumped (name : List Char) : Prop :=
  ∃ (first : List Char) (later : List (List Char)),
    IsWord first ∧ (∀ w ∈ later, IsLaterWord w) ∧ name = first ++ later.flatMap capitalWord

/-! ## Lemmas -/

/-! ### Words of a spelling -/

namespace Naming

theorem joinUnderscores_eq_intercalate (ws : List (List Char)) :
    joinUnderscores ws = ['_'].intercalate (ws.map lowerWord) := by
  cases ws with
  | nil => rfl
  | cons w ws => rw [joinUnderscores_cons, List.map_cons, intercalate_underscore, List.flatMap_map]

end Naming

/-- A name is respelled to another one if it has its words, up to their case. -/
theorem toSnake_eq_iff {name snake : String} (hsnake : snake ≠ "") :
    toSnake name = snake ↔
      (Naming.words name).map Naming.lowerWord = snake.toList.splitOn '_' := by
  rw [toSnake, Naming.joinUnderscores_eq_intercalate, ← String.toList_inj, String.toList_ofList]
  constructor
  · intro h
    have hfree : ∀ w ∈ (Naming.words name).map Naming.lowerWord, '_' ∉ w := by
      rw [List.forall_mem_map]
      exact fun w hw => Naming.not_mem_lowerWord Text.isSeparator_underscore
        (Naming.not_mem_words Text.isSeparator_underscore name w hw)
    have hwords : (Naming.words name).map Naming.lowerWord ≠ [] := by
      intro hnil
      rw [hnil, List.intercalate_nil] at h
      exact hsnake (String.toList_eq_nil_iff.1 h.symm)
    rw [← h, List.splitOn_intercalate _ hfree hwords]
  · intro h
    rw [h, List.intercalate_splitOn]

/-- A name joined by underscores is written with capitals in the document. -/
theorem isHumped_toCamel {name : String} (h : Naming.IsBuilt name.toList) :
    Naming.IsHumped (toCamel name).toList := by
  obtain ⟨first, later, hjoined, hlater⟩ := h.exists_isJoined
  exact ⟨first, later, hjoined.isWord_first, hlater, hjoined.toList_toCamel⟩

/-- A name joined by capitals is the one of the document for what it is respelled to. -/
theorem toCamel_toSnake {name : String} (h : Naming.IsHumped name.toList) :
    toCamel (toSnake name) = name := by
  obtain ⟨first, later, hfirst, hlater, hname⟩ := h
  have hsnake : (String.ofList (first ++ later.flatMap ('_' :: ·))).toList =
      first ++ later.flatMap ('_' :: ·) := String.toList_ofList
  have hjoined : Naming.IsJoined (String.ofList (first ++ later.flatMap ('_' :: ·))).toList
      first later := ⟨hsnake, hfirst, fun w hw => (hlater w hw).isWord⟩
  have hcamel : toCamel (String.ofList (first ++ later.flatMap ('_' :: ·))) = name := by
    rw [← String.toList_inj, hjoined.toList_toCamel, hname]
  rw [← hcamel, toSnake_toCamel ⟨first, later, hfirst, hlater, hsnake⟩]

/-! ### Names of channels -/

namespace ChannelKey

theorem resolve_named_eq_error {name : String} {e : Error} :
    (named name).resolve = .error e ↔
      (∀ c : Channel, toSnake name ≠ c.name) ∧
        e = .refused (.unknownName .visualProperty name) := by
  rw [resolve, demand_eq_error, Option.eq_none_iff_forall_ne_some]
  simp only [ne_eq, Channel.ofName?_eq_some]

theorem resolve_named_eq_ok_iff_words {name : String} {c : Channel} :
    (named name).resolve = .ok c ↔
      (Naming.words name).map Naming.lowerWord = c.name.toList.splitOn '_' := by
  have hname : c.name ≠ "" := by cases c <;> decide
  rw [resolve_named_eq_ok, toSnake_eq_iff hname]

/-- A name of plain words is accepted only if it is one of the two. -/
theorem eq_name_of_resolve {name : String} {c : Channel} (h : (named name).resolve = .ok c)
    (hplain : Naming.IsBuilt name.toList ∨ Naming.IsHumped name.toList) :
    name = c.name ∨ name = toCamel c.name := by
  have hsnake := resolve_named_eq_ok.1 h
  rcases hplain with hbuilt | hhumped
  · exact .inl ((toSnake_of_isBuilt hbuilt).symm.trans hsnake)
  · exact .inr (by rw [← hsnake, toCamel_toSnake hhumped])

end ChannelKey

/-! ## Top theorem -/

/-- A name means a channel exactly if its words are those of the channel, up to their case.  The
channel's own name and the one of the document are those among them that are made of plain words,
joined by underscores or by capitals.  A name that means no channel is refused as an unknown visual
property. -/
theorem ChannelKey.resolve_named_iff (name : String) :
    (∀ c : Channel, (named name).resolve = .ok c ↔
      (Naming.words name).map Naming.lowerWord = c.name.toList.splitOn '_') ∧
    (∀ c : Channel, name = c.name ∨ name = toCamel c.name ↔
      (named name).resolve = .ok c ∧
        (Naming.IsBuilt name.toList ∨ Naming.IsHumped name.toList)) ∧
    ∀ e, (named name).resolve = .error e ↔
      (∀ c : Channel, (Naming.words name).map Naming.lowerWord ≠ c.name.toList.splitOn '_') ∧
        e = .refused (.unknownName .visualProperty name) := by
  refine ⟨fun c => resolve_named_eq_ok_iff_words, fun c => ⟨?_, ?_⟩, fun e => ?_⟩
  · have hbuilt := c.isBuilt_name
    rintro (rfl | rfl)
    · exact ⟨resolve_named_eq_ok.2 (toSnake_of_isBuilt hbuilt), .inl hbuilt⟩
    · exact ⟨resolve_named_eq_ok.2 (toSnake_toCamel hbuilt), .inr (isHumped_toCamel hbuilt)⟩
  · rintro ⟨h, hplain⟩
    exact eq_name_of_resolve h hplain
  · rw [resolve_named_eq_error]
    simp only [ne_eq, ← resolve_named_eq_ok_iff_words, resolve_named_eq_ok]

/-- A capital and blanks between the words do not matter. -/
theorem ChannelKey.resolve_capitalized :
    (named "Fill").resolve = .ok .fill ∧ "Fill" ≠ Channel.fill.name ∧
      "Fill" ≠ toCamel Channel.fill.name ∧
      (named "Stroke  WIDTH").resolve = .ok .strokeWidth := by
  decide +kernel

end ChartSpec
