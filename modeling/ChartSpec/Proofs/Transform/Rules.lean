import ChartSpec.Proofs.Arguments
import ChartSpec.Proofs.Binary64
import ChartSpec.Proofs.Text.Word
import ChartSpec.Proofs.Transform.Kind
import ChartSpec.Proofs.Transform.Reading
import ChartSpec.Proofs.Transform.Shape

/-!
# Rules on JSON values

A rule is checked on a value that has been read.  For the shapes that it is used with, this is a
condition on the JSON value that was given (`Rule.check_eq_ok`).
-/

namespace ChartSpec

namespace Rule

/-- What a rule asks of a JSON value. -/
def Holds : Rule → Json → Prop
  | free, _ => True
  | datum, v => ∀ s, v = .str s → Text.StandsIn ['d'] s.toList
  | count n, v => ∀ items, v = .arr items → items.length = n
  | unitInterval, v => ∀ x, v.number? = some x → 0 ≤ x.toRat ∧ x.toRat ≤ 1
  | rotation, v =>
    (∃ field, v = .str field) ∨
      ∃ mode angles, v = .obj [(mode, .arr angles)] ∧ mode ∈ ["random", "alternate"] ∧
        ∀ angle ∈ Json.leavesOf angles, angle.isNumber

/-- Whether a rule is about the values of a shape. -/
def fits : Rule → Shape → Bool
  | free, _ => true
  | datum, .text => true
  | count _, .numbers => true
  | count _, .sides => true
  | count _, .slice => true
  | unitInterval, .number => true
  | rotation, .any => true
  | _, _ => false

end Rule

/-! ## Lemmas -/

theorem TransformKind.rule_fits (kind : TransformKind) :
    ∀ p ∈ kind.properties, p.rule.fits p.shape := by
  cases kind <;> decide

namespace Rule

theorem checkDatum_eq_ok {property s : String} {u : Unit} :
    checkDatum property s = .ok u ↔ Text.StandsIn ['d'] s.toList := by
  have hword : Text.hasWord "d" s = true ↔ Text.StandsIn ['d'] s.toList :=
    Text.hasWord_iff (by decide)
  rw [checkDatum, ← hword]
  split <;> simp_all

theorem checkRotation_eq_ok {property : String} {v : Json} {u : Unit} :
    checkRotation property v = .ok u ↔ rotation.Holds v := by
  cases v with
  | str field => simp [checkRotation, Holds]
  | obj entries =>
    match entries with
    | [] => simp [checkRotation, Holds, Arguments.single]
    | [(mode, angles)] =>
      simp only [checkRotation, Arguments.single_singleton, bind, Except.bind]
      by_cases hmode : mode ≠ "random" ∧ mode ≠ "alternate"
      · rw [if_pos hmode]
        simp [Holds, hmode]
      · rw [if_neg hmode]
        have hmem : mode ∈ ["random", "alternate"] := by
          simp only [List.mem_cons, List.not_mem_nil, or_false]
          exact Decidable.or_iff_not_not_and_not.2 hmode
        cases angles with
        | arr angles =>
          have hall : (Json.leavesOf angles).all Json.isNumber = true ↔
              rotation.Holds (.obj [(mode, .arr angles)]) := by
            rw [List.all_eq_true]
            constructor
            · exact fun h => .inr ⟨mode, angles, rfl, hmem, h⟩
            · rintro (⟨field, hfield⟩ | ⟨_, _, heq, -, h⟩)
              · cases hfield
              · cases heq
                exact h
          rw [← hall]
          split <;> simp_all
        | _ => simp [Holds]
    | _ :: _ :: _ => simp [checkRotation, Holds, Arguments.single]
  | _ => simp [checkRotation, Holds]

/-- As many numbers have been read as the list has items. -/
theorem length_of_list_double {v : Json} {xs : List Binary64}
    (h : Decode.list Decode.double v = .ok xs) :
    ∃ items, v = .arr items ∧ items.length = xs.length := by
  obtain ⟨items, rfl, hitems⟩ := Decode.list_double_eq_ok.1 h
  exact ⟨items, rfl, by simpa using congrArg List.length hitems⟩

theorem numberCount?_eq {s : Shape} {n : Nat} (hs : (count n).fits s) {v : Json} {x : s.Value}
    (h : s.decode v = .ok x) (k : Nat) :
    s.numberCount? x = some k ↔ ∃ items, v = .arr items ∧ items.length = k := by
  have hlist : ∀ {xs : List Binary64}, Decode.list Decode.double v = .ok xs →
      (some xs.length = some k ↔ ∃ items, v = .arr items ∧ items.length = k) := by
    intro xs hxs
    obtain ⟨items, rfl, hlength⟩ := length_of_list_double hxs
    simp [hlength]
  have hnumber : ∀ {x : Binary64}, v.number? = some x →
      ((none : Option Nat) = some k ↔ ∃ items, v = .arr items ∧ items.length = k) := by
    rintro x hx
    simp only [reduceCtorEq, false_iff]
    rintro ⟨items, rfl, -⟩
    cases hx
  cases s with
  | numbers => exact hlist h
  | sides =>
    rcases Shape.decodeSides_eq_ok.1 h with ⟨x, hx, rfl⟩ | ⟨xs, hxs, rfl⟩
    · exact hnumber hx
    · exact hlist hxs
  | slice =>
    rcases Shape.decodeSlice_eq_ok.1 h with ⟨x, hx, rfl⟩ | ⟨xs, hxs, rfl⟩ | ⟨w, hw, rfl⟩
    · exact hnumber hx
    · exact hlist hxs
    · rcases Shape.rankWord?_eq_some.1 hw with rfl | rfl <;> simp [Shape.numberCount?]
  | _ => cases hs

/-- A rule is checked on what has been read, and is a condition on what was given. -/
theorem check_eq_ok {r : Rule} {s : Shape} (hfits : r.fits s) {property : String} {v : Json}
    {x : s.Value} (h : s.decode v = .ok x) {u : Unit} :
    r.check property s x = .ok u ↔ r.Holds v := by
  cases r with
  | free => simp [check, Holds]
  | datum =>
    cases s with
    | text =>
      obtain rfl := Decode.text_eq_ok.1 h
      simp [check, Holds, Shape.textsOf, checkDatum_eq_ok]
    | _ => cases hfits
  | count n =>
    have hcount := numberCount?_eq hfits h
    simp only [check, Holds]
    cases hnumbers : s.numberCount? x with
    | none =>
      simp only [true_iff]
      intro items hv
      rw [(hcount items.length).2 ⟨items, hv, rfl⟩] at hnumbers
      cases hnumbers
    | some k =>
      obtain ⟨items, rfl, rfl⟩ := (hcount k).1 hnumbers
      simp only [Json.arr.injEq, forall_eq']
      split <;> simp_all
  | unitInterval =>
    cases s with
    | number =>
      have hx : v.number? = some x := Decode.double_eq_ok.1 h
      simp only [check, Shape.number?, Holds, hx, Option.some.injEq, forall_eq']
      rw [← Binary64.inUnitInterval_iff]
      split <;> simp_all
    | _ => cases hfits
  | rotation =>
    cases s with
    | any =>
      cases h
      exact checkRotation_eq_ok
    | _ => cases hfits

end Rule

end ChartSpec
