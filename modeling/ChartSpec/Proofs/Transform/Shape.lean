import ChartSpec.Proofs.Result
import ChartSpec.Transform.Shape

/-!
# Values of the shapes

Which JSON values have a shape (`Shape.Admits`), and how such a value is written when it has been
read: numbers as doubles, words as texts, everything else as it came (`Shape.written`).  Both say
what decoding followed by encoding does (`Shape.decode_iff_admits`, `Shape.encode_of_decode`).  A
value that is written is read as itself (`Shape.decode_encode`).
-/

namespace ChartSpec

/-- A number as a double; other values as they are. -/
def Json.asDouble (v : Json) : Json := v.number?.elim v .float

/-- A number, or the numbers of a list, as doubles. -/
def Json.asDoubles : Json → Json
  | .arr items => .arr (items.map asDouble)
  | v => v.asDouble

/-- The only key of an object as a text; other values as they are. -/
def Json.asWord : Json → Json
  | .obj [(word, _)] => .str word
  | v => v

/-- The JSON values of a shape. -/
inductive Shape.Admits : Shape → Json → Prop
  | text (s : String) : Admits .text (.str s)
  | texts (ss : List String) : Admits .texts (.arr (ss.map .str))
  | flag (b : Bool) : Admits .flag (.bool b)
  | number {v : Json} (h : v.isNumber) : Admits .number v
  | numbers {items : List Json} (h : ∀ v ∈ items, v.isNumber) : Admits .numbers (.arr items)
  | count {n : Nat} (h : n < UInt32.size) : Admits .count (.int n)
  | any (v : Json) : Admits .any v
  | oneKey (s : String) : Admits .sortKeys (.str s)
  | manyKeys (ss : List String) : Admits .sortKeys (.arr (ss.map .str))
  | oneSide {v : Json} (h : v.isNumber) : Admits .sides v
  | manySides {items : List Json} (h : ∀ v ∈ items, v.isNumber) : Admits .sides (.arr items)
  | position {v : Json} (h : v.isNumber) : Admits .slice v
  | range {items : List Json} (h : ∀ v ∈ items, v.isNumber) : Admits .slice (.arr items)
  | rank {w : String} (h : w ∈ rankWords) : Admits .slice (.str w)
  | rankOverNull {w : String} (h : w ∈ rankWords) : Admits .slice (.obj [(w, .null)])
  | word {words : List String} {w : String} (h : w ∈ words) : Admits (.word words) (.str w)
  | wordOverNull {words : List String} {w : String} (h : w ∈ words) :
    Admits (.word words) (.obj [(w, .null)])
  | wordOverEmpty {words : List String} {w : String} (h : w ∈ words) :
    Admits (.word words) (.obj [(w, .obj [])])

/-- How a value of a shape is written. -/
def Shape.written : Shape → Json → Json
  | .number, v => v.asDoubles
  | .numbers, v => v.asDoubles
  | .sides, v => v.asDoubles
  | .slice, v => v.asDoubles.asWord
  | .word _, v => v.asWord
  | _, v => v

/-- Whether every JSON value has the shape, null among them. -/
def Shape.isAny : Shape → Bool
  | .any => true
  | _ => false

/-! ## Lemmas -/

/-! ### Common types -/

namespace Decode

theorem text_eq_ok {v : Json} {s : String} : text v = .ok s ↔ v = .str s := by
  cases v <;> simp [text]

theorem flag_eq_ok {v : Json} {b : Bool} : flag v = .ok b ↔ v = .bool b := by
  cases v <;> simp [flag]

theorem double_eq_ok {v : Json} {x : Binary64} : double v = .ok x ↔ v.number? = some x := by
  cases v <;> simp [double, Json.number?]

theorem count_eq_ok {v : Json} {n : UInt32} : count v = .ok n ↔ v = .int n.toNat := by
  cases v with
  | int i =>
    simp only [count, Json.int.injEq]
    split
    · rename_i h
      have hn : (UInt32.ofNat i.toNat).toNat = i.toNat := by
        rw [UInt32.toNat_ofNat', Nat.mod_eq_of_lt h.2]
      rw [Except.ok.injEq, ← UInt32.toNat_inj, hn]
      omega
    · rename_i h
      simp only [reduceCtorEq, false_iff]
      rintro rfl
      exact h ⟨by omega, n.toNat_lt⟩
  | _ => simp [count]

theorem list_text_eq_ok {v : Json} {ss : List String} :
    list text v = .ok ss ↔ v = .arr (ss.map .str) := by
  cases v with
  | arr items =>
    simp only [list, Json.arr.injEq]
    induction items generalizing ss with
    | nil => cases ss <;> simp
    | cons i items ih =>
      simp only [List.mapM_cons, bind_eq_ok, pure_eq_ok, text_eq_ok, ih]
      cases ss with
      | nil => simp
      | cons s ss => simp
  | _ => simp [list]

theorem list_double_eq_ok {v : Json} {xs : List Binary64} :
    list double v = .ok xs ↔ ∃ items, v = .arr items ∧ items.map Json.number? = xs.map some := by
  cases v with
  | arr items =>
    simp only [list, Json.arr.injEq, exists_eq_left']
    induction items generalizing xs with
    | nil => cases xs <;> simp
    | cons i items ih =>
      simp only [List.mapM_cons, bind_eq_ok, pure_eq_ok, double_eq_ok, ih]
      cases xs with
      | nil => simp
      | cons x xs => simp
  | _ => simp [list]

theorem word_known_eq_ok {words : List String} {s : String} {w : { w : String // w ∈ words }} :
    word.known words s = .ok w ↔ s = w.val := by
  unfold word.known
  split
  · rw [Except.ok.injEq, Subtype.ext_iff]
  · rename_i hs
    simp only [reduceCtorEq, false_iff]
    rintro rfl
    exact hs w.property

theorem word_eq_ok {words : List String} {v : Json} {w : { w : String // w ∈ words }} :
    word words v = .ok w ↔
      v = .str w ∨ v = .obj [(w.val, .null)] ∨ v = .obj [(w.val, .obj [])] := by
  unfold word
  split
  · simp [word_known_eq_ok]
  · rename_i s payload
    simp only [bind_eq_ok, word_known_eq_ok]
    constructor
    · rintro ⟨w', rfl, h⟩
      split at h
      · cases h
        exact .inr (.inl rfl)
      · cases h
        exact .inr (.inr rfl)
      · cases h
    · rintro (h | h | h)
      · cases h
      · cases h
        exact ⟨w, rfl, rfl⟩
      · cases h
        exact ⟨w, rfl, rfl⟩
  · rename_i entries hone
    simp only [reduceCtorEq, false_iff, not_or, Json.obj.injEq]
    refine ⟨not_false, fun h => hone _ _ h, fun h => hone _ _ h⟩
  · rename_i hstr hone hobj
    simp only [reduceCtorEq, false_iff, not_or]
    exact ⟨hstr _, hobj _, hobj _⟩

end Decode

namespace Shape

/-! ### Unions -/

theorem list?_eq_some {α : Type} {item : Json → Except DecodeError α} {v : Json} {as : List α} :
    list? item v = some as ↔ Decode.list item v = .ok as := by
  unfold list?
  cases Decode.list item v <;> simp [Except.toOption]

theorem decodeSortKeys_eq_ok {v : Json} {keys : OneOrMany String} :
    decodeSortKeys v = .ok keys ↔
      (∃ s, v = .str s ∧ keys = .one s) ∨
        ∃ ss, Decode.list Decode.text v = .ok ss ∧ keys = .many ss := by
  simp only [← list?_eq_some]
  cases v with
  | str s => simp [decodeSortKeys, list?, Decode.list, Except.toOption, eq_comm]
  | _ =>
    simp only [decodeSortKeys]
    cases list? Decode.text _ <;> simp [eq_comm]

theorem decodeSides_eq_ok {v : Json} {sides : OneOrMany Binary64} :
    decodeSides v = .ok sides ↔
      (∃ x, v.number? = some x ∧ sides = .one x) ∨
        ∃ xs, Decode.list Decode.double v = .ok xs ∧ sides = .many xs := by
  simp only [← list?_eq_some, decodeSides]
  cases v with
  | int n => simp [Json.number?, list?, Decode.list, Except.toOption, eq_comm]
  | float x => simp [Json.number?, list?, Decode.list, Except.toOption, eq_comm]
  | _ =>
    simp only [Json.number?]
    cases list? Decode.double _ <;> simp [eq_comm]

theorem rankWord?_eq_some {v : Json} {w : { w : String // w ∈ rankWords }} :
    rankWord? v = some w ↔ v = .str w ∨ v = .obj [(w.val, .null)] := by
  have hknown : ∀ s, rankWord?.known? s = some w ↔ s = w.val := by
    intro s
    unfold rankWord?.known?
    split
    · rw [Option.some.injEq, Subtype.ext_iff]
    · rename_i hs
      simp only [reduceCtorEq, false_iff]
      rintro rfl
      exact hs w.property
  unfold rankWord?
  split
  · simp [hknown]
  · simp [hknown]
  · rename_i hstr hobj
    simp only [reduceCtorEq, false_iff, not_or]
    exact ⟨hstr _, hobj _⟩

theorem decodeSlice_eq_ok {v : Json} {slice : SliceBy} :
    decodeSlice v = .ok slice ↔
      (∃ x, v.number? = some x ∧ slice = .position x) ∨
        (∃ xs, Decode.list Decode.double v = .ok xs ∧ slice = .range xs) ∨
          ∃ w, rankWord? v = some w ∧ slice = .rank w := by
  simp only [← list?_eq_some, decodeSlice]
  cases v with
  | int n => simp [Json.number?, list?, Decode.list, Except.toOption, rankWord?, eq_comm]
  | float x => simp [Json.number?, list?, Decode.list, Except.toOption, rankWord?, eq_comm]
  | arr items =>
    have hnone : rankWord? (.arr items) = none := rfl
    simp only [Json.number?, hnone]
    cases list? Decode.double _ <;> simp [eq_comm]
  | _ =>
    simp only [Json.number?, list?, Decode.list, Except.toOption]
    cases rankWord? _ <;> simp [eq_comm]

/-! ### Reading what has been written -/

theorem decode_encode (s : Shape) (x : s.Value) : s.decode (s.encode x) = .ok x := by
  have htexts : ∀ ss : List String, Decode.list Decode.text (.arr (ss.map .str)) = .ok ss :=
    fun ss => Decode.list_text_eq_ok.2 rfl
  have hdoubles : ∀ xs : List Binary64,
      Decode.list Decode.double (.arr (xs.map .float)) = .ok xs := by
    intro xs
    refine Decode.list_double_eq_ok.2 ⟨_, rfl, ?_⟩
    rw [List.map_map]
    rfl
  cases s with
  | text => rfl
  | texts => exact htexts x
  | flag => rfl
  | number => rfl
  | numbers => exact hdoubles x
  | count => exact Decode.count_eq_ok.2 rfl
  | any => rfl
  | sortKeys =>
    refine decodeSortKeys_eq_ok.2 ?_
    cases x with
    | one s => exact .inl ⟨s, rfl, rfl⟩
    | many ss => exact .inr ⟨ss, htexts ss, rfl⟩
  | sides =>
    refine decodeSides_eq_ok.2 ?_
    cases x with
    | one x => exact .inl ⟨x, rfl, rfl⟩
    | many xs => exact .inr ⟨xs, hdoubles xs, rfl⟩
  | slice =>
    refine decodeSlice_eq_ok.2 ?_
    cases x with
    | position x => exact .inl ⟨x, rfl, rfl⟩
    | range xs => exact .inr (.inl ⟨xs, hdoubles xs, rfl⟩)
    | rank w => exact .inr (.inr ⟨w, rankWord?_eq_some.2 (.inl rfl), rfl⟩)
  | word words => exact Decode.word_eq_ok.2 (.inl rfl)

/-! ### Null -/

theorem isAny_of_encode {s : Shape} {x : s.Value} (h : s.encode x = .null) : s.isAny := by
  cases s with
  | any => rfl
  | sortKeys => cases x <;> cases h
  | sides => cases x <;> cases h
  | slice => cases x <;> cases h
  | _ => cases h

/-- Only null is written as null. -/
theorem null_of_encode {s : Shape} {v : Json} {x : s.Value} (h : s.decode v = .ok x)
    (hnull : s.encode x = .null) : v = .null := by
  cases s with
  | any =>
    cases h
    exact hnull
  | _ => cases isAny_of_encode hnull

theorem isAny_of_decode_null {s : Shape} {x : s.Value} (h : s.decode .null = .ok x) :
    s.isAny := by
  cases s with
  | any => rfl
  | _ => cases h

/-! ### Writing what has been read -/

theorem asDoubles_of_number {v : Json} {x : Binary64} (h : v.number? = some x) :
    v.asDoubles = .float x := by
  cases v <;> simp_all [Json.number?, Json.asDoubles, Json.asDouble]

theorem map_asDouble {items : List Json} {xs : List Binary64}
    (h : items.map Json.number? = xs.map some) : items.map Json.asDouble = xs.map .float := by
  have hdouble : ∀ v : Json, v.asDouble = v.number?.elim v .float := fun _ => rfl
  induction items generalizing xs with
  | nil =>
    cases xs with
    | nil => rfl
    | cons x xs => cases h
  | cons v items ih =>
    cases xs with
    | nil => cases h
    | cons x xs =>
      obtain ⟨hv, hrest⟩ := List.cons.inj h
      rw [List.map_cons, List.map_cons, hdouble, hv, ih hrest]
      rfl

theorem asDoubles_of_list {v : Json} {xs : List Binary64}
    (h : Decode.list Decode.double v = .ok xs) : v.asDoubles = .arr (xs.map .float) := by
  obtain ⟨items, rfl, hitems⟩ := Decode.list_double_eq_ok.1 h
  exact congrArg Json.arr (map_asDouble hitems)

/-- A value that has been read is written in the one form of its shape. -/
theorem encode_of_decode {s : Shape} {v : Json} {x : s.Value} (h : s.decode v = .ok x) :
    s.encode x = s.written v := by
  cases s with
  | text =>
    obtain rfl := Decode.text_eq_ok.1 h
    rfl
  | texts =>
    obtain rfl := Decode.list_text_eq_ok.1 h
    rfl
  | flag =>
    obtain rfl := Decode.flag_eq_ok.1 h
    rfl
  | number => exact (asDoubles_of_number (Decode.double_eq_ok.1 h)).symm
  | numbers => exact (asDoubles_of_list h).symm
  | count =>
    obtain rfl := Decode.count_eq_ok.1 h
    rfl
  | any =>
    cases h
    rfl
  | sortKeys =>
    rcases decodeSortKeys_eq_ok.1 h with ⟨s, rfl, rfl⟩ | ⟨ss, hss, rfl⟩
    · rfl
    · obtain rfl := Decode.list_text_eq_ok.1 hss
      rfl
  | sides =>
    rcases decodeSides_eq_ok.1 h with ⟨x, hx, rfl⟩ | ⟨xs, hxs, rfl⟩
    · exact (asDoubles_of_number hx).symm
    · exact (asDoubles_of_list hxs).symm
  | slice =>
    show _ = v.asDoubles.asWord
    rcases decodeSlice_eq_ok.1 h with ⟨x, hx, rfl⟩ | ⟨xs, hxs, rfl⟩ | ⟨w, hw, rfl⟩
    · rw [asDoubles_of_number hx]
      rfl
    · rw [asDoubles_of_list hxs]
      rfl
    · rcases rankWord?_eq_some.1 hw with rfl | rfl
      · rfl
      · rfl
  | word words =>
    rcases Decode.word_eq_ok.1 h with rfl | rfl | rfl
    · rfl
    · rfl
    · rfl

/-! ### Admitted values -/

theorem isNumber_iff {v : Json} : v.isNumber = true ↔ ∃ x, v.number? = some x := by
  cases v <;> simp [Json.isNumber, Json.number?]

theorem exists_list_double {v : Json} :
    (∃ xs, Decode.list Decode.double v = .ok xs) ↔
      ∃ items, v = .arr items ∧ ∀ i ∈ items, i.isNumber := by
  simp only [Decode.list_double_eq_ok]
  constructor
  · rintro ⟨xs, items, rfl, hitems⟩
    refine ⟨items, rfl, fun i hi => isNumber_iff.2 ?_⟩
    have hmem : i.number? ∈ xs.map some := hitems ▸ List.mem_map_of_mem hi
    obtain ⟨x, -, hx⟩ := List.mem_map.1 hmem
    exact ⟨x, hx.symm⟩
  · rintro ⟨items, rfl, hitems⟩
    have hmap : ∃ xs : List Binary64, items.map Json.number? = xs.map some := by
      induction items with
      | nil => exact ⟨[], rfl⟩
      | cons i items ih =>
        obtain ⟨x, hx⟩ := isNumber_iff.1 (hitems i List.mem_cons_self)
        obtain ⟨xs, hxs⟩ := ih fun i hi => hitems i (List.mem_cons_of_mem _ hi)
        exact ⟨x :: xs, by rw [List.map_cons, List.map_cons, hx, hxs]⟩
    obtain ⟨xs, hxs⟩ := hmap
    exact ⟨xs, items, rfl, hxs⟩

/-- Exactly the values of a shape can be read. -/
theorem decode_iff_admits {s : Shape} {v : Json} : (∃ x, s.decode v = .ok x) ↔ s.Admits v := by
  constructor
  · rintro ⟨x, h⟩
    cases s with
    | text =>
      obtain rfl := Decode.text_eq_ok.1 h
      exact .text x
    | texts =>
      obtain rfl := Decode.list_text_eq_ok.1 h
      exact .texts x
    | flag =>
      obtain rfl := Decode.flag_eq_ok.1 h
      exact .flag x
    | number => exact .number (isNumber_iff.2 ⟨x, Decode.double_eq_ok.1 h⟩)
    | numbers =>
      obtain ⟨items, rfl, hitems⟩ := exists_list_double.1 ⟨x, h⟩
      exact .numbers hitems
    | count =>
      obtain rfl := Decode.count_eq_ok.1 h
      exact .count (UInt32.toNat_lt x)
    | any => exact .any v
    | sortKeys =>
      rcases decodeSortKeys_eq_ok.1 h with ⟨s, rfl, -⟩ | ⟨ss, hss, -⟩
      · exact .oneKey s
      · obtain rfl := Decode.list_text_eq_ok.1 hss
        exact .manyKeys ss
    | sides =>
      rcases decodeSides_eq_ok.1 h with ⟨x, hx, -⟩ | ⟨xs, hxs, -⟩
      · exact .oneSide (isNumber_iff.2 ⟨x, hx⟩)
      · obtain ⟨items, rfl, hitems⟩ := exists_list_double.1 ⟨xs, hxs⟩
        exact .manySides hitems
    | slice =>
      rcases decodeSlice_eq_ok.1 h with ⟨x, hx, -⟩ | ⟨xs, hxs, -⟩ | ⟨w, hw, -⟩
      · exact .position (isNumber_iff.2 ⟨x, hx⟩)
      · obtain ⟨items, rfl, hitems⟩ := exists_list_double.1 ⟨xs, hxs⟩
        exact .range hitems
      · rcases rankWord?_eq_some.1 hw with rfl | rfl
        · exact .rank w.property
        · exact .rankOverNull w.property
    | word words =>
      rcases Decode.word_eq_ok.1 h with rfl | rfl | rfl
      · exact .word x.property
      · exact .wordOverNull x.property
      · exact .wordOverEmpty x.property
  · intro h
    have hnumbers : ∀ {items : List Json}, (∀ i ∈ items, i.isNumber) →
        ∃ xs, Decode.list Decode.double (.arr items) = .ok xs :=
      fun hitems => exists_list_double.2 ⟨_, rfl, hitems⟩
    cases h with
    | text s => exact ⟨s, rfl⟩
    | texts ss => exact ⟨ss, Decode.list_text_eq_ok.2 rfl⟩
    | flag b => exact ⟨b, rfl⟩
    | number h =>
      obtain ⟨x, hx⟩ := isNumber_iff.1 h
      exact ⟨x, Decode.double_eq_ok.2 hx⟩
    | numbers h => exact hnumbers h
    | @count n h =>
      have hn : (UInt32.ofNat n).toNat = n := by rw [UInt32.toNat_ofNat', Nat.mod_eq_of_lt h]
      have hcount : Decode.count (.int n) = .ok (UInt32.ofNat n) :=
        Decode.count_eq_ok.2 (by rw [hn])
      exact ⟨_, hcount⟩
    | any v => exact ⟨v, rfl⟩
    | oneKey s => exact ⟨.one s, rfl⟩
    | manyKeys ss =>
      exact ⟨.many ss, decodeSortKeys_eq_ok.2 (.inr ⟨ss, Decode.list_text_eq_ok.2 rfl, rfl⟩)⟩
    | oneSide h =>
      obtain ⟨x, hx⟩ := isNumber_iff.1 h
      exact ⟨.one x, decodeSides_eq_ok.2 (.inl ⟨x, hx, rfl⟩)⟩
    | manySides h =>
      obtain ⟨xs, hxs⟩ := hnumbers h
      exact ⟨.many xs, decodeSides_eq_ok.2 (.inr ⟨xs, hxs, rfl⟩)⟩
    | position h =>
      obtain ⟨x, hx⟩ := isNumber_iff.1 h
      exact ⟨.position x, decodeSlice_eq_ok.2 (.inl ⟨x, hx, rfl⟩)⟩
    | range h =>
      obtain ⟨xs, hxs⟩ := hnumbers h
      exact ⟨.range xs, decodeSlice_eq_ok.2 (.inr (.inl ⟨xs, hxs, rfl⟩))⟩
    | @rank w h =>
      have hw : rankWord? (.str w) = some ⟨w, h⟩ := rankWord?_eq_some.2 (.inl rfl)
      exact ⟨.rank ⟨w, h⟩, decodeSlice_eq_ok.2 (.inr (.inr ⟨_, hw, rfl⟩))⟩
    | @rankOverNull w h =>
      have hw : rankWord? (.obj [(w, .null)]) = some ⟨w, h⟩ := rankWord?_eq_some.2 (.inr rfl)
      exact ⟨.rank ⟨w, h⟩, decodeSlice_eq_ok.2 (.inr (.inr ⟨_, hw, rfl⟩))⟩
    | @word words w h =>
      have hw : Decode.word words (.str w) = .ok ⟨w, h⟩ := Decode.word_eq_ok.2 (.inl rfl)
      exact ⟨_, hw⟩
    | @wordOverNull words w h =>
      have hw : Decode.word words (.obj [(w, .null)]) = .ok ⟨w, h⟩ :=
        Decode.word_eq_ok.2 (.inr (.inl rfl))
      exact ⟨_, hw⟩
    | @wordOverEmpty words w h =>
      have hw : Decode.word words (.obj [(w, .obj [])]) = .ok ⟨w, h⟩ :=
        Decode.word_eq_ok.2 (.inr (.inr rfl))
      exact ⟨_, hw⟩

end Shape

end ChartSpec
