import ChartSpec.Proofs.Document.Parts
import ChartSpec.Proofs.Transform.InPlace
import ChartSpec.Proofs.Transform.Rules

/-!
# Rotations of word clouds

A word cloud rotates its words by a field, or by angles that are taken at random or in turn:

    "angle"                    a field
    {"random": [-60, 0]}       angles
    {"alternate": [0, [90]]}   accepted as well, although an angle is a list
    {"random": 45}             refused
    {"random": ["up"]}         refused

The angles are tested after flattening, so that lists of numbers pass as angles, however deep
(`Json.isNumber_leavesOf_iff`).  What is written is the rotation as it was given, so a word cloud with
such angles has no plain list of numbers in the document (`Transform.check_rotation_iff`).
-/

namespace ChartSpec

/-- A number, or a list of such values. -/
inductive Json.NestsNumbers : Json → Prop
  | number {v : Json} (h : v.isNumber = true) : NestsNumbers v
  | list {items : List Json} (h : ∀ item ∈ items, NestsNumbers item) : NestsNumbers (.arr items)

/-- A field, or one mode over a list of angles. -/
inductive Json.IsRotation (IsAngle : Json → Prop) : Json → Prop
  | field (name : String) : IsRotation IsAngle (.str name)
  | mode {mode : String} {angles : List Json} (hmode : mode = "random" ∨ mode = "alternate")
      (hangles : ∀ angle ∈ angles, IsAngle angle) : IsRotation IsAngle (.obj [(mode, .arr angles)])

/-- No angle of a rotation is a list. -/
def Json.HasPlainAngles (v : Json) : Prop :=
  ∀ mode angles, v = .obj [(mode, .arr angles)] → ∀ angle ∈ angles, angle.isArray = false

/-! ## Lemmas -/

namespace Json

/-- A number is no list, so that nothing but lists of lists nests numbers and is none. -/
theorem isNumber_iff_nestsNumbers {v : Json} :
    v.isNumber = true ↔ v.NestsNumbers ∧ v.isArray = false := by
  constructor
  · intro h
    refine ⟨.number h, ?_⟩
    cases v with
    | arr => cases h
    | _ => rfl
  · rintro ⟨h, hplain⟩
    cases h with
    | number h => exact h
    | list => cases hplain

theorem nestsNumbers_arr {items : List Json} :
    (arr items).NestsNumbers ↔ ∀ item ∈ items, item.NestsNumbers := by
  constructor
  · rintro (h | h)
    · cases h
    · exact h
  · exact .list

/-- Flattening finds numbers only exactly in lists that nest numbers. -/
theorem isNumber_leavesOf_iff : ∀ items : List Json,
    (∀ leaf ∈ leavesOf items, leaf.isNumber = true) ↔ ∀ item ∈ items, item.NestsNumbers
  | [] => by simp [leavesOf]
  | arr inner :: rest => by
    rw [leavesOf, leaves, List.forall_mem_append, List.forall_mem_cons, nestsNumbers_arr,
      isNumber_leavesOf_iff inner, isNumber_leavesOf_iff rest]
  | null :: rest | bool _ :: rest | int _ :: rest | float _ :: rest | str _ :: rest
  | obj _ :: rest => by
    rw [leavesOf, List.forall_mem_append, List.forall_mem_cons, isNumber_leavesOf_iff rest]
    simp only [leaves, List.forall_mem_singleton, isNumber_iff_nestsNumbers, isArray, and_true]

theorem isRotation_congr {P Q : Json → Prop} {v : Json}
    (h : ∀ mode angles, v = .obj [(mode, .arr angles)] → ∀ angle ∈ angles, P angle → Q angle)
    (hv : v.IsRotation P) : v.IsRotation Q := by
  cases hv with
  | field name => exact .field name
  | mode hmode hangles =>
    exact .mode hmode fun angle hangle => h _ _ rfl angle hangle (hangles angle hangle)

/-- The plain rotations are those without lists as angles. -/
theorem isRotation_isNumber_iff {v : Json} :
    v.IsRotation (fun angle => angle.isNumber = true) ↔
      v.IsRotation NestsNumbers ∧ v.HasPlainAngles := by
  constructor
  · intro h
    refine ⟨isRotation_congr (fun _ _ _ _ _ => .number) h, ?_⟩
    rintro mode angles rfl angle hangle
    cases h with
    | mode _ hangles => exact (isNumber_iff_nestsNumbers.1 (hangles angle hangle)).2
  · rintro ⟨h, hplain⟩
    exact isRotation_congr (fun mode angles hv angle hangle hnests =>
      isNumber_iff_nestsNumbers.2 ⟨hnests, hplain mode angles hv angle hangle⟩) h

theorem holds_rotation_iff {v : Json} : Rule.rotation.Holds v ↔ v.IsRotation NestsNumbers := by
  constructor
  · rintro (⟨name, rfl⟩ | ⟨mode, angles, rfl, hmode, hangles⟩)
    · exact .field name
    · exact .mode (by simpa using hmode) ((isNumber_leavesOf_iff angles).1 hangles)
  · intro h
    cases h with
    | field name => exact .inl ⟨name, rfl⟩
    | mode hmode hangles =>
      exact .inr ⟨_, _, rfl, by simpa using hmode, (isNumber_leavesOf_iff _).2 hangles⟩

end Json

/-! ### Records -/

/-- A record is checked by its rules, on what is written of it. -/
theorem Record.check_iff_encode {ps : List Property} (hfits : ∀ p ∈ ps, p.rule.fits p.shape)
    (hnames : (ps.map Property.name).Nodup) (record : Record ps) :
    record.check = .ok () ↔
      ∀ p ∈ ps, ∀ v, (p.name, v) ∈ record.encode → p.rule.Holds v := by
  induction record with
  | nil => simp [check]
  | @cons p ps slot rest ih =>
    obtain ⟨hfit, hfits⟩ := List.forall_mem_cons.1 hfits
    obtain ⟨hfresh, hnames⟩ := List.nodup_cons.1 hnames
    have hother : ∀ v, (p.name, v) ∉ encode rest := by
      intro v hmem
      rw [encode_eq_encodeAs] at hmem
      have hkey : p.name ∈ Entries.keys (encodeAs Property.name rest) :=
        List.mem_map_of_mem (f := Prod.fst) hmem
      exact hfresh ((keys_encodeAs_sublist _ rest).subset hkey)
    have hslot : slot.check = .ok () ↔ ∀ v, (p.name, v) ∈ slot.encode → p.rule.Holds v := by
      cases slot with
      | given x =>
        rw [Slot.check, Rule.check_eq_ok hfit (p.shape.decode_encode x)]
        simp [Slot.encode]
      | absent => simp [Slot.check, Slot.encode]
    have hname : ∀ q ∈ ps, ∀ v, (q.name, v) ∉ slot.encode := by
      intro q hq v hmem
      cases slot with
      | given x =>
        obtain ⟨heq, -⟩ := Prod.mk.inj (List.mem_singleton.1 hmem)
        exact hfresh (heq ▸ List.mem_map_of_mem hq)
      | absent => cases hmem
    have hboth : check (.cons slot rest) = .ok () ↔ slot.check = .ok () ∧ check rest = .ok () := by
      refine bind_eq_ok.trans ⟨?_, fun h => ⟨(), h⟩⟩
      rintro ⟨_, h⟩
      exact h
    rw [hboth, ih hfits hnames, hslot, List.forall_mem_cons, encode]
    simp only [List.mem_append, hother, or_false]
    refine and_congr_right fun _ => forall₂_congr fun q hq => forall_congr' fun v => ?_
    rw [or_iff_right (hname q hq v)]

namespace Transform

variable {t : Transform}

/-- What is written under a name is there once. -/
theorem get?_encode_iff {name : String} (hname : name ≠ "type") {v : Json} :
    t.encode.get? name = some v ↔ (name, v) ∈ t.record.encode := by
  have hspelled : ∀ p ∈ t.kind.properties, p.name ∈ p.spellings :=
    fun p hp => (TransformKind.mem_spellings_iff hp).2 (.inl rfl)
  have hkeys : (Entries.keys t.record.encode).Nodup := by
    rw [Record.encode_eq_encodeAs]
    exact (Property.nodup_map_of_mem_spellings t.kind.nodup_spellings hspelled).sublist
      (Record.keys_encodeAs_sublist _ _)
  show (if "type" = name then _ else Entries.find? name t.record.encode) = some v ↔ _
  rw [if_neg hname.symm]
  exact ⟨Entries.mem_of_find?, Entries.find?_of_mem hkeys⟩

theorem get?_collect_of_encode {name : String} (hname : name ≠ "type") {v : Json}
    (h : t.encode.get? name = some v) (hv : v ≠ .null) :
    t.attributes.collect.get? (toCamel name) = some v := by
  have hmem : (name, .value v) ∈ t.attributes :=
    List.mem_map.2 ⟨(name, v), List.mem_cons_of_mem _ ((get?_encode_iff hname).1 h), rfl⟩
  rw [Attributes.get?_collect t.nodup_keys hmem, Attribute.collect_value hv]

theorem check_wordcloud_eq_ok (hkind : t.kind = .wordcloud) :
    t.check = .ok () ↔
      (∀ sides, t.encode.get? "size" = some (.arr sides) → sides.length = 2) ∧
        ∀ r, t.encode.get? "rotate" = some r → r.IsRotation Json.NestsNumbers := by
  obtain ⟨kind, record⟩ := t
  obtain rfl : kind = .wordcloud := hkind
  have hnames : (TransformKind.wordcloud.properties.map Property.name).Nodup := by decide
  have hcheck : check ⟨.wordcloud, record⟩ = .ok () ↔ record.check = .ok () := by
    show (record.check >>= fun _ => Except.ok ()) = Except.ok () ↔ _
    rw [bind_eq_ok]
    constructor
    · rintro ⟨_, h, -⟩
      exact h
    · intro h
      exact ⟨(), h, rfl⟩
  rw [hcheck, Record.check_iff_encode (TransformKind.rule_fits _) hnames]
  simp only [get?_encode_iff (t := ⟨.wordcloud, record⟩) (show "size" ≠ "type" by decide),
    get?_encode_iff (t := ⟨.wordcloud, record⟩) (show "rotate" ≠ "type" by decide),
    ← Json.holds_rotation_iff]
  constructor
  · intro h
    refine ⟨fun sides hsides => ?_, ?_⟩
    · exact h _ (List.mem_of_getElem? (i := 5) rfl) (.arr sides) hsides sides rfl
    · exact h _ (List.mem_of_getElem? (i := 6) rfl)
  · rintro ⟨hsize, hrotate⟩ p hp
    simp only [TransformKind.properties, List.mem_cons, List.not_mem_nil, or_false] at hp
    -- No other property has a rule.
    rcases hp with rfl | rfl | rfl | rfl | rfl | rfl | rfl | rfl
    case inr.inr.inr.inr.inr.inl =>
      rintro v hv sides rfl
      exact hsize sides hv
    case inr.inr.inr.inr.inr.inr.inl => exact hrotate
    all_goals exact fun _ _ => trivial

/-- Attaching a word cloud leaves its rotation as it is. -/
theorem get?_rotate_of_attach (hkind : t.kind = .wordcloud) {r : Registry} {fields next : FieldSet}
    {t' : Transform} (h : t.attach r.known fields = .ok (t', next)) :
    t'.encode.get? "rotate" = t.encode.get? "rotate" := by
  obtain ⟨hcheck, hvalid, hresolve, -⟩ := attach_eq_ok.1 h
  have hread : t.readingUnder r fields "rotate" = id := by
    obtain ⟨kind, record⟩ := t
    obtain rfl : kind = .wordcloud := hkind
    rfl
  have hfind : ∀ (f : String → Json → Json) (entries : List (String × Json)), f "rotate" = id →
      Entries.find? "rotate" (entries.map fun e => (e.1, f e.1 e.2)) =
        Entries.find? "rotate" entries := by
    intro f entries hf
    induction entries with
    | nil => rfl
    | cons e rest ih =>
      rw [List.map_cons, Entries.find?, Entries.find?, ih]
      split
      · rename_i he
        rw [he, hf, id]
      · rfl
  rw [(becomes_of_resolve hcheck hvalid hresolve).written]
  refine hfind (fun key => Json.mapTexts (t.readingUnder r fields key)) _ ?_
  rw [hread]
  exact funext Json.mapTexts_id

end Transform

/-! ## Top theorem -/

/-- A word cloud with a rotation, and with two sides if it has a size, passes its check exactly if
the rotation is a field or a mode over a list that nests numbers.  The plain rotations are those
among them without lists as angles.  What passes is written as it was given, and so it is after
attaching. -/
theorem Transform.check_rotation_iff {t : Transform} {r : Json} (hkind : t.kind = .wordcloud)
    (hr : t.encode.get? "rotate" = some r)
    (hsize : ∀ sides, t.encode.get? "size" = some (.arr sides) → sides.length = 2) :
    (t.check = .ok () ↔ r.IsRotation Json.NestsNumbers) ∧
    (t.check = .ok () ∧ r.HasPlainAngles ↔ r.IsRotation fun angle => angle.isNumber = true) ∧
    (t.check = .ok () → t.attributes.collect.get? "rotate" = some r) ∧
    ∀ (registry : Registry) (fields : FieldSet) (t' : Transform) (next : FieldSet),
      t.attach registry.known fields = .ok (t', next) →
        t'.attributes.collect.get? "rotate" = some r := by
  have hcheck : t.check = .ok () ↔ r.IsRotation Json.NestsNumbers := by
    rw [check_wordcloud_eq_ok hkind]
    simp only [hr, Option.some.injEq, forall_eq']
    exact and_iff_right hsize
  have hwritten : ∀ t' : Transform, t.check = .ok () → t'.encode.get? "rotate" = some r →
      t'.attributes.collect.get? "rotate" = some r := by
    intro t' h hr'
    have hnull : r ≠ .null := by
      rintro rfl
      cases hcheck.1 h
    have hkey : toCamel "rotate" = "rotate" := by decide
    rw [← hkey]
    exact get?_collect_of_encode (by decide) hr' hnull
  refine ⟨hcheck, ?_, fun h => hwritten t h hr, ?_⟩
  · rw [hcheck, Json.isRotation_isNumber_iff]
  · intro registry fields t' next h
    refine hwritten t' (attach_eq_ok.1 h).1 ?_
    rw [get?_rotate_of_attach hkind h, hr]

/-- Words that stand upright and on their side in turn. -/
def Transform.turnedWords : Transform :=
  ⟨.wordcloud, .cons (.given "word") (.cons (.absent rfl) (.cons (.absent rfl)
    (.cons (.absent rfl) (.cons (.absent rfl) (.cons (.given [.ofInt 300, .ofInt 200])
    (.cons (.given (.obj [("alternate", .arr [.int 0, .int 90])])) (.cons (.absent rfl) .nil)))))))⟩

theorem Transform.check_turnedWords :
    turnedWords.encode.get? "rotate" = some (.obj [("alternate", .arr [.int 0, .int 90])]) ∧
      turnedWords.check = .ok () ∧
      turnedWords.attributes.collect.get? "rotate" =
        some (.obj [("alternate", .arr [.int 0, .int 90])]) := by
  have hr : turnedWords.encode.get? "rotate" =
      some (.obj [("alternate", .arr [.int 0, .int 90])]) := rfl
  have hsize : ∀ sides, turnedWords.encode.get? "size" = some (.arr sides) → sides.length = 2 := by
    rintro sides ⟨⟩
    rfl
  obtain ⟨-, hplain, hwritten, -⟩ := check_rotation_iff rfl hr hsize
  obtain ⟨hcheck, -⟩ := hplain.2 (.mode (.inr rfl) (by decide))
  exact ⟨hr, hcheck, hwritten hcheck⟩

/-- A list of angles in the place of an angle is accepted and written as it is. -/
theorem Transform.check_nestedAngles :
    let r : Json := .obj [("random", .arr [.arr [.int 0, .int 90]])]
    ∃ t, ofProperties .wordcloud (.obj [("rotate", r)]) = .ok t ∧ t.check = .ok () ∧
      t.attributes.collect.get? "rotate" = some r ∧
      ¬ r.IsRotation fun angle => angle.isNumber = true := by
  refine ⟨_, rfl, rfl, rfl, ?_⟩
  intro h
  have hplain := (Json.isRotation_isNumber_iff.1 h).2 _ _ rfl _ List.mem_cons_self
  cases hplain

end ChartSpec
