import ChartSpec.Proofs.Transform.Rules
import Mathlib.Data.List.Basic

/-!
# The grammar of transforms

Which entries give a transform of a kind (`TransformKind.Accepts`), and how that transform is
written (`TransformKind.written`).  Reading stops at the first entry that does not fit, but what
is accepted is this grammar, whatever the order of the entries (`Transform.ofProperties_accepts`).
-/

namespace ChartSpec

/-- A key is the name of a property, or the name as the document spells it. -/
def Property.IsSpelled (p : Property) (key : String) : Prop :=
  key = p.name ∨ key = toCamel p.name

instance (p : Property) (key : String) : Decidable (p.IsSpelled key) :=
  inferInstanceAs (Decidable (_ ∨ _))

/-- The entries under a spelling of a property. -/
def Property.givenIn (p : Property) (entries : List (String × Json)) : List (String × Json) :=
  entries.filter fun e => p.IsSpelled e.1

/-- The values that can be given for a property: those of its shape, and null for the absence of
an optional one. -/
def Property.Admits (p : Property) (v : Json) : Prop :=
  p.shape.Admits v ∨ v = .null ∧ p.required = false

/-- The entries that give a transform of a kind. -/
structure TransformKind.Accepts (kind : TransformKind) (entries : List (String × Json)) :
    Prop where
  untyped : "type" ∉ Entries.keys entries
  known : ∀ e ∈ entries, ∃ p ∈ kind.properties, p.IsSpelled e.1
  once : ∀ p ∈ kind.properties, (p.givenIn entries).length ≤ 1
  complete : ∀ p ∈ kind.properties, p.required → p.givenIn entries ≠ []
  shaped : ∀ p ∈ kind.properties, ∀ e ∈ p.givenIn entries, p.Admits e.2
  ruled : ∀ p ∈ kind.properties, ∀ e ∈ p.givenIn entries, e.2 ≠ .null → p.rule.Holds e.2
  /-- A copy gives as many names as it has fields, if it gives any. -/
  copied : kind = .copy → ∀ names fields, ("as", .arr names) ∈ entries →
    ("fields", .arr fields) ∈ entries → names.length = fields.length

/-- What entries are written as: under the names of the properties, in the order of the
properties, without null. -/
def TransformKind.written (kind : TransformKind) (entries : List (String × Json)) : Json :=
  .obj (("type", .str kind.name) :: kind.properties.flatMap fun p =>
    ((p.givenIn entries).filter fun e => e.2 ≠ .null).map fun e => (p.name, p.shape.written e.2))

/-! ## Lemmas -/

theorem TransformKind.entriesIn_eq_givenIn {kind : TransformKind} {p : Property}
    (hp : p ∈ kind.properties) (entries : List (String × Json)) :
    p.entriesIn entries = p.givenIn entries := by
  refine List.filter_congr fun e _ => ?_
  rw [Bool.eq_iff_iff, Property.answersTo_iff, mem_spellings_iff hp, decide_eq_true_eq]
  rfl

/-! ### One property -/

namespace Slot

variable {p : Property} {entries : List (String × Json)}

theorem exists_decode_iff {v : Json} : (∃ slot, Slot.decode p v = .ok slot) ↔ p.Admits v := by
  unfold Property.Admits
  rw [← Shape.decode_iff_admits]
  constructor
  · rintro ⟨slot, hslot⟩
    rcases Slot.decode_eq_ok.1 hslot with ⟨rfl, hnone⟩ | ⟨-, x, hx, -⟩
    · obtain ⟨habsent, -⟩ := Slot.value?_eq_none.1 hnone
      exact .inr ⟨rfl, habsent⟩
    · exact .inl ⟨x, hx⟩
  · rintro (⟨x, hx⟩ | ⟨rfl, hp⟩)
    · by_cases hv : v = .null ∧ p.required = false
      · obtain ⟨rfl, hp⟩ := hv
        exact ⟨_, Slot.decode_null hp⟩
      · have hgiven : v = .null → p.required = true := by simpa using hv
        exact ⟨_, Slot.decode_eq_ok.2 (.inr ⟨hgiven, x, hx, rfl⟩)⟩
    · exact ⟨_, Slot.decode_null hp⟩

/-- Some slot can be read for a property. -/
theorem exists_readFrom :
    (∃ slot : Slot p, slot.ReadFrom entries) ↔
      (p.entriesIn entries).length ≤ 1 ∧ (p.required → p.entriesIn entries ≠ []) ∧
        ∀ e ∈ p.entriesIn entries, p.Admits e.2 := by
  simp only [Slot.readFrom_iff]
  match p.entriesIn entries with
  | [] =>
    cases hp : p.required with
    | true => simp [Slot.value?_eq_none, hp]
    | false => simp [Slot.value?_eq_none, hp]
  | [e] => simp [exists_decode_iff]
  | _ :: _ :: _ => simp

/-- Either no value was given, null apart, or one that has been read by the shape. -/
theorem given_of_readFrom (hany : p.shape.isAny → p.required = false) {slot : Slot p}
    (h : slot.ReadFrom entries) :
    (slot.value? = none ∧ ∀ e ∈ p.entriesIn entries, e.2 = .null) ∨
      ∃ e x, p.entriesIn entries = [e] ∧ e.2 ≠ .null ∧ p.shape.decode e.2 = .ok x ∧
        slot = .given x := by
  rcases Slot.readFrom_iff.1 h with ⟨hnil, hnone⟩ | ⟨e, hone, hdecode⟩
  · exact .inl ⟨hnone, by simp [hnil]⟩
  · rcases Slot.decode_eq_ok.1 hdecode with ⟨hnull, hnone⟩ | ⟨hgiven, x, hx, rfl⟩
    · exact .inl ⟨hnone, by simpa [hone] using hnull⟩
    · refine .inr ⟨e, x, hone, fun hnull => ?_, hx, rfl⟩
      have hoptional := hany (Shape.isAny_of_decode_null (hnull ▸ hx))
      rw [hgiven hnull] at hoptional
      cases hoptional

/-- What has been read is written under the name of the property, in the form of its shape. -/
theorem encode_of_readFrom (hany : p.shape.isAny → p.required = false) {slot : Slot p}
    (h : slot.ReadFrom entries) :
    slot.encode = ((p.entriesIn entries).filter fun e => e.2 ≠ .null).map fun e =>
      (p.name, p.shape.written e.2) := by
  rcases given_of_readFrom hany h with ⟨hnone, hnull⟩ | ⟨e, x, hone, hne, hx, rfl⟩
  · obtain ⟨habsent, rfl⟩ := Slot.value?_eq_none.1 hnone
    have hfilter : ((p.entriesIn entries).filter fun e => e.2 ≠ .null) = [] :=
      List.filter_eq_nil_iff.2 fun e he => by simpa using hnull e he
    rw [hfilter]
    rfl
  · rw [hone, List.filter_cons_of_pos (by simpa using hne), encode, Shape.encode_of_decode hx]
    rfl

/-- The rule of a property is a condition on what was given. -/
theorem check_eq_ok (hany : p.shape.isAny → p.required = false) (hfits : p.rule.fits p.shape)
    {slot : Slot p} (h : slot.ReadFrom entries) {u : Unit} :
    slot.check = .ok u ↔
      ∀ e ∈ p.entriesIn entries, e.2 ≠ .null → p.rule.Holds e.2 := by
  rcases given_of_readFrom hany h with ⟨hnone, hnull⟩ | ⟨e, x, hone, hne, hx, rfl⟩
  · obtain ⟨habsent, rfl⟩ := Slot.value?_eq_none.1 hnone
    simp only [check, true_iff]
    exact fun e he hne => absurd (hnull e he) hne
  · rw [check, Rule.check_eq_ok hfits hx, hone]
    simp [hne]

end Slot

/-! ### All properties -/

namespace Record

variable {ps : List Property} {entries : List (String × Json)}

theorem exists_readFrom :
    (∃ r : Record ps, ReadFrom entries r) ↔
      ∀ p ∈ ps, (p.entriesIn entries).length ≤ 1 ∧ (p.required → p.entriesIn entries ≠ []) ∧
        ∀ e ∈ p.entriesIn entries, p.Admits e.2 := by
  induction ps with
  | nil =>
    constructor
    · rintro - p hp
      cases hp
    · exact fun _ => ⟨.nil, trivial⟩
  | cons p ps ih =>
    rw [List.forall_mem_cons, ← ih, ← Slot.exists_readFrom]
    constructor
    · rintro ⟨r, hr⟩
      cases r with | cons slot rest =>
      exact ⟨⟨slot, hr.1⟩, rest, hr.2⟩
    · rintro ⟨⟨slot, hslot⟩, rest, hrest⟩
      exact ⟨.cons slot rest, hslot, hrest⟩

theorem encode_of_readFrom (hany : ∀ p ∈ ps, p.shape.isAny → p.required = false) {r : Record ps}
    (h : ReadFrom entries r) :
    r.encode = ps.flatMap fun p => ((p.entriesIn entries).filter fun e => e.2 ≠ .null).map fun e =>
      (p.name, p.shape.written e.2) := by
  induction r with
  | nil => rfl
  | @cons p ps slot rest ih =>
    rw [encode, List.flatMap_cons, Slot.encode_of_readFrom (hany p List.mem_cons_self) h.1,
      ih (fun q hq => hany q (List.mem_cons_of_mem p hq)) h.2]

theorem check_eq_ok (hany : ∀ p ∈ ps, p.shape.isAny → p.required = false)
    (hfits : ∀ p ∈ ps, p.rule.fits p.shape) {r : Record ps} (h : ReadFrom entries r) {u : Unit} :
    r.check = .ok u ↔
      ∀ p ∈ ps, ∀ e ∈ p.entriesIn entries, e.2 ≠ .null → p.rule.Holds e.2 := by
  induction r with
  | nil => simp [check]
  | @cons p ps slot rest ih =>
    have hrest := ih (fun q hq => hany q (List.mem_cons_of_mem p hq))
      (fun q hq => hfits q (List.mem_cons_of_mem p hq)) h.2
    rw [check, bind_eq_ok, List.forall_mem_cons, ← hrest]
    simp only [Slot.check_eq_ok (hany p List.mem_cons_self) (hfits p List.mem_cons_self) h.1]
    exact exists_const _

end Record

/-! ### Copies -/

/-- As many texts are held under a property of texts as the given list has items. -/
theorem Slot.length_texts_eq {name : String} {required : Bool} {role : Role} {rule : Rule}
    {entries : List (String × Json)} {slot : Slot ⟨name, .texts, required, none, role, rule⟩}
    (h : slot.ReadFrom entries) {n : Nat} :
    (∃ ss : List String, slot.value? = some ss ∧ ss.length = n) ↔
      ∃ items, (name, Json.arr items) ∈ entries ∧ items.length = n := by
  have hmem : ∀ e : String × Json, e ∈ Property.entriesIn
      ⟨name, .texts, required, none, role, rule⟩ entries ↔ e ∈ entries ∧ name = e.1 := by
    intro e
    simp [Property.entriesIn, Property.answersTo]
  rcases given_of_readFrom Bool.noConfusion h with ⟨hnone, hnull⟩ | ⟨e, x, hone, -, hx, rfl⟩
  · have hfalse : ∀ items, (name, Json.arr items) ∉ entries := by
      intro items hitems
      cases hnull _ ((hmem _).2 ⟨hitems, rfl⟩)
    simp [hnone, hfalse]
  · obtain ⟨key, v⟩ := e
    obtain rfl := Decode.list_text_eq_ok.1 hx
    have hkey : (key, Json.arr (x.map .str)) ∈ entries ∧ name = key :=
      (hmem _).1 (hone ▸ List.mem_singleton_self _)
    have hgiven : ∀ items, (name, Json.arr items) ∈ entries ↔ items = x.map .str := by
      intro items
      constructor
      · intro hitems
        have heq := (hmem (name, Json.arr items)).2 ⟨hitems, rfl⟩
        rw [hone, List.mem_singleton] at heq
        exact Json.arr.inj (congrArg Prod.snd heq)
      · rintro rfl
        rw [hkey.2]
        exact hkey.1
    simp [value?, hgiven]

theorem Transform.checkCopy_eq_ok {kind : TransformKind} {entries : List (String × Json)}
    {r : Record kind.properties} (h : Record.ReadFrom entries r) {u : Unit} :
    checkCopy ⟨kind, r⟩ = .ok u ↔
      (kind = .copy → ∀ names fields, ("as", .arr names) ∈ entries →
        ("fields", .arr fields) ∈ entries → names.length = fields.length) := by
  cases kind with
  | copy =>
    cases r with | cons source r =>
    cases r with | cons fields r =>
    cases r with | cons names r =>
    cases r with | nil =>
    obtain ⟨-, hfields, hnames, -⟩ := h
    have hfieldsLength := fun n => Slot.length_texts_eq hfields (n := n)
    have hnamesLength := fun n => Slot.length_texts_eq hnames (n := n)
    simp only [forall_const]
    cases fields with
    | absent h => cases h
    | given fs =>
      cases names with
      | absent h =>
        have hok : checkCopy ⟨.copy, .cons source (.cons (.given fs) (.cons (.absent h) .nil))⟩ =
            .ok u := rfl
        simp only [hok, true_iff]
        intro names fields has
        obtain ⟨ss, hss, -⟩ := (hnamesLength names.length).2 ⟨names, has, rfl⟩
        cases hss
      | given ns =>
        have hok : checkCopy ⟨.copy, .cons source (.cons (.given fs) (.cons (.given ns) .nil))⟩ =
            .ok u ↔ List.length ns = List.length fs := by
          show (if List.length ns = List.length fs then Except.ok () else .error _) = .ok u ↔ _
          split <;> simp_all
        rw [hok]
        constructor
        · intro heq names fields has hfields
          obtain ⟨_, ⟨⟩, hns⟩ := (hnamesLength names.length).2 ⟨names, has, rfl⟩
          obtain ⟨_, ⟨⟩, hfs⟩ := (hfieldsLength fields.length).2 ⟨fields, hfields, rfl⟩
          rw [← hns, ← hfs, heq]
        · intro hall
          obtain ⟨names, has, hns⟩ := (hnamesLength _).1 ⟨ns, rfl, rfl⟩
          obtain ⟨fields, hfields, hfs⟩ := (hfieldsLength _).1 ⟨fs, rfl, rfl⟩
          rw [← hns, ← hfs, hall names fields has hfields]
  | _ => simp [checkCopy]

namespace Transform

variable {kind : TransformKind} {entries : List (String × Json)}

theorem check_eq_ok {r : Record kind.properties} (h : Record.ReadFrom entries r) {u : Unit} :
    check ⟨kind, r⟩ = .ok u ↔
      (∀ p ∈ kind.properties, ∀ e ∈ p.givenIn entries, e.2 ≠ .null → p.rule.Holds e.2) ∧
        (kind = .copy → ∀ names fields, ("as", .arr names) ∈ entries →
          ("fields", .arr fields) ∈ entries → names.length = fields.length) := by
  have hrecord : r.check = .ok () ↔
      ∀ p ∈ kind.properties, ∀ e ∈ p.givenIn entries, e.2 ≠ .null → p.rule.Holds e.2 := by
    rw [Record.check_eq_ok kind.optional_of_isAny kind.rule_fits h]
    refine forall₂_congr fun p hp => ?_
    rw [kind.entriesIn_eq_givenIn hp]
  simp only [check, bind_eq_ok, checkCopy_eq_ok h, ← hrecord]
  constructor
  · rintro ⟨_, hrecord, hcopied⟩
    exact ⟨hrecord, hcopied⟩
  · rintro ⟨hrecord, hcopied⟩
    exact ⟨(), hrecord, hcopied⟩

theorem exists_ofEntries :
    (∃ r, Record.ofEntries kind.properties entries = .ok r) ↔
      (∀ e ∈ entries, ∃ p ∈ kind.properties, p.IsSpelled e.1) ∧
        ∀ p ∈ kind.properties, (p.givenIn entries).length ≤ 1 ∧
          (p.required → p.givenIn entries ≠ []) ∧ ∀ e ∈ p.givenIn entries, p.Admits e.2 := by
  have hknown : (∀ e ∈ entries, ∃ p ∈ kind.properties, p.answersTo e.1) ↔
      ∀ e ∈ entries, ∃ p ∈ kind.properties, p.IsSpelled e.1 := by
    refine forall₂_congr fun e _ => exists_congr fun p => and_congr_right fun hp => ?_
    rw [Property.answersTo_iff, TransformKind.mem_spellings_iff hp, Property.IsSpelled]
  simp only [Record.ofEntries_eq_ok kind.nodup_spellings, exists_and_left, Record.exists_readFrom,
    hknown]
  refine and_congr_right fun _ => forall₂_congr fun p hp => ?_
  rw [kind.entriesIn_eq_givenIn hp]

theorem encode_of_ofEntries {r : Record kind.properties}
    (h : Record.ofEntries kind.properties entries = .ok r) :
    encode ⟨kind, r⟩ = kind.written entries := by
  have hread := ((Record.ofEntries_eq_ok kind.nodup_spellings).1 h).2
  unfold encode TransformKind.written
  rw [Record.encode_of_readFrom kind.optional_of_isAny hread]
  have hgiven : ∀ p ∈ kind.properties, p.entriesIn entries = p.givenIn entries :=
    fun p hp => kind.entriesIn_eq_givenIn hp entries
  rw [List.flatMap_congr fun p hp => by rw [hgiven p hp]]

/-! ## Top theorem -/

/-- A value gives a transform of a kind exactly if it gives entries of the grammar. -/
theorem ofProperties_accepts (kind : TransformKind) (v : Json) :
    ((∃ t, ofProperties kind v = .ok t) ↔
      ∃ entries, v.properties? = some entries ∧ kind.Accepts entries) ∧
    ∀ t, ofProperties kind v = .ok t →
      t.kind = kind ∧
        ∃ entries, v.properties? = some entries ∧ t.encode = kind.written entries := by
  refine ⟨⟨?_, ?_⟩, ?_⟩
  · rintro ⟨t, ht⟩
    obtain ⟨entries, hv, htype, hread, hcheck⟩ := ofProperties_eq_ok.1 ht
    obtain ⟨r, hr, rfl⟩ := ofEntries_eq_ok.1 hread
    obtain ⟨hknown, hgiven⟩ := exists_ofEntries.1 ⟨r, hr⟩
    obtain ⟨hruled, hcopied⟩ :=
      (check_eq_ok ((Record.ofEntries_eq_ok kind.nodup_spellings).1 hr).2).1 hcheck
    exact ⟨entries, hv, {
      untyped := htype
      known := hknown
      once := fun p hp => (hgiven p hp).1
      complete := fun p hp => (hgiven p hp).2.1
      shaped := fun p hp => (hgiven p hp).2.2
      ruled := hruled
      copied := hcopied }⟩
  · rintro ⟨entries, hv, h⟩
    obtain ⟨r, hr⟩ := exists_ofEntries.2
      ⟨h.known, fun p hp => ⟨h.once p hp, h.complete p hp, h.shaped p hp⟩⟩
    have hcheck : check ⟨kind, r⟩ = .ok () :=
      (check_eq_ok ((Record.ofEntries_eq_ok kind.nodup_spellings).1 hr).2).2 ⟨h.ruled, h.copied⟩
    exact ⟨⟨kind, r⟩, ofProperties_eq_ok.2
      ⟨entries, hv, h.untyped, ofEntries_eq_ok.2 ⟨r, hr, rfl⟩, hcheck⟩⟩
  · intro t ht
    obtain ⟨entries, hv, -, hread, -⟩ := ofProperties_eq_ok.1 ht
    obtain ⟨r, hr, rfl⟩ := ofEntries_eq_ok.1 hread
    exact ⟨rfl, entries, hv, encode_of_ofEntries hr⟩

/-- A word over an object without entries. -/
def emptyPayload : Json := .obj [("line", .obj [])]

/-- Entries in another order than that of the properties, with an integer and with null. -/
def linkEntries : List (String × Json) :=
  [("tension", .int 1), ("source", .null), ("shape", emptyPayload)]

theorem ofProperties_accepts_link :
    TransformKind.link.Accepts linkEntries ∧
      ∃ t, ofProperties .link (.obj linkEntries) = .ok t ∧ t.encode =
        .obj [("type", .str "link"), ("shape", .str "line"), ("tension", .float .one)] := by
  have hmade : ∃ t, ofProperties .link (.obj linkEntries) = .ok t := ⟨_, rfl⟩
  obtain ⟨hiff, hwritten⟩ := ofProperties_accepts .link (.obj linkEntries)
  obtain ⟨_, ⟨⟩, haccepts⟩ := hiff.1 hmade
  obtain ⟨t, ht⟩ := hmade
  obtain ⟨-, _, ⟨⟩, hencode⟩ := hwritten t ht
  exact ⟨haccepts, t, ht, hencode⟩

/-- A word may stand over an object without entries, and not only over null. -/
theorem ofProperties_emptyPayload :
    (∃ t, ofProperties .link (.obj [("shape", emptyPayload)]) = .ok t) ∧
      emptyPayload ≠ .null ∧
        ∀ word, emptyPayload ≠ .str word ∧ emptyPayload ≠ .obj [(word, .null)] := by
  refine ⟨⟨_, rfl⟩, Json.noConfusion, fun word => ⟨Json.noConfusion, ?_⟩⟩
  intro h
  cases h

/-- The order of the entries does not matter. -/
theorem ofProperties_of_perm {entries' : List (String × Json)} (hperm : entries.Perm entries')
    {t : Transform} (h : ofProperties kind (.obj entries) = .ok t) :
    ofProperties kind (.obj entries') = .ok t := by
  obtain ⟨_, ⟨⟩, htype, hread, hcheck⟩ := ofProperties_eq_ok.1 h
  obtain ⟨r, hr, rfl⟩ := ofEntries_eq_ok.1 hread
  obtain ⟨hknown, hread⟩ := (Record.ofEntries_eq_ok kind.nodup_spellings).1 hr
  have hr' : Record.ofEntries kind.properties entries' = .ok r :=
    (Record.ofEntries_eq_ok kind.nodup_spellings).2
      ⟨fun e he => hknown e (hperm.mem_iff.2 he), Record.readFrom_of_perm hperm hread⟩
  have htype' : "type" ∉ Entries.keys entries' :=
    fun hmem => htype ((hperm.map Prod.fst).mem_iff.2 hmem)
  exact ofProperties_eq_ok.2 ⟨entries', rfl, htype', ofEntries_eq_ok.2 ⟨r, hr', rfl⟩, hcheck⟩

end Transform

end ChartSpec
