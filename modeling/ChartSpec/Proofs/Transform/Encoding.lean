import ChartSpec.Proofs.Attribute
import ChartSpec.Proofs.Transform.Attach
import ChartSpec.Proofs.Transform.Kind
import ChartSpec.Proofs.Transform.Reading
import ChartSpec.Proofs.Transform.Shape

/-!
# Reading transforms that have been written

A transform is written under the names of the description, and in the document under the names of
the document.  Either way it is read as itself (`Transform.decode_encode_collect`), if it came
about as transforms do: read from properties or as it is written, then attached any number of
times.  Such a transform holds no null, which would be read as an absent property.
-/

namespace ChartSpec

/-- A slot does not hold null. -/
def Slot.IsNullFree {p : Property} (slot : Slot p) : Prop :=
  ∀ v, slot = .given v → p.shape.encode v ≠ .null

/-- No slot holds null. -/
def Record.IsNullFree : {ps : List Property} → Record ps → Prop
  | _, .nil => True
  | _, .cons slot rest => slot.IsNullFree ∧ IsNullFree rest

/-- The record written under a choice of names. -/
def Record.encodeAs (name : Property → String) :
    {ps : List Property} → Record ps → List (String × Json)
  | _, .nil => []
  | p :: _, .cons slot rest =>
    (slot.value?.map fun v => (name p, p.shape.encode v)).toList ++ encodeAs name rest

/-- The transforms that reading makes, and attaching makes of them. -/
inductive Transform.Obtained : Transform → Prop
  | ofProperties {kind : TransformKind} {properties : Json} {t : Transform}
    (h : Transform.ofProperties kind properties = .ok t) : Obtained t
  | decode {v : Json} {t : Transform} (h : Transform.decode v = .ok t) : Obtained t
  | attach {known : KnownData} {fields fields' : FieldSet} {t t' : Transform} (ht : Obtained t)
    (h : t.attach known fields = .ok (t', fields')) : Obtained t'

/-! ## Lemmas -/

/-! ### No null -/

theorem Shape.encode_mapTexts_ne_null {s : Shape} {x : s.Value} {f : String → String}
    (h : s.encode x ≠ .null) : s.encode (s.mapTexts f x) ≠ .null := by
  intro hnull
  cases s with
  | any => exact h hnull
  | _ => cases isAny_of_encode hnull

namespace Slot

variable {p : Property}

theorem isNullFree_absent (h : p.required = false) : (absent h).IsNullFree := by
  rintro v ⟨⟩

/-- Null is read as the absence of a property, if only optional properties take it. -/
theorem isNullFree_decode (hp : p.shape.isAny → p.required = false) {v : Json} {slot : Slot p}
    (h : Slot.decode p v = .ok slot) : slot.IsNullFree := by
  rcases Slot.decode_eq_ok.1 h with ⟨-, hnone⟩ | ⟨hgiven, x, hx, rfl⟩
  · obtain ⟨habsent, rfl⟩ := Slot.value?_eq_none.1 hnone
    exact isNullFree_absent habsent
  · rintro _ ⟨⟩ hnull
    have hoptional := hp (Shape.isAny_of_encode hnull)
    have hv : v ≠ .null := by
      intro hv
      rw [hgiven hv] at hoptional
      cases hoptional
    exact hv (Shape.null_of_encode hx hnull)

theorem isNullFree_resolve {known : KnownData} {fields : FieldSet} {other : String → Option String}
    {slot slot' : Slot p} (hslot : slot.IsNullFree)
    (h : slot.resolve known fields other = .ok slot') : slot'.IsNullFree := by
  have hmap : ∀ f, (slot.map (p.shape.mapTexts f)).IsNullFree := by
    intro f v hv
    cases slot with
    | given x =>
      cases hv
      exact Shape.encode_mapTexts_ne_null (hslot x rfl)
    | absent _ => cases hv
  unfold resolve at h
  split at h
  · cases h
    exact hslot
  · cases h
    exact hslot
  · cases h
    exact hmap _
  · cases h
    exact hmap _
  · split at h
    · simp only [bind_eq_ok, pure_eq_ok] at h
      obtain ⟨theirs, -, rfl⟩ := h
      exact hmap _
    · cases h
      exact hslot

end Slot

namespace Record

variable {ps : List Property}

theorem isNullFree_of_readFrom (hps : ∀ p ∈ ps, p.shape.isAny → p.required = false)
    {entries : List (String × Json)} {r : Record ps} (h : ReadFrom entries r) : r.IsNullFree := by
  induction r with
  | nil => trivial
  | @cons p ps slot rest ih =>
    refine ⟨?_, ih (fun q hq => hps q (List.mem_cons_of_mem p hq)) h.2⟩
    rcases Slot.readFrom_iff.1 h.1 with ⟨-, hnone⟩ | ⟨e, -, hdecode⟩
    · obtain ⟨habsent, rfl⟩ := Slot.value?_eq_none.1 hnone
      exact Slot.isNullFree_absent habsent
    · exact Slot.isNullFree_decode (hps p List.mem_cons_self) hdecode

theorem isNullFree_ofItems (hps : ∀ p ∈ ps, p.shape.isAny → p.required = false) {type : String}
    {count : Nat} {items : List Json} {r : Record ps} (h : ofItems type count ps items = .ok r) :
    r.IsNullFree := by
  induction ps generalizing count items with
  | nil =>
    cases r
    trivial
  | cons p ps ih =>
    cases items with
    | nil => cases h
    | cons v items =>
      simp only [ofItems, bind_eq_ok, pure_eq_ok] at h
      obtain ⟨slot, hslot, rest, hrest, rfl⟩ := h
      exact ⟨Slot.isNullFree_decode (hps p List.mem_cons_self) hslot,
        ih (fun q hq => hps q (List.mem_cons_of_mem p hq)) hrest⟩

theorem isNullFree_resolve {known : KnownData} {fields : FieldSet}
    {other : String → Option String} {r r' : Record ps} (hr : r.IsNullFree)
    (h : r.resolve known fields other = .ok r') : r'.IsNullFree := by
  induction r with
  | nil =>
    cases h
    trivial
  | @cons p ps slot rest ih =>
    simp only [resolve, bind_eq_ok, pure_eq_ok] at h
    obtain ⟨slot', hslot, rest', hrest, rfl⟩ := h
    exact ⟨Slot.isNullFree_resolve hr.1 hslot, ih hr.2 hrest⟩

/-! ### Writing -/

theorem encode_eq_encodeAs (r : Record ps) : r.encode = r.encodeAs Property.name := by
  induction r with
  | nil => rfl
  | cons slot rest ih =>
    cases slot with
    | given v => exact congrArg _ ih
    | absent h => exact ih

theorem toCamel_encode (r : Record ps) :
    Entries.toCamel r.encode = r.encodeAs fun p => toCamel p.name := by
  induction r with
  | nil => rfl
  | cons slot rest ih =>
    cases slot with
    | given v => exact congrArg _ ih
    | absent h => exact ih

theorem keys_encodeAs_sublist (name : Property → String) (r : Record ps) :
    (Entries.keys (r.encodeAs name)).Sublist (ps.map name) := by
  induction r with
  | nil => exact List.Sublist.refl _
  | cons slot rest ih =>
    cases slot with
    | given v => exact ih.cons_cons _
    | absent h => exact ih.cons _

theorem ne_null_of_isNullFree {name : Property → String} {r : Record ps} (h : r.IsNullFree) :
    ∀ e ∈ r.encodeAs name, e.2 ≠ .null := by
  induction r with
  | nil => simp [encodeAs]
  | cons slot rest ih =>
    cases slot with
    | given v =>
      intro e he
      rcases List.mem_cons.1 he with rfl | he
      · exact h.1 v rfl
      · exact ih h.2 e he
    | absent _ => exact ih h.2

/-- A record is read from what is written of it, under any spellings. -/
theorem readFrom_encodeAs {name : Property → String} (hname : ∀ p ∈ ps, name p ∈ p.spellings)
    (hps : (ps.flatMap Property.spellings).Nodup) {r : Record ps} (hr : r.IsNullFree) :
    ReadFrom (r.encodeAs name) r := by
  induction r with
  | nil => trivial
  | @cons p ps slot rest ih =>
    have hothers := Property.not_answersTo_first hps
    have hrestName : ∀ q ∈ ps, name q ∈ q.spellings :=
      fun q hq => hname q (List.mem_cons_of_mem p hq)
    have hread := ih hrestName (hps.sublist (List.sublist_append_right _ _)) hr.2
    -- Nothing that is written of the other properties gives the first one.
    have hkeep : ∀ e ∈ encodeAs name rest, (!p.answersTo e.1) = true := by
      intro e he
      have hkey := (keys_encodeAs_sublist name rest).subset (List.mem_map_of_mem he)
      obtain ⟨q, hq, hqe⟩ := List.mem_map.1 hkey
      exact hothers q hq e.1 (Property.answersTo_iff.2 (hqe ▸ hrestName q hq))
    have hnone : p.entriesIn (encodeAs name rest) = [] :=
      List.filter_eq_nil_iff.2 fun e he => by simpa using hkeep e he
    cases slot with
    | absent h => exact ⟨Slot.readFrom_iff.2 (.inl ⟨hnone, rfl⟩), hread⟩
    | given v =>
      have hp : p.answersTo (name p) = true :=
        Property.answersTo_iff.2 (hname p List.mem_cons_self)
      have hone : p.entriesIn ((name p, p.shape.encode v) :: encodeAs name rest) =
          [(name p, p.shape.encode v)] := by
        rw [Property.entriesIn_cons_of_pos hp, hnone]
      have hdecode : Slot.decode p (p.shape.encode v) = .ok (.given v) :=
        Slot.decode_eq_ok.2 (.inr ⟨fun hnull => absurd hnull (hr.1 v rfl), v,
          Shape.decode_encode p.shape v, rfl⟩)
      refine ⟨Slot.readFrom_iff.2 (.inr ⟨_, hone, hdecode⟩), ?_⟩
      have hfilter : ((name p, p.shape.encode v) :: encodeAs name rest).filter
          (fun e => !p.answersTo e.1) = encodeAs name rest := by
        rw [List.filter_cons_of_neg (by simpa using hp), List.filter_eq_self]
        exact hkeep
      show ReadFrom ((name p, p.shape.encode v) :: encodeAs name rest) rest
      rw [← readFrom_filter hothers, hfilter]
      exact hread

theorem ofEntries_encodeAs {name : Property → String} (hname : ∀ p ∈ ps, name p ∈ p.spellings)
    (hps : (ps.flatMap Property.spellings).Nodup) {r : Record ps} (hr : r.IsNullFree) :
    ofEntries ps (r.encodeAs name) = .ok r := by
  refine (ofEntries_eq_ok hps).2 ⟨fun e he => ?_, readFrom_encodeAs hname hps hr⟩
  have hkey : e.1 ∈ ps.map name :=
    (keys_encodeAs_sublist name r).subset (List.mem_map_of_mem he)
  obtain ⟨p, hp, hpe⟩ := List.mem_map.1 hkey
  exact ⟨p, hp, Property.answersTo_iff.2 (hpe ▸ hname p hp)⟩

end Record

namespace Transform

variable {t : Transform}

theorem isNullFree_of_ofEntries {kind : TransformKind} {entries : List (String × Json)}
    (h : ofEntries kind entries = .ok t) : t.record.IsNullFree := by
  obtain ⟨r, hr, rfl⟩ := ofEntries_eq_ok.1 h
  exact Record.isNullFree_of_readFrom kind.optional_of_isAny
    ((Record.ofEntries_eq_ok kind.nodup_spellings).1 hr).2

theorem Obtained.isNullFree (h : t.Obtained) : t.record.IsNullFree := by
  induction h with
  | ofProperties h =>
    obtain ⟨entries, -, -, hread, -⟩ := ofProperties_eq_ok.1 h
    exact isNullFree_of_ofEntries hread
  | @decode v t h =>
    unfold Transform.decode at h
    split at h
    · split at h
      · cases h
      · obtain ⟨kind, -, hread⟩ := bind_eq_ok.1 h
        exact isNullFree_of_ofEntries hread
    · cases h
    · simp only [bind_eq_ok, pure_eq_ok] at h
      obtain ⟨kind, -, r, hr, rfl⟩ := h
      exact Record.isNullFree_ofItems kind.optional_of_isAny hr
    · cases h
  | attach _ h ih =>
    obtain ⟨-, -, hresolve, -⟩ := attach_eq_ok.1 h
    simp only [Transform.resolve, bind_eq_ok, pure_eq_ok] at hresolve
    obtain ⟨r, hr, rfl⟩ := hresolve
    exact Record.isNullFree_resolve ih hr

/-- An object with a kind and the entries of a record is read as a transform. -/
theorem decode_typed {kind : TransformKind} {entries : List (String × Json)}
    {r : Record kind.properties} (h : Record.ofEntries kind.properties entries = .ok r)
    (htype : "type" ∉ Entries.keys entries) :
    decode (.obj (("type", .str kind.name) :: entries)) = .ok ⟨kind, r⟩ := by
  have hkind : decodeKind (.str kind.name) = .ok kind := by
    rw [decodeKind, kind.ofName?_name]
  have hfilter : (("type", Json.str kind.name) :: entries).filter (fun e => e.1 != "type") =
      entries := by
    rw [List.filter_cons_of_neg (by simp), List.filter_eq_self]
    intro e he
    have hne : e.1 ≠ "type" := fun heq => htype (heq ▸ List.mem_map_of_mem he)
    simpa using hne
  have hread : ofEntries kind entries = .ok ⟨kind, r⟩ := ofEntries_eq_ok.2 ⟨r, h, rfl⟩
  show (do
    let kind' ← decodeKind (.str kind.name)
    ofEntries kind' ((("type", Json.str kind.name) :: entries).filter fun e => e.1 != "type")) = _
  rw [hkind, hfilter]
  exact hread

section

variable {kind : TransformKind} {r : Record kind.properties} {name : Property → String}

theorem type_not_mem_encodeAs (hname : ∀ p ∈ kind.properties, name p ∈ p.spellings) :
    "type" ∉ Entries.keys (r.encodeAs name) := by
  intro hmem
  obtain ⟨p, hp, hpt⟩ := List.mem_map.1 ((Record.keys_encodeAs_sublist name r).subset hmem)
  exact kind.type_not_mem_spellings (List.mem_flatMap.2 ⟨p, hp, hpt ▸ hname p hp⟩)

/-- A transform is read from what is written of it, under any spellings. -/
theorem decode_encodeAs (hname : ∀ p ∈ kind.properties, name p ∈ p.spellings)
    (hr : r.IsNullFree) :
    decode (.obj (("type", .str kind.name) :: r.encodeAs name)) = .ok ⟨kind, r⟩ :=
  decode_typed (Record.ofEntries_encodeAs hname kind.nodup_spellings hr)
    (type_not_mem_encodeAs hname)

/-- The document has the entries of the description, under its own names. -/
theorem collect_attributes (hr : r.IsNullFree) :
    (attributes ⟨kind, r⟩).collect =
      .obj (("type", .str kind.name) :: r.encodeAs fun p => toCamel p.name) := by
  have hcamel : ∀ p ∈ kind.properties, toCamel p.name ∈ p.spellings :=
    fun p hp => (TransformKind.mem_spellings_iff hp).2 (.inr rfl)
  have hentries : Entries.toCamel (("type", .str kind.name) :: r.encode) =
      ("type", .str kind.name) :: r.encodeAs fun p => toCamel p.name := by
    have htypeName : toCamel "type" = "type" := by decide
    show (toCamel "type", Json.str kind.name) :: Entries.toCamel r.encode = _
    rw [htypeName, r.toCamel_encode]
  rw [← hentries]
  refine Attributes.collect_ofJson ?_ ?_
  · intro e he
    rcases List.mem_cons.1 he with rfl | he
    · exact Json.noConfusion
    · rw [r.encode_eq_encodeAs] at he
      exact Record.ne_null_of_isNullFree hr e he
  · rw [hentries]
    refine List.nodup_cons.2 ⟨type_not_mem_encodeAs hcamel, ?_⟩
    exact (Property.nodup_map_of_mem_spellings kind.nodup_spellings hcamel).sublist
      (Record.keys_encodeAs_sublist _ r)

end

/-! ## Top theorem -/

/-- A transform is read from what is written of it, under the names of the description and under
those of the document. -/
theorem decode_encode_collect (h : t.Obtained) :
    decode t.encode = .ok t ∧ decode t.attributes.collect = .ok t := by
  obtain ⟨kind, r⟩ := t
  have hr : r.IsNullFree := h.isNullFree
  have hdescription : encode ⟨kind, r⟩ =
      .obj (("type", .str kind.name) :: r.encodeAs Property.name) :=
    congrArg (fun es => Json.obj (_ :: es)) r.encode_eq_encodeAs
  rw [hdescription, collect_attributes hr]
  constructor
  · exact decode_encodeAs (fun p hp => (TransformKind.mem_spellings_iff hp).2 (.inl rfl)) hr
  · exact decode_encodeAs (fun p hp => (TransformKind.mem_spellings_iff hp).2 (.inr rfl)) hr

/-- Properties in both spellings, one of them with a value of any shape. -/
def forceProperties : Json :=
  .obj [("linkDistance", .int 30), ("charge", .obj [("field", .null)]), ("alpha", .null)]

theorem decode_encode_collect_force :
    ∃ t t' fields, ofProperties .force forceProperties = .ok t ∧
      t.attach (fun _ => none) .structural = .ok (t', fields) ∧
      decode t'.encode = .ok t' ∧ decode t'.attributes.collect = .ok t' := by
  have hboth : ∃ t t' fields, ofProperties .force forceProperties = .ok t ∧
      t.attach (fun _ => none) .structural = .ok (t', fields) := ⟨_, _, _, rfl, rfl⟩
  obtain ⟨t, t', fields, hmade, hattached⟩ := hboth
  exact ⟨t, t', fields, hmade, hattached,
    decode_encode_collect (.attach (.ofProperties hmade) hattached)⟩

end Transform

end ChartSpec
