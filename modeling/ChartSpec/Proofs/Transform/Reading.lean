import ChartSpec.Proofs.Entries
import ChartSpec.Proofs.Result
import ChartSpec.Transform.Check

/-!
# Reading records

Entries are read one after the other and the first that does not fit decides, but whether they
are a record, and which one, does not depend on that: every entry must give some property, no
property is given twice, and each slot holds what its own entry gives (`Record.ofEntries_eq_ok`).
This needs that no two properties share a spelling, which is so for each kind of transform.
-/

namespace ChartSpec

/-- The entries that give a property, under whatever spelling. -/
def Property.entriesIn (p : Property) (entries : List (String × Json)) : List (String × Json) :=
  entries.filter fun e => p.answersTo e.1

/-- A slot holds the one value that is given, or nothing if none is. -/
def Slot.ReadFrom {p : Property} (slot : Slot p) (entries : List (String × Json)) : Prop :=
  match p.entriesIn entries with
  | [] => slot.value? = none
  | [e] => Slot.decode p e.2 = .ok slot
  | _ => False

/-- Every slot holds what is given for its property. -/
def Record.ReadFrom (entries : List (String × Json)) : {ps : List Property} → Record ps → Prop
  | _, .nil => True
  | _, .cons slot rest => slot.ReadFrom entries ∧ ReadFrom entries rest

/-- The properties that a value gives: the entries of an object, and none for null. -/
def Json.properties? : Json → Option (List (String × Json))
  | .null => some []
  | .obj entries => some entries
  | _ => none

/-- What has been read for a property, after one more value for it. -/
def Seen.take {p : Property} (v : Json) : Seen p → Except DecodeError (Seen p)
  | some _ => .error (.duplicateField p.name)
  | none => (Slot.decode p v).map some

/-! ## Lemmas -/

theorem Property.answersTo_iff {p : Property} {key : String} :
    p.answersTo key = true ↔ key ∈ p.spellings := by
  simp only [answersTo, spellings, Bool.or_eq_true, beq_iff_eq, List.mem_append,
    Option.mem_toList, List.mem_singleton]
  rw [or_comm, eq_comm (a := p.name)]

/-- If no spelling is shared, what gives another property does not give the first one. -/
theorem Property.not_answersTo_first {p : Property} {ps : List Property}
    (h : ((p :: ps).flatMap spellings).Nodup) :
    ∀ q ∈ ps, ∀ key, q.answersTo key → (!p.answersTo key) = true := by
  intro q hq key hkey
  rw [List.flatMap_cons, List.nodup_append] at h
  have hmem : key ∈ ps.flatMap spellings := List.mem_flatMap.2 ⟨q, hq, answersTo_iff.1 hkey⟩
  cases hp : p.answersTo key with
  | false => rfl
  | true => exact absurd rfl (h.2.2 key (answersTo_iff.1 hp) key hmem)

theorem Property.entriesIn_cons_of_pos {p : Property} {e : String × Json}
    {entries : List (String × Json)} (h : p.answersTo e.1) :
    p.entriesIn (e :: entries) = e :: p.entriesIn entries :=
  List.filter_cons_of_pos h

theorem Property.entriesIn_cons_of_neg {p : Property} {e : String × Json}
    {entries : List (String × Json)} (h : ¬ p.answersTo e.1) :
    p.entriesIn (e :: entries) = p.entriesIn entries :=
  List.filter_cons_of_neg h

/-- If no spelling is shared, one spelling of each property makes a list without repetitions. -/
theorem Property.nodup_map_of_mem_spellings {name : Property → String} {ps : List Property}
    (h : (ps.flatMap spellings).Nodup) (hname : ∀ p ∈ ps, name p ∈ p.spellings) :
    (ps.map name).Nodup := by
  induction ps with
  | nil => exact List.nodup_nil
  | cons p ps ih =>
    have hrest := ih (h.sublist (List.sublist_append_right _ _))
      fun q hq => hname q (List.mem_cons_of_mem p hq)
    refine List.nodup_cons.2 ⟨fun hmem => ?_, hrest⟩
    obtain ⟨q, hq, hqp⟩ := List.mem_map.1 hmem
    have hboth := not_answersTo_first h q hq (name p)
      (answersTo_iff.2 (hqp ▸ hname q (List.mem_cons_of_mem p hq)))
    rw [answersTo_iff.2 (hname p List.mem_cons_self)] at hboth
    cases hboth

theorem Slot.value?_eq_none {p : Property} {slot : Slot p} :
    slot.value? = none ↔ ∃ h, slot = .absent h := by
  cases slot with
  | given v => simp [value?]
  | absent h => simp [value?, h]

theorem Slot.decode_null {p : Property} (hp : p.required = false) :
    Slot.decode p .null = .ok (.absent hp) := by
  unfold decode
  split
  · rfl
  · rename_i hnull
    exact absurd hp (hnull rfl)

theorem Slot.decode_given {p : Property} {v : Json} (h : v = .null → p.required = true) :
    Slot.decode p v = (p.shape.decode v).map .given := by
  unfold decode
  split
  · rename_i hp
    rw [h rfl] at hp
    cases hp
  · rfl

/-- Null is the absence of an optional property; any other value is read by its shape. -/
theorem Slot.decode_eq_ok {p : Property} {v : Json} {slot : Slot p} :
    Slot.decode p v = .ok slot ↔
      (v = .null ∧ slot.value? = none) ∨
        ((v = .null → p.required = true) ∧ ∃ x, p.shape.decode v = .ok x ∧ slot = .given x) := by
  by_cases hnull : v = .null ∧ p.required = false
  · obtain ⟨rfl, hp⟩ := hnull
    simp [Slot.decode_null, hp, Slot.value?_eq_none, eq_comm]
  · have hgiven : v = .null → p.required = true := by
      intro hv
      cases hp : p.required with
      | true => rfl
      | false => exact absurd ⟨hv, hp⟩ hnull
    rw [decode_given hgiven, map_eq_ok]
    constructor
    · rintro ⟨x, hx, rfl⟩
      exact .inr ⟨hgiven, x, hx, rfl⟩
    · rintro (⟨hv, hnone⟩ | ⟨-, x, hx, rfl⟩)
      · obtain ⟨habsent, -⟩ := Slot.value?_eq_none.1 hnone
        exact absurd ⟨hv, habsent⟩ hnull
      · exact ⟨x, hx, rfl⟩

theorem Slot.readFrom_iff {p : Property} {slot : Slot p} {entries : List (String × Json)} :
    slot.ReadFrom entries ↔
      (p.entriesIn entries = [] ∧ slot.value? = none) ∨
        ∃ e, p.entriesIn entries = [e] ∧ Slot.decode p e.2 = .ok slot := by
  unfold ReadFrom
  split
  · rename_i hnone
    simp [hnone]
  · rename_i e hone
    simp [hone]
  · rename_i hnone hone
    simp only [false_iff, not_or, not_and, not_exists]
    exact ⟨fun h => absurd h hnone, fun e h => absurd h (hone e)⟩

theorem Slot.readFrom_of_perm {p : Property} {slot : Slot p}
    {entries entries' : List (String × Json)} (hperm : entries.Perm entries')
    (h : slot.ReadFrom entries) : slot.ReadFrom entries' := by
  have hgiven : (p.entriesIn entries).Perm (p.entriesIn entries') := hperm.filter _
  rcases readFrom_iff.1 h with ⟨hnil, hnone⟩ | ⟨e, hone, hdecode⟩
  · rw [hnil] at hgiven
    exact readFrom_iff.2 (.inl ⟨hgiven.symm.eq_nil, hnone⟩)
  · rw [hone] at hgiven
    exact readFrom_iff.2 (.inr ⟨e, List.perm_singleton.1 hgiven.symm, hdecode⟩)

theorem Record.readFrom_of_perm {ps : List Property} {r : Record ps}
    {entries entries' : List (String × Json)} (hperm : entries.Perm entries')
    (h : ReadFrom entries r) : ReadFrom entries' r := by
  induction r with
  | nil => trivial
  | cons slot rest ih => exact ⟨Slot.readFrom_of_perm hperm h.1, ih h.2⟩

namespace Record

variable {p : Property} {ps : List Property} {known : List String}

/-- An entry that gives the first property changes its slot only. -/
theorem take_first_eq_ok {key : String} {v : Json} {entry : Seen p} {rest : Row Seen ps}
    {row : Row Seen (p :: ps)} (hp : p.answersTo key) :
    take known key v (.cons entry rest) = .ok row ↔
      ∃ entry', Seen.take v entry = .ok entry' ∧ row = .cons entry' rest := by
  rw [take.eq_def]
  simp only [if_pos hp]
  cases entry with
  | some slot => simp [Seen.take]
  | none =>
    simp only [Seen.take, bind_eq_ok, pure_eq_ok, map_eq_ok]
    constructor
    · rintro ⟨slot, hslot, rfl⟩
      exact ⟨some slot, ⟨slot, hslot, rfl⟩, rfl⟩
    · rintro ⟨_, ⟨slot, hslot, rfl⟩, rfl⟩
      exact ⟨slot, hslot, rfl⟩

theorem take_rest_eq_ok {key : String} {v : Json} {entry : Seen p} {rest : Row Seen ps}
    {row : Row Seen (p :: ps)} (hp : ¬ p.answersTo key) :
    take known key v (.cons entry rest) = .ok row ↔
      ∃ rest', take known key v rest = .ok rest' ∧ row = .cons entry rest' := by
  rw [take.eq_def]
  simp only [if_neg hp, bind_eq_ok, pure_eq_ok, eq_comm (a := row)]

/-- Entries that give the first property are read for it, the others for the rest. -/
theorem foldlM_take_cons {entries : List (String × Json)} {entry : Seen p} {rest : Row Seen ps}
    {row : Row Seen (p :: ps)} :
    entries.foldlM (fun row e => take known e.1 e.2 row) (.cons entry rest) = .ok row ↔
      ∃ entry' rest', row = .cons entry' rest' ∧
        (p.entriesIn entries).foldlM (fun seen e => Seen.take e.2 seen) entry = .ok entry' ∧
        (entries.filter fun e => !p.answersTo e.1).foldlM (fun row e => take known e.1 e.2 row)
          rest = .ok rest' := by
  induction entries generalizing entry rest with
  | nil =>
    simp only [Property.entriesIn, List.filter_nil, List.foldlM_nil, pure_eq_ok]
    constructor
    · rintro rfl
      exact ⟨entry, rest, rfl, rfl, rfl⟩
    · rintro ⟨_, _, rfl, rfl, rfl⟩
      rfl
  | cons e entries ih =>
    rw [List.foldlM_cons, bind_eq_ok]
    by_cases hp : p.answersTo e.1
    · have hothers : (e :: entries).filter (fun e => !p.answersTo e.1) =
          entries.filter fun e => !p.answersTo e.1 := List.filter_cons_of_neg (by simpa using hp)
      rw [Property.entriesIn_cons_of_pos hp, hothers, List.foldlM_cons]
      simp only [take_first_eq_ok hp, bind_eq_ok]
      constructor
      · rintro ⟨_, ⟨entry', hentry, rfl⟩, hrun⟩
        obtain ⟨last, rest', hrow, hlast, hrest⟩ := ih.1 hrun
        exact ⟨last, rest', hrow, ⟨entry', hentry, hlast⟩, hrest⟩
      · rintro ⟨last, rest', hrow, ⟨entry', hentry, hlast⟩, hrest⟩
        exact ⟨_, ⟨entry', hentry, rfl⟩, ih.2 ⟨last, rest', hrow, hlast, hrest⟩⟩
    · have hothers : (e :: entries).filter (fun e => !p.answersTo e.1) =
          e :: entries.filter fun e => !p.answersTo e.1 :=
        List.filter_cons_of_pos (by simpa using hp)
      rw [Property.entriesIn_cons_of_neg hp, hothers, List.foldlM_cons]
      simp only [take_rest_eq_ok hp, bind_eq_ok]
      constructor
      · rintro ⟨_, ⟨next, hnext, rfl⟩, hrun⟩
        obtain ⟨entry', rest', hrow, hentry, hrest⟩ := ih.1 hrun
        exact ⟨entry', rest', hrow, hentry, next, hnext, hrest⟩
      · rintro ⟨entry', rest', hrow, hentry, next, hnext, hrest⟩
        exact ⟨_, ⟨next, hnext, rfl⟩, ih.2 ⟨entry', rest', hrow, hentry, hrest⟩⟩

/-- A property takes one value at most. -/
theorem foldlM_seen_eq_ok {entries : List (String × Json)} {seen : Seen p} :
    entries.foldlM (fun seen e => Seen.take e.2 seen) none = .ok seen ↔
      (entries = [] ∧ seen = none) ∨
        ∃ e slot, entries = [e] ∧ Slot.decode p e.2 = .ok slot ∧ seen = some slot := by
  match entries with
  | [] => simp [eq_comm (a := seen)]
  | [e] =>
    simp only [List.foldlM_cons, List.foldlM_nil, bind_eq_ok, pure_eq_ok, Seen.take, map_eq_ok]
    constructor
    · rintro ⟨_, ⟨slot, hslot, rfl⟩, rfl⟩
      exact .inr ⟨e, slot, rfl, hslot, rfl⟩
    · rintro (⟨hnil, -⟩ | ⟨_, slot, heq, hslot, rfl⟩)
      · cases hnil
      · cases heq
        exact ⟨_, ⟨slot, hslot, rfl⟩, rfl⟩
  | e :: e' :: rest =>
    simp [Seen.take, List.foldlM_cons]

/-- Reading what is given for a property ends in its slot, or in nothing if the slot is empty. -/
theorem slot_readFrom_iff_foldlM {slot : Slot p} {entries : List (String × Json)} :
    slot.ReadFrom entries ↔ ∃ seen : Seen p,
      (p.entriesIn entries).foldlM (fun seen e => Seen.take e.2 seen) none = .ok seen ∧
        (seen = some slot ∨ seen = none ∧ slot.value? = none) := by
  simp only [foldlM_seen_eq_ok, Slot.readFrom_iff]
  constructor
  · rintro (⟨hnil, hnone⟩ | ⟨e, hone, hdecode⟩)
    · exact ⟨none, .inl ⟨hnil, rfl⟩, .inr ⟨rfl, hnone⟩⟩
    · exact ⟨some slot, .inr ⟨e, slot, hone, hdecode, rfl⟩, .inl rfl⟩
  · rintro ⟨seen, ⟨hnil, rfl⟩ | ⟨e, slot', hone, hdecode, rfl⟩, hslot | ⟨hslot, hnone⟩⟩
    · cases hslot
    · exact .inl ⟨hnil, hnone⟩
    · cases hslot
      exact .inr ⟨e, hone, hdecode⟩
    · cases hslot

theorem close_cons_eq_ok {entry : Seen p} {rest : Row Seen ps} {slot : Slot p} {r : Record ps} :
    close (.cons entry rest) = .ok (.cons slot r) ↔
      (entry = some slot ∨ entry = none ∧ slot.value? = none) ∧ close rest = .ok r := by
  rw [close.eq_def]
  cases entry with
  | some slot' =>
    simp only [bind_eq_ok, pure_eq_ok, Row.cons.injEq, Option.some.injEq, reduceCtorEq, false_and,
      or_false]
    constructor
    · rintro ⟨r', hr, heq, rfl⟩
      exact ⟨heq, hr⟩
    · rintro ⟨heq, hr⟩
      exact ⟨r, hr, heq, rfl⟩
  | none =>
    by_cases hp : p.required = false
    · simp only [dif_pos hp, bind_eq_ok, pure_eq_ok, Row.cons.injEq, reduceCtorEq, true_and,
        false_or, Slot.value?_eq_none]
      constructor
      · rintro ⟨r', hr, rfl, rfl⟩
        exact ⟨⟨hp, rfl⟩, hr⟩
      · rintro ⟨⟨-, rfl⟩, hr⟩
        exact ⟨r, hr, rfl, rfl⟩
    · simp only [dif_neg hp, reduceCtorEq, true_and, false_or, Slot.value?_eq_none, false_iff,
        not_and]
      rintro ⟨hp', -⟩
      exact absurd hp' hp

/-- Entries that give no property of a record do not matter to it. -/
theorem readFrom_filter {keep : String → Bool}
    (hkeep : ∀ p ∈ ps, ∀ key, p.answersTo key → keep key) {entries : List (String × Json)}
    {r : Record ps} : r.ReadFrom (entries.filter fun e => keep e.1) ↔ r.ReadFrom entries := by
  induction r with
  | nil => exact Iff.rfl
  | @cons p ps slot rest ih =>
    have hentries : p.entriesIn (entries.filter fun e => keep e.1) = p.entriesIn entries := by
      unfold Property.entriesIn
      rw [List.filter_filter]
      refine List.filter_congr fun e _ => ?_
      cases hp : p.answersTo e.1 with
      | false => rfl
      | true => rw [hkeep p List.mem_cons_self e.1 hp, Bool.and_self]
    have hrest := ih fun q hq => hkeep q (List.mem_cons_of_mem p hq)
    unfold ReadFrom Slot.ReadFrom
    rw [hentries, hrest]

/-- Reading for the first property and for the rest.  The known spellings are for messages only. -/
theorem foldlM_take_fill_eq_ok (hps : (ps.flatMap Property.spellings).Nodup)
    {entries : List (String × Json)} {r : Record ps} :
    (∃ seen, entries.foldlM (fun row e => take known e.1 e.2 row) (Row.fill (fun _ => none) ps) =
        .ok seen ∧ close seen = .ok r) ↔
      (∀ e ∈ entries, ∃ p ∈ ps, p.answersTo e.1) ∧ r.ReadFrom entries := by
  induction ps generalizing entries with
  | nil =>
    cases r
    cases entries with
    | nil => simp [Row.fill, close, ReadFrom]
    | cons e rest =>
      have hnone : ¬ ∀ e' ∈ e :: rest, ∃ p ∈ ([] : List Property), p.answersTo e'.1 := by
        intro h
        obtain ⟨p, hp, -⟩ := h e List.mem_cons_self
        cases hp
      simp only [hnone, false_and, iff_false]
      rintro ⟨seen, hrun, -⟩
      cases hrun
  | cons p ps ih =>
    cases r with | cons slot r =>
    have hothers := Property.not_answersTo_first hps
    replace hps : (ps.flatMap Property.spellings).Nodup :=
      hps.sublist (List.sublist_append_right _ _)
    have hknown : (∀ e ∈ entries.filter (fun e => !p.answersTo e.1), ∃ q ∈ ps, q.answersTo e.1) ↔
        ∀ e ∈ entries, ∃ q ∈ p :: ps, q.answersTo e.1 := by
      simp only [List.mem_filter, Bool.not_eq_true', and_imp, List.mem_cons, exists_eq_or_imp]
      refine forall₂_congr fun e _ => ?_
      cases p.answersTo e.1 <;> simp
    have hread : ReadFrom entries (.cons slot r) ↔ slot.ReadFrom entries ∧
        ReadFrom (entries.filter fun e => !p.answersTo e.1) r := by
      rw [readFrom_filter hothers]
      rfl
    rw [← hknown, hread, slot_readFrom_iff_foldlM]
    constructor
    · rintro ⟨seen, hrun, hclose⟩
      obtain ⟨entry, rest, rfl, hentry, hrest⟩ := foldlM_take_cons.1 hrun
      obtain ⟨hslot, hclose⟩ := close_cons_eq_ok.1 hclose
      obtain ⟨hgiven, hread⟩ := (ih hps).1 ⟨rest, hrest, hclose⟩
      exact ⟨hgiven, ⟨entry, hentry, hslot⟩, hread⟩
    · rintro ⟨hgiven, ⟨entry, hentry, hslot⟩, hread⟩
      obtain ⟨rest, hrest, hclose⟩ := (ih hps).2 ⟨hgiven, hread⟩
      exact ⟨_, foldlM_take_cons.2 ⟨entry, rest, rfl, hentry, hrest⟩,
        close_cons_eq_ok.2 ⟨hslot, hclose⟩⟩

/-! ## Top theorem -/

/-- What it takes for entries to be a record, if no two properties share a spelling. -/
theorem ofEntries_eq_ok (hps : (ps.flatMap Property.spellings).Nodup)
    {entries : List (String × Json)} {r : Record ps} :
    ofEntries ps entries = .ok r ↔
      (∀ e ∈ entries, ∃ p ∈ ps, p.answersTo e.1) ∧ r.ReadFrom entries := by
  rw [← foldlM_take_fill_eq_ok hps, ofEntries, bind_eq_ok]

end Record

namespace Transform

variable {kind : TransformKind} {t : Transform}

theorem ofEntries_eq_ok {entries : List (String × Json)} :
    ofEntries kind entries = .ok t ↔
      ∃ r, Record.ofEntries kind.properties entries = .ok r ∧ t = ⟨kind, r⟩ := by
  simp only [ofEntries, bind_eq_ok, pure_eq_ok, eq_comm (b := t)]

/-- What it takes for a value to give the properties of a transform. -/
theorem ofProperties_eq_ok {v : Json} :
    ofProperties kind v = .ok t ↔
      ∃ entries, v.properties? = some entries ∧ "type" ∉ Entries.keys entries ∧
        ofEntries kind entries = .ok t ∧ t.check = .ok () := by
  have hmake : ∀ entries, ofProperties.make kind entries = .ok t ↔
      "type" ∉ Entries.keys entries ∧ ofEntries kind entries = .ok t ∧ t.check = .ok () := by
    intro entries
    rw [ofProperties.make, ← Entries.find?_eq_none]
    cases Entries.find? "type" entries with
    | some v => simp
    | none =>
      simp only [Option.isSome_none, Bool.false_eq_true, if_false, inPlace_eq_ok, true_and]
      cases ofEntries kind entries with
      | error e => simp
      | ok t' =>
        simp only [bind_eq_ok, pure_eq_ok, Except.ok.injEq]
        constructor
        · rintro ⟨_, hcheck, rfl⟩
          exact ⟨rfl, hcheck⟩
        · rintro ⟨rfl, hcheck⟩
          exact ⟨(), hcheck, rfl⟩
  cases v with
  | null => simp [ofProperties, Json.properties?, hmake]
  | obj entries => simp [ofProperties, Json.properties?, hmake]
  | _ => simp [ofProperties, Json.properties?]

end Transform

end ChartSpec
