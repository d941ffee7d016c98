import ChartSpec.Proofs.Field.Place
import ChartSpec.Proofs.Scale.Domain
import ChartSpec.Proofs.Stability

/-!
# Attaching a transform again

Attaching changes the texts of a transform and nothing else, each by the role of its property
(`Transform.resolve_eq_mapRoles`).  What an attached transform names are places.  If the fields of
its context have plain names, it may be attached again, in the same context or in one with more
fields, and stays as it is (`Bench.attach_again`): its places stand for themselves, its rules are
about properties that have not changed, and the data sets that it reads are still known.
-/

namespace ChartSpec

/-- Whether attaching leaves the texts of a role as they are. -/
def Role.isFixed : Role → Bool
  | .plain => true
  | .data => true
  | _ => false

/-- What attaching makes of a text, by the role of its property. -/
def Role.reading (known : KnownData) (fields : FieldSet) (other : String → Option String) :
    Role → String → String
  | .plain => id
  | .data => id
  | .field => resolveField fields
  | .sortKey => resolveSortKey fields
  | .fieldOf property =>
    match (other property).bind known with
    | some theirs => resolveField theirs
    | none => id

/-- Changes the texts of a record by the roles of their properties. -/
def Record.mapRoles (f : Role → String → String) : {ps : List Property} → Record ps → Record ps
  | _, .nil => .nil
  | p :: _, .cons slot rest => .cons (slot.map (p.shape.mapTexts (f p.role))) (mapRoles f rest)

/-! ## Lemmas -/

/-! ### Values -/

namespace Shape

theorem mapTexts_id (s : Shape) (v : s.Value) : s.mapTexts id v = v := by
  cases s with
  | texts => exact List.map_id v
  | sortKeys =>
    cases v with
    | one key => rfl
    | many keys => exact congrArg OneOrMany.many (List.map_id keys)
  | _ => rfl

theorem mapTexts_mapTexts {f g : String → String} (h : ∀ text, g (f text) = f text) (s : Shape)
    (v : s.Value) : s.mapTexts g (s.mapTexts f v) = s.mapTexts f v := by
  have hlist : ∀ texts : List String, (texts.map f).map g = texts.map f := by
    intro texts
    rw [List.map_map]
    exact List.map_congr_left fun text _ => h text
  cases s with
  | text => exact h v
  | texts => exact hlist v
  | sortKeys =>
    cases v with
    | one key => exact congrArg OneOrMany.one (h key)
    | many keys => exact congrArg OneOrMany.many (hlist keys)
  | _ => rfl

theorem textsOf_mapTexts (f : String → String) (s : Shape) (v : s.Value) :
    s.textsOf (s.mapTexts f v) = (s.textsOf v).map f := by
  cases s with
  | sortKeys => cases v <;> rfl
  | _ => rfl

end Shape

/-! ### Properties -/

namespace Slot

variable {p : Property}

theorem map_mapTexts_id (slot : Slot p) : slot.map (p.shape.mapTexts id) = slot := by
  cases slot with
  | given v => exact congrArg given (p.shape.mapTexts_id v)
  | absent => rfl

theorem map_mapTexts_mapTexts {f g : String → String} (h : ∀ text, g (f text) = f text)
    (slot : Slot p) : (slot.map (p.shape.mapTexts f)).map (p.shape.mapTexts g) =
      slot.map (p.shape.mapTexts f) := by
  cases slot with
  | given v => exact congrArg given (p.shape.mapTexts_mapTexts h v)
  | absent => rfl

theorem texts_map_mapTexts (f : String → String) (slot : Slot p) :
    (slot.map (p.shape.mapTexts f)).texts = slot.texts.map f := by
  cases slot with
  | given v => exact p.shape.textsOf_mapTexts f v
  | absent => rfl

theorem check_of_free (hp : p.rule = .free) (slot : Slot p) : slot.check = .ok () := by
  cases slot with
  | given v => rw [check, hp]; rfl
  | absent => rfl

/-- A property is read by its role, if the data set whose fields it may name is known. -/
theorem resolve_eq_map {known : KnownData} {fields : FieldSet} {other : String → Option String}
    (h : ∀ property, p.role = .fieldOf property → ((other property).bind known).isSome)
    (slot : Slot p) : slot.resolve known fields other =
      .ok (slot.map (p.shape.mapTexts (p.role.reading known fields other))) := by
  unfold resolve Role.reading
  cases hrole : p.role with
  | plain | data => simp only [map_mapTexts_id]
  | field | sortKey => rfl
  | fieldOf property =>
    obtain ⟨theirs, htheirs⟩ := Option.isSome_iff_exists.1 (h property hrole)
    obtain ⟨name, hname, hknown⟩ := Option.bind_eq_some_iff.1 htheirs
    cases slot with
    | absent => rfl
    | given v => simp [hname, hknown, KnownData.demand, ChartSpec.demand, map]

end Slot

/-! ### Records -/

namespace Record

variable {ps : List Property} {f g : Role → String → String}

theorem mapRoles_mapRoles (h : ∀ p ∈ ps, ∀ text, g p.role (f p.role text) = f p.role text)
    (r : Record ps) : (r.mapRoles f).mapRoles g = r.mapRoles f := by
  induction r with
  | nil => rfl
  | @cons p ps slot rest ih =>
    obtain ⟨hp, hps⟩ := List.forall_mem_cons.1 h
    rw [mapRoles, mapRoles, slot.map_mapTexts_mapTexts hp, ih hps]

theorem textsOfRole_mapRoles (role : Role) (r : Record ps) :
    (r.mapRoles f).textsOfRole role = (r.textsOfRole role).map (f role) := by
  induction r with
  | nil => rfl
  | @cons p ps slot rest ih =>
    rw [mapRoles, textsOfRole, textsOfRole, ih]
    split
    · rename_i hp
      rw [slot.texts_map_mapTexts, hp, List.map_append]
    · rfl

/-- Texts of a role stand under a property of the role. -/
theorem exists_of_mem_textsOfRole {role : Role} {text : String} {r : Record ps}
    (h : text ∈ r.textsOfRole role) : ∃ p ∈ ps, p.role = role := by
  induction r with
  | nil => cases h
  | @cons p ps slot rest ih =>
    rw [textsOfRole] at h
    split at h
    · rename_i hp
      exact ⟨p, List.mem_cons_self, hp⟩
    · obtain ⟨q, hq, hrole⟩ := ih h
      exact ⟨q, List.mem_cons_of_mem p hq, hrole⟩

theorem texts?_mapRoles {name : String} (h : ∀ p ∈ ps, p.name = name → f p.role = id)
    (r : Record ps) : texts? name (r.mapRoles f) = texts? name r := by
  induction r with
  | nil => rfl
  | @cons p ps slot rest ih =>
    obtain ⟨hp, hps⟩ := List.forall_mem_cons.1 h
    rw [mapRoles, texts?, texts?, ih hps]
    split
    · rename_i hname
      rw [hp hname, slot.map_mapTexts_id]
    · rfl

theorem check_mapRoles (h : ∀ p ∈ ps, f p.role = id ∨ p.rule = .free) (r : Record ps) :
    (r.mapRoles f).check = r.check := by
  induction r with
  | nil => rfl
  | @cons p ps slot rest ih =>
    obtain ⟨hp, hps⟩ := List.forall_mem_cons.1 h
    rw [mapRoles, check, check, ih hps]
    rcases hp with hp | hp
    · rw [hp, slot.map_mapTexts_id]
    · rw [Slot.check_of_free hp, Slot.check_of_free hp]

theorem resolve_eq_mapRoles {known : KnownData} {fields : FieldSet}
    {other : String → Option String}
    (h : ∀ p ∈ ps, ∀ property, p.role = .fieldOf property →
      ((other property).bind known).isSome) (r : Record ps) :
    r.resolve known fields other = .ok (r.mapRoles (Role.reading known fields other)) := by
  induction r with
  | nil => rfl
  | @cons p ps slot rest ih =>
    obtain ⟨hp, hps⟩ := List.forall_mem_cons.1 h
    rw [resolve, slot.resolve_eq_map hp, ih hps]
    rfl

end Record

/-! ### Transforms -/

namespace TransformKind

/-- Properties that name fields have no rules. -/
theorem rule_eq_free (kind : TransformKind) :
    ∀ p ∈ kind.properties, p.role.isFixed = false → p.rule = .free := by
  cases kind <;> decide

theorem isFixed_with (kind : TransformKind) :
    ∀ p ∈ kind.properties, p.name = "with" → p.role.isFixed := by
  cases kind <;> decide

theorem isFixed_copy : ∀ p ∈ copy.properties, p.role.isFixed := by decide

/-- Only a zip names fields of another data set. -/
theorem role_cases (kind : TransformKind) :
    ∀ p ∈ kind.properties, p.role.isFixed ∨ p.role = .field ∨ p.role = .sortKey ∨
      kind = .zip ∧ p.role = .fieldOf "with" := by
  cases kind <;> decide

end TransformKind

theorem Role.reading_of_isFixed {role : Role} (h : role.isFixed) (known : KnownData)
    (fields : FieldSet) (other : String → Option String) :
    role.reading known fields other = id := by
  cases role with
  | plain | data => rfl
  | field | sortKey | fieldOf => cases h

namespace Transform

variable {known known' : KnownData} {fields fields' next : FieldSet} {t t' : Transform}

/-- A zip always names another data set. -/
theorem exists_with (hkind : t.kind = .zip) :
    ∃ name ∈ t.sources, t.record.text? "with" = some name := by
  obtain ⟨kind, record⟩ := t
  cases hkind
  match record with
  | .cons (.given name) (.cons _ (.cons _ (.cons _ (.cons _ .nil)))) =>
    exact ⟨name, List.mem_cons_self, rfl⟩

/-- Only a zip names fields of another data set, and that data set is known. -/
theorem known_of_fieldOf (hvalid : t.validate known = .ok ()) {p : Property}
    (hp : p ∈ t.kind.properties) {property : String} (hrole : p.role = .fieldOf property) :
    t.kind = .zip ∧ property = "with" ∧
      ∃ name theirs, t.record.text? property = some name ∧ known name = some theirs := by
  rcases t.kind.role_cases p hp with hfixed | hfield | hsort | ⟨hkind, hwith⟩
  · rw [hrole] at hfixed
    cases hfixed
  · rw [hrole] at hfield
    cases hfield
  · rw [hrole] at hsort
    cases hsort
  · rw [hrole] at hwith
    obtain rfl := Role.fieldOf.inj hwith
    obtain ⟨name, hname, hother⟩ := exists_with hkind
    obtain ⟨theirs, htheirs⟩ :=
      Option.isSome_iff_exists.1 (Record.validate_eq_ok.1 hvalid name hname)
    exact ⟨hkind, rfl, name, theirs, hother, htheirs⟩

/-- The data sets that a transform reads being known, its texts change by their roles. -/
theorem resolve_eq_mapRoles (hvalid : t.validate known = .ok ()) :
    t.resolve known fields =
      .ok ⟨t.kind, t.record.mapRoles (Role.reading known fields t.record.text?)⟩ := by
  have hother : ∀ p ∈ t.kind.properties, ∀ property, p.role = .fieldOf property →
      ((t.record.text? property).bind known).isSome := by
    intro p hp property hrole
    obtain ⟨-, -, name, theirs, hname, htheirs⟩ := known_of_fieldOf hvalid hp hrole
    rw [hname, Option.bind_some, htheirs]
    rfl
  rw [resolve, Record.resolve_eq_mapRoles hother]
  rfl

/-- The data set of a zip stays, and with it the context in which fields of it are resolved. -/
theorem text?_with_mapRoles (f : Role → String → String)
    (hf : ∀ role : Role, role.isFixed → f role = id) (r : Record t.kind.properties) :
    (r.mapRoles f).text? "with" = r.text? "with" := by
  rw [Record.text?, Record.text?, Record.texts?_mapRoles]
  intro p hp hname
  exact hf _ (t.kind.isFixed_with p hp hname)

theorem check_mapRoles (f : Role → String → String)
    (hf : ∀ role : Role, role.isFixed → f role = id) :
    check ⟨t.kind, t.record.mapRoles f⟩ = t.check := by
  have hrules : (t.record.mapRoles f).check = t.record.check := by
    refine Record.check_mapRoles (fun p hp => ?_) t.record
    cases hfixed : p.role.isFixed with
    | true => exact .inl (hf _ hfixed)
    | false => exact .inr (t.kind.rule_eq_free p hp hfixed)
  have hcopy : checkCopy ⟨t.kind, t.record.mapRoles f⟩ = t.checkCopy := by
    obtain ⟨kind, record⟩ := t
    cases kind with
    | copy =>
      have htexts : ∀ name, Record.texts? name (record.mapRoles f) = Record.texts? name record :=
        fun name => Record.texts?_mapRoles
          (fun p hp _ => hf _ (TransformKind.isFixed_copy p hp)) record
      simp only [checkCopy, htexts]
    | _ => rfl
  rw [check, check, hrules, hcopy]

/-- What the roles make of the texts, they make of them again in the larger context. -/
theorem reading_reading (hk : ∀ n theirs, known n = some theirs → known' n = some theirs)
    (hplain : fields.Plain) (hsub : fields.names ⊆ fields'.names)
    (hzip : t.kind = .zip → ∀ name theirs, t.record.text? "with" = some name →
      known name = some theirs → theirs.Plain)
    (hvalid : t.validate known = .ok ()) {other : String → Option String}
    (hother : other "with" = t.record.text? "with") :
    ∀ p ∈ t.kind.properties, ∀ text,
      p.role.reading known' fields' other (p.role.reading known fields t.record.text? text) =
        p.role.reading known fields t.record.text? text := by
  intro p hp text
  cases hrole : p.role with
  | plain | data => rfl
  | field => exact FieldSet.resolveField_resolveField hplain hsub text
  | sortKey => exact FieldSet.resolveSortKey_resolveSortKey hplain hsub text
  | fieldOf property =>
    obtain ⟨hkind, rfl, name, theirs, hname, htheirs⟩ := known_of_fieldOf hvalid hp hrole
    have htwice := FieldSet.resolveField_resolveField (hzip hkind name theirs hname htheirs)
      (List.Subset.refl theirs.names) text
    simpa [Role.reading, hother, hname, htheirs, hk name theirs htheirs] using htwice

/-- Every text of an attached transform that names a field is a place. -/
theorem isPlace_of_attach (hplain : fields.Plain)
    (h : t.attach known fields = .ok (t', next)) :
    (∀ text ∈ t'.record.textsOfRole .field, fields.IsPlace text) ∧
    (∀ key ∈ t'.record.textsOfRole .sortKey, fields.IsPlace (dropMinus key)) ∧
    ∀ property, ∀ text ∈ t'.record.textsOfRole (.fieldOf property), ∃ name theirs,
      t'.record.text? property = some name ∧ known name = some theirs ∧ theirs.IsPlace text := by
  obtain ⟨-, hvalid, hresolve, -⟩ := attach_eq_ok.1 h
  rw [resolve_eq_mapRoles hvalid] at hresolve
  obtain rfl := Except.ok.inj hresolve
  refine ⟨?_, ?_, ?_⟩
  · intro text htext
    rw [Record.textsOfRole_mapRoles] at htext
    obtain ⟨token, -, rfl⟩ := List.mem_map.1 htext
    exact fields.isPlace_resolveField token
  · intro key hkey
    rw [Record.textsOfRole_mapRoles] at hkey
    obtain ⟨token, -, rfl⟩ := List.mem_map.1 hkey
    exact FieldSet.isPlace_resolveSortKey hplain token
  · intro property text htext
    obtain ⟨p, hp, hrole⟩ := Record.exists_of_mem_textsOfRole htext
    obtain ⟨-, rfl, name, theirs, hname, htheirs⟩ := known_of_fieldOf hvalid hp hrole
    rw [Record.textsOfRole_mapRoles] at htext
    obtain ⟨token, -, rfl⟩ := List.mem_map.1 htext
    refine ⟨name, theirs, ?_, htheirs, ?_⟩
    · rw [← hname]
      exact text?_with_mapRoles _ (fun role hfixed => Role.reading_of_isFixed hfixed ..) _
    · simp only [Role.reading, hname, Option.bind_some, htheirs]
      exact theirs.isPlace_resolveField token

/-- An attached transform stays as it is where more fields and data sets are known. -/
theorem attach_of_attach (hk : ∀ n theirs, known n = some theirs → known' n = some theirs)
    (hplain : fields.Plain) (hsub : fields.names ⊆ fields'.names)
    (hzip : t.kind = .zip → ∀ name theirs, t.record.text? "with" = some name →
      known name = some theirs → theirs.Plain)
    (h : t.attach known fields = .ok (t', next)) :
    t'.attach known' fields' = .ok (t', fields'.extend t'.outputs) := by
  obtain ⟨hcheck, hvalid, hresolve, -⟩ := attach_eq_ok.1 h
  have hvalid' : t'.validate known' = .ok () := by
    refine validate_of_known hk (Record.validate_eq_ok.2 ?_)
    exact known_of_attach h
  rw [resolve_eq_mapRoles hvalid] at hresolve
  obtain rfl := Except.ok.inj hresolve
  have hfixed : ∀ role : Role, role.isFixed →
      Role.reading known fields t.record.text? role = id :=
    fun role hfixed => Role.reading_of_isFixed hfixed ..
  refine attach_eq_ok.2 ⟨(check_mapRoles _ hfixed).trans hcheck, hvalid', ?_, rfl⟩
  rw [resolve_eq_mapRoles hvalid']
  have hother := text?_with_mapRoles _ hfixed t.record
  have hagain := Record.mapRoles_mapRoles
    (reading_reading hk hplain hsub hzip hvalid hother) t.record
  exact congrArg (fun record => Except.ok (Transform.mk t.kind record)) hagain

end Transform

/-! ## Top theorem -/

/-- Let a transform be attached beside the registry of any bench, in a context with plain names,
the context of a zip's other data set being one too.  Then the attached transform names places
only: fields of its context, and a zip those of its other data set.  In any context with at least
these fields, beside any later registry, it can be attached again and stays as it is. -/
theorem Bench.attach_again (moves later : List Move) {fields fields' next : FieldSet}
    {t t' : Transform} (hplain : fields.Plain) (hsub : fields.names ⊆ fields'.names)
    (hzip : t.kind = .zip → ∀ name d, t.record.text? "with" = some name →
      (run {} moves).registry.findData? name = some d → d.fields.Plain)
    (h : t.attach (run {} moves).registry.known fields = .ok (t', next)) :
    (∀ text ∈ t'.record.textsOfRole .field, fields.IsPlace text) ∧
    (∀ key ∈ t'.record.textsOfRole .sortKey, fields.IsPlace (dropMinus key)) ∧
    (∀ property, ∀ text ∈ t'.record.textsOfRole (.fieldOf property), ∃ name d,
      t'.record.text? property = some name ∧
      (run {} moves).registry.findData? name = some d ∧ d.fields.IsPlace text) ∧
    t'.attach (run {} (moves ++ later)).registry.known fields' =
      .ok (t', fields'.extend t'.outputs) := by
  obtain ⟨hfield, hsortKey, hfieldOf⟩ := Transform.isPlace_of_attach hplain h
  have hgrows : (run {} moves).registry.Grows (run {} (moves ++ later)).registry := by
    rw [run_append]
    exact grows_run _ later
  refine ⟨hfield, hsortKey, ?_, ?_⟩
  · intro property text htext
    obtain ⟨name, theirs, hname, htheirs, hplace⟩ := hfieldOf property text htext
    obtain ⟨d, hd, rfl⟩ := Option.map_eq_some_iff.1 htheirs
    exact ⟨name, d, hname, hd, hplace⟩
  · refine Transform.attach_of_attach hgrows.known hplain hsub ?_ h
    intro hkind name theirs hname htheirs
    obtain ⟨d, hd, rfl⟩ := Option.map_eq_some_iff.1 htheirs
    exact hzip hkind name d hname hd

/-- Joins the records of the table whose field `count` has the value of the user's `price`. -/
def Transform.countZip : Transform :=
  ⟨.zip, .cons (.given "table") (.cons (.given "match") (.cons (.given "price")
    (.cons (.given "count") (.cons (.absent rfl) .nil))))⟩

theorem Bench.attach_again_countZip :
    ∃ t' next, Transform.countZip.attach (run {} countMoves).registry.known .structural =
        .ok (t', next) ∧ FieldSet.structural.Plain ∧
      t'.attach (run {} (countMoves ++ [.start .data "more", .finish .data 0])).registry.known
        next = .ok (t', next.extend t'.outputs) := by
  have hplain : FieldSet.structural.Plain := by decide
  have htable : ∀ name d, Transform.countZip.record.text? "with" = some name →
      (run {} countMoves).registry.findData? name = some d → d.fields.Plain := by
    rintro name d ⟨⟩ hd
    obtain rfl := Option.some.inj hd
    decide
  refine ⟨_, _, rfl, hplain, ?_⟩
  exact (attach_again countMoves [.start .data "more", .finish .data 0] hplain
    (FieldSet.prefix_extend _ _).subset (fun _ => htable) rfl).2.2.2

end ChartSpec
