import ChartSpec.Proofs.Attribute
import ChartSpec.Proofs.Axis.Parts
import ChartSpec.Proofs.Collected
import ChartSpec.Proofs.Mark.Styling
import ChartSpec.Proofs.Naming.RoundTrip
import ChartSpec.Proofs.Transform.Encoding

/-!
# Parts in the document

Which names a part refers to can be read off the JSON object that is written of it.  A data set has
a `source`, transforms name data sets under `with` and `links`, a scale has them in the `data` of
its domain, its range and the bounds of both, a mark in its `from`.  Axes and marks name scales
wherever a value has a `scale`.

What is read there are the names that the part itself tells.
-/

namespace ChartSpec

namespace Json

/-! ## Reading -/

/-- A text; other values are none. -/
def text? : Json → Option String
  | str s => some s
  | _ => none

/-- The items of a list; other values have none. -/
def items : Json → List Json
  | arr items => items
  | _ => []

/-- The values in an object, whatever their keys are; other values have none. -/
def members : Json → List Json
  | obj entries => entries.map Prod.snd
  | _ => []

def textAt (key : String) (v : Json) : Option String := (v.get? key).bind text?

def itemsAt (key : String) (v : Json) : List Json := (v.get? key).elim [] items

def membersAt (key : String) (v : Json) : List Json := (v.get? key).elim [] members

/-- The names of the items of a list. -/
def namesAt (key : String) (v : Json) : List String := (v.itemsAt key).filterMap (textAt "name")

/-! ### Data sets that are referred to -/

def transformSources (t : Json) : List String :=
  if t.textAt "type" = some "cross" ∨ t.textAt "type" = some "zip" then (t.textAt "with").toList
  else if t.textAt "type" = some "force" then (t.textAt "links").toList
  else []

/-- The sources of all transforms that an object lists. -/
def flowSources (v : Json) : List String := (v.itemsAt "transform").flatMap transformSources

def dataSources (d : Json) : List String := (d.textAt "source").toList ++ d.flowSources

def scaleSources (s : Json) : List String :=
  ["domain", "domainMin", "domainMax", "range", "rangeMin", "rangeMax"].flatMap fun key =>
    ((s.get? key).bind (textAt "data")).toList

def markSources (m : Json) : List String :=
  (m.get? "from").elim [] fun origin => (origin.textAt "data").toList ++ origin.flowSources

/-! ### Scales that are used -/

/-- The scales of the channels of a styling. -/
def stylingScales (s : Json) : List String := s.members.filterMap (textAt "scale")

def axisScales (a : Json) : List String :=
  (a.textAt "scale").toList ++ (a.membersAt "properties").flatMap stylingScales

def markScales (m : Json) : List String :=
  (m.membersAt "properties").flatMap stylingScales ++ ((m.get? "delay").bind (textAt "scale")).toList

end Json

/-- The keys under which transforms of a kind name data sets. -/
def TransformKind.dataKeys (kind : TransformKind) : List String :=
  (kind.properties.filter fun p => p.role = .data).map fun p => toCamel p.name

/-- Whether a value is a JSON object as such. -/
def ScaleValue.isObject : ScaleValue → Bool
  | literal v => v.isObject
  | _ => false

/-! ## Lemmas -/

namespace Attributes

variable {as : Attributes} {key : String}

theorem get?_of_mem (name : String) {a : Attribute} (hkeys : as.keys.Nodup)
    (hname : toCamel name = key) (h : (name, a) ∈ as) : as.collect.get? key = a.collect :=
  hname ▸ get?_collect hkeys h

theorem textAt_of_text (name : String) {s : String} (hkeys : as.keys.Nodup)
    (hname : toCamel name = key) (h : (name, .text s) ∈ as) :
    as.collect.textAt key = some s := by
  rw [Json.textAt, get?_of_mem name hkeys hname h]
  rfl

theorem textAt_of_optionalText (name : String) {s : Option String} (hkeys : as.keys.Nodup)
    (hname : toCamel name = key) (h : (name, .optionalText s) ∈ as) :
    as.collect.textAt key = s := by
  rw [Json.textAt, get?_of_mem name hkeys hname h]
  cases s <;> rfl

theorem itemsAt_of_nodes {α : Type} (name : String) (f : α → Attributes) (parts : List α)
    (hkeys : as.keys.Nodup) (hname : toCamel name = key)
    (h : (name, .nodes (parts.map f)) ∈ as) :
    as.collect.itemsAt key = parts.map fun part => (f part).collect := by
  rw [Json.itemsAt, get?_of_mem name hkeys hname h]
  cases parts with
  | nil => rfl
  | cons part rest =>
    exact (collectItems_nodes ((part :: rest).map f)).trans List.map_map

/-- No items are written under a key that no attribute has. -/
theorem itemsAt_of_not_mem (hkeys : as.keys.Nodup) (h : key ∉ as.keys) :
    as.collect.itemsAt key = [] := by
  rw [Json.itemsAt, get?_collect_of_not_mem hkeys h]
  rfl

theorem members_collect (hkeys : as.keys.Nodup) :
    as.collect.members = as.filterMap fun e => e.2.collect := by
  rw [collect_eq hkeys]
  show as.defined.map Prod.snd = _
  rw [defined, List.map_filterMap]
  congr 1
  funext e
  cases e.2.collect <;> rfl

/-- The texts of an object are written as they are. -/
theorem textAt_ofJson {entries : List (String × Json)}
    (hkeys : (ofJson (.obj entries)).keys.Nodup) :
    (ofJson (.obj entries)).collect.textAt key =
      (Entries.find? key (Entries.toCamel entries)).bind Json.text? := by
  rw [Json.textAt]
  cases hfind : Entries.find? key (Entries.toCamel entries) with
  | none =>
    have hkey : key ∉ (ofJson (.obj entries)).keys := by
      rw [keys_ofJson]
      exact Entries.find?_eq_none.1 hfind
    rw [get?_collect_of_not_mem hkeys hkey]
  | some v =>
    obtain ⟨e, he, heq⟩ := List.mem_map.1 (Entries.mem_of_find? hfind)
    obtain ⟨hname, hvalue⟩ := Prod.mk.inj heq
    have hmem : (e.1, .value e.2) ∈ ofJson (.obj entries) := List.mem_map_of_mem he
    rw [get?_of_mem e.1 hkeys hname hmem, ← hvalue]
    cases e.2 <;> rfl

end Attributes

/-! ### Transforms -/

theorem TransformKind.dataKeys_eq (kind : TransformKind) :
    kind.dataKeys = if kind = .cross ∨ kind = .zip then ["with"]
      else if kind = .force then ["links"] else [] := by
  cases kind <;> decide

theorem TransformKind.text_of_data (kind : TransformKind) :
    ∀ p ∈ kind.properties, p.role = .data → p.shape = .text := by
  cases kind <;> simp [properties, projectionProperties, Property.need, Property.may,
    Property.naming, Property.called, Property.under]

theorem Shape.textsOf_of_text {s : Shape} (h : s = .text) (v : s.Value) :
    s.textsOf v = (s.encode v).text?.toList := by
  subst h
  rfl

/-- The texts of a role stand in a written record under the names of the properties that have
it, if these take one text each. -/
theorem Record.textsOfRole_eq {role : Role} {name : Property → String} {ps : List Property}
    (htext : ∀ p ∈ ps, p.role = role → p.shape = .text) (hname : (ps.map name).Nodup)
    (r : Record ps) : r.textsOfRole role = (ps.filter fun p => p.role = role).flatMap fun p =>
      ((Entries.find? (name p) (r.encodeAs name)).bind Json.text?).toList := by
  induction r with
  | nil => rfl
  | @cons p ps slot rest ih =>
    obtain ⟨hfresh, hrest⟩ := List.nodup_cons.1 hname
    obtain ⟨hp, hps⟩ := List.forall_mem_cons.1 htext
    -- The first property is found by its own name only, the others by theirs in the rest.
    have hothers : ∀ q ∈ ps, Entries.find? (name q) (encodeAs name (.cons slot rest)) =
        Entries.find? (name q) (encodeAs name rest) := by
      intro q hq
      have hne : name p ≠ name q := fun heq => hfresh (heq ▸ List.mem_map_of_mem hq)
      cases slot with
      | given v => exact if_neg hne
      | absent => rfl
    have hnone : Entries.find? (name p) (encodeAs name rest) = none :=
      Entries.find?_eq_none.2 fun hmem => hfresh ((keys_encodeAs_sublist name rest).subset hmem)
    have hfirst : p.role = role → slot.texts =
        ((Entries.find? (name p) (encodeAs name (.cons slot rest))).bind Json.text?).toList := by
      intro hrole
      cases slot with
      | given v =>
        show p.shape.textsOf v = ((if name p = name p then some (p.shape.encode v)
          else _).bind Json.text?).toList
        rw [if_pos rfl, Shape.textsOf_of_text (hp hrole)]
        rfl
      | absent =>
        show [] = ((Entries.find? (name p) (encodeAs name rest)).bind Json.text?).toList
        rw [hnone]
        rfl
    have htail : textsOfRole role rest = (ps.filter fun q => q.role = role).flatMap fun q =>
        ((Entries.find? (name q) (encodeAs name (.cons slot rest))).bind Json.text?).toList := by
      rw [ih hps hrest]
      refine List.flatMap_congr fun q hq => ?_
      rw [hothers q (List.mem_of_mem_filter hq)]
    rw [textsOfRole]
    by_cases hrole : p.role = role
    · rw [if_pos hrole, List.filter_cons_of_pos (by simpa using hrole), List.flatMap_cons,
        hfirst hrole, htail]
    · rw [if_neg hrole, List.filter_cons_of_neg (by simpa using hrole), htail]

namespace Transform

theorem keys_attributes (t : Transform) :
    t.attributes.keys = "type" :: Entries.keys (t.record.encodeAs fun p => toCamel p.name) := by
  have htype : toCamel "type" = "type" := by decide
  show toCamel "type" :: Attributes.keys (Attributes.ofJson (.obj t.record.encode)) = _
  rw [Attributes.keys_ofJson, Record.toCamel_encode, htype]

theorem nodup_keys (t : Transform) : t.attributes.keys.Nodup := by
  have hcamel : ∀ p ∈ t.kind.properties, toCamel p.name ∈ p.spellings :=
    fun p hp => (TransformKind.mem_spellings_iff hp).2 (.inr rfl)
  rw [keys_attributes]
  refine List.nodup_cons.2 ⟨type_not_mem_encodeAs hcamel, ?_⟩
  exact (Property.nodup_map_of_mem_spellings t.kind.nodup_spellings hcamel).sublist
    (Record.keys_encodeAs_sublist _ _)

theorem textAt_type (t : Transform) : t.attributes.collect.textAt "type" = some t.kind.name :=
  Attributes.textAt_of_text "type" t.nodup_keys (by decide) List.mem_cons_self

/-- The data sets of a transform stand in the document under the keys of its kind. -/
theorem sources_eq (t : Transform) :
    t.sources = t.kind.dataKeys.flatMap fun key => (t.attributes.collect.textAt key).toList := by
  have hcamel : ∀ p ∈ t.kind.properties, toCamel p.name ∈ p.spellings :=
    fun p hp => (TransformKind.mem_spellings_iff hp).2 (.inr rfl)
  have htext : ∀ p ∈ t.kind.properties, t.attributes.collect.textAt (toCamel p.name) =
      (Entries.find? (toCamel p.name) (t.record.encodeAs fun q => toCamel q.name)).bind
        Json.text? := by
    intro p hp
    have hne : toCamel "type" ≠ toCamel p.name := by
      intro heq
      have htype : toCamel "type" = "type" := by decide
      exact t.kind.type_not_mem_spellings
        (List.mem_flatMap.2 ⟨p, hp, htype ▸ heq ▸ hcamel p hp⟩)
    have hskip : Entries.find? (toCamel p.name)
        (Entries.toCamel (("type", .str t.kind.name) :: t.record.encode)) =
          Entries.find? (toCamel p.name) (Entries.toCamel t.record.encode) := if_neg hne
    rw [attributes, encode, Attributes.textAt_ofJson t.nodup_keys, hskip, Record.toCamel_encode]
  rw [sources, Record.textsOfRole_eq t.kind.text_of_data
    (Property.nodup_map_of_mem_spellings t.kind.nodup_spellings hcamel), TransformKind.dataKeys,
    List.flatMap_map]
  refine List.flatMap_congr fun p hp => ?_
  rw [htext p (List.mem_of_mem_filter hp)]

theorem transformSources_collect (t : Transform) :
    t.attributes.collect.transformSources = t.sources := by
  rw [sources_eq, Json.transformSources, textAt_type, TransformKind.dataKeys_eq]
  generalize t.attributes.collect = written
  cases t.kind <;> simp [TransformKind.name]

/-- The sources of transforms that are listed. -/
theorem flowSources_collect {as : Attributes} (transforms : List Transform)
    (hkeys : as.keys.Nodup) (h : ("transform", .nodes (transforms.map attributes)) ∈ as) :
    as.collect.flowSources = transforms.flatMap sources := by
  rw [Json.flowSources, Attributes.itemsAt_of_nodes "transform" attributes transforms hkeys
    (by decide) h, List.flatMap_map]
  simp only [transformSources_collect]

end Transform

/-! ### Data sets -/

namespace Data

theorem nodup_keys (d : Data) : d.attributes.keys.Nodup := by
  show (["name", "format", "values", "source", "url", "transform"].map toCamel).Nodup
  decide

theorem name_collect (d : Data) : d.attributes.collect.textAt "name" = some d.name :=
  Attributes.textAt_of_text "name" d.nodup_keys (by decide) List.mem_cons_self

theorem dataSources_collect (d : Data) : d.attributes.collect.dataSources = d.dataNames := by
  have hsource : d.attributes.collect.textAt "source" = d.source :=
    Attributes.textAt_of_optionalText "source" d.nodup_keys (by decide) (by simp [attributes])
  rw [Json.dataSources, hsource, dataNames,
    Transform.flowSources_collect d.transforms d.nodup_keys (by simp [attributes])]

end Data

/-! ### Scales -/

/-- The object of a field has the name of its data set, other values have none. -/
theorem ScaleValue.textAt_data {v : ScaleValue} (h : v.isObject = false) :
    v.toAttribute.collect.bind (Json.textAt "data") = v.dataRef?.map DataRef.data := by
  cases v with
  | ref r =>
    have hkeys : r.attributes.keys.Nodup := by
      show (["data", "field"].map toCamel).Nodup
      decide
    exact Attributes.textAt_of_text "data" hkeys (by decide) List.mem_cons_self
  | values vs => rfl
  | literal v =>
    cases v with
    | obj entries => cases h
    | _ => rfl

namespace Scale

theorem nodup_keys (s : Scale) : s.attributes.keys.Nodup := by
  show (["name", "type", "domain", "domain_min", "domain_max", "range", "range_min", "range_max",
    "reverse", "round", "points", "padding", "sort", "clamp", "nice", "exponent",
    "zero"].map toCamel).Nodup
  exact nodup_map_toCamel (by decide) (by decide)

theorem name_collect (s : Scale) : s.attributes.collect.textAt "name" = some s.name :=
  Attributes.textAt_of_text "name" s.nodup_keys (by decide) List.mem_cons_self

/-- The data set behind one of the values. -/
theorem data_collect (s : Scale) (name key : String) {value : Option ScaleValue}
    (hname : toCamel name = key) (h : (name, scaleValue value) ∈ s.attributes)
    (hvalue : ∀ v ∈ value.toList, v.isObject = false) :
    ((s.attributes.collect.get? key).bind (Json.textAt "data")).toList =
      (value.toList.filterMap ScaleValue.dataRef?).map DataRef.data := by
  rw [Attributes.get?_of_mem name s.nodup_keys hname h]
  cases value with
  | none => rfl
  | some v =>
    show (v.toAttribute.collect.bind (Json.textAt "data")).toList = _
    rw [ScaleValue.textAt_data (hvalue v (List.mem_singleton_self v)), Option.toList_some,
      List.filterMap_cons]
    cases v.dataRef? <;> rfl

theorem scaleSources_collect {s : Scale} (hs : ∀ v ∈ s.scaleValues, v.isObject = false) :
    s.attributes.collect.scaleSources = s.dataNames := by
  simp only [scaleValues, List.mem_append, or_imp, forall_and] at hs
  obtain ⟨⟨⟨⟨⟨hdomain, hmin⟩, hmax⟩, hrange⟩, hrangeMin⟩, hrangeMax⟩ := hs
  simp only [Json.scaleSources, List.flatMap_cons, List.flatMap_nil,
    s.data_collect "domain" "domain" (by decide) (by simp [attributes]) hdomain,
    s.data_collect "domain_min" "domainMin" (by decide +kernel) (by simp [attributes]) hmin,
    s.data_collect "domain_max" "domainMax" (by decide +kernel) (by simp [attributes]) hmax,
    s.data_collect "range" "range" (by decide) (by simp [attributes]) hrange,
    s.data_collect "range_min" "rangeMin" (by decide +kernel) (by simp [attributes]) hrangeMin,
    s.data_collect "range_max" "rangeMax" (by decide +kernel) (by simp [attributes]) hrangeMax]
  simp only [dataNames, dataRefs, scaleValues, List.filterMap_append, List.map_append,
    List.append_assoc, List.append_nil]

end Scale

/-! ### Stylings -/

namespace ValueRef

theorem scale_collect (v : ValueRef) : v.attributes.collect.textAt "scale" = v.scale := by
  have hkeys : v.attributes.keys.Nodup := by
    show (["value", "field", "scale", "mult", "offset", "band", "group"].map toCamel).Nodup
    decide
  exact Attributes.textAt_of_optionalText "scale" hkeys (by decide) (by simp [attributes])

end ValueRef

/-- No two channels are spelled alike in the document. -/
theorem Channel.toCamel_name_injective {c c' : Channel}
    (h : toCamel c.name = toCamel c'.name) : c = c' := by
  have hnodup : ((all.map name).map toCamel).Nodup := nodup_map_toCamel (by decide) (by decide)
  rw [List.map_map] at hnodup
  exact List.inj_on_of_nodup_map hnodup c.mem_all c'.mem_all h

namespace Styling

theorem map_fst_entries (s : Styling) :
    s.entries.map Prod.fst = Channel.all.filter fun c => (s.channels c).isSome := by
  rw [entries, List.map_filterMap, ← List.filterMap_eq_filter]
  refine List.filterMap_congr fun c _ => ?_
  cases hc : s.channels c <;> simp [Option.guard, hc]

theorem nodup_channels (s : Styling) : (s.entries.map Prod.fst).Nodup := by
  have hall : Channel.all.Nodup := by decide
  rw [map_fst_entries]
  exact hall.filter _

theorem nodup_keys (s : Styling) : s.attributes.keys.Nodup := by
  have hkeys : s.attributes.keys = (s.entries.map Prod.fst).map fun c => toCamel c.name := by
    simp [attributes, Attributes.keys]
  rw [hkeys]
  exact s.nodup_channels.map fun c c' => Channel.toCamel_name_injective

theorem stylingScales_collect (s : Styling) :
    s.attributes.collect.stylingScales = s.scaleNames := by
  rw [Json.stylingScales, Attributes.members_collect s.nodup_keys, attributes,
    List.filterMap_map, List.filterMap_filterMap, scaleNames]
  exact List.filterMap_congr fun e _ => e.2.scale_collect

end Styling

/-! ### Axes -/

theorem AxisPart.toCamel_name_injective {part part' : AxisPart}
    (h : toCamel part.name = toCamel part'.name) : part = part' := by
  have hnodup : ((all.map name).map toCamel).Nodup := nodup_map_toCamel (by decide) (by decide)
  rw [List.map_map] at hnodup
  have hall : ∀ part, part ∈ all := fun part => by cases part <;> decide
  exact List.inj_on_of_nodup_map hnodup (hall part) (hall part') h

namespace Axis

theorem nodup_keys (a : Axis) : a.attributes.keys.Nodup := by
  show (["type", "scale", "orient", "format", "ticks", "values", "subdivide", "tick_padding",
    "tick_size", "tick_size_major", "tick_size_minor", "tick_size_end", "offset", "properties",
    "title", "title_offset", "grid", "layer"].map toCamel).Nodup
  exact nodup_map_toCamel (by decide) (by decide)

theorem members_partsAttribute {parts : List (AxisPart × Styling)}
    (h : (Entries.keys parts).Nodup) :
    (partsAttribute parts).collect.elim [] Json.members =
      parts.map fun e => e.2.attributes.collect := by
  rw [partsAttribute]
  split
  · rename_i hempty
    rw [List.isEmpty_iff.1 hempty]
    rfl
  · have hkeys : Attributes.keys (parts.map fun e => (e.1.name, .node e.2.attributes)) =
        (Entries.keys parts).map fun part => toCamel part.name := by
      simp [Attributes.keys, Entries.keys]
    have hnodup : (Attributes.keys (parts.map fun e => (e.1.name, .node e.2.attributes))).Nodup :=
      hkeys ▸ h.map fun part part' => AxisPart.toCamel_name_injective
    refine (Attributes.members_collect hnodup).trans ?_
    rw [List.filterMap_map]
    exact congrFun List.filterMap_eq_map parts

theorem axisScales_collect {a : Axis} (ha : a.settings.PartsDistinct) :
    a.attributes.collect.axisScales = a.scaleNames := by
  have hscale : a.attributes.collect.textAt "scale" = some a.scale :=
    Attributes.textAt_of_text "scale" a.nodup_keys (by decide) (by simp [attributes])
  have hparts : a.attributes.collect.membersAt "properties" =
      a.settings.parts.map fun e => e.2.attributes.collect := by
    rw [Json.membersAt, Attributes.get?_of_mem "properties" a.nodup_keys (by decide)
      (by simp [attributes]; rfl), members_partsAttribute ha]
  rw [Json.axisScales, hscale, hparts, List.flatMap_map, scaleNames, styledScaleNames]
  simp only [Styling.stylingScales_collect]
  rfl

end Axis

/-! ### Marks -/

namespace MarkStates

theorem members_toAttribute (s : MarkStates) :
    s.toAttribute.collect.elim [] Json.members = s.stylings.map fun s => s.attributes.collect := by
  rw [toAttribute]
  split
  · rename_i hempty
    rw [List.isEmpty_iff.1 hempty]
    rfl
  · have hstyled : ∀ styling : Option Styling,
        (Attribute.optionalNode (styling.map Styling.attributes)).collect =
          styling.map fun s => s.attributes.collect := by
      rintro (_ | styling) <;> rfl
    refine (Attributes.members_collect (by
      show (["enter", "update", "exit", "hover"].map toCamel).Nodup
      decide)).trans ?_
    simp only [List.filterMap_cons, List.filterMap_nil, hstyled, stylings, List.map_append]
    cases s.enter <;> cases s.update <;> cases s.exit <;> cases s.hover <;> rfl

end MarkStates

namespace Mark

theorem attributes_eq (m : Mark) : m.attributes = m.ownAttributes ++ bodyAttributes m.body := by
  cases m
  rw [attributes]

theorem marksAttributes_eq (marks : List Mark) : marksAttributes marks = marks.map attributes := by
  induction marks with
  | nil => rfl
  | cons m rest ih => rw [marksAttributes, ih, List.map_cons]

theorem nodup_keys (m : Mark) : m.attributes.keys.Nodup := by
  rw [attributes_eq]
  cases m.body with
  | plain type h =>
    show (["type", "name", "description", "from", "properties", "key", "delay",
      "ease"].map toCamel).Nodup
    decide
  | group scales axes marks =>
    show (["type", "name", "description", "from", "properties", "key", "delay", "ease",
      "scales", "axes", "marks"].map toCamel).Nodup
    decide

/-- What the document has under the name of an attribute that every mark has. -/
theorem get?_own {m : Mark} (name : String) {a : Attribute} (hname : toCamel name = name)
    (h : (name, a) ∈ m.ownAttributes) : m.attributes.collect.get? name = a.collect := by
  refine Attributes.get?_of_mem name m.nodup_keys hname ?_
  rw [attributes_eq]
  exact List.mem_append_left _ h

theorem markSources_collect (m : Mark) : m.attributes.collect.markSources = m.dataNames := by
  rw [Json.markSources, get?_own "from" (by decide) (by simp [ownAttributes]; rfl), dataNames]
  cases m.origin with
  | none => rfl
  | some o =>
    have hkeys : o.attributes.keys.Nodup := by
      show (["data", "transform"].map toCamel).Nodup
      decide
    have hdata : o.attributes.collect.textAt "data" = o.data :=
      Attributes.textAt_of_optionalText "data" hkeys (by decide) List.mem_cons_self
    show (o.attributes.collect.textAt "data").toList ++ o.attributes.collect.flowSources = _
    rw [hdata, Transform.flowSources_collect o.transforms hkeys (by simp [Origin.attributes])]

theorem markScales_collect (m : Mark) : m.attributes.collect.markScales = m.scaleNames := by
  have hstyled : m.attributes.collect.membersAt "properties" =
      m.states.stylings.map fun s => s.attributes.collect := by
    rw [Json.membersAt, get?_own "properties" (by decide) (by simp [ownAttributes]; rfl),
      MarkStates.members_toAttribute]
  have hdelay : (m.attributes.collect.get? "delay").bind (Json.textAt "scale") =
      m.delay.bind ValueRef.scale := by
    rw [get?_own "delay" (by decide) (by simp [ownAttributes]; rfl)]
    cases m.delay with
    | none => rfl
    | some v => exact v.scale_collect
  rw [Json.markScales, hstyled, hdelay, List.flatMap_map, scaleNames]
  simp only [Styling.stylingScales_collect]

end Mark

end ChartSpec
