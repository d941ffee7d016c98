import ChartSpec.Proofs.Attribute
import ChartSpec.Proofs.Distinct
import ChartSpec.Proofs.Naming

/-!
# What is emitted

Several attributes may have one name, and several names one spelling in the document.  Then the
first of them gives the key its place, and the last of them gives it its value:

    tick_size 1, name "x", tickSize 2, tick_size null        {"tickSize": 2, "name": "x"}

Attributes that are undefined or null are left out before, in objects and in lists, and values are
taken as they are.  `Attribute.Emits` says this of attributes at any depth, without an order of
collecting, and an attribute is collected to what it emits and to nothing else
(`Attributes.collect_iff_emits`).

A collected document has no nulls among its values, and no key of it is spelled otherwise in the
document, so that collecting it once more gives it back (`Attributes.collect_ofJson_collect`).
-/

namespace ChartSpec

namespace Attribute

/-- Neither undefined nor null. -/
def isGiven : Attribute → Bool
  | undefined => false
  | value .null => false
  | _ => true

/-- The attributes of a part or of a map. -/
def inner? : Attribute → Option Attributes
  | node as => some as
  | map as => some as
  | _ => none

end Attribute

namespace Attributes

def given (as : Attributes) : Attributes := as.filter fun e => e.2.isGiven

/-- The last of the given attributes that the document spells as the key. -/
def last? (key : String) (as : Attributes) : Option Attribute :=
  ((as.given.filter fun e => toCamel e.1 = key).getLast?).map Prod.snd

end Attributes

/-- What the document has of an attribute.  The keys of an object stand where a given attribute
first has them, and each has what is emitted of the last given attribute that has it. -/
inductive Attribute.Emits : Attribute → Json → Prop where
  | value {v : Json} (h : v ≠ .null) : Emits (.value v) v
  | list {items : List Attribute} {vs : List Json}
      (h : List.Forall₂ Emits (items.filter isGiven) vs) : Emits (.list items) (.arr vs)
  | object {a : Attribute} {as : Attributes} {entries : List (String × Json)}
      (inner : a.inner? = some as) (keys : Entries.keys entries = as.given.keys.eraseDups)
      (values : ∀ key v b, Entries.find? key entries = some v → as.last? key = some b →
        Emits b v) : Emits a (.obj entries)

/-! ## Lemmas -/

namespace Attribute

theorem sizeOf_lt_of_mem {name : String} {a : Attribute} {as : Attributes}
    (h : (name, a) ∈ as) : sizeOf a < sizeOf as := by
  have hlt := List.sizeOf_lt_of_mem h
  rw [Prod.mk.sizeOf_spec] at hlt
  omega

/-- What holds of an attribute if it holds of those in it holds of all. -/
@[elab_as_elim]
theorem tree_induction {P : Attribute → Prop} (undefined : P undefined) (value : ∀ v, P (value v))
    (node : ∀ as : Attributes, (∀ name a, (name, a) ∈ as → P a) → P (node as))
    (list : ∀ items, (∀ a ∈ items, P a) → P (list items))
    (map : ∀ as : Attributes, (∀ name a, (name, a) ∈ as → P a) → P (map as)) : ∀ a, P a
  | .undefined => undefined
  | .value v => value v
  | .node as => node as fun _ a h =>
    have := sizeOf_lt_of_mem h
    tree_induction undefined value node list map a
  | .list items => list items fun a _ => tree_induction undefined value node list map a
  | .map as => map as fun _ a h =>
    have := sizeOf_lt_of_mem h
    tree_induction undefined value node list map a
termination_by a => sizeOf a

theorem isGiven_eq (a : Attribute) : a.isGiven = a.collect.isSome := by
  cases a with
  | value v => cases v <;> rfl
  | undefined | node | list | map => rfl

theorem isGiven_of_none {a : Attribute} (h : a.collect = none) : a.isGiven = false := by
  rw [isGiven_eq, h, Option.isSome_none]

theorem isGiven_of_some {a : Attribute} {v : Json} (h : a.collect = some v) : a.isGiven = true := by
  rw [isGiven_eq, h, Option.isSome_some]

theorem collectItems_eq (items : List Attribute) :
    collectItems items = items.filterMap collect := by
  induction items with
  | nil => rfl
  | cons a rest ih =>
    rw [collectItems, List.filterMap_cons, ih]
    cases a.collect <;> rfl

/-- Nothing is collected to null. -/
theorem ne_null_of_collect {a : Attribute} {v : Json} (h : a.collect = some v) : v ≠ .null := by
  rintro rfl
  cases a with
  | value v => cases v <;> cases h
  | undefined | node | list | map => cases h

end Attribute

namespace Attributes

variable {name key : String} {a : Attribute} {rest as : Attributes}

theorem given_cons_of_pos (h : a.isGiven = true) :
    given ((name, a) :: rest) = (name, a) :: rest.given :=
  List.filter_cons_of_pos h

theorem given_cons_of_neg (h : a.isGiven = false) : given ((name, a) :: rest) = rest.given :=
  List.filter_cons_of_neg (by simp [h])

/-- An attribute is the last one of its key if no later one is. -/
theorem last?_cons_of_given (h : a.isGiven = true) :
    last? key ((name, a) :: rest) =
      (rest.last? key).or (if toCamel name = key then some a else none) := by
  rw [last?, last?, given_cons_of_pos h, List.filter_cons]
  split
  · rename_i hkey
    rw [List.getLast?_cons, if_pos (by simpa using hkey)]
    cases (rest.given.filter fun e => toCamel e.1 = key).getLast? <;> rfl
  · rename_i hkey
    rw [if_neg (by simpa using hkey), Option.or_none]

theorem mem_of_last? (h : as.last? key = some a) :
    ∃ name, (name, a) ∈ as ∧ a.isGiven = true ∧ toCamel name = key := by
  obtain ⟨⟨name, b⟩, hlast, rfl⟩ := Option.map_eq_some_iff.1 h
  obtain ⟨hgiven, hkey⟩ := List.mem_filter.1 (List.mem_of_getLast? hlast)
  obtain ⟨hmem, hgiven⟩ := List.mem_filter.1 hgiven
  exact ⟨name, hmem, hgiven, of_decide_eq_true hkey⟩

end Attributes

/-! ### Objects -/

namespace Attribute

variable {as : Attributes} {object entries : List (String × Json)}

/-- Keys that come first stand first, those of the object before all others. -/
theorem keys_collectEntries (h : (Entries.keys object).Nodup) :
    Entries.keys (collectEntries object as) =
      (Entries.keys object ++ as.given.keys).eraseDups := by
  induction as generalizing object with
  | nil =>
    show Entries.keys object = (Entries.keys object ++ []).eraseDups
    rw [List.append_nil, eraseDups_of_nodup h]
  | cons e rest ih =>
    obtain ⟨name, a⟩ := e
    cases ha : a.collect with
    | none =>
      rw [collectEntries, ha, Attributes.given_cons_of_neg (isGiven_of_none ha)]
      exact ih h
    | some v =>
      rw [collectEntries, ha, Attributes.given_cons_of_pos (isGiven_of_some ha)]
      show Entries.keys (collectEntries (Entries.put (toCamel name) v object) rest) =
        (Entries.keys object ++ toCamel name :: Attributes.keys (Attributes.given rest)).eraseDups
      rw [ih (Entries.nodup_keys_put (toCamel name) v h), Entries.keys_put]
      split
      · rename_i hknown
        rw [eraseDups_append_cons_of_mem hknown]
      · rw [List.append_assoc, List.singleton_append]

/-- The last attribute that has a key gives its value, and without one the object does. -/
theorem find?_collectEntries (key : String) :
    Entries.find? key (collectEntries object as) =
      ((as.last? key).bind collect).or (Entries.find? key object) := by
  induction as generalizing object with
  | nil => rfl
  | cons e rest ih =>
    obtain ⟨name, a⟩ := e
    cases ha : a.collect with
    | none =>
      rw [collectEntries, ha, Attributes.last?, Attributes.given_cons_of_neg (isGiven_of_none ha)]
      exact ih
    | some v =>
      rw [collectEntries, ha, Attributes.last?_cons_of_given (isGiven_of_some ha)]
      show Entries.find? key (collectEntries (Entries.put (toCamel name) v object) rest) = _
      rw [ih]
      cases hlast : Attributes.last? key rest with
      | some b =>
        obtain ⟨-, -, hb, -⟩ := Attributes.mem_of_last? hlast
        rw [isGiven_eq, Option.isSome_iff_exists] at hb
        obtain ⟨w, hw⟩ := hb
        simp [hw]
      | none =>
        by_cases hkey : toCamel name = key
        · subst hkey
          simp [ha, Entries.find?_put_self]
        · simp [hkey, Entries.find?_put_of_ne v object (Ne.symm hkey)]

/-- The entries of a part are known by their order and by the last attribute of each key. -/
theorem collectEntries_nil_eq_iff :
    collectEntries [] as = entries ↔ Entries.keys entries = as.given.keys.eraseDups ∧
      ∀ key v b, Entries.find? key entries = some v → as.last? key = some b →
        b.collect = some v := by
  have hkeys : Entries.keys (collectEntries [] as) = as.given.keys.eraseDups :=
    keys_collectEntries List.nodup_nil
  have hfind : ∀ key, Entries.find? key (collectEntries [] as) = (as.last? key).bind collect := by
    intro key
    rw [find?_collectEntries, Entries.find?, Option.or_none]
  constructor
  · rintro rfl
    refine ⟨hkeys, fun key v b hv hb => ?_⟩
    rwa [hfind, hb] at hv
  · rintro ⟨hsame, hvalues⟩
    refine Entries.eq_of_find?_eq (hkeys.trans hsame.symm) (hkeys ▸ nodup_eraseDups _) ?_
    intro key hkey
    -- Both have the key, the collected entries from the last attribute that has it.
    have hothers : key ∈ Entries.keys entries := hsame ▸ hkeys ▸ hkey
    obtain ⟨v, hv⟩ := Option.ne_none_iff_exists'.1 fun h => Entries.find?_eq_none.1 h hkey
    obtain ⟨w, hw⟩ := Option.ne_none_iff_exists'.1 fun h => Entries.find?_eq_none.1 h hothers
    rw [hfind, Option.bind_eq_some_iff] at hv
    obtain ⟨b, hb, -⟩ := hv
    rw [hfind, hb, hw]
    exact hvalues key w b hw hb

/-! ### Attributes at any depth -/

theorem forall₂_emits_iff {items : List Attribute} {vs : List Json}
    (ih : ∀ a ∈ items, ∀ v, a.collect = some v ↔ a.Emits v) :
    items.filterMap collect = vs ↔ List.Forall₂ Emits (items.filter isGiven) vs := by
  induction items generalizing vs with
  | nil => simp [eq_comm]
  | cons a rest ihRest =>
    obtain ⟨iha, ihTail⟩ := List.forall_mem_cons.1 ih
    cases ha : a.collect with
    | none =>
      rw [List.filterMap_cons_none ha, List.filter_cons_of_neg (by simp [isGiven_of_none ha])]
      exact ihRest ihTail
    | some v =>
      rw [List.filterMap_cons_some ha, List.filter_cons_of_pos (isGiven_of_some ha),
        List.forall₂_cons_left_iff]
      constructor
      · rintro rfl
        exact ⟨v, _, (iha v).1 ha, (ihRest ihTail).1 rfl, rfl⟩
      · rintro ⟨w, ws, hw, hws, rfl⟩
        rw [(ihRest ihTail).2 hws, Option.some.inj (ha.symm.trans ((iha w).2 hw))]

theorem emits_object_iff {a : Attribute} {v : Json} (hinner : a.inner? = some as)
    (hcollect : a.collect = some (.obj (collectEntries [] as)))
    (ih : ∀ name b, (name, b) ∈ as → ∀ w, b.collect = some w ↔ b.Emits w) :
    a.collect = some v ↔ a.Emits v := by
  have hiff : ∀ key w b, as.last? key = some b → (b.collect = some w ↔ b.Emits w) := by
    intro key w b hb
    obtain ⟨name, hmem, -, -⟩ := Attributes.mem_of_last? hb
    exact ih name b hmem w
  rw [hcollect]
  constructor
  · rintro ⟨⟩
    obtain ⟨hkeys, hvalues⟩ := collectEntries_nil_eq_iff.1 (rfl : collectEntries [] as = _)
    exact .object hinner hkeys fun key w b hw hb => (hiff key w b hb).1 (hvalues key w b hw hb)
  · intro h
    cases h with
    | value => cases hinner
    | list => cases hinner
    | object inner keys values =>
      obtain rfl := Option.some.inj (hinner.symm.trans inner)
      rw [collectEntries_nil_eq_iff.2
        ⟨keys, fun key w b hw hb => (hiff key w b hb).2 (values key w b hw hb)⟩]

theorem collect_eq_some_iff (a : Attribute) (v : Json) : a.collect = some v ↔ a.Emits v := by
  induction a using tree_induction generalizing v with
  | undefined =>
    refine ⟨nofun, fun h => ?_⟩
    cases h with
    | object inner => cases inner
  | value w =>
    constructor
    · intro h
      have hnull := ne_null_of_collect h
      have hsame : v = w := by cases w <;> cases h <;> rfl
      subst hsame
      exact .value hnull
    · intro h
      cases h with
      | value hnull => exact collect_value hnull
      | object inner => cases inner
  | list items ih =>
    rw [collect, collectItems_eq, Option.some.injEq]
    constructor
    · rintro rfl
      exact .list ((forall₂_emits_iff ih).1 rfl)
    · intro h
      cases h with
      | list h => rw [(forall₂_emits_iff ih).2 h]
      | object inner => cases inner
  | node as ih => exact emits_object_iff rfl rfl fun name b hb => ih name b hb
  | map as ih => exact emits_object_iff rfl rfl fun name b hb => ih name b hb

end Attribute

/-! ### Collected objects -/

namespace Attributes

variable {as : Attributes} {entries : List (String × Json)}

theorem nodup_keys_collect (h : as.collect = .obj entries) : (Entries.keys entries).Nodup := by
  obtain ⟨hkeys, -⟩ := Attribute.collectEntries_nil_eq_iff.1 (Json.obj.inj h)
  exact hkeys ▸ nodup_eraseDups _

theorem ne_null_of_mem_collect (h : as.collect = .obj entries) : ∀ e ∈ entries, e.2 ≠ .null := by
  rintro ⟨key, v⟩ he
  have hfind := Entries.find?_of_mem (nodup_keys_collect h) he
  rw [← Json.obj.inj h, Attribute.find?_collectEntries, Entries.find?, Option.or_none,
    Option.bind_eq_some_iff] at hfind
  obtain ⟨a, -, ha⟩ := hfind
  exact Attribute.ne_null_of_collect ha

/-- The keys of a collected object have the spelling of the document already. -/
theorem toCamel_collect (h : as.collect = .obj entries) : Entries.toCamel entries = entries := by
  obtain ⟨hkeys, -⟩ := Attribute.collectEntries_nil_eq_iff.1 (Json.obj.inj h)
  refine (List.map_congr_left fun e he => ?_).trans (List.map_id entries)
  have hkey : e.1 ∈ as.given.keys := by
    rw [← List.mem_eraseDups, ← hkeys]
    exact List.mem_map_of_mem he
  obtain ⟨given, -, hname⟩ := List.mem_map.1 hkey
  rw [← hname, toCamel_toCamel, hname]
  rfl

end Attributes

/-! ## Top theorems -/

/-- A part is collected to what it emits, and so is every attribute in it.  The object has each key
where a given attribute first has it, and under it what the last given attribute that has it is
collected to.  A list of parts loses none of them. -/
theorem Attributes.collect_iff_emits (as : Attributes) :
    (∀ document, as.collect = document ↔ (Attribute.node as).Emits document) ∧
    (∃ entries, as.collect = .obj entries ∧ Entries.keys entries = as.given.keys.eraseDups ∧
      ∀ key v, Entries.find? key entries = some v ↔
        ∃ a, as.last? key = some a ∧ a.collect = some v) ∧
    (∀ (a : Attribute) (v : Json), a.collect = some v ↔ a.Emits v) ∧
    ∀ parts : List Attributes,
      (Attribute.list (parts.map .node)).collect = some (.arr (parts.map collect)) := by
  refine ⟨fun document => ?_, ⟨_, rfl, ?_, fun key v => ?_⟩, Attribute.collect_eq_some_iff,
    fun parts => ?_⟩
  · rw [← Attribute.collect_eq_some_iff, Attribute.collect, Option.some.injEq, collect]
  · exact Attribute.keys_collectEntries List.nodup_nil
  · rw [Attribute.find?_collectEntries, Entries.find?, Option.or_none, Option.bind_eq_some_iff]
  · rw [Attribute.collect, collectItems_nodes]

example : Attributes.collect [("tick_size", .value (.int 1)), ("name", .text "x"),
      ("tickSize", .value (.int 2)), ("tick_size", .value .null)] =
    .obj [("tickSize", .int 2), ("name", .str "x")] := by decide +kernel

/-- Collecting the attributes of a collected document gives the document back, since a name that
has been respelled is not respelled again. -/
theorem Attributes.collect_ofJson_collect (as : Attributes) :
    (ofJson as.collect).collect = as.collect ∧
    ∀ name, toCamel (toCamel name) = toCamel name := by
  refine ⟨?_, toCamel_toCamel⟩
  obtain ⟨entries, hentries⟩ : ∃ entries, as.collect = .obj entries := ⟨_, rfl⟩
  have hspelled := toCamel_collect hentries
  have hkeys : (Entries.keys (Entries.toCamel entries)).Nodup := by
    rw [hspelled]
    exact nodup_keys_collect hentries
  rw [hentries, collect_ofJson (ne_null_of_mem_collect hentries) hkeys, hspelled]

end ChartSpec
