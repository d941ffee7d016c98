import ChartSpec.Proofs.Registration
import Mathlib.Data.List.Perm.Basic

/-!
# Registries that agree

A step reads a registry in three ways only: it asks for a data set by name, for a scale by name,
and whether a name is taken.  Two registries with the same answers (`Registry.Agrees`) are the
same to every step that is still to come (`Context.results_eq_of_agrees`), in whatever order they
list their parts.
-/

namespace ChartSpec

namespace Part

def data? : Part → Option Data
  | .data d => some d
  | _ => none

def scale? : Part → Option Scale
  | .scale s => some s
  | _ => none

def mark? : Part → Option Mark
  | .mark m => some m
  | _ => none

def transform? : Part → Option Transform
  | .transform t => some t
  | _ => none

def axis? : Part → Option Axis
  | .axis a => some a
  | _ => none

end Part

namespace Registry

/-- Two registries answer every question of a step alike. -/
structure Agrees (r r' : Registry) : Prop where
  data : r.findData? = r'.findData?
  scales : r.findScale? = r'.findScale?
  count : r.count = r'.count

/-- Two registries list the same parts, though perhaps in different orders. -/
structure Permuted (r r' : Registry) : Prop where
  data : r.data.Perm r'.data
  scales : r.scales.Perm r'.scales
  marks : r.marks.Perm r'.marks
  transforms : r.transforms.Perm r'.transforms
  axes : r.axes.Perm r'.axes

end Registry

/-- What each of some steps returns, a step that fails leaving the context as it is. -/
def Context.results (c : Context) : List Step → List (Except Failure Part)
  | [] => []
  | step :: rest => (c.build step).map Prod.snd :: (c.after step).results rest

/-! ## Lemmas -/

namespace Registry

variable {r r' : Registry}

/-! ### Listing a part -/

/-- Every list grows by the part, if it is of the kind of the list. -/
theorem put_eq (r : Registry) (part : Part) :
    r.put part = {
      data := r.data ++ part.data?.toList
      scales := r.scales ++ part.scale?.toList
      marks := r.marks ++ part.mark?.toList
      transforms := r.transforms ++ part.transform?.toList
      axes := r.axes ++ part.axis?.toList } := by
  cases part <;> simp [put, Part.data?, Part.scale?, Part.mark?, Part.transform?, Part.axis?]

theorem grows_put (r : Registry) (part : Part) : r.Grows (r.put part) := by
  rw [put_eq]
  exact ⟨List.prefix_append _ _, List.prefix_append _ _, List.prefix_append _ _,
    List.prefix_append _ _, List.prefix_append _ _⟩

theorem findData?_put (r : Registry) (part : Part) (name : String) :
    (r.put part).findData? name =
      (r.findData? name).or (part.data?.filter fun d => d.name == name) := by
  rw [put_eq, findData?, findData?, List.find?_append]
  cases part.data? with
  | none => rfl
  | some d => rw [Option.toList, List.find?_singleton, Option.filter_some]

theorem findScale?_put (r : Registry) (part : Part) (name : String) :
    (r.put part).findScale? name =
      (r.findScale? name).or (part.scale?.filter fun s => s.name == name) := by
  rw [put_eq, findScale?, findScale?, List.find?_append]
  cases part.scale? with
  | none => rfl
  | some s => rw [Option.toList, List.find?_singleton, Option.filter_some]

/-- A part adds itself to the parts that have its name. -/
theorem count_put (r : Registry) (part : Part) (kind : EntityKind) (name : String) :
    (r.put part).count kind name =
      r.count kind name + if part.key? = some (kind, name) then 1 else 0 := by
  cases part <;> cases kind <;>
    simp [put, count, Part.key?, List.countP_append, List.countP_singleton]

/-! ### Agreeing -/

namespace Agrees

theorem known (h : r.Agrees r') : r.known = r'.known := by
  funext name
  unfold Registry.known
  rw [h.data]

theorem expectData (h : r.Agrees r') : r.expectData = r'.expectData := by
  funext name
  unfold Registry.expectData
  rw [h.data]

theorem expectScale (h : r.Agrees r') : r.expectScale = r'.expectScale := by
  funext name
  unfold Registry.expectScale
  rw [h.scales]

theorem checkFree (h : r.Agrees r') : r.checkFree = r'.checkFree := by
  funext part
  unfold Registry.checkFree Registry.checkUnique
  rw [h.count]

/-- Whatever is listed on top, the answers stay the same. -/
theorem put (h : r.Agrees r') (part : Part) : (r.put part).Agrees (r'.put part) := by
  refine ⟨?_, ?_, ?_⟩
  · funext name
    rw [findData?_put, findData?_put, h.data]
  · funext name
    rw [findScale?_put, findScale?_put, h.scales]
  · funext kind name
    rw [count_put, count_put, h.count]

end Agrees

/-! ### Calls -/

theorem Agrees.dataApply (h : r.Agrees r') : Data.apply r = Data.apply r' := by
  have htransform : Data.addTransform r = Data.addTransform r' := by
    funext d t
    unfold Data.addTransform
    rw [h.known]
  funext d call
  unfold Data.apply Data.setSource
  rw [htransform, h.expectData]

theorem Agrees.resolveReference (h : r.Agrees r') :
    r.resolveReference = r'.resolveReference := by
  funext token
  unfold Registry.resolveReference
  rw [h.expectData]

theorem Agrees.resolveDataRef (h : r.Agrees r') : r.resolveDataRef = r'.resolveDataRef := by
  funext token
  unfold Registry.resolveDataRef
  rw [h.resolveReference]

theorem Agrees.resolveDomain (h : r.Agrees r') : r.resolveDomain = r'.resolveDomain := by
  funext input
  unfold Registry.resolveDomain
  rw [h.resolveDataRef, h.expectData]

theorem Agrees.resolveRange (h : r.Agrees r') : r.resolveRange = r'.resolveRange := by
  funext input
  unfold Registry.resolveRange
  rw [h.resolveDataRef, h.resolveDomain, h.data]

theorem Agrees.scaleApply (h : r.Agrees r') : Scale.apply r = Scale.apply r' := by
  funext s call
  unfold Scale.apply Scale.setDomain Scale.setBounds Registry.resolveFields
  rw [h.resolveDomain, h.resolveRange, h.resolveDataRef]

theorem Agrees.resolveScale (h : r.Agrees r') :
    ScaleReference.resolve r = ScaleReference.resolve r' := by
  funext s
  unfold ScaleReference.resolve
  rw [h.expectScale]

theorem Agrees.resolveValue (h : r.Agrees r') : ValueSpec.resolve r = ValueSpec.resolve r' := by
  funext fields v
  unfold ValueSpec.resolve
  rw [h.resolveScale]

theorem Agrees.ofEdits (h : r.Agrees r') : Styling.ofEdits r = Styling.ofEdits r' := by
  have hedit : Styling.edit r = Styling.edit r' := by
    funext type fields s e
    unfold Styling.edit Styling.setKey Styling.setChannel
    rw [h.resolveValue]
  funext type fields edits
  unfold Styling.ofEdits
  rw [hedit]

theorem Agrees.markApply (h : r.Agrees r') : Mark.apply r = Mark.apply r' := by
  funext m call
  unfold Mark.apply Mark.setData Mark.addTransform
  rw [h.expectData, h.known, h.ofEdits, h.resolveValue]

theorem Agrees.axisApply (h : r.Agrees r') : AxisDraft.apply r = AxisDraft.apply r' := by
  funext a call
  unfold AxisDraft.apply
  rw [h.resolveScale, h.ofEdits]

theorem Agrees.apply (h : r.Agrees r') (k : PartKind) : k.apply r = k.apply r' := by
  cases k with
  | data => exact h.dataApply
  | scale => exact h.scaleApply
  | mark => exact h.markApply
  | axis => exact h.axisApply

/-! ### Steps -/

theorem Agrees.make (h : r.Agrees r') (config : Config) (step : Step) :
    step.make config r = step.make config r' := by
  have hkind : ∀ (k : PartKind) (seed : k.Seed) (calls : List k.Call),
      k.make r seed calls = k.make r' seed calls := by
    intro k seed calls
    unfold PartKind.make
    rw [h.apply k]
  cases step with
  | data name calls => exact congrArg (Except.map _) (hkind .data name calls)
  | scale name type calls => exact congrArg (Except.map _) (hkind .scale (name, type) calls)
  | transform kind properties =>
    unfold Step.make Step.makeTransform
    rw [h.known]
  | mark type calls => exact congrArg (Except.map _) (hkind .mark type calls)
  | axis type calls => exact congrArg (Except.map _) (hkind .axis type calls)
  | visualization calls => rfl

end Registry

namespace Context

variable {c c' : Context}

/-- A step returns the same in contexts that agree, and the contexts behind it agree. -/
theorem build_of_agrees (hconfig : c.config = c'.config) (h : c.registry.Agrees c'.registry)
    (step : Step) :
    (c.build step).map Prod.snd = (c'.build step).map Prod.snd ∧
      (c.after step).config = (c'.after step).config ∧
      (c.after step).registry.Agrees (c'.after step).registry := by
  unfold after
  rw [build_eq, build_eq, hconfig, h.make]
  cases step.make c'.config c'.registry with
  | error failure => exact ⟨rfl, hconfig, h⟩
  | ok part =>
    unfold Registry.register
    rw [h.checkFree]
    simp only [bind, Except.bind, pure, Except.pure]
    cases c'.registry.checkFree part with
    | error error => exact ⟨rfl, hconfig, h⟩
    | ok _ => exact ⟨rfl, rfl, h.put part⟩

/-! ## Top theorem -/

/-- In contexts that agree, all steps to come return the same. -/
theorem results_eq_of_agrees (hconfig : c.config = c'.config)
    (h : c.registry.Agrees c'.registry) (steps : List Step) :
    c.results steps = c'.results steps := by
  induction steps generalizing c c' with
  | nil => rfl
  | cons step rest ih =>
    obtain ⟨hresult, hconfig', h'⟩ := build_of_agrees hconfig h step
    unfold results
    rw [hresult, ih hconfig' h']

end Context

end ChartSpec
