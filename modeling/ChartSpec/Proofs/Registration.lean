import ChartSpec.Proofs.Bench

/-!
# Registration

A step does three things one after the other, whatever it builds: it makes a part, asks whether
the name of the part is free, and lists the part (`Context.build_eq`).  Only the making and the
question about the name look at the registry.
-/

namespace ChartSpec

/-! ## Finished parts -/

/-- The name of a part and what it must be unique among.  Transforms, axes and visualizations have
no names of this sort, and marks need none. -/
def Part.key? : Part → Option (EntityKind × String)
  | .data d => some (.data, d.name)
  | .scale s => some (.scale, s.name)
  | .mark m => m.name.map fun n => (.mark, n)
  | .transform _ => none
  | .axis _ => none
  | .visualization _ => none

namespace PartKind

def part : (k : PartKind) → k.Made → Part
  | .data => .data
  | .scale => .scale
  | .mark => .mark
  | .axis => .axis

/-- The part that a draft comes to, before anything is asked about other parts. -/
def finish : (k : PartKind) → k.Draft → Except Error k.Made
  | .data, d =>
    if Text.isBlank (Data.name d) then .error (.refused (.blankName "Data")) else .ok d
  | .scale, s =>
    if Text.isBlank (Scale.name s) then .error (.refused (.blankName "Scale")) else .ok s
  | .mark, m =>
    if (Mark.name m).any Text.isBlank then .error (.refused (.blankName "Mark")) else .ok m
  | .axis, a => AxisDraft.finish a

/-- The part that calls make, beside a registry. -/
def make (r : Registry) (k : PartKind) (seed : k.Seed) (calls : List k.Call) :
    Except Failure k.Made := do
  let draft ← applyAll (k.apply r) (k.start seed) calls
  finishing calls k.finish draft

end PartKind

namespace Registry

/-- Lists a part behind the others of its kind.  Visualizations are not listed. -/
def put (r : Registry) : Part → Registry
  | .data d => { r with data := r.data ++ [d] }
  | .scale s => { r with scales := r.scales ++ [s] }
  | .transform t => { r with transforms := r.transforms ++ [t] }
  | .mark m => { r with marks := r.marks ++ [m] }
  | .axis a => { r with axes := r.axes ++ [a] }
  | .visualization _ => r

/-- Refuses a part whose name is taken. -/
def checkFree (r : Registry) (part : Part) : Except Error Unit :=
  part.key?.forM fun key => r.checkUnique key.1 key.2

/-- Lists a part whose name is free, after this many calls. -/
def register (r : Registry) (done : Nat) (part : Part) : Except Failure Registry :=
  match r.checkFree part with
  | .ok _ => .ok (r.put part)
  | .error error => .error { error, done }

end Registry

namespace Step

/-- How many calls a step makes on a draft. -/
def size : Step → Nat
  | .data _ calls => calls.length
  | .scale _ _ calls => calls.length
  | .transform _ _ => 0
  | .mark _ calls => calls.length
  | .axis _ calls => calls.length
  | .visualization calls => calls.length

/-- A transform from its properties, reading registered data sets only. -/
def makeTransform (r : Registry) (kind : TransformKind) (properties : Json) :
    Except Error Transform := do
  let t ← Transform.ofProperties kind properties
  inPlace (.transform kind) (t.validate r.known)
  return t

/-- The part that a step makes, beside a registry. -/
def make (config : Config) (r : Registry) : Step → Except Failure Part
  | .data name calls => (PartKind.data.make r name calls).map .data
  | .scale name type calls => (PartKind.scale.make r (name, type) calls).map .scale
  | .transform kind properties =>
    match makeTransform r kind properties with
    | .ok t => .ok (.transform t)
    | .error error => .error { error, done := 0 }
  | .mark type calls => (PartKind.mark.make r type calls).map .mark
  | .axis type calls => (PartKind.axis.make r type calls).map .axis
  | .visualization calls => (Visualization.build config calls).map .visualization

end Step

/-! ## Lemmas -/

namespace PartKind

/-- Adding a draft finishes it, asks about its name and lists it. -/
theorem add_eq (r : Registry) (k : PartKind) (d : k.Draft) :
    k.add r d = do
      let made ← k.finish d
      r.checkFree (k.part made)
      return (r.put (k.part made), made) := by
  cases k with
  | data =>
    simp only [add, Registry.addData, finish]
    by_cases hblank : Text.isBlank (Data.name d)
    · rw [if_pos hblank, if_pos hblank]
      rfl
    · rw [if_neg hblank, if_neg hblank]
      show (do let r' ← r.registerData d; _) = do r.checkUnique .data (Data.name d); _
      unfold Registry.registerData
      cases r.checkUnique .data (Data.name d) <;> rfl
  | scale =>
    simp only [add, Registry.addScale, finish]
    by_cases hblank : Text.isBlank (Scale.name d)
    · rw [if_pos hblank, if_pos hblank]
      rfl
    · rw [if_neg hblank, if_neg hblank]
      show (do let r' ← r.registerScale d; _) = do r.checkUnique .scale (Scale.name d); _
      unfold Registry.registerScale
      cases r.checkUnique .scale (Scale.name d) <;> rfl
  | mark =>
    simp only [add, Registry.addMark, finish]
    by_cases hblank : (Mark.name d).any Text.isBlank
    · rw [if_pos hblank, if_pos hblank]
      rfl
    · rw [if_neg hblank, if_neg hblank]
      show (do let r' ← r.registerMark d; _) =
        do
          ((Mark.name d).map fun n => (EntityKind.mark, n)).forM fun key =>
            r.checkUnique key.1 key.2
          _
      unfold Registry.registerMark
      cases (Mark.name d) with
      | none => rfl
      | some n =>
        show (do let r' ← (do r.checkUnique .mark n; _); _) = do r.checkUnique .mark n; _
        cases r.checkUnique .mark n <;> rfl
  | axis =>
    simp only [add, Registry.addAxis, finish]
    cases AxisDraft.finish d <;> rfl

theorem build_eq (r : Registry) (k : PartKind) (seed : k.Seed) (calls : List k.Call) :
    k.build r seed calls = do
      let made ← k.make r seed calls
      let r' ← r.register calls.length (k.part made)
      return (r', made) := by
  unfold build make
  cases applyAll (k.apply r) (k.start seed) calls with
  | error failure => rfl
  | ok draft =>
    show finishing calls (k.add r) draft =
      (do let made ← finishing calls k.finish draft; let r' ← r.register _ _; return (r', made))
    unfold finishing
    rw [add_eq]
    cases k.finish draft with
    | error error => rfl
    | ok made =>
      unfold Registry.register
      cases hfree : r.checkFree (k.part made) <;>
        simp [bind, Except.bind, pure, Except.pure, hfree]

end PartKind

/-! ## Top theorem -/

/-- A step makes a part, asks about its name and lists it. -/
theorem Context.build_eq (c : Context) (step : Step) :
    c.build step = do
      let part ← step.make c.config c.registry
      let r ← c.registry.register step.size part
      return ({ c with registry := r }, part) := by
  -- What is built by calls differs in the kind of the part alone.
  have hkind : ∀ (k : PartKind) (seed : k.Seed) (calls : List k.Call),
      (k.build c.registry seed calls).map (c.grown k.part) = (do
        let part ← (k.make c.registry seed calls).map k.part
        let r ← c.registry.register calls.length part
        return ({ c with registry := r }, part)) := by
    intro k seed calls
    rw [PartKind.build_eq]
    cases k.make c.registry seed calls with
    | error failure => rfl
    | ok made =>
      show (do let r ← c.registry.register calls.length (k.part made); _ : Except _ _).map _ = _
      cases h : c.registry.register calls.length (k.part made) with
      | error failure => simp [Except.map, bind, Except.bind, h]
      | ok r => simp [Except.map, bind, Except.bind, h]; rfl
  cases step with
  | data name calls => exact hkind .data name calls
  | scale name type calls => exact hkind .scale (name, type) calls
  | transform kind properties =>
    simp only [build, Registry.buildTransform, Step.make, Step.makeTransform]
    cases Transform.ofProperties kind properties with
    | error error => rfl
    | ok t =>
      cases hvalid : inPlace (.transform kind) (t.validate c.registry.known) with
      | error e => simp [bind, Except.bind, hvalid]
      | ok u =>
        simp [bind, Except.bind, pure, Except.pure, hvalid]
        rfl
  | mark type calls => exact hkind .mark type calls
  | axis type calls => exact hkind .axis type calls
  | visualization calls =>
    simp only [build, Step.make]
    cases Visualization.build c.config calls <;> rfl

theorem Registry.checkFree_eq_ok {r : Registry} {part : Part} {u : Unit} :
    r.checkFree part = .ok u ↔ ∀ key ∈ part.key?, r.count key.1 key.2 = 0 := by
  rw [checkFree, optionForM_eq_ok]
  simp only [checkUnique_eq_ok]

/-- What it takes for a step to succeed, and the context behind it. -/
theorem Context.build_eq_ok {c c' : Context} {step : Step} {part : Part} :
    c.build step = .ok (c', part) ↔
      step.make c.config c.registry = .ok part ∧ c.registry.checkFree part = .ok () ∧
        c' = { c with registry := c.registry.put part } := by
  have hregister : ∀ part' r, c.registry.register step.size part' = .ok r ↔
      c.registry.checkFree part' = .ok () ∧ r = c.registry.put part' := by
    intro part' r
    unfold Registry.register
    cases c.registry.checkFree part' with
    | error error => simp
    | ok u => simp [eq_comm]
  simp only [build_eq, bind_eq_ok, pure_eq_ok, hregister, Prod.mk.injEq]
  constructor
  · rintro ⟨part, hmake, _, ⟨hfree, rfl⟩, rfl, rfl⟩
    exact ⟨hmake, hfree, rfl⟩
  · rintro ⟨hmake, hfree, rfl⟩
    exact ⟨part, hmake, _, ⟨hfree, rfl⟩, rfl, rfl⟩

end ChartSpec
