import ChartSpec.Proofs.Listed

/-!
# Atomic steps

A registry outlives a step that fails, and so does all that the step has done to it by then.  Here
a step is taken call by call beside such a registry (`Step.perform`).  Whatever can fail comes
first and only asks the registry; the part is listed at the end, and nothing comes after that:

    make the calls         asks      each may fail
    finish the draft       asks      may fail
    is the name free?      asks      may fail
    list the part          changes   cannot fail

So a step that fails has left all lists as they were, and a step that succeeds has added the part
that it returns to one list (`Bench.step_atomic`).

A closure that styles a part may build further parts of the same context before the step goes on.
It is taken as interleaved moves of the bench: the moves of the inner steps stand between those of
the outer one, which asks the registry as they have left it.  Each move lists one part or none.
-/

namespace ChartSpec

/-- What is done beside a registry.  Changes to the registry stay also if it fails. -/
abbrev Work (α : Type) : Type := EStateM Failure Registry α

/-- The outcome of what comes after this many calls. -/
def afterCalls {α : Type} (done : Nat) (x : Except Error α) : Except Failure α :=
  x.mapError fun error => { error, done }

namespace Work

/-- Asks the registry something, and leaves it as it is. -/
def asking {α : Type} (question : Registry → Except Failure α) : Work α := fun r =>
  match question r with
  | .ok a => .ok a r
  | .error failure => .error failure r

/-- Lists a part if its name is free. -/
def listing (done : Nat) (part : Part) : Work Part := do
  asking fun r => afterCalls done (r.checkFree part)
  modify fun r => r.put part
  return part

end Work

namespace PartKind

/-- Makes calls on a draft one by one, some having been made before. -/
def callFrom (k : PartKind) (done : Nat) (d : k.Draft) : List k.Call → Work k.Draft
  | [] => return d
  | c :: rest => do
    let d ← Work.asking fun r => afterCalls done (k.apply r d c)
    k.callFrom (done + 1) d rest

def perform (k : PartKind) (seed : k.Seed) (calls : List k.Call) : Work Part := do
  let d ← k.callFrom 0 (k.start seed) calls
  let made ← Work.asking fun _ => finishing calls k.finish d
  Work.listing calls.length (k.part made)

end PartKind

/-- Takes a step beside a registry. -/
def Step.perform (config : Config) : Step → Work Part
  | .data name calls => PartKind.data.perform name calls
  | .scale name type calls => PartKind.scale.perform (name, type) calls
  | .transform kind properties => do
    let t ← Work.asking fun _ => afterCalls 0 (Transform.ofProperties kind properties)
    Work.asking fun r => afterCalls 0 (inPlace (.transform kind) (t.validate r.known))
    Work.listing 0 (.transform t)
  | .mark type calls => PartKind.mark.perform type calls
  | .axis type calls => PartKind.axis.perform type calls
  | .visualization calls =>
    Work.asking fun _ => (Visualization.build config calls).map .visualization

/-! ## Lemmas -/

namespace Work

variable {α β : Type}

/-- What follows a question is done if it has an answer. -/
theorem asking_bind (f : Registry → Except Failure α) (next : α → Work β) (r : Registry) :
    (asking f >>= next) r =
      match f r with
      | .ok a => next a r
      | .error failure => .error failure r := by
  show EStateM.bind (asking f) next r = _
  simp only [EStateM.bind, asking]
  cases f r <;> rfl

/-- Two questions, the second one with the answer to the first, are one question. -/
theorem asking_bind_asking (f : Registry → Except Failure α)
    (g : α → Registry → Except Failure β) :
    (asking f >>= fun a => asking (g a)) = asking fun r => f r >>= fun a => g a r := by
  funext r
  rw [asking_bind, asking]
  cases f r <;> rfl

/-- A part is listed or refused, and refusing it changes nothing. -/
theorem listing_eq (done : Nat) (part : Part) (r : Registry) :
    listing done part r =
      match r.register done part with
      | .ok r' => .ok part r'
      | .error failure => .error failure r := by
  rw [listing, asking_bind, afterCalls, Registry.register]
  cases r.checkFree part <;> rfl

end Work

namespace PartKind

/-- Making calls one by one is asking what comes of them. -/
theorem callFrom_eq (k : PartKind) (done : Nat) (d : k.Draft) (calls : List k.Call) :
    k.callFrom done d calls = Work.asking fun r => applyFrom (k.apply r) done d calls := by
  induction calls generalizing done d with
  | nil => rfl
  | cons c rest ih =>
    simp only [callFrom, ih, Work.asking_bind_asking]
    congr 1
    funext r
    rw [applyFrom, afterCalls]
    cases k.apply r d c <;> rfl

theorem perform_eq (k : PartKind) (seed : k.Seed) (calls : List k.Call) :
    k.perform seed calls =
      Work.asking (fun r => (k.make r seed calls).map k.part) >>= Work.listing calls.length := by
  have hmake : (do
      let d ← k.callFrom 0 (k.start seed) calls
      Work.asking fun _ => finishing calls k.finish d) =
        Work.asking fun r => k.make r seed calls := by
    rw [callFrom_eq, Work.asking_bind_asking]
    rfl
  rw [perform, ← bind_assoc, hmake]
  funext r
  rw [Work.asking_bind, Work.asking_bind]
  cases k.make r seed calls <;> rfl

end PartKind

namespace Step

/-- A step asks for its part and then lists it. -/
theorem perform_eq (config : Config) (step : Step) :
    step.perform config =
      Work.asking (fun r => step.make config r) >>= Work.listing step.size := by
  cases step with
  | data name calls => exact PartKind.data.perform_eq name calls
  | scale name type calls => exact PartKind.scale.perform_eq (name, type) calls
  | mark type calls => exact PartKind.mark.perform_eq type calls
  | axis type calls => exact PartKind.axis.perform_eq type calls
  | transform kind properties =>
    funext r
    rw [perform, Work.asking_bind, Work.asking_bind, make, makeTransform]
    cases Transform.ofProperties kind properties with
    | error error => rfl
    | ok t =>
      show (Work.asking _ >>= fun _ => Work.listing 0 (.transform t)) r = _
      rw [Work.asking_bind, afterCalls]
      cases hvalid : inPlace (.transform kind) (t.validate r.known) <;>
        simp [hvalid, bind, Except.bind, Except.mapError, pure, Except.pure, size]
  | visualization calls =>
    funext r
    rw [perform, Work.asking_bind, Work.asking, make]
    cases Visualization.build config calls <;> rfl

/-- A step fails and changes nothing, or it lists the part that it returns.  So it does when it is
taken as a whole. -/
theorem perform_cases (config : Config) (step : Step) (r : Registry) :
    (∃ failure, step.perform config r = .error failure r ∧
      Context.build { config, registry := r } step = .error failure) ∨
    ∃ part, step.perform config r = .ok part (r.put part) ∧
      Context.build { config, registry := r } step =
        .ok ({ config, registry := r.put part }, part) := by
  rw [perform_eq, Work.asking_bind, Context.build_eq]
  cases step.make config r with
  | error failure => exact .inl ⟨failure, rfl, rfl⟩
  | ok part =>
    show (∃ _, Work.listing step.size part r = _ ∧ (r.register step.size part >>= _) = _) ∨
      ∃ _, Work.listing step.size part r = _ ∧ (r.register step.size part >>= _) = _
    rw [Work.listing_eq, Registry.register]
    cases r.checkFree part with
    | error error => exact .inl ⟨_, rfl, rfl⟩
    | ok => exact .inr ⟨part, rfl, rfl⟩

end Step

/-- A move lists one part or none, whichever drafts are open. -/
theorem Bench.registry_take (b : Bench) (move : Move) :
    (b.take move).registry = b.registry ∨
      ∃ part, (b.take move).registry = b.registry.put part := by
  cases move with
  | start k seed => exact .inl rfl
  | call k i c =>
    left
    rw [take]
    split
    · rfl
    · split <;> rfl
  | finish k i =>
    rw [take]
    split
    · exact .inl rfl
    · rename_i d hd
      show b.registry.after (k.add b.registry d) = _ ∨
        ∃ part, b.registry.after (k.add b.registry d) = _
      cases hadd : k.add b.registry d with
      | error error => exact .inl rfl
      | ok result => exact .inr ⟨_, (PartKind.add_eq_ok.1 hadd).2.2⟩
  | transform kind properties =>
    show b.registry.after (b.registry.buildTransform kind properties) = _ ∨
      ∃ part, b.registry.after (b.registry.buildTransform kind properties) = _
    cases hbuild : b.registry.buildTransform kind properties with
    | error error => exact .inl rfl
    | ok result =>
      obtain ⟨-, -, hput⟩ := Registry.buildTransform_eq_ok.1 hbuild
      exact .inr ⟨.transform result.2, hput⟩

/-! ## Top theorem -/

/-- A step is taken beside the registry of a bench, call by call, as a whole or by moves.  Either
it fails in all three ways, wherever that is, and the registry is what it was before; or it
returns a part, which has been added to the end of the list of its kind, if there is one, and
nothing else has changed.  When steps are interleaved, each move lists one part or none.  Whatever
happens at the bench, what is listed stays where it is. -/
theorem Bench.step_atomic (b : Bench) (config : Config) (step : Step) :
    let r := b.registry
    ((∃ failure, step.perform config r = .error failure r ∧
        Context.build { config, registry := r } step = .error failure ∧
        b.run (b.movesOfStep step) = b) ∨
      ∃ part, step.perform config r = .ok part (r.put part) ∧
        Context.build { config, registry := r } step =
          .ok ({ config, registry := r.put part }, part) ∧
        b.run (b.movesOfStep step) = { b with registry := r.put part }) ∧
    (∀ move, (b.take move).registry = r ∨ ∃ part, (b.take move).registry = r.put part) ∧
    ∀ moves, r.Grows (b.run moves).registry := by
  intro r
  refine ⟨?_, b.registry_take, b.grows_run⟩
  have hmoves := run_movesOfStep (b := b) (c := { config, registry := r }) rfl step
  rcases step.perform_cases config r with ⟨failure, hperform, hbuild⟩ | ⟨part, hperform, hbuild⟩
  · refine .inl ⟨failure, hperform, hbuild, ?_⟩
    rw [hmoves, Context.after, hbuild]
  · refine .inr ⟨part, hperform, hbuild, ?_⟩
    rw [hmoves, Context.after, hbuild]

end ChartSpec
