import ChartSpec.Proofs.Mark.Styling

/-!
# Stylings in place

Whoever styles a state of a mark sets channel after channel of one styling, may look at a refusal
and go on, and may choose what comes next by it.  Here a channel is set piece by piece in a styling
that outlives the refusal (`Styling.setInPlace`):

    find the channel of the name         may fail
    does the type have the channel?      may fail
    resolve the value                    may fail
    set the channel                      cannot fail

So a refusal leaves the styling as it was (`Styling.setInPlace_eq`), and whatever a script does, it
leads to channels of the type only (`StylingScript.isFor_make`).  A list of edits is a script that
does not look at a refusal closer than to go on or to end (`StylingScript.make_ofEdits`).
-/

namespace ChartSpec

/-- The channels that are set are those of marks of a type. -/
def Styling.IsFor (type : Option MarkType) (s : Styling) : Prop :=
  ∀ c v, s.channels c = some v → c.validFor type = true

/-- Sets a channel of a styling where it stands. -/
def Styling.setInPlace (r : Registry) (type : Option MarkType) (fields : FieldSet)
    (key : ChannelKey) (v : ValueSpec) : EStateM Error Styling Unit := do
  let c ← MonadExcept.ofExcept key.resolve
  if c.validFor type then
    let w ← MonadExcept.ofExcept (inPlace (.channel c) (v.resolve r fields))
    modify fun s => s.set c w
  else throw (.refused (.channelType c type))

/-- The refusal of a change, if it is refused.  What the change has done by then stays. -/
def refusalOf {ε σ : Type} (change : EStateM ε σ Unit) : EStateM ε σ (Option ε) := fun s =>
  match change s with
  | .ok _ s' => .ok none s'
  | .error e s' => .ok (some e) s'

/-- What is done with a styling.  Channels are set, each beside the registry of its moment, and
what comes next may depend on the refusal.  In the end the styling is kept or given up. -/
inductive StylingScript where
  | done
  | giveUp (error : Error)
  | set (r : Registry) (key : ChannelKey) (v : ValueSpec) (next : Option Error → StylingScript)

namespace StylingScript

def run (type : Option MarkType) (fields : FieldSet) :
    StylingScript → EStateM Error Styling Unit
  | done => return ()
  | giveUp error => throw error
  | set r key v next => do
    let refusal ← refusalOf (Styling.setInPlace r type fields key v)
    (next refusal).run type fields

/-- The styling that a script leads to from another. -/
def make (type : Option MarkType) (fields : FieldSet) (script : StylingScript) (s : Styling) :
    Except Error Styling :=
  match script.run type fields s with
  | .ok _ s' => .ok s'
  | .error error _ => .error error

/-- Edits as a script: a refusal ends it, unless the edit is lenient. -/
def ofEdits (r : Registry) : List ChannelEdit → StylingScript
  | [] => done
  | e :: rest => set r e.key e.value fun
    | none => ofEdits r rest
    | some error => if e.lenient then ofEdits r rest else giveUp error

end StylingScript

/-! ## Lemmas -/

namespace Styling

variable {r : Registry} {type : Option MarkType} {fields : FieldSet} {key : ChannelKey}
  {v : ValueSpec} {s s' : Styling}

/-- A channel is set as beside a styling, and a refusal changes nothing. -/
theorem setInPlace_eq : setInPlace r type fields key v s =
    match s.setKey r type fields key v with
    | .ok s' => .ok () s'
    | .error error => .error error s := by
  unfold setInPlace setKey
  cases key.resolve with
  | error error => rfl
  | ok c =>
    show (if c.validFor type then _ else _ : EStateM Error Styling Unit) s =
      match s.setChannel r type fields c v with | .ok s' => .ok () s' | .error error => .error error s
    unfold setChannel
    split
    · cases inPlace (.channel c) (v.resolve r fields) <;> rfl
    · rfl

theorem setInPlace_cases :
    (∃ c w, key.resolve = .ok c ∧ c.validFor type = true ∧ v.resolve r fields = .ok w ∧
      setInPlace r type fields key v s = .ok () (s.set c w)) ∨
    ∃ error, setInPlace r type fields key v s = .error error s := by
  rw [setInPlace_eq]
  cases h : s.setKey r type fields key v with
  | error error => exact .inr ⟨error, rfl⟩
  | ok s' =>
    obtain ⟨c, w, hc, hvalid, hw, rfl⟩ := setKey_eq_ok.1 h
    exact .inl ⟨c, w, hc, hvalid, hw, rfl⟩

theorem isFor_empty : empty.IsFor type := by
  intro c w h
  cases h

theorem IsFor.set {c : Channel} {w : ValueRef} (hs : s.IsFor type) (hc : c.validFor type = true) :
    (s.set c w).IsFor type := by
  intro c' w' h
  simp only [Styling.set] at h
  split at h
  · rename_i hsame
    rw [hsame]
    exact hc
  · exact hs c' w' h

end Styling

namespace StylingScript

variable {r : Registry} {type : Option MarkType} {fields : FieldSet} {s s' : Styling}

/-- A script goes on behind a channel as the channel has been set or refused. -/
theorem make_set {key : ChannelKey} {v : ValueSpec} {next : Option Error → StylingScript} :
    (set r key v next).make type fields s =
      match s.setKey r type fields key v with
      | .ok s' => (next none).make type fields s'
      | .error error => (next (some error)).make type fields s := by
  have hrun : (set r key v next).run type fields s =
      match s.setKey r type fields key v with
      | .ok s' => (next none).run type fields s'
      | .error error => (next (some error)).run type fields s := by
    show EStateM.bind (refusalOf (Styling.setInPlace r type fields key v)) _ s = _
    rw [EStateM.bind, refusalOf, Styling.setInPlace_eq]
    cases s.setKey r type fields key v <;> rfl
  rw [make, hrun]
  cases s.setKey r type fields key v <;> rfl

/-- No script leads from channels of the type to others. -/
theorem isFor_make {script : StylingScript} (hs : s.IsFor type)
    (h : script.make type fields s = .ok s') : s'.IsFor type := by
  induction script generalizing s with
  | done =>
    cases h
    exact hs
  | giveUp error => cases h
  | set r key v next ih =>
    rw [make_set] at h
    cases hset : s.setKey r type fields key v with
    | error error =>
      rw [hset] at h
      exact ih (some error) hs h
    | ok t =>
      rw [hset] at h
      obtain ⟨c, w, -, hvalid, -, rfl⟩ := Styling.setKey_eq_ok.1 hset
      exact ih none (hs.set hvalid) h

theorem make_ofEdits {edits : List ChannelEdit} :
    (ofEdits r edits).make type fields s = edits.foldlM (Styling.edit r type fields) s := by
  induction edits generalizing s with
  | nil => rfl
  | cons e rest ih =>
    rw [ofEdits, make_set, List.foldlM_cons, Styling.edit]
    cases s.setKey r type fields e.key e.value with
    | ok t => exact ih
    | error error =>
      cases e.lenient with
      | true => exact ih
      | false => rfl

end StylingScript

end ChartSpec
