import ChartSpec.Error

/-!
# Drafts

A part is built by calls on a draft, one after the other.  The first call that is refused ends
the building.
-/

namespace ChartSpec

/-- An error, and how many calls had succeeded before it. -/
structure Failure where
  error : Error
  done : Nat

/-- Makes calls on a draft, of which some have been made before. -/
def applyFrom {δ κ : Type} (apply : δ → κ → Except Error δ) (done : Nat) (draft : δ) :
    List κ → Except Failure δ
  | [] => .ok draft
  | call :: rest =>
    match apply draft call with
    | .ok draft => applyFrom apply (done + 1) draft rest
    | .error error => .error { error, done }

/-- Makes all calls on a draft. -/
def applyAll {δ κ : Type} (apply : δ → κ → Except Error δ) (draft : δ) (calls : List κ) :
    Except Failure δ :=
  applyFrom apply 0 draft calls

/-- Finishes a draft on which all calls have been made. -/
def finishing {δ κ ρ : Type} (calls : List κ) (finish : δ → Except Error ρ) (draft : δ) :
    Except Failure ρ :=
  match finish draft with
  | .ok r => .ok r
  | .error error => .error { error, done := calls.length }

end ChartSpec
