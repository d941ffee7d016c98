import ChartSpec.Binary64
import ChartSpec.Entries

/-!
# JSON values

The values that parts of a chart carry along and that the finished document consists of.  An
object keeps the order of its keys.  Integers and doubles are different values: a number is a
double only where it was written as one or where a double was asked for.
-/

namespace ChartSpec

inductive Json where
  | null
  | bool (b : Bool)
  | int (n : Int)
  | float (x : Binary64)
  | str (s : String)
  | arr (items : List Json)
  | obj (entries : List (String × Json))

namespace Json

instance : Inhabited Json := ⟨null⟩

mutual

/-- Whether two values are the same, key order included. -/
def same : Json → Json → Bool
  | null, null => true
  | bool a, bool b => a == b
  | int a, int b => a == b
  | float a, float b => a == b
  | str a, str b => a == b
  | arr as, arr bs => sameItems as bs
  | obj as, obj bs => sameEntries as bs
  | _, _ => false

def sameItems : List Json → List Json → Bool
  | [], [] => true
  | a :: as, b :: bs => same a b && sameItems as bs
  | _, _ => false

def sameEntries : List (String × Json) → List (String × Json) → Bool
  | [], [] => true
  | (k, a) :: as, (l, b) :: bs => k == l && same a b && sameEntries as bs
  | _, _ => false

end

/-- The value under a key; nothing for a missing key and for a value that is no object. -/
def get? (key : String) : Json → Option Json
  | obj entries => Entries.find? key entries
  | _ => none

def isArray : Json → Bool
  | arr _ => true
  | _ => false

def isObject : Json → Bool
  | obj _ => true
  | _ => false

def isNumber : Json → Bool
  | int _ => true
  | float _ => true
  | _ => false

/-- The value as a double, for numbers only. -/
def number? : Json → Option Binary64
  | int n => some (Binary64.ofInt n)
  | float x => some x
  | _ => none

/-- The value as a natural number below a bound; a double never counts as one. -/
def natBelow? (bound : Nat) : Json → Option Nat
  | int n => if 0 ≤ n ∧ n < bound then some n.toNat else none
  | _ => none

/-- The value as a signed 64-bit integer; a double never counts as one. -/
def int64? : Json → Option Int
  | int n => if -9223372036854775808 ≤ n ∧ n ≤ 9223372036854775807 then some n else none
  | _ => none

/-! ## Equality is decidable -/

mutual

theorem eq_of_same : ∀ {a b : Json}, same a b = true → a = b
  | null, b, h => by cases b <;> simp_all [same]
  | bool _, b, h => by cases b <;> simp_all [same]
  | int _, b, h => by cases b <;> simp_all [same]
  | float _, b, h => by cases b <;> simp_all [same]
  | str _, b, h => by cases b <;> simp_all [same]
  | arr as, b, h => by
    cases b with
    | arr bs => exact congrArg arr (eq_of_sameItems (by simpa [same] using h))
    | _ => simp [same] at h
  | obj as, b, h => by
    cases b with
    | obj bs => exact congrArg obj (eq_of_sameEntries (by simpa [same] using h))
    | _ => simp [same] at h

theorem eq_of_sameItems : ∀ {as bs : List Json}, sameItems as bs = true → as = bs
  | [], bs, h => by cases bs <;> simp_all [sameItems]
  | a :: as, bs, h => by
    cases bs with
    | nil => simp [sameItems] at h
    | cons b bs =>
      simp only [sameItems, Bool.and_eq_true] at h
      rw [eq_of_same h.1, eq_of_sameItems h.2]

theorem eq_of_sameEntries : ∀ {as bs : List (String × Json)}, sameEntries as bs = true → as = bs
  | [], bs, h => by cases bs <;> simp_all [sameEntries]
  | (k, a) :: as, bs, h => by
    cases bs with
    | nil => simp [sameEntries] at h
    | cons b bs =>
      simp only [sameEntries, Bool.and_eq_true, beq_iff_eq] at h
      rw [h.1.1, eq_of_same h.1.2, eq_of_sameEntries h.2]

end

mutual

theorem same_refl : ∀ a : Json, same a a = true
  | null => rfl
  | bool _ => by simp [same]
  | int _ => by simp [same]
  | float _ => by simp [same]
  | str _ => by simp [same]
  | arr as => by simpa [same] using sameItems_refl as
  | obj as => by simpa [same] using sameEntries_refl as

theorem sameItems_refl : ∀ as : List Json, sameItems as as = true
  | [] => rfl
  | a :: as => by simp [sameItems, same_refl a, sameItems_refl as]

theorem sameEntries_refl : ∀ as : List (String × Json), sameEntries as as = true
  | [] => rfl
  | (_, a) :: as => by simp [sameEntries, same_refl a, sameEntries_refl as]

end

theorem same_iff {a b : Json} : same a b = true ↔ a = b :=
  ⟨eq_of_same, fun h => h ▸ same_refl a⟩

instance : DecidableEq Json := fun _ _ => decidable_of_iff _ same_iff

end Json

end ChartSpec
