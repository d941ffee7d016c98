/-!
# Punycode

Labels of domains write characters beyond ASCII as numbers in base 36, behind the ASCII
characters of the label and a hyphen.  A number tells how far the next character is from the one
before, counted over code points and places; its digits end at a threshold that follows the size
of the numbers so far.
-/

namespace ChartSpec

namespace Url

namespace Punycode

/-- The value of a digit; letters come before decimal digits. -/
def digit? (c : Char) : Option Nat :=
  if 'a' ≤ c ∧ c ≤ 'z' then some (c.toNat - 'a'.toNat)
  else if 'A' ≤ c ∧ c ≤ 'Z' then some (c.toNat - 'A'.toNat)
  else if c.isDigit then some (c.toNat - '0'.toNat + 26)
  else none

/-- The threshold of a digit: a digit below it is the last one of its number.  Places count in
steps of 36. -/
def threshold (place bias : Nat) : Nat := min 26 (max 1 (place - bias))

/-- Reads a number behind the digits read so far, with its value, and gives the rest. -/
def number? (bias place weight value : Nat) : List Char → Option (Nat × List Char)
  | [] => none
  | c :: rest =>
    match digit? c with
    | none => none
    | some d =>
      let t := threshold place bias
      let value := value + d * weight
      if d < t then some (value, rest)
      else number? bias (place + 36) (weight * (36 - t)) value rest

/-- Reading a number takes at least one digit. -/
theorem length_lt_of_number? {bias place weight value : Nat} {s rest : List Char} {n : Nat}
    (h : number? bias place weight value s = some (n, rest)) : rest.length < s.length := by
  induction s generalizing place weight value with
  | nil => simp [number?] at h
  | cons c s ih =>
    simp only [number?] at h
    split at h
    · simp at h
    · split at h
      · simp only [Option.some.injEq, Prod.mk.injEq] at h
        rw [← h.2]
        exact Nat.lt_succ_self _
      · exact Nat.lt_succ_of_lt (ih h)

/-- How often a difference is divided by 35 until it is small, and what is left of it. -/
def scale (delta : Nat) : Nat × Nat :=
  if 455 < delta then
    let (n, left) := scale (delta / 35)
    (n + 1, left)
  else (0, delta)
termination_by delta
decreasing_by omega

/-- The bias behind a difference, when the label has so many characters. -/
def nextBias (delta count : Nat) (first : Bool) : Nat :=
  let delta := if first then delta / 700 else delta / 2
  let (n, left) := scale (delta + delta / count)
  36 * n + 36 * left / (left + 38)

/-- The character of a code point. -/
def char? (n : Nat) : Option Char := if n.isValidChar then some (Char.ofNat n) else none

/-- Inserts the characters that the numbers tell.  `code` and `place` are where the search for
the next one goes on. -/
def insertAll (bias code place : Nat) (label digits : List Char) : Option (List Char) :=
  if digits.isEmpty then some label
  else
    match _ : number? bias 36 1 0 digits with
    | none => none
    | some (delta, rest) =>
      let count := label.length + 1
      let code' := code + (place + delta) / count
      let place' := (place + delta) % count
      match char? code' with
      | none => none
      | some c =>
        insertAll (nextBias delta count (place == 0)) code' (place' + 1)
          (label.take place' ++ c :: label.drop place') rest
termination_by digits.length
decreasing_by exact length_lt_of_number? (by assumption)

/-- The characters before the last hyphen, and those behind it; without a hyphen all are behind
it, and with one in front only it is a digit and refused. -/
def splitHyphen (s : List Char) : List Char × List Char :=
  match s.reverse.dropWhile (· != '-') with
  | _ :: c :: before => ((c :: before).reverse, (s.reverse.takeWhile (· != '-')).reverse)
  | _ => ([], s)

/-- The label that a text stands for. -/
def decode? (s : List Char) : Option (List Char) :=
  let (label, digits) := splitHyphen s
  insertAll 72 128 0 label digits

end Punycode

end Url

end ChartSpec
