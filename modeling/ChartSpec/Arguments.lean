import ChartSpec.Error

/-!
# Arguments

Where a setting takes one value, one list or several values, the values are counted here.
Lists of values are flattened: what counts are the leaves, from left to right.
-/

namespace ChartSpec

namespace Json

mutual

/-- The values that are no arrays, from left to right. -/
def leaves : Json → List Json
  | arr items => leavesOf items
  | v => [v]

def leavesOf : List Json → List Json
  | [] => []
  | v :: rest => leaves v ++ leavesOf rest

end

end Json

namespace Arguments

/-- The one value that a setting takes.  Once there is exactly one, it must be found. -/
def single {α : Type} (name : String) (args : List α) : Except Error α :=
  if args.length ≠ 1 then .error (.refused (.singleValue name args.length))
  else match args.head? with
    | some a => .ok a
    | none => .error (.internal "Argument list emptied")

/-- Refuses a list of another length than the expected one. -/
def exactly {α : Type} (name : String) (values : List α) (expected : Nat) : Except Error Unit :=
  if values.length = expected then .ok ()
  else .error (.refused (.valueCount name expected values.length))

/-- The values that a setting takes as one list or as several values, at least one. -/
def atLeastOne (name : String) (args : List Json) : Except Error (List Json) :=
  if (Json.leavesOf args).isEmpty then .error (.refused (.noValue name))
  else .ok (Json.leavesOf args)

end Arguments

end ChartSpec
