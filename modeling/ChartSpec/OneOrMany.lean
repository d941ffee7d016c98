/-!
# One or many
-/

namespace ChartSpec

/-- One value, or a list of them. -/
inductive OneOrMany (α : Type) where
  | one (a : α)
  | many (as : List α)
  deriving DecidableEq

namespace OneOrMany

def map {α : Type} (f : α → α) : OneOrMany α → OneOrMany α
  | one a => one (f a)
  | many as => many (as.map f)

def one? {α : Type} : OneOrMany α → Option α
  | one a => some a
  | many _ => none

end OneOrMany

end ChartSpec
