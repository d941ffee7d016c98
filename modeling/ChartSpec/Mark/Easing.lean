/-!
# Easing functions

An easing is a function, alone or with a mode behind a hyphen.
-/

namespace ChartSpec

namespace Easing

def functions : List String :=
  ["linear", "quad", "cubic", "sin", "exp", "circle", "elastic", "back", "bounce"]

def modes : List String := ["in", "out", "in-out", "out-in"]

/-- All easings. -/
def all : List String := functions.flatMap fun f => f :: modes.map fun m => f ++ "-" ++ m

def isEasing (s : String) : Bool := all.contains s

end Easing

end ChartSpec
