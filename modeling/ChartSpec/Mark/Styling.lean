import ChartSpec.Mark.Channel
import ChartSpec.Mark.ValueRef

/-!
# Stylings

A styling gives values to some of the visual channels.  The order in which channels were set
does not matter: it is written in the order of the channels.
-/

namespace ChartSpec

structure Styling where
  channels : Channel → Option ValueRef

namespace Styling

def empty : Styling := ⟨fun _ => none⟩

def set (s : Styling) (c : Channel) (v : ValueRef) : Styling :=
  ⟨fun c' => if c' = c then some v else s.channels c'⟩

/-- The channels that are set, with their values, in the order of the channels. -/
def entries (s : Styling) : List (Channel × ValueRef) :=
  Channel.all.filterMap fun c => (s.channels c).map fun v => (c, v)

def attributes (s : Styling) : Attributes :=
  s.entries.map fun (c, v) => (c.name, .node v.attributes)

/-- The names of the scales that the values use, in order. -/
def scaleNames (s : Styling) : List String := s.entries.filterMap fun (_, v) => v.scale

end Styling

end ChartSpec
