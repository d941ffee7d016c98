import ChartSpec.Proofs.Registry

/-!
# Edits of a styling

An edit sets one channel to a resolved value.  It is refused if the channel has no such name, if
marks of the type do not have it, or if the value does not resolve, and the last reason does not
depend on the fields of the context.
-/

namespace ChartSpec

variable {r : Registry}

theorem ValueSpec.resolve_eq_ok {fields : FieldSet} {v : ValueSpec} {w : ValueRef} :
    v.resolve r fields = .ok w ↔ ∃ scale mult offset,
      v.scale.mapM (ScaleReference.resolve r) = .ok scale ∧
      numeric "mult" v.mult = .ok mult ∧ numeric "offset" v.offset = .ok offset ∧
      w = {
        value := v.value
        field := v.field.map (resolveField fields)
        scale, mult, offset
        band := v.band
        group := v.group } := by
  rw [resolve]
  cases v.scale with
  | none =>
    simp only [bind_eq_ok, pure_eq_ok, Option.mapM_none, Except.ok.injEq, exists_eq_left']
    constructor
    · rintro ⟨mult, hmult, offset, hoffset, rfl⟩
      exact ⟨none, mult, offset, rfl, hmult, hoffset, rfl⟩
    · rintro ⟨_, mult, offset, rfl, hmult, hoffset, rfl⟩
      exact ⟨mult, hmult, offset, hoffset, rfl⟩
  | some s =>
    simp only [bind_eq_ok, pure_eq_ok, map_eq_ok, functorMap_eq_ok, Option.mapM_some]
    constructor
    · rintro ⟨_, ⟨name, hname, rfl⟩, mult, hmult, offset, hoffset, rfl⟩
      exact ⟨some name, mult, offset, ⟨name, hname, rfl⟩, hmult, hoffset, rfl⟩
    · rintro ⟨_, mult, offset, ⟨name, hname, rfl⟩, hmult, hoffset, rfl⟩
      exact ⟨some name, ⟨name, hname, rfl⟩, mult, hmult, offset, hoffset, rfl⟩

namespace Channel

theorem mem_all (c : Channel) : c ∈ all := by
  cases c <;> decide

end Channel

namespace Styling

variable {s s' : Styling}

theorem mem_scaleNames {name : String} :
    name ∈ s.scaleNames ↔ ∃ c v, s.channels c = some v ∧ v.scale = some name := by
  simp only [scaleNames, entries, List.mem_filterMap, Option.map_eq_some_iff]
  constructor
  · rintro ⟨_, ⟨c, -, v, hv, rfl⟩, hname⟩
    exact ⟨c, v, hv, hname⟩
  · rintro ⟨c, v, hv, hname⟩
    exact ⟨(c, v), ⟨c, Channel.mem_all c, v, hv, rfl⟩, hname⟩

theorem setKey_eq_ok {type : Option MarkType} {fields : FieldSet} {key : ChannelKey}
    {v : ValueSpec} :
    s.setKey r type fields key v = .ok s' ↔ ∃ c w, key.resolve = .ok c ∧ c.validFor type = true ∧
      v.resolve r fields = .ok w ∧ s' = s.set c w := by
  simp only [setKey, bind_eq_ok, setChannel]
  constructor
  · rintro ⟨c, hc, h⟩
    split at h
    · rename_i hvalid
      simp only [bind_eq_ok, inPlace_eq_ok, pure_eq_ok] at h
      obtain ⟨w, hw, rfl⟩ := h
      exact ⟨c, w, hc, hvalid, hw, rfl⟩
    · cases h
  · rintro ⟨c, w, hc, hvalid, hw, rfl⟩
    refine ⟨c, hc, ?_⟩
    simp [hvalid, hw]

theorem edit_eq_ok {type : Option MarkType} {fields : FieldSet} {e : ChannelEdit} :
    s.edit r type fields e = .ok s' ↔ s.setKey r type fields e.key e.value = .ok s' ∨
      (∃ error, s.setKey r type fields e.key e.value = .error error) ∧ e.lenient = true ∧
        s' = s := by
  rw [edit]
  cases hset : s.setKey r type fields e.key e.value with
  | ok s₁ => simp
  | error error =>
    cases hlenient : e.lenient with
    | true => simp [eq_comm]
    | false => simp

end Styling

end ChartSpec
