import Mathlib.Data.List.Basic

/-! Operations in flight, held by position: one of them goes on, or comes to its end. -/

namespace Machine

variable {α : Type} {items : List α} {item : α} {index : Nat} {change : α → α}

theorem mem_modify (member : item ∈ items.modify index change) :
    ∃ before ∈ items, item = before ∨ item = change before := by
  -- An item stands at some position, which is the changed one or another.
  obtain ⟨position, found⟩ := List.mem_iff_getElem?.mp member
  simp only [List.getElem?_modify, Option.map_eq_map, Option.map_eq_some_iff] at found
  obtain ⟨before, here, rfl⟩ := found
  refine ⟨before, List.mem_of_getElem? here, ?_⟩
  split
  · exact .inr rfl
  · exact .inl rfl

theorem exists_mem_modify (index : Nat) (change : α → α) (member : item ∈ items) :
    ∃ after ∈ items.modify index change, after = item ∨ after = change item := by
  -- The item keeps its position, which may be the one that is changed.
  obtain ⟨position, found⟩ := List.mem_iff_getElem?.mp member
  refine ⟨if index = position then change item else item, List.mem_iff_getElem?.mpr
    ⟨position, by simp [List.getElem?_modify, found]⟩, ?_⟩
  split
  · exact .inr rfl
  · exact .inl rfl

theorem map_modify {β : Type} {property : α → β} (index : Nat)
    (keeps : ∀ item, property (change item) = property item) :
    (items.modify index change).map property = items.map property := by
  -- Position by position, the property reads the same.
  apply List.ext_getElem?
  intro position
  simp only [List.getElem?_map, List.getElem?_modify]
  cases items[position]? with
  | none => rfl
  | some item =>
    by_cases here : index = position <;> simp [here, keeps]

theorem map_set_of_eq {β : Type} {property : α → β} {before after : α}
    (here : items[index]? = some before) (same : property after = property before) :
    (items.set index after).map property = items.map property := by
  obtain ⟨bound, rfl⟩ := List.getElem?_eq_some_iff.mp here
  rw [List.map_set, same, ← List.map_set, List.set_getElem_self]

theorem mem_eraseIdx_of_ne {other : α} (here : items[index]? = some other) (member : item ∈ items)
    (apart : item ≠ other) : item ∈ items.eraseIdx index := by
  -- Its position is not the erased one, where the other item stands.
  obtain ⟨position, found⟩ := List.mem_iff_getElem?.mp member
  refine List.mem_eraseIdx_iff_getElem?.mpr ⟨position, ?_, found⟩
  rintro rfl
  rw [here] at found
  exact apart (Option.some.inj found).symm

theorem mem_flatMap_set {β : Type} {held : α → List β} {before after : α} {thing : β}
    {given : Prop} (here : items[index]? = some before)
    (gives : thing ∈ held before ↔ thing ∈ held after ∨ given) :
    thing ∈ items.flatMap held ↔ thing ∈ (items.set index after).flatMap held ∨ given := by
  obtain ⟨bound, rfl⟩ := List.getElem?_eq_some_iff.mp here
  -- The items on either side hold what they held.
  have split : items = items.take index ++ items[index] :: items.drop (index + 1) := by simp
  rw [List.set_eq_take_append_cons_drop, if_pos bound]
  conv_lhs => rw [split]
  simp only [List.flatMap_append, List.flatMap_cons, List.mem_append, gives]
  tauto

theorem mem_flatMap_eraseIdx {β : Type} {held : α → List β} {other : α} {thing : β}
    (here : items[index]? = some other) :
    thing ∈ items.flatMap held ↔
      thing ∈ (items.eraseIdx index).flatMap held ∨ thing ∈ held other := by
  obtain ⟨bound, rfl⟩ := List.getElem?_eq_some_iff.mp here
  have split : items = items.take index ++ items[index] :: items.drop (index + 1) := by simp
  rw [List.eraseIdx_eq_take_drop_succ]
  conv_lhs => rw [split]
  simp only [List.flatMap_append, List.flatMap_cons, List.mem_append]
  tauto

end Machine
