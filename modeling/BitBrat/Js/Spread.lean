import BitBrat.Js.OrderedMap

/-! Objects that are spread over others, and lists whose repetitions are left out. -/

namespace Js

variable {κ ν α : Type} [DecidableEq κ] [DecidableEq α]

namespace OrderedMap

/-- The properties of one object, with those of another one written over them. -/
def spread (base updates : OrderedMap κ ν) : OrderedMap κ ν :=
  updates.entries.foldl (fun map entry => map.set entry.1 entry.2) base

theorem get?_foldl_set (entries : List (κ × ν)) (base : OrderedMap κ ν) (key : κ)
    (distinct : (entries.map Prod.fst).Nodup) :
    (entries.foldl (fun map entry => map.set entry.1 entry.2) base).get? key =
      (entries.lookup key).or (base.get? key) := by
  induction entries generalizing base with
  | nil => rfl
  | cons entry rest ih =>
    obtain ⟨name, value⟩ := entry
    obtain ⟨fresh, later⟩ := List.nodup_cons.mp distinct
    rw [List.foldl_cons, ih _ later, get?_set, List.lookup_cons]
    by_cases same : key = name
    · -- The key is written here, and not again.
      subst same
      rw [lookup_eq_none_iff_not_mem.mpr fresh]
      simp
    · have other : (key == name) = false := by simpa using same
      simp [same, other]

theorem get?_spread (base updates : OrderedMap κ ν) (key : κ) :
    (base.spread updates).get? key = (updates.get? key).or (base.get? key) :=
  get?_foldl_set updates.entries base key updates.distinct

theorem foldl_set_of_get? {entries : List (κ × ν)} {map : OrderedMap κ ν}
    (held : ∀ entry ∈ entries, map.get? entry.1 = some entry.2) :
    entries.foldl (fun map entry => map.set entry.1 entry.2) map = map := by
  induction entries with
  | nil => rfl
  | cons entry rest ih =>
    have same : map.set entry.1 entry.2 = map :=
      ext (setEntry_of_lookup (held entry List.mem_cons_self))
    rw [List.foldl_cons, same, ih fun other member => held other (List.mem_cons_of_mem _ member)]

theorem spread_spread (base updates : OrderedMap κ ν) :
    (base.spread updates).spread updates = base.spread updates := by
  refine foldl_set_of_get? fun entry member => ?_
  have found : updates.get? entry.1 = some entry.2 := lookup_of_mem updates.distinct member
  rw [get?_spread, found]
  rfl

end OrderedMap

theorem eraseDups_of_nodup {items : List α} (distinct : items.Nodup) : items.eraseDups = items := by
  induction items with
  | nil => rfl
  | cons item rest ih =>
    obtain ⟨fresh, later⟩ := List.nodup_cons.mp distinct
    have others : rest.filter (fun other => !other == item) = rest := by
      rw [List.filter_eq_self]
      intro other member
      have apart : other ≠ item := fun same => fresh (same ▸ member)
      simp [apart]
    rw [List.eraseDups_cons, others, ih later]

theorem nodup_eraseDups (items : List α) : items.eraseDups.Nodup := by
  generalize length : items.length = size
  -- The rest of the list without the item is shorter.
  induction size using Nat.strongRecOn generalizing items with
  | ind size ih =>
    cases items with
    | nil => exact List.nodup_nil
    | cons item rest =>
      rw [List.eraseDups_cons, List.nodup_cons]
      constructor
      · simp [List.mem_eraseDups]
      · have shorter := List.length_filter_le (fun other => !other == item) rest
        rw [List.length_cons] at length
        exact ih _ (by omega) _ rfl

theorem eraseDups_append_again (items more : List α) :
    ((items ++ more).eraseDups ++ more).eraseDups = (items ++ more).eraseDups := by
  have nothing : more.removeAll (items ++ more).eraseDups = [] := by
    rw [List.removeAll, List.filter_eq_nil_iff]
    intro item member
    simp [List.mem_eraseDups, member]
  rw [List.eraseDups_append, nothing, eraseDups_of_nodup (nodup_eraseDups _)]
  simp

end Js
