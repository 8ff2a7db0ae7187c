import Mathlib.Data.List.SplitBy

/-! Maximal groups of close neighbours: where they start, and what one more item changes. -/

namespace Machine

variable {α : Type} (near : α → α → Bool)

/-- For every item of a list, whether a maximal group of near neighbours starts with it. -/
def groupStarts (items : List α) : List Bool :=
  (items.splitBy near).flatMap fun group => true :: List.replicate (group.length - 1) false

@[simp] theorem groupStarts_nil : groupStarts near [] = [] := rfl

@[simp] theorem groupStarts_singleton (item : α) : groupStarts near [item] = [true] := rfl

variable {near}

variable {items : List α} {last item : α}

theorem splitBy_append_far (ends : items.getLast? = some last) (far : near last item = false) :
    (items ++ [item]).splitBy near = items.splitBy near ++ [[item]] := by
  refine List.splitBy_append_cons [] fun other other_last => ?_
  -- The list has one last item.
  rw [ends, Option.mem_some_iff] at other_last
  rw [← other_last, far]

theorem splitBy_eq_append (near : α → α → Bool) (ends : items.getLast? = some last) :
    ∃ groups group, items.splitBy near = groups ++ [group] ∧ group.getLast? = some last := by
  have some_items : items ≠ [] := by
    rintro rfl
    simp at ends
  have some_groups : items.splitBy near ≠ [] := List.splitBy_ne_nil.mpr some_items
  obtain ⟨groups, group, split⟩ : ∃ groups group, items.splitBy near = groups ++ [group] :=
    ⟨_, _, (List.dropLast_append_getLast some_groups).symm⟩
  -- No group is empty, so the last item of the list is in the last group.
  obtain ⟨flat, full, -, -⟩ := List.splitBy_eq_iff.mp split
  have held : group ≠ [] := by
    rintro rfl
    simp at full
  refine ⟨groups, group, split, ?_⟩
  rw [← ends, flat, List.flatten_append, List.flatten_singleton,
    List.getLast?_append_of_ne_nil _ held]

theorem splitBy_append_near (ends : items.getLast? = some last) (close : near last item = true) :
    ∃ groups group, items.splitBy near = groups ++ [group] ∧ group.getLast? = some last ∧
      (items ++ [item]).splitBy near = groups ++ [group ++ [item]] := by
  -- The last group takes the item in, and the groups before it are as they were.
  obtain ⟨groups, group, split, at_end⟩ := splitBy_eq_append near ends
  have held : group ≠ [] := by
    rintro rfl
    simp at at_end
  have group_ends : group.getLast held = last :=
    Option.some.inj ((List.getLast?_eq_some_getLast held).symm.trans at_end)
  obtain ⟨flat, full, chained, apart⟩ := List.splitBy_eq_iff.mp split
  refine ⟨groups, group, split, at_end, List.splitBy_eq_iff.mpr ⟨?_, ?_, ?_, ?_⟩⟩
  · simp [flat]
  · simp only [List.mem_append, List.mem_singleton, not_or] at full ⊢
    exact ⟨full.1, by simp⟩
  · intro member held_member
    rcases List.mem_append.mp held_member with earlier | grown
    · exact chained member (List.mem_append_left _ earlier)
    · -- The grown group is a chain, since its new end is near the one before.
      rw [List.mem_singleton.mp grown]
      refine List.isChain_append.mpr
        ⟨chained group (by simp), List.isChain_singleton item, ?_⟩
      intro before is_last after is_first
      rw [List.getLast?_eq_some_getLast held, Option.mem_some_iff, group_ends] at is_last
      simp only [List.head?_cons, Option.mem_some_iff] at is_first
      rw [← is_last, ← is_first, close]
  · rw [List.isChain_append] at apart ⊢
    refine ⟨apart.1, List.isChain_singleton _, ?_⟩
    intro before is_last after is_first
    -- The grown group starts where the last group did.
    simp only [List.head?_cons, Option.mem_some_iff] at is_first
    obtain ⟨full_before, _, far⟩ := apart.2.2 before is_last group (by simp)
    subst is_first
    exact ⟨full_before, by simp, by rw [List.head_append_of_ne_nil held]; exact far⟩

theorem groupStarts_append (ends : items.getLast? = some last) :
    groupStarts near (items ++ [item]) = groupStarts near items ++ [!near last item] := by
  cases close : near last item with
  | false => simp [groupStarts, splitBy_append_far ends close]
  | true =>
    obtain ⟨groups, group, before, at_end, after⟩ := splitBy_append_near ends close
    have held : group ≠ [] := by
      rintro rfl
      simp at at_end
    -- The grown group has its start and one more follower.
    have grows : List.replicate group.length false =
        List.replicate (group.length - 1) false ++ [false] := by
      have size := List.length_pos_iff.mpr held
      rw [← List.replicate_succ']
      congr 1
      omega
    simp [groupStarts, before, after, grows]

theorem length_splitBy_append (ends : items.getLast? = some last) :
    ((items ++ [item]).splitBy near).length =
      (items.splitBy near).length + if near last item then 0 else 1 := by
  cases close : near last item with
  | false => simp [splitBy_append_far ends close]
  | true =>
    obtain ⟨groups, group, before, -, after⟩ := splitBy_append_near ends close
    simp [before, after]

/-- Every group joined to all the groups before it, as a buffer that is never emptied has them. -/
def runningConcats (before : List α) : List (List α) → List (List α)
  | [] => []
  | group :: rest => (before ++ group) :: runningConcats (before ++ group) rest

theorem runningConcats_append (before : List α) (groups : List (List α)) (group : List α) :
    runningConcats before (groups ++ [group]) =
      runningConcats before groups ++ [before ++ (groups ++ [group]).flatten] := by
  induction groups generalizing before with
  | nil => simp [runningConcats]
  | cons first rest ih => simp [runningConcats, ih, List.append_assoc]

theorem runningConcats_eq_self_iff {groups : List (List α)} (full : [] ∉ groups) :
    runningConcats [] groups = groups ↔ groups.length ≤ 1 := by
  -- From the second group on, a running concatenation is longer than the group itself.
  rcases List.eq_nil_or_concat' groups with rfl | ⟨earlier, group, rfl⟩
  · simp [runningConcats]
  · rw [runningConcats_append]
    constructor
    · -- The last group would have nothing before it.
      intro same
      have last := (List.append_inj' same rfl).2
      have nothing : earlier.flatten = [] := by simpa using last
      have none_before : earlier = [] := by
        refine List.eq_nil_iff_forall_not_mem.mpr fun member held => full ?_
        have empty := List.flatten_eq_nil_iff.mp nothing member held
        exact List.mem_append_left _ (empty ▸ held)
      simp [none_before]
    · intro short
      have none_before : earlier = [] := by simpa using short
      simp [none_before, runningConcats]

end Machine
