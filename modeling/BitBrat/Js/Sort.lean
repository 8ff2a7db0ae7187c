import Mathlib.Data.List.Sort
import Mathlib.Tactic.Linarith
import BitBrat.Js.Value

/-! Stable sorting by a comparator, and when the order of arrival shows in its result. -/

namespace Js

variable {α : Type}

variable {items : List α}

theorem not_sublist_swap {first second : α} (distinct : items.Nodup)
    (forward : [first, second].Sublist items) : ¬ [second, first].Sublist items := by
  intro backward
  induction items with
  | nil => simp at forward
  | cons head rest ih =>
    obtain ⟨fresh, later⟩ := List.nodup_cons.mp distinct
    -- The head is at most one of the two items, and the other one stands behind it.
    rw [List.cons_sublist_cons'] at forward backward
    rcases forward with ahead | ⟨rfl, ahead⟩
    · rcases backward with behind | ⟨rfl, behind⟩
      · exact ih later ahead behind
      · exact fresh (ahead.subset (by simp))
    · rcases backward with behind | ⟨rfl, behind⟩
      · exact fresh (behind.subset (by simp))
      · exact fresh (ahead.subset (by simp))

theorem pair_sublist_or {first second : α} (first_mem : first ∈ items)
    (second_mem : second ∈ items) (apart : first ≠ second) :
    [first, second].Sublist items ∨ [second, first].Sublist items := by
  induction items with
  | nil => simp at first_mem
  | cons head rest ih =>
    rcases List.mem_cons.mp first_mem with rfl | first_later
    · rcases List.mem_cons.mp second_mem with rfl | second_later
      · exact absurd rfl apart
      · exact .inl (List.Sublist.cons_cons _ (List.singleton_sublist.mpr second_later))
    · rcases List.mem_cons.mp second_mem with rfl | second_later
      · exact .inr (List.Sublist.cons_cons _ (List.singleton_sublist.mpr first_later))
      · rcases ih first_later second_later with ahead | behind
        · exact .inl (ahead.cons _)
        · exact .inr (behind.cons _)

/-- An arrangement of items by a rank, in which equal ones keep the order of their arrival. -/
structure StableOrder (rank : α → Nat) (items order : List α) : Prop where
  perm : order.Perm items
  sorted : order.Pairwise fun earlier later => rank earlier ≤ rank later
  stable : ∀ level, order.filter (rank · = level) = items.filter (rank · = level)

theorem filter_orderedInsert_rank (rank : α → Nat) (level : Nat) (item : α)
    (items : List α) : (items.orderedInsert (rank · ≤ rank ·) item).filter (rank · = level) =
      (item :: items).filter (rank · = level) := by
  induction items with
  | nil => rfl
  | cons head rest ih =>
    rw [List.orderedInsert_cons]
    split
    · rfl
    · rename_i later
      -- The head stays in front of the item, and has another rank.
      rw [List.filter_cons, ih]
      by_cases ranked : rank item = level
      · have apart : rank head ≠ level := by omega
        simp [ranked, apart]
      · simp [ranked, List.filter_cons]

theorem stableOrder_insertionSort (rank : α → Nat) (items : List α) :
    StableOrder rank items (items.insertionSort (rank · ≤ rank ·)) where
  perm := List.perm_insertionSort _ items
  sorted := by
    have : Std.Total fun earlier later : α => rank earlier ≤ rank later :=
      ⟨fun earlier later => Nat.le_total (rank earlier) (rank later)⟩
    have : IsTrans α fun earlier later => rank earlier ≤ rank later := ⟨fun _ _ _ => Nat.le_trans⟩
    exact List.pairwise_insertionSort _ items
  stable := by
    intro level
    induction items with
    | nil => rfl
    | cons item rest ih =>
      rw [List.insertionSort_cons, filter_orderedInsert_rank]
      simp only [List.filter_cons, ih]

/-- An item stands in front of another one in a sorted list, by the order or by its arrival. -/
def StandsBefore (le : α → α → Prop) (items : List α) (earlier later : α) : Prop :=
  le earlier later ∧ (le later earlier → [earlier, later].Sublist items)

theorem pairwise_insertionSort_iff {le related : α → α → Prop} [DecidableRel le] [Std.Total le]
    [IsTrans α le] (distinct : items.Nodup) : (items.insertionSort le).Pairwise related ↔
      ∀ earlier ∈ items, ∀ later ∈ items, StandsBefore le items earlier later →
        related earlier later := by
  have perm := List.perm_insertionSort le items
  have sorted := List.pairwise_insertionSort le items
  have unique : (items.insertionSort le).Nodup := perm.nodup_iff.mpr distinct
  rw [List.pairwise_iff_forall_sublist]
  constructor
  · intro all earlier earlier_mem later later_mem before
    have apart : earlier ≠ later := by
      rintro rfl
      -- An item does not arrive behind itself.
      have twice := before.2 before.1
      exact absurd (distinct.sublist twice) (by simp)
    apply all
    by_cases tied : le later earlier
    · exact List.pair_sublist_insertionSort before.1 (before.2 tied)
    · rcases pair_sublist_or (perm.mem_iff.mpr earlier_mem) (perm.mem_iff.mpr later_mem) apart with
        ahead | behind
      · exact ahead
      · exact absurd (List.pairwise_iff_forall_sublist.mp sorted behind) tied
  · intro all earlier later ahead
    have earlier_mem : earlier ∈ items := perm.mem_iff.mp (ahead.subset (by simp))
    have later_mem : later ∈ items := perm.mem_iff.mp (ahead.subset (by simp))
    have apart : earlier ≠ later := by
      rintro rfl
      exact absurd (unique.sublist ahead) (by simp)
    apply all earlier earlier_mem later later_mem
    refine ⟨List.pairwise_iff_forall_sublist.mp sorted ahead, ?_⟩
    intro tied
    rcases pair_sublist_or earlier_mem later_mem apart with arrived | arrived
    · exact arrived
    · -- Sorting keeps tied items in the order of their arrival.
      exact absurd (List.pair_sublist_insertionSort tied arrived) (not_sublist_swap unique ahead)

section Arrival

variable {le : α → α → Bool} (trans : ∀ a b c, le a b → le b c → le a c)
  (total : ∀ a b, le a b || le b a)
include trans total

theorem mergeSort_eq_of_perm {left right : List α} (same : left.Perm right)
    (untied : ∀ a ∈ left, ∀ b ∈ left, le a b → le b a → a = b) :
    left.mergeSort le = right.mergeSort le := by
  have perm : (left.mergeSort le).Perm (right.mergeSort le) :=
    (List.mergeSort_perm left le).trans (same.trans (List.mergeSort_perm right le).symm)
  refine List.Perm.eq_of_pairwise ?_ (List.pairwise_mergeSort trans total left)
    (List.pairwise_mergeSort trans total right) perm
  intro a b inLeft inRight up down
  have other : b ∈ left := same.mem_iff.mpr (List.mem_mergeSort.mp inRight)
  exact untied a (List.mem_mergeSort.mp inLeft) b other up down

theorem mergeSort_ne_of_tie {first second : α} {rest : List α}
    (distinct : (first :: second :: rest).Nodup) (up : le first second) (down : le second first) :
    (first :: second :: rest).mergeSort le ≠ (second :: first :: rest).mergeSort le := by
  intro same
  have forward : [first, second].Sublist ((first :: second :: rest).mergeSort le) :=
    List.pair_sublist_mergeSort trans total up (by simp)
  have backward : [second, first].Sublist ((second :: first :: rest).mergeSort le) :=
    List.pair_sublist_mergeSort trans total down (by simp)
  rw [← same] at backward
  have unique : ((first :: second :: rest).mergeSort le).Nodup :=
    (List.mergeSort_perm _ le).nodup_iff.mpr distinct
  exact not_sublist_swap unique forward backward

end Arrival

namespace Number

def sign : Number → Ordering
  | finite value => if value < 0 then .lt else if 0 < value then .gt else .eq
  | infinity negative => if negative then .lt else .gt
  | nan => .eq

variable {first second : Number}

theorem lt_trans {third : Number} (left : first.lt second = true) (right : second.lt third = true) :
    first.lt third = true := by
  cases first <;> cases second <;> cases third <;> simp_all [lt]
  linarith

theorem lt_irrefl (number : Number) : number.lt number = false := by
  cases number <;> simp [lt]

theorem lt_or_lt (apart : first ≠ second) (left : first ≠ nan) (right : second ≠ nan) :
    first.lt second = true ∨ second.lt first = true := by
  cases first <;> cases second <;> simp_all [lt]
  -- Two different infinities are of different signs.
  rename_i one other
  cases one <;> cases other <;> simp_all

theorem sign_sub (apart : first ≠ second) (left : first ≠ nan) (right : second ≠ nan) :
    (first.sub second).sign = if first.lt second then .lt else .gt := by
  cases first with
  | nan => exact absurd rfl left
  | finite one =>
    cases second with
    | nan => exact absurd rfl right
    | finite other =>
      have differ : one ≠ other := fun same => apart (congrArg finite same)
      simp only [sub, neg, add, sign, lt]
      rcases lt_or_gt_of_ne differ with below | above
      · have negative : one + -other < 0 := by linarith
        simp [negative, below]
      · have positive : 0 < one + -other := by linarith
        have notBelow : ¬ one < other := by linarith
        have notNegative : ¬ one + -other < 0 := by linarith
        simp [positive, notBelow, notNegative]
    | infinity negative => cases negative <;> simp [sub, neg, add, sign, lt]
  | infinity side =>
    cases second with
    | nan => exact absurd rfl right
    | finite other => cases side <;> simp [sub, neg, add, sign, lt]
    | infinity other =>
      cases side <;> cases other <;> simp_all [sub, neg, add, sign, lt]

end Number

end Js
