import Mathlib.Data.Rat.Floor
import Mathlib.Algebra.BigOperators.Group.List.Basic
import Mathlib.Algebra.Order.Field.Basic
import Mathlib.Algebra.Order.Floor.Ring
import Mathlib.Tactic.FieldSimp
import Mathlib.Tactic.Linarith

/-! Shares of a target, in proportion to counts and rounded up, and the largest of some items. -/

namespace Machine

section

variable {α : Type} (items : List α)

theorem sum_le_sum_ceil (part : α → ℚ) :
    (items.map part).sum ≤ ((items.map fun item => ⌈part item⌉).sum : ℤ) := by
  induction items with
  | nil => simp
  | cons item rest ih =>
    rw [List.map_cons, List.map_cons, List.sum_cons, List.sum_cons, Int.cast_add]
    exact add_le_add (Int.le_ceil _) ih

theorem sum_ceil_le (part : α → ℚ) :
    (((items.map fun item => ⌈part item⌉).sum : ℤ) : ℚ) ≤ (items.map part).sum + items.length := by
  induction items with
  | nil => simp
  | cons item rest ih =>
    have up := (Int.ceil_lt_add_one (part item)).le
    rw [List.map_cons, List.map_cons, List.sum_cons, List.sum_cons, Int.cast_add,
      List.length_cons, Nat.cast_add, Nat.cast_one]
    linarith

theorem sum_ceil_lt (part : α → ℚ) (some_item : items ≠ []) :
    (((items.map fun item => ⌈part item⌉).sum : ℤ) : ℚ) < (items.map part).sum + items.length := by
  cases items with
  | nil => exact absurd rfl some_item
  | cons item rest =>
    have up := Int.ceil_lt_add_one (part item)
    have others := sum_ceil_le rest part
    rw [List.map_cons, List.map_cons, List.sum_cons, List.sum_cons, Int.cast_add,
      List.length_cons, Nat.cast_add, Nat.cast_one]
    linarith

def share (count : α → Nat) (total target : Nat) (item : α) : ℤ :=
  ⌈(target : ℚ) * ((count item : ℚ) / total)⌉

variable (count : α → Nat) {total target : Nat}

theorem share_le (within : target ≤ total) (item : α) :
    share count total target item ≤ count item := by
  apply Int.ceil_le.mpr
  rcases Nat.eq_zero_or_pos total with zero | positive
  · simp [zero]
  · have some_total : (0 : ℚ) < total := by exact_mod_cast positive
    have part : (target : ℚ) / total ≤ 1 := (div_le_one some_total).mpr (by exact_mod_cast within)
    calc (target : ℚ) * ((count item : ℚ) / total) = (target : ℚ) / total * count item := by ring
      _ ≤ 1 * count item := by gcongr
      _ = ((count item : ℤ) : ℚ) := by simp

theorem share_nonneg (total target : Nat) (item : α) : 0 ≤ share count total target item := by
  apply Int.ceil_nonneg
  positivity

theorem sum_exact_shares :
    (items.map fun item => (target : ℚ) * ((count item : ℚ) / total)).sum =
      (target : ℚ) / total * ((items.map count).sum : ℕ) := by
  induction items with
  | nil => simp
  | cons item rest ih =>
    rw [List.map_cons, List.map_cons, List.sum_cons, List.sum_cons, ih, Nat.cast_add]
    ring

theorem sum_shares (target : Nat) (all : (items.map count).sum = total) (positive : 0 < total) :
    (target : ℤ) ≤ (items.map (share count total target)).sum ∧
      (items.map (share count total target)).sum < target + items.length := by
  have exact_sum : (items.map fun item => (target : ℚ) * ((count item : ℚ) / total)).sum =
      target := by
    have some_total : (total : ℚ) ≠ 0 := by exact_mod_cast positive.ne'
    rw [sum_exact_shares items count, all]
    field_simp
  have some_item : items ≠ [] := by
    rintro rfl
    simp at all
    omega
  constructor
  · have reached := sum_le_sum_ceil items fun item => (target : ℚ) * ((count item : ℚ) / total)
    rw [exact_sum] at reached
    exact_mod_cast reached
  · have exceeded :=
      sum_ceil_lt items (fun item => (target : ℚ) * ((count item : ℚ) / total)) some_item
    rw [exact_sum] at exceeded
    exact_mod_cast exceeded

end

section

variable {α β : Type} [LinearOrder β] (value : α → β)

/-- The first of the items with the largest value, unless none is above the one to begin with. -/
def largest (items : List α) (first : α) : α :=
  items.foldl (fun largest item => if value largest < value item then item else largest) first

theorem largest_spec (items : List α) (first : α) :
    (largest value items first = first ∨ largest value items first ∈ items) ∧
      value first ≤ value (largest value items first) ∧
      ∀ item ∈ items, value item ≤ value (largest value items first) := by
  induction items generalizing first with
  | nil => exact ⟨.inl rfl, le_refl _, by simp⟩
  | cons item rest ih =>
    obtain ⟨found, above, all⟩ :=
      ih (if value first < value item then item else first)
    simp only [largest, List.foldl_cons] at found above all ⊢
    -- The first item takes the place of the one to begin with, or does not.
    by_cases larger : value first < value item
    · rw [if_pos larger] at found above all ⊢
      refine ⟨.inr ?_, larger.le.trans above, List.forall_mem_cons.mpr ⟨above, all⟩⟩
      rcases found with same | later
      · rw [same]
        exact List.mem_cons_self
      · exact List.mem_cons_of_mem _ later
    · rw [if_neg larger] at found above all ⊢
      refine ⟨?_, above, List.forall_mem_cons.mpr ⟨(not_lt.mp larger).trans above, all⟩⟩
      rcases found with same | later
      · exact .inl same
      · exact .inr (List.mem_cons_of_mem _ later)

end

end Machine
