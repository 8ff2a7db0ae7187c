import BitBrat.Js.Value
import Mathlib.Data.ENat.Lattice
import Mathlib.Data.Rat.Floor
import Mathlib.Tactic.Linarith

/-! Script arithmetic: rounding, the greater of two numbers, and how many things fit a number. -/

namespace Js

namespace Number

/-- The number when it is truthy, and a default otherwise. -/
def orElse (number default : Number) : Number := if number.truthy then number else default

def floor : Number → Number
  | finite value => finite ⌊value⌋
  | other => other

/-- The greater of two numbers, of which neither may be not-a-number. -/
def max (left right : Number) : Number :=
  if left = nan ∨ right = nan then nan else if left.lt right then right else left

/-- The whole number that is left of a finite number without its fraction. -/
def trunc (value : ℚ) : ℤ := if value < 0 then -⌊-value⌋ else ⌊value⌋

def wholes : Number → ℕ∞
  | finite value => (⌊value⌋.toNat : ℕ)
  | infinity false => ⊤
  | _ => 0

@[simp] theorem lt_finite (left right : ℚ) :
    (finite left).lt (finite right) = decide (left < right) := rfl

@[simp] theorem floor_finite (value : ℚ) : floor (finite value) = finite ⌊value⌋ := rfl

@[simp] theorem max_finite (left right : ℚ) :
    max (finite left) (finite right) = finite (Max.max left right) := by
  rcases lt_or_ge left right with below | above
  · simp [max, below, below.le]
  · simp [max, above]

theorem orElse_finite (value : ℚ) (default : Number) :
    orElse (finite value) default = if value = 0 then default else finite value := by
  by_cases zero : value = 0 <;> simp [orElse, truthy, zero]

/-- Something is counted up to a number exactly if there is room for more than what is counted. -/
theorem natCast_lt_max_one_floor (count : Nat) (number : Number) :
    (finite count).lt (max (finite 1) (floor (orElse number (finite 1)))) = true ↔
      (count : ℕ∞) < Max.max 1 number.wholes := by
  cases number with
  | finite value =>
    -- Below one there is room for one thing, and from one on for what the floor is.
    have room : (Max.max 1 (wholes (finite value)) : ℕ∞) = (Max.max 1 ⌊value⌋.toNat : ℕ) := by
      rw [wholes]
      exact_mod_cast rfl
    have least : ((Max.max 1 ⌊value⌋.toNat : ℕ) : ℚ) = Max.max 1 (⌊value⌋ : ℚ) := by
      have whole : ((Max.max 1 ⌊value⌋.toNat : ℕ) : ℤ) = Max.max 1 ⌊value⌋ := by omega
      exact_mod_cast congrArg (Int.cast : ℤ → ℚ) whole
    rw [room, Nat.cast_lt, ← Nat.cast_lt (α := ℚ), least, orElse_finite]
    by_cases zero : value = 0
    · simp [zero]
    · simp [zero]
  | infinity negative => cases negative <;> simp [orElse, truthy, floor, max, lt, wholes]
  | nan => simp [orElse, truthy, floor, max, lt, wholes]

@[simp] theorem neg_finite (value : ℚ) : neg (finite value) = finite (-value) := rfl

@[simp] theorem sub_finite (left right : ℚ) : (finite left).sub (finite right) =
    finite (left - right) := by
  simp [sub, add, sub_eq_add_neg]

end Number

/-- The items from an index on, which counts from the end where it is below zero. -/
def sliceFrom {α : Type} (items : List α) : Number → List α
  | .finite value =>
    let index := Number.trunc value
    if index < 0 then items.drop (items.length - index.natAbs) else items.drop index.natAbs
  | .infinity negative => if negative then items else []
  | .nan => items

theorem sliceFrom_neg_natCast {α : Type} (items : List α) (count : Nat) :
    sliceFrom items (.finite (-(count : ℚ))) =
      if count = 0 then items else items.drop (items.length - count) := by
  rcases Nat.eq_zero_or_pos count with rfl | positive
  · simp [sliceFrom, Number.trunc]
  · have below : -(count : ℚ) < 0 := by
      have above : (0 : ℚ) < count := Nat.cast_pos.mpr positive
      linarith
    have index : Number.trunc (-(count : ℚ)) = -(count : ℤ) := by
      rw [Number.trunc, if_pos below, neg_neg, Int.floor_natCast]
    have from_end : -(count : ℤ) < 0 := by omega
    simp only [sliceFrom, index, if_pos from_end, Int.natAbs_neg, Int.natAbs_natCast]
    rw [if_neg positive.ne']

end Js
