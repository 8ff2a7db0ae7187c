import Mathlib.Logic.Function.Basic

/-! Mutable objects of one kind behind references, and what a program leaves alone of them. -/

namespace Machine

variable {α : Type}

/-- Objects by reference, where the references are given out in order. -/
structure Cells (α : Type) where
  get : Nat → α
  next : Nat

namespace Cells

/-- Make a new object, whose reference is the next one. -/
def push (cells : Cells α) (value : α) : Cells α where
  get := Function.update cells.get cells.next value
  next := cells.next + 1

def write (cells : Cells α) (ref : Nat) (value : α) : Cells α :=
  { cells with get := Function.update cells.get ref value }

/-- Make a new object, if there is one to be made. -/
def pushOption (cells : Cells α) : Option α → Cells α
  | some value => cells.push value
  | none => cells

@[simp] theorem get_push (cells : Cells α) (value : α) :
    (cells.push value).get cells.next = value := Function.update_self ..

@[simp] theorem get_write (cells : Cells α) (ref : Nat) (value : α) :
    (cells.write ref value).get ref = value := Function.update_self ..

structure Keeps (before after : Cells α) : Prop where
  grows : before.next ≤ after.next
  same : ∀ ref < before.next, after.get ref = before.get ref

theorem Keeps.refl (cells : Cells α) : Keeps cells cells where
  grows := Nat.le_refl _
  same := fun _ _ => rfl

variable {before after : Cells α}

theorem Keeps.trans {last : Cells α} (first : Keeps before after) (second : Keeps after last) :
    Keeps before last where
  grows := Nat.le_trans first.grows second.grows
  same := fun ref old =>
    (second.same ref (Nat.lt_of_lt_of_le old first.grows)).trans (first.same ref old)

theorem Keeps.push (keeps : Keeps before after) (value : α) : Keeps before (after.push value) where
  grows := Nat.le_succ_of_le keeps.grows
  same := by
    intro ref old
    have other : ref ≠ after.next := by
      have grows := keeps.grows
      omega
    exact (Function.update_of_ne other ..).trans (keeps.same ref old)

theorem Keeps.pushOption (keeps : Keeps before after) (value : Option α) :
    Keeps before (after.pushOption value) := by
  cases value with
  | none => exact keeps
  | some value => exact keeps.push value

theorem Keeps.write (keeps : Keeps before after) {ref : Nat} (fresh : before.next ≤ ref)
    (value : α) : Keeps before (after.write ref value) where
  grows := keeps.grows
  same := by
    intro old bound
    have other : old ≠ ref := by omega
    exact (Function.update_of_ne other ..).trans (keeps.same old bound)

end Cells

end Machine
