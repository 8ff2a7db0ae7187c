import Mathlib.Data.Int.ConditionallyCompleteOrder
import Mathlib.Data.Int.Interval
import Mathlib.Logic.Function.Iterate
import Mathlib.Order.ConditionallyCompleteLattice.Basic

/-! Loops that stop when their condition fails, and take a bounded number of steps at most. -/

namespace Machine

section

variable {σ : Type}

/-- Take steps while the condition holds, but no more than there are to take. -/
def whileUpTo (cond : σ → Bool) (step : σ → σ) : Nat → σ → σ
  | 0, state => state
  | left + 1, state => if cond state then whileUpTo cond step left (step state) else state

variable {cond : σ → Bool} {step : σ → σ} {state : σ}

theorem whileUpTo_invariant (inv : σ → Prop) (preserved : ∀ state, inv state → inv (step state))
    (initial : inv state) (left : Nat) : inv (whileUpTo cond step left state) := by
  -- The induction is on the steps left, for every state before them.
  induction left generalizing state with
  | zero => exact initial
  | succ left ih =>
    unfold whileUpTo
    split
    · exact ih (preserved state initial)
    · exact initial

theorem whileUpTo_counted (inv : Nat → σ → Prop)
    (preserved : ∀ taken state, inv taken state → inv (taken + 1) (step state)) {taken : Nat}
    (initial : inv taken state) (left : Nat) :
    ∃ more ≤ left, inv (taken + more) (whileUpTo cond step left state) ∧
      (cond (whileUpTo cond step left state) = true → more = left) := by
  induction left generalizing taken state with
  | zero => exact ⟨0, Nat.le_refl 0, initial, fun _ => rfl⟩
  | succ left ih =>
    unfold whileUpTo
    split
    · obtain ⟨more, bound, holds, all⟩ := ih (preserved taken state initial)
      refine ⟨more + 1, by omega, ?_, fun still => by rw [all still]⟩
      rwa [Nat.add_right_comm, Nat.add_assoc] at holds
    · rename_i stops
      exact ⟨0, by omega, initial, fun still => absurd still stops⟩

theorem whileUpTo_of_not (stops : cond state = false) (left : Nat) :
    whileUpTo cond step left state = state := by
  cases left with
  | zero => rfl
  | succ left => simp [whileUpTo, stops]

theorem whileUpTo_map {τ : Type} (view : τ → σ) {act : τ → τ}
    (follows : ∀ state, view (act state) = step (view state)) (left : Nat) (state : τ) :
    view (whileUpTo (fun state => cond (view state)) act left state) =
      whileUpTo cond step left (view state) := by
  induction left generalizing state with
  | zero => rfl
  | succ left ih =>
    unfold whileUpTo
    split
    · rw [ih, follows]
    · rfl

/-- The states that a loop of so many steps goes through, the first and the last one included. -/
def iterates (step : σ → σ) (count : Nat) (state : σ) : List σ :=
  (List.range (count + 1)).map fun taken => step^[taken] state

theorem iterates_succ (step : σ → σ) (count : Nat) (state : σ) :
    iterates step (count + 1) state = state :: iterates step count (step state) := by
  rw [iterates, List.range_succ_eq_map, List.map_cons, List.map_map]
  rfl

theorem mem_iterates_self (step : σ → σ) (count : Nat) (state : σ) :
    state ∈ iterates step count state :=
  List.mem_map.mpr ⟨0, by simp, rfl⟩

theorem iterate_mem_iterates (step : σ → σ) (count : Nat) (state : σ) :
    step^[count] state ∈ iterates step count state :=
  List.mem_map.mpr ⟨count, by simp, rfl⟩

theorem iterates_invariant (inv : σ → Prop) (preserved : ∀ state, inv state → inv (step state))
    (initial : inv state) (count : Nat) : ∀ passed ∈ iterates step count state, inv passed := by
  induction count generalizing state with
  | zero => simpa [iterates] using initial
  | succ count ih =>
    rw [iterates_succ, List.forall_mem_cons]
    exact ⟨initial, ih (preserved state initial)⟩

theorem whileUpTo_cond (cond : σ → Bool) (step : σ → σ) (left : Nat) (state : σ) :
    cond (whileUpTo cond step left state) = true ↔
      ∀ passed ∈ iterates step left state, cond passed = true := by
  induction left generalizing state with
  | zero => simp [whileUpTo, iterates]
  | succ left ih =>
    rw [iterates_succ, List.forall_mem_cons]
    unfold whileUpTo
    split
    · -- The first step is taken, and the others come after it.
      rename_i holds
      rw [ih]
      exact (and_iff_right holds).symm
    · -- The loop stops at once, where the condition fails.
      rename_i fails
      exact ⟨fun holds => absurd holds fails, fun all => absurd all.1 fails⟩

theorem whileUpTo_eq_iterate {left : Nat} (holds : cond (whileUpTo cond step left state) = true) :
    whileUpTo cond step left state = step^[left] state := by
  induction left generalizing state with
  | zero => rfl
  | succ left ih =>
    unfold whileUpTo at holds ⊢
    split at holds
    · rename_i first
      rw [if_pos first]
      exact ih holds
    · rename_i fails
      exact absurd holds fails

end

/-! Numbers that are given out one after the other, those that are in use left out. -/

/-- The first number from a start on that is not in use. -/
def firstFree (used : List Int) (next : Int) : Int :=
  whileUpTo (fun number => used.contains number) (· + 1) used.length next

theorem whileUpTo_used (used : List Int) (left : Nat) (next : Int) :
    ∃ stop, whileUpTo (fun number => used.contains number) (· + 1) left next = stop ∧
      next ≤ stop ∧ (∀ number, next ≤ number → number < stop → number ∈ used) ∧
        (stop ∈ used → stop = next + left) := by
  induction left generalizing next with
  | zero => exact ⟨next, rfl, le_refl next, fun number low high => by omega, fun _ => by simp⟩
  | succ left ih =>
    unfold whileUpTo
    by_cases here : next ∈ used
    · obtain ⟨stop, found, low, between, all⟩ := ih (next + 1)
      have taken : used.contains next = true := by simpa using here
      refine ⟨stop, by rw [if_pos taken, found], by omega, fun number lower upper => ?_,
        fun held => ?_⟩
      · by_cases same : number = next
        · exact same ▸ here
        · exact between number (by omega) upper
      · have last := all held
        push_cast
        omega
    · have free : ¬ used.contains next = true := by simpa using here
      exact ⟨next, if_neg free, le_refl next, fun number low high => by omega,
        fun held => absurd held here⟩

variable {used : List Int} {next : Int}

theorem le_firstFree : next ≤ firstFree used next := by
  obtain ⟨stop, found, low, -⟩ := whileUpTo_used used used.length next
  rw [firstFree, found]
  exact low

theorem used_of_lt_firstFree {number : Int} (low : next ≤ number)
    (high : number < firstFree used next) : number ∈ used := by
  obtain ⟨stop, found, -, between, -⟩ := whileUpTo_used used used.length next
  rw [firstFree, found] at high
  exact between number low high

theorem firstFree_not_mem : firstFree used next ∉ used := by
  obtain ⟨stop, found, -, between, last⟩ := whileUpTo_used used used.length next
  rw [firstFree, found]
  intro held
  -- One more number would be in use than there are.
  have all : Finset.Ico next (next + used.length + 1) ⊆ used.toFinset := by
    intro number member
    obtain ⟨low, high⟩ := Finset.mem_Ico.mp member
    have reached := last held
    rw [List.mem_toFinset]
    by_cases same : number = stop
    · exact same ▸ held
    · exact between number low (by omega)
  have many := Finset.card_le_card all
  have few := used.toFinset_card_le
  rw [Int.card_Ico] at many
  omega

/-- Free numbers that are given out one after the other. -/
def allocate : List Int → Int → Nat → List Int
  | _, _, 0 => []
  | used, next, count + 1 =>
    let number := firstFree used next
    number :: allocate (number :: used) (number + 1) count

noncomputable def freeBetween (used : List Int) (next stop : Int) : Finset Int :=
  (Finset.Ico next stop).filter (· ∉ used)

theorem freeBetween_firstFree : freeBetween used next (firstFree used next) = ∅ := by
  rw [freeBetween, Finset.filter_eq_empty_iff]
  intro number member
  obtain ⟨low, high⟩ := Finset.mem_Ico.mp member
  exact not_not.mpr (used_of_lt_firstFree low high)

theorem freeBetween_insert {number : Int} (above : firstFree used next < number) :
    freeBetween used next number = insert (firstFree used next)
      (freeBetween (firstFree used next :: used) (firstFree used next + 1) number) := by
  have low : next ≤ firstFree used next := le_firstFree
  have free : firstFree used next ∉ used := firstFree_not_mem
  ext other
  simp only [freeBetween, Finset.mem_filter, Finset.mem_Ico, Finset.mem_insert, List.mem_cons,
    not_or]
  constructor
  · rintro ⟨⟨lower, upper⟩, unused⟩
    by_cases same : other = firstFree used next
    · exact .inl same
    · have passed : ¬ other < firstFree used next := fun less =>
        unused (used_of_lt_firstFree lower less)
      exact .inr ⟨⟨by omega, upper⟩, same, unused⟩
  · rintro (rfl | ⟨⟨lower, upper⟩, -, unused⟩)
    · exact ⟨⟨low, above⟩, free⟩
    · exact ⟨⟨by omega, upper⟩, unused⟩

/-- A number is given out just if it is free and fewer numbers in front of it are than there are
to give out. -/
theorem mem_allocate_iff {count : Nat} {number : Int} :
    number ∈ allocate used next count ↔
      next ≤ number ∧ number ∉ used ∧ (freeBetween used next number).card < count := by
  induction count generalizing used next with
  | zero => simp [allocate]
  | succ count ih =>
    have low : next ≤ firstFree used next := le_firstFree
    have free : firstFree used next ∉ used := firstFree_not_mem
    rw [allocate, List.mem_cons, ih]
    rcases lt_trichotomy number (firstFree used next) with below | here | above
    · -- Numbers that are passed are in use.
      constructor
      · rintro (same | ⟨behind, -⟩) <;> omega
      · intro ⟨lower, unused, _⟩
        exact absurd (used_of_lt_firstFree lower below) unused
    · subst here
      rw [freeBetween_firstFree]
      simp [low, free]
    · have parts := freeBetween_insert above
      have fresh : firstFree used next ∉
          freeBetween (firstFree used next :: used) (firstFree used next + 1) number := by
        simp [freeBetween]
      have size := congrArg Finset.card parts
      rw [Finset.card_insert_of_notMem fresh] at size
      rw [size, List.mem_cons, not_or]
      constructor
      · rintro (same | ⟨behind, ⟨-, unused⟩, fewer⟩)
        · omega
        · exact ⟨by omega, unused, by omega⟩
      · intro ⟨lower, unused, fewer⟩
        exact .inr ⟨by omega, ⟨by omega, unused⟩, by omega⟩

end Machine
