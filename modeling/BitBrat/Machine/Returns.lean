import Mathlib.Data.List.Forall2
import Mathlib.Order.Defs.Unbundled

/-! Programs that may throw, and what they leave unchanged whether they throw or not. -/

namespace Machine

section

variable {ε σ α β : Type}

abbrev Program (ε σ α : Type) := ExceptT ε (StateM σ) α

/-- The state in which a program leaves off, also when it throws. -/
def after (program : Program ε σ α) (state : σ) : σ := (program.run.run state).2

/-- Every run of the program, finished or broken off, relates its last state to its first. -/
def Frames (related : σ → σ → Prop) (program : Program ε σ α) : Prop :=
  ∀ state, related state (after program state)

/-- A program that reads and replaces the state, and may throw. -/
def ofState (action : σ → Except ε α × σ) : Program ε σ α := ExceptT.mk (StateT.mk action)

/-- What a program returns or throws, and the state in which it leaves off. -/
def exec (program : Program ε σ α) (state : σ) : Except ε α × σ := program.run.run state

@[simp] theorem exec_pure (value : α) (state : σ) :
    exec (pure value : Program ε σ α) state = (.ok value, state) := rfl

@[simp] theorem exec_modify (change : σ → σ) (state : σ) :
    exec (modify change : Program ε σ PUnit) state = (.ok (), change state) := rfl

@[simp] theorem exec_ofExcept (outcome : Except ε α) (state : σ) :
    exec (ofExcept outcome : Program ε σ α) state = (outcome, state) := by
  cases outcome <;> rfl

@[simp] theorem exec_get (state : σ) :
    exec (get : Program ε σ σ) state = (.ok state, state) := rfl

theorem exec_bind (first : Program ε σ α) (next : α → Program ε σ β) (state : σ) :
    exec (first >>= next) state =
      match exec first state with
      | (.ok value, state) => exec (next value) state
      | (.error reason, state) => (.error reason, state) := by
  -- The two parts share one state, which the exception does not undo.
  simp only [exec, ExceptT.run_bind, StateT.run_bind]
  rcases first.run.run state with ⟨_ | _, _⟩ <;> rfl

@[simp] theorem after_pure (value : α) (state : σ) :
    after (pure value : Program ε σ α) state = state := rfl

@[simp] theorem after_ofExcept_bind (value : α) (next : α → Program ε σ β) (state : σ) :
    after (ofExcept (.ok value) >>= next) state = after (next value) state := rfl

@[simp] theorem after_error_bind (reason : ε) (next : α → Program ε σ β) (state : σ) :
    after (ofExcept (.error reason) >>= next) state = state := rfl

@[simp] theorem after_get_bind (next : σ → Program ε σ β) (state : σ) :
    after (get >>= next) state = after (next state) state := rfl

@[simp] theorem after_modify_bind (change : σ → σ) (next : PUnit → Program ε σ β) (state : σ) :
    after (modify change >>= next) state = after (next ()) (change state) := rfl

theorem after_bind (first : Program ε σ α) (next : α → Program ε σ β) (state : σ) :
    after (first >>= next) state =
      match (first.run.run state).1 with
      | .ok value => after (next value) (after first state)
      | .error _ => after first state := by
  -- The two parts share one state, which the exception does not undo.
  simp only [after, ExceptT.run_bind, StateT.run_bind]
  rcases first.run.run state with ⟨_ | _, _⟩ <;> rfl

section Frames

variable {related : σ → σ → Prop} [Std.Refl related] [IsTrans σ related]

omit [IsTrans σ related] in
theorem frames_pure (value : α) : Frames related (pure value : Program ε σ α) :=
  fun state => refl_of related state

omit [IsTrans σ related] in
theorem frames_ofExcept (outcome : Except ε α) :
    Frames related (ofExcept outcome : Program ε σ α) := by
  intro state
  cases outcome <;> exact refl_of related state

omit [Std.Refl related] in
theorem frames_bind {first : Program ε σ α} {next : α → Program ε σ β}
    (head : Frames related first) (tail : ∀ value, Frames related (next value)) :
    Frames related (first >>= next) := by
  intro state
  rw [after_bind]
  split
  · exact trans_of related (head state) (tail _ _)
  · exact head state

omit [Std.Refl related] [IsTrans σ related] in
theorem frames_modify {change : σ → σ} (changes : ∀ state, related state (change state)) :
    Frames related (modify change : Program ε σ PUnit) := changes

omit [Std.Refl related] [IsTrans σ related] in
theorem frames_ofState {action : σ → Except ε α × σ}
    (acts : ∀ state, related state (action state).2) : Frames related (ofState action) := acts

theorem frames_get {next : σ → Program ε σ β} (tail : ∀ state, Frames related (next state)) :
    Frames related (get >>= next) :=
  frames_bind (fun state => refl_of related state) tail

theorem frames_mapM {work : α → Program ε σ β} (each : ∀ item, Frames related (work item))
    (items : List α) : Frames related (items.mapM work) := by
  -- The induction is on the list, whose first item is worked on first.
  induction items with
  | nil =>
    rw [List.mapM_nil]
    exact frames_pure []
  | cons item rest ih =>
    rw [List.mapM_cons]
    exact frames_bind (each item) fun _ => frames_bind ih fun _ => frames_pure _

end Frames

end

/-! Programs that return without throwing, and what they return and leave. -/

variable {ε σ α β : Type}

/-- From a state, the program returns a value and leaves a state that are as said. -/
def Returns (program : Program ε σ α) (state : σ) (post : α → σ → Prop) : Prop :=
  ∃ value last, exec program state = (.ok value, last) ∧ post value last

section Returns

variable {state : σ}

variable {post : α → σ → Prop}

theorem returns_pure {value : α} (holds : post value state) :
    Returns (pure value : Program ε σ α) state post :=
  ⟨value, state, rfl, holds⟩

theorem returns_modify {change : σ → σ} {post : PUnit → σ → Prop}
    (holds : post () (change state)) : Returns (modify change : Program ε σ PUnit) state post :=
  ⟨(), change state, rfl, holds⟩

theorem returns_ofState {action : σ → Except ε α × σ} {value : α}
    (returned : (action state).1 = .ok value) (holds : post value (action state).2) :
    Returns (ofState action) state post :=
  ⟨value, (action state).2, Prod.ext returned rfl, holds⟩

variable {first : Program ε σ α} {next : α → Program ε σ β}

theorem returns_bind {post : β → σ → Prop}
    (returned : Returns first state fun value middle => Returns (next value) middle post) :
    Returns (first >>= next) state post := by
  obtain ⟨value, middle, ran, result, last, later, holds⟩ := returned
  refine ⟨result, last, ?_, holds⟩
  rw [exec_bind, ran]
  exact later

theorem returns_get {next : σ → Program ε σ β} {post : β → σ → Prop}
    (returned : Returns (next state) state post) : Returns (get >>= next) state post :=
  returns_bind ⟨state, state, rfl, returned⟩

theorem Returns.mono {program : Program ε σ α} {strong weak : α → σ → Prop}
    (returned : Returns program state strong)
    (implied : ∀ value last, strong value last → weak value last) :
    Returns program state weak := by
  obtain ⟨value, last, ran, holds⟩ := returned
  exact ⟨value, last, ran, implied value last holds⟩

theorem Returns.after_bind (returned : Returns first state post) :
    ∃ value middle, post value middle ∧
      after (first >>= next) state = after (next value) middle := by
  obtain ⟨value, middle, ran, holds⟩ := returned
  refine ⟨value, middle, holds, ?_⟩
  change (exec (first >>= next) state).2 = (exec (next value) middle).2
  rw [exec_bind, ran]

theorem after_bind_of_framed {related : σ → σ → Prop} (framed : Frames related first) (state : σ) :
    ∃ middle, related state middle ∧
      (after (first >>= next) state = middle ∨
        ∃ value, after (first >>= next) state = after (next value) middle) := by
  refine ⟨after first state, framed state, ?_⟩
  rw [after_bind]
  split
  case h_1 value _ => exact .inr ⟨value, rfl⟩
  case h_2 => exact .inl rfl

end Returns

def Runs (program : Program ε σ α) : Prop := ∀ state, Returns program state fun _ _ => True

theorem runs_pure (value : α) : Runs (pure value : Program ε σ α) :=
  fun _ => returns_pure trivial

theorem runs_modify (change : σ → σ) : Runs (modify change : Program ε σ PUnit) :=
  fun _ => returns_modify trivial

theorem runs_ofExcept {outcome : Except ε α} {value : α} (returned : outcome = .ok value) :
    Runs (ofExcept outcome : Program ε σ α) :=
  fun state => ⟨value, state, by rw [exec_ofExcept, returned], trivial⟩

theorem runs_bind {first : Program ε σ α} {next : α → Program ε σ β} (head : Runs first)
    (tail : ∀ value, Runs (next value)) : Runs (first >>= next) :=
  fun state => returns_bind ((head state).mono fun value middle _ => tail value middle)

theorem runs_mapM {work : α → Program ε σ β} {items : List α}
    (each : ∀ item ∈ items, Runs (work item)) : Runs (items.mapM work) := by
  induction items with
  | nil =>
    rw [List.mapM_nil]
    exact runs_pure []
  | cons item rest ih =>
    rw [List.mapM_cons]
    refine runs_bind (each item List.mem_cons_self) fun value => ?_
    refine runs_bind (ih fun other later => each other (List.mem_cons_of_mem _ later)) fun _ => ?_
    exact runs_pure _

theorem forall₂_of_mapM {work : α → Program ε σ β} {items : List α} {values : List β}
    {state last : σ} (ran : exec (items.mapM work) state = (.ok values, last)) :
    List.Forall₂ (fun item value => ∃ before, (exec (work item) before).1 = .ok value)
      items values := by
  -- The induction is on the list, for every state before it.
  induction items generalizing state last values with
  | nil =>
    rw [List.mapM_nil] at ran
    cases ran
    exact .nil
  | cons item rest ih =>
    rw [List.mapM_cons, exec_bind] at ran
    split at ran
    case h_1 value middle first =>
      rw [exec_bind] at ran
      split at ran
      case h_1 others later second =>
        cases ran
        exact .cons ⟨state, congrArg Prod.fst first⟩ (ih second)
      case h_2 => cases ran
    case h_2 => cases ran

theorem Runs.returns {program : Program ε σ α} {related : σ → σ → Prop} (runs : Runs program)
    (framed : Frames related program) (state : σ) :
    Returns program state fun value last =>
      related state last ∧ exec program state = (.ok value, last) := by
  obtain ⟨value, last, ran, _⟩ := runs state
  refine ⟨value, last, ran, ?_, ran⟩
  have left : after program state = last := congrArg Prod.snd ran
  rw [← left]
  exact framed state

end Machine
