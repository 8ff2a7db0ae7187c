import BitBrat.Js.Arithmetic
import BitBrat.Machine.Run
import Mathlib.Data.ENat.Lattice
import Mathlib.Data.List.Perm.Basic
import Mathlib.Data.List.Range

/-! The task queue of the tool: it runs no more tasks at a time than it allows, in their order. -/

namespace BitBrat

open Js Machine

section

variable {τ ε α : Type}

/-- A task that waits, with the promise of the call that added it. -/
structure PendingTask (τ : Type) where
  task : τ
  promise : Nat

structure TaskRun where
  call : Nat
  promise : Nat
  deriving DecidableEq

/-- A call on the stack: the task has control, or its outcome is known and drains the queue. -/
structure RunFrame (ε α : Type) where
  run : TaskRun
  outcome : Option (Except ε α) := none

/-- The queue, with the calls on the stack, and what has been seen of it from outside. -/
structure QueueState (τ ε α : Type) where
  active : Nat := 0
  pending : List (PendingTask τ) := []
  stack : List (RunFrame ε α) := []
  awaiting : List TaskRun := []
  /-- The tasks in the order in which they were added, where each has the promise of its number. -/
  added : List τ := []
  calls : List τ := []
  ended : List (Nat × Except ε α) := []
  settled : List (Nat × Except ε α) := []

inductive QueueEvent (τ ε α : Type) where
  | add (task : τ)
  | returns
  | throws (error : ε)
  | settles (call : Nat) (outcome : Except ε α)

def Queue.concurrencyOf (concurrency : Number) : Number :=
  Number.max (.finite 1) (Number.floor (concurrency.orElse (.finite 1)))

section

variable (concurrency : Number)

def Queue.hasRoom (active : Nat) : Bool :=
  (Number.finite active).lt (Queue.concurrencyOf concurrency)

def Queue.run (next : PendingTask τ) (state : QueueState τ ε α) : QueueState τ ε α :=
  { state with
    active := state.active + 1
    calls := state.calls ++ [next.task]
    stack := { run := { call := state.calls.length, promise := next.promise } } :: state.stack }

def Queue.add (task : τ) (state : QueueState τ ε α) : QueueState τ ε α :=
  let entry : PendingTask τ := { task, promise := state.added.length }
  let state := { state with added := state.added ++ [task] }
  if Queue.hasRoom concurrency state.active then Queue.run entry state
  else { state with pending := state.pending ++ [entry] }

/-- Go on with the innermost call, until a task has control or nothing is left on the stack. -/
def Queue.drain (state : QueueState τ ε α) : List (RunFrame ε α) → QueueState τ ε α
  | [] => { state with stack := [] }
  | frame :: rest =>
    match frame.outcome with
    | none => { state with stack := frame :: rest }
    | some outcome =>
      match state.pending, Queue.hasRoom concurrency state.active with
      | next :: waiting, true =>
        -- The loop goes on when the task that is called here no longer has control.
        Queue.run next { state with pending := waiting, stack := frame :: rest }
      | _, _ =>
        -- The loop is over, so that the call settles its promise.
        Queue.drain { state with settled := state.settled ++ [(frame.run.promise, outcome)] } rest

def Queue.finish (run : TaskRun) (outcome : Except ε α) (rest : List (RunFrame ε α))
    (state : QueueState τ ε α) : QueueState τ ε α :=
  Queue.drain concurrency
    { state with active := state.active - 1, ended := state.ended ++ [(run.call, outcome)] }
    ({ run, outcome := some outcome } :: rest)

def queueStep (state : QueueState τ ε α) : QueueEvent τ ε α → QueueState τ ε α
  | .add task => Queue.add concurrency task state
  | .returns =>
    match state.stack with
    | [] => state
    | frame :: rest =>
      Queue.drain concurrency { state with awaiting := state.awaiting ++ [frame.run] } rest
  | .throws error =>
    match state.stack with
    | [] => state
    | frame :: rest => Queue.finish concurrency frame.run (.error error) rest state
  | .settles call outcome =>
    match state.stack, state.awaiting.find? (·.call = call) with
    | [], some run =>
      Queue.finish concurrency run outcome [] { state with awaiting := state.awaiting.erase run }
    | _, _ => state

end

/-- The number of tasks that may run at a time: at least one, whatever is asked for. -/
noncomputable def taskLimit (concurrency : Number) : ℕ∞ := max 1 concurrency.wholes

def QueueState.running (state : QueueState τ ε α) : List Nat :=
  (List.range state.calls.length).filter fun call => call ∉ state.ended.map Prod.fst

structure QueueLaw (limit : ℕ∞) (state : QueueState τ ε α) : Prop where
  bounded : (state.running.length : ℕ∞) ≤ limit
  ordered : state.calls <+: state.added
  waits : state.calls.length < state.added.length → (state.running.length : ℕ∞) = limit
  once : (state.settled.map Prod.fst).Nodup
  /-- A promise settles as the call of its own task has ended. -/
  own : ∀ entry ∈ state.settled, entry ∈ state.ended
  /-- When no task has control, a call that has ended has settled its promise. -/
  settles : state.stack = [] → ∀ entry ∈ state.ended, entry ∈ state.settled
  /-- When no task runs, all have been called, and all promises have settled. -/
  complete : state.running = [] → state.calls = state.added ∧
    ∀ promise < state.added.length, ∃ outcome, (promise, outcome) ∈ state.settled

def QueueState.inControl (state : QueueState τ ε α) : List Nat :=
  (state.stack.filter (·.outcome.isNone)).map (·.run.call)

def QueueState.draining (state : QueueState τ ε α) : List (Nat × Except ε α) :=
  state.stack.filterMap fun frame => frame.outcome.map (frame.run.promise, ·)

/-- The books of the queue: every call and every outcome is in one place. -/
structure QueueBooks (limit : ℕ∞) (state : QueueState τ ε α) : Prop where
  count : state.active = (state.inControl ++ state.awaiting.map (·.call)).length
  bound : (state.active : ℕ∞) ≤ limit
  tasks : state.added = state.calls ++ state.pending.map (·.task)
  promises : state.pending.map (·.promise) = List.range' state.calls.length state.pending.length
  open_or_ended : (state.inControl ++ state.awaiting.map (·.call) ++
    state.ended.map Prod.fst).Perm (List.range state.calls.length)
  own : ∀ frame ∈ state.stack, frame.run.promise = frame.run.call
  own_awaiting : ∀ run ∈ state.awaiting, run.promise = run.call
  outcomes : (state.draining ++ state.settled).Perm state.ended

/-- Up to a number of places, tasks wait only while there is no room. -/
def QueueFull (limit : ℕ∞) (free : Nat) (state : QueueState τ ε α) : Prop :=
  state.pending ≠ [] → limit ≤ state.active + free

/-- Between events, the books agree, the queue is full, and the top of the stack has control. -/
structure QueueInv (limit : ℕ∞) (state : QueueState τ ε α) : Prop where
  books : QueueBooks limit state
  full : QueueFull limit 0 state
  ready : ∀ frame ∈ state.stack.head?, frame.outcome = none

end

section

variable {τ ε α : Type} {concurrency : Number} {limit : ℕ∞} {state : QueueState τ ε α}

theorem hasRoom_iff {active : Nat} :
    Queue.hasRoom concurrency active = true ↔ (active : ℕ∞) < taskLimit concurrency :=
  Number.natCast_lt_max_one_floor active concurrency

private theorem QueueBooks.enqueue (books : QueueBooks limit state) (task : τ) :
    QueueBooks limit { state with
      added := state.added ++ [task]
      pending := state.pending ++ [{ task, promise := state.added.length }] } where
  count := books.count
  bound := books.bound
  tasks := by
    simp only [books.tasks, List.map_append, List.map_cons, List.map_nil, List.append_assoc]
  promises := by
    -- The number of a promise is that of the tasks before it, of which each was called or waits.
    have number : state.added.length = state.calls.length + state.pending.length := by
      rw [books.tasks, List.length_append, List.length_map]
    simp only [List.map_append, books.promises, List.map_cons, List.map_nil, number,
      List.length_append, List.length_cons, List.length_nil, Nat.zero_add]
    rw [List.range'_concat, Nat.one_mul]
  open_or_ended := books.open_or_ended
  own := books.own
  own_awaiting := books.own_awaiting
  outcomes := books.outcomes

theorem QueueBooks.run {next : PendingTask τ} {waiting : List (PendingTask τ)}
    (books : QueueBooks limit { state with pending := next :: waiting })
    (room : (state.active : ℕ∞) < limit) :
    QueueBooks limit (Queue.run next { state with pending := waiting }) := by
  have promises := books.promises
  simp only [List.map_cons, List.length_cons, List.range'_succ, List.cons.injEq] at promises
  refine ⟨?_, ?_, ?_, ?_, ?_, ?_, books.own_awaiting, ?_⟩
  · have count := books.count
    simp only [Queue.run, QueueState.inControl, List.filter_cons, Option.isNone_none, if_true,
      List.map_cons, List.cons_append, List.length_cons] at count ⊢
    rw [count]
  · exact_mod_cast Order.add_one_le_of_lt room
  · have tasks := books.tasks
    simp only [Queue.run, List.map_cons] at tasks ⊢
    rw [tasks, List.append_assoc, List.singleton_append]
  · simp only [Queue.run, List.length_append, List.length_cons, List.length_nil]
    exact promises.2
  · have calls := books.open_or_ended
    simp only [Queue.run, QueueState.inControl, List.filter_cons, Option.isNone_none, if_true,
      List.map_cons, List.cons_append, List.length_append, List.length_cons,
      List.length_nil] at calls ⊢
    -- The new call has the next number.
    rw [List.range_succ]
    exact (calls.cons _).trans (List.perm_append_singleton _ _).symm
  · intro frame member
    rcases List.mem_cons.mp member with rfl | member
    · exact promises.1
    · exact books.own frame member
  · have outcomes := books.outcomes
    simpa only [Queue.run, QueueState.draining, List.filterMap_cons, Option.map_none] using outcomes

theorem QueueBooks.settle {frame : RunFrame ε α} {rest : List (RunFrame ε α)}
    {outcome : Except ε α} (books : QueueBooks limit { state with stack := frame :: rest })
    (known : frame.outcome = some outcome) :
    QueueBooks limit { state with
      stack := rest, settled := state.settled ++ [(frame.run.promise, outcome)] } := by
  have control : QueueState.inControl { state with stack := frame :: rest } =
      QueueState.inControl { state with stack := rest } := by
    simp [QueueState.inControl, known]
  refine ⟨?_, books.bound, books.tasks, books.promises, ?_,
    fun other member => books.own other (List.mem_cons_of_mem _ member), books.own_awaiting, ?_⟩
  · have count := books.count
    rwa [control] at count
  · have calls := books.open_or_ended
    rwa [control] at calls
  · have outcomes := books.outcomes
    simp only [QueueState.draining, List.filterMap_cons, known, Option.map_some] at outcomes ⊢
    -- The outcome goes from the stack to what has settled.
    refine List.Perm.trans ?_ outcomes
    rw [← List.append_assoc, List.cons_append]
    exact List.perm_append_singleton _ _

private theorem QueueInv.drain {stack : List (RunFrame ε α)} {free : Nat}
    (books : QueueBooks (taskLimit concurrency) { state with stack })
    (full : QueueFull (taskLimit concurrency) free state)
    (slack : free = 0 ∨ free = 1 ∧ ∃ frame ∈ stack.head?, frame.outcome ≠ none) :
    QueueInv (taskLimit concurrency) (Queue.drain concurrency state stack) := by
  -- The induction is on the stack, of which each call whose loop is over is taken off.
  induction stack generalizing state free with
  | nil =>
    obtain rfl : free = 0 := by simpa using slack
    exact ⟨books, full, by simp [Queue.drain]⟩
  | cons frame rest ih =>
    unfold Queue.drain
    cases known : frame.outcome with
    | none =>
      obtain rfl : free = 0 := by simpa [known] using slack
      exact ⟨books, full, by simp [known]⟩
    | some outcome =>
      have least : free ≤ 1 := by omega
      simp only
      split
      · rename_i next waiting listed room
        have started : QueueBooks (taskLimit concurrency)
            { { state with pending := waiting, stack := frame :: rest } with
              pending := next :: waiting } := by
          rw [← listed]
          exact books
        refine ⟨started.run (hasRoom_iff.mp room), ?_, by simp [Queue.run]⟩
        -- One place was free at most, and the task that is called takes it.
        intro _
        have bound := full (by rw [listed]; simp)
        refine bound.trans ?_
        simp only [Queue.run]
        exact_mod_cast (by omega : state.active + free ≤ state.active + 1 + 0)
      · rename_i closed
        have done : QueueFull (taskLimit concurrency) 0
            { state with settled := state.settled ++ [(frame.run.promise, outcome)] } := by
          intro waits
          obtain ⟨next, waiting, listed⟩ := List.exists_cons_of_ne_nil waits
          have taken : ¬ Queue.hasRoom concurrency state.active = true :=
            fun room => closed next waiting listed room
          rw [hasRoom_iff, not_lt] at taken
          simpa using taken
        exact ih (books.settle known) done (Or.inl rfl)

theorem QueueBooks.finish {run : TaskRun} {rest : List (RunFrame ε α)} {left : List TaskRun}
    (books : QueueBooks limit state) (outcome : Except ε α)
    (taken : (state.inControl ++ state.awaiting.map (·.call)).Perm
      (run.call :: (QueueState.inControl { state with stack := rest } ++ left.map (·.call))))
    (same : QueueState.draining { state with stack := rest } = state.draining)
    (own : run.promise = run.call) (frames : rest ⊆ state.stack) (fewer : left ⊆ state.awaiting) :
    QueueBooks limit { state with
      active := state.active - 1
      awaiting := left
      ended := state.ended ++ [(run.call, outcome)]
      stack := { run, outcome := some outcome } :: rest } := by
  have count := books.count
  rw [taken.length_eq, List.length_cons] at count
  have control : QueueState.inControl { state with
      stack := { run, outcome := some outcome } :: rest } =
      QueueState.inControl { state with stack := rest } := by
    simp [QueueState.inControl]
  refine ⟨?_, ?_, books.tasks, books.promises, ?_, ?_,
    fun other member => books.own_awaiting other (fewer member), ?_⟩
  · have open_calls : state.active - 1 =
        (QueueState.inControl { state with stack := rest } ++ left.map (·.call)).length := by omega
    rwa [← control] at open_calls
  · refine le_trans ?_ books.bound
    exact_mod_cast Nat.sub_le _ _
  · -- The call goes from those that are open to those that have ended.
    have calls := books.open_or_ended
    refine List.Perm.trans ?_ ((taken.symm.append_right _).trans calls)
    rw [← control, List.map_append, List.map_cons, List.map_nil, ← List.append_assoc]
    exact List.perm_append_singleton _ _
  · intro frame member
    rcases List.mem_cons.mp member with rfl | member
    · exact own
    · exact books.own frame (frames member)
  · have outcomes := books.outcomes
    rw [← same] at outcomes
    simp only [QueueState.draining, List.filterMap_cons, Option.map_some, own,
      List.cons_append] at outcomes ⊢
    exact (outcomes.cons _).trans (List.perm_append_singleton _ _).symm

theorem QueueBooks.returns {frame : RunFrame ε α} {rest : List (RunFrame ε α)}
    (books : QueueBooks limit state) (stacked : state.stack = frame :: rest)
    (control : frame.outcome = none) :
    QueueBooks limit { state with awaiting := state.awaiting ++ [frame.run], stack := rest } := by
  have before : state.inControl =
      frame.run.call :: QueueState.inControl { state with stack := rest } := by
    simp [QueueState.inControl, stacked, control]
  have same : state.draining = QueueState.draining { state with stack := rest } := by
    simp [QueueState.draining, stacked, control]
  have moved : (QueueState.inControl { state with stack := rest } ++
      (state.awaiting ++ [frame.run]).map (·.call)).Perm
      (state.inControl ++ state.awaiting.map (·.call)) := by
    rw [before, List.map_append, List.map_cons, List.map_nil, ← List.append_assoc]
    exact List.perm_append_singleton _ _
  refine ⟨?_, books.bound, books.tasks, books.promises, ?_, ?_, ?_, ?_⟩
  · exact books.count.trans moved.length_eq.symm
  · exact (moved.append_right _).trans books.open_or_ended
  · intro other member
    exact books.own other (stacked ▸ List.mem_cons_of_mem frame member)
  · intro run member
    rcases List.mem_append.mp member with member | member
    · exact books.own_awaiting run member
    · rw [List.mem_singleton.mp member]
      exact books.own frame (stacked ▸ List.mem_cons_self)
  · have outcomes := books.outcomes
    rwa [same] at outcomes

private theorem QueueInv.full_of_finish (inv : QueueInv limit state) :
    QueueFull limit 1 { state with active := state.active - 1 } := by
  intro waits
  have bound := inv.full waits
  refine bound.trans ?_
  exact_mod_cast (by omega : state.active + 0 ≤ state.active - 1 + 1)

theorem QueueInv.step (inv : QueueInv (taskLimit concurrency) state) (event : QueueEvent τ ε α) :
    QueueInv (taskLimit concurrency) (queueStep concurrency state event) := by
  cases event with
  | add task =>
    have added := inv.books.enqueue task
    simp only [queueStep, Queue.add]
    split
    · rename_i room
      have room := hasRoom_iff.mp room
      -- Where there is room, no task waits, so that the new one is the first.
      have idle : state.pending = [] := by
        by_contra waits
        have bound := inv.full waits
        simp only [Nat.cast_zero, add_zero] at bound
        exact absurd room (not_lt.mpr bound)
      rw [idle, List.nil_append] at added
      have started := @QueueBooks.run _ _ _ _ { state with added := state.added ++ [task] } _ _
        added room
      rw [← idle] at started
      exact ⟨started, fun waits => absurd idle waits, by simp [Queue.run]⟩
    · rename_i taken
      rw [hasRoom_iff, not_lt] at taken
      exact ⟨added, fun _ => by simpa using taken, inv.ready⟩
  | returns =>
    cases stacked : state.stack with
    | nil => simpa only [queueStep, stacked] using inv
    | cons frame rest =>
      have control : frame.outcome = none := inv.ready frame (by simp [stacked])
      simp only [queueStep, stacked]
      exact QueueInv.drain (inv.books.returns stacked control) inv.full (Or.inl rfl)
  | throws error =>
    cases stacked : state.stack with
    | nil => simpa only [queueStep, stacked] using inv
    | cons frame rest =>
      have control : frame.outcome = none := inv.ready frame (by simp [stacked])
      simp only [queueStep, stacked]
      have books := @QueueBooks.finish _ _ _ _ _ frame.run rest state.awaiting inv.books
        (.error error) (by simp [QueueState.inControl, stacked, control])
        (by simp [QueueState.draining, stacked, control])
        (inv.books.own frame (by simp [stacked])) (by simp [stacked]) (List.Subset.refl _)
      exact QueueInv.drain books inv.full_of_finish (Or.inr ⟨rfl, by simp⟩)
  | settles call outcome =>
    simp only [queueStep]
    split
    · rename_i run stacked found
      have member : run ∈ state.awaiting := List.mem_of_find?_eq_some found
      have taken : (state.awaiting.map (·.call)).Perm
          (run.call :: (state.awaiting.erase run).map (·.call)) :=
        (List.perm_cons_erase member).map _
      have books := @QueueBooks.finish _ _ _ _ _ run [] (state.awaiting.erase run) inv.books
        outcome (by simpa [QueueState.inControl, stacked] using taken)
        (by simp [QueueState.draining, stacked]) (inv.books.own_awaiting run member) (by simp)
        List.erase_subset
      exact QueueInv.drain books inv.full_of_finish (Or.inr ⟨rfl, by simp⟩)
    · exact inv

private theorem QueueBooks.running_perm (books : QueueBooks limit state) :
    state.running.Perm (state.inControl ++ state.awaiting.map (·.call)) := by
  have calls := books.open_or_ended
  have apart : (state.inControl ++ state.awaiting.map (·.call)).Disjoint
      (state.ended.map Prod.fst) :=
    List.disjoint_of_nodup_append (calls.nodup_iff.mpr List.nodup_range)
  have kept : ((state.inControl ++ state.awaiting.map (·.call) ++ state.ended.map Prod.fst).filter
      fun call => decide (call ∉ state.ended.map Prod.fst)) =
      state.inControl ++ state.awaiting.map (·.call) := by
    rw [List.filter_append, List.filter_eq_self.mpr, List.filter_eq_nil_iff.mpr, List.append_nil]
    · intro call member
      simpa using member
    · intro call member
      simpa using apart member
  rw [← kept]
  exact (calls.filter _).symm

theorem QueueInv.law (inv : QueueInv limit state) (positive : 1 ≤ limit) :
    QueueLaw limit state := by
  have books := inv.books
  have active : state.running.length = state.active := by
    rw [books.running_perm.length_eq, books.count]
  have ended_once : (state.ended.map Prod.fst).Nodup :=
    (books.open_or_ended.nodup_iff.mpr List.nodup_range).of_append_right
  have settled : state.stack = [] → ∀ entry ∈ state.ended, entry ∈ state.settled := by
    intro empty entry member
    have outcomes := books.outcomes.symm.subset member
    simpa [QueueState.draining, empty] using outcomes
  refine ⟨?_, ?_, ?_, ?_, ?_, settled, ?_⟩
  · rw [active]
    exact books.bound
  · rw [books.tasks]
    exact List.prefix_append _ _
  · intro more
    have waits : state.pending ≠ [] := by
      rintro empty
      rw [books.tasks, empty, List.map_nil, List.append_nil] at more
      exact Nat.lt_irrefl _ more
    rw [active]
    exact le_antisymm books.bound (by simpa using inv.full waits)
  · have all : ((state.draining ++ state.settled).map Prod.fst).Nodup :=
      (books.outcomes.map Prod.fst).nodup_iff.mpr ended_once
    rw [List.map_append] at all
    exact all.of_append_right
  · intro entry member
    exact books.outcomes.subset (List.mem_append_right _ member)
  · intro idle
    have none_open : state.inControl ++ state.awaiting.map (·.call) = [] := by
      have length := books.running_perm.length_eq
      rw [idle, List.length_nil] at length
      exact List.eq_nil_of_length_eq_zero length.symm
    have empty : state.stack = [] := by
      cases stacked : state.stack with
      | nil => rfl
      | cons frame rest =>
        have control : frame.outcome = none := inv.ready frame (by simp [stacked])
        simp [QueueState.inControl, stacked, control] at none_open
    have served : state.pending = [] := by
      by_contra waits
      -- No task is active, so that there is room for one.
      have full := inv.full waits
      rw [← active, idle] at full
      exact absurd (positive.trans full) (by simp)
    have all : state.calls = state.added := by
      rw [books.tasks, served, List.map_nil, List.append_nil]
    refine ⟨all, ?_⟩
    intro promise number
    rw [← all] at number
    have call := books.open_or_ended.symm.subset (List.mem_range.mpr number)
    rw [none_open, List.nil_append] at call
    obtain ⟨⟨_, outcome⟩, member, rfl⟩ := List.mem_map.mp call
    exact ⟨outcome, settled empty _ member⟩

theorem queueInv_initial (limit : ℕ∞) : QueueInv limit ({} : QueueState τ ε α) where
  books := {
    count := rfl
    bound := by simp
    tasks := rfl
    promises := rfl
    open_or_ended := List.Perm.refl _
    own := by simp
    own_awaiting := by simp
    outcomes := List.Perm.refl _ }
  full := fun waits => absurd rfl waits
  ready := by simp

/-- A task that adds another has it wait, and the other is called when the promise has settled. -/
example :
    let reached := run (queueStep (ε := String) (α := Nat) (.finite 1)) {}
      [.add "outer", .add "inner", .returns, .settles 0 (.ok 7), .returns]
    reached.calls = ["outer", "inner"] ∧ reached.settled.map Prod.fst = [0] := by
  decide +kernel

end

end BitBrat
