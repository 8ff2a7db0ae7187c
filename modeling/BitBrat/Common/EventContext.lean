import BitBrat.Js.Spread
import BitBrat.Js.Value
import BitBrat.Machine.Run

/-! The context of an event, as the asynchronous tasks that handle it read and update it. -/

namespace BitBrat

open Js Machine

/-- The object of a context: its own properties, and the prototype that it was given, if any. -/
structure EventContext where
  fields : OrderedMap String Value := .empty
  prototype : Option Value := none

/-- The object after an assignment to one of its properties. -/
def EventContext.write (context : EventContext) (entry : String × Value) : EventContext :=
  -- The setter is inherited, unless a property hides it or the prototype is null.
  if entry.1 = "__proto__" ∧ context.fields.get? "__proto__" = none ∧
      context.prototype ≠ some .null then
    match entry.2 with
    | .null | .arr _ | .obj _ | .date _ => { context with prototype := some entry.2 }
    | _ => context
  else { context with fields := context.fields.set entry.1 entry.2 }

/-- The object after the assignment of all properties of another. -/
def EventContext.assign (context : EventContext) (updates : OrderedMap String Value) :
    EventContext :=
  updates.entries.foldl EventContext.write context

/-- The objects that callers made, and the object that each task has in its store, if any. -/
structure ContextStore where
  objects : List EventContext := []
  tasks : List (Option Nat) := [none]

/-- What tasks do: a caller makes an object, or runs a task with one; a task starts another, or
updates its context. -/
inductive ContextEvent where
  | make (context : EventContext)
  | runWithEventContext (object : Nat)
  | start (task : Nat)
  | updateEventContext (task : Nat) (updates : OrderedMap String Value)

namespace ContextStore

def read (contexts : ContextStore) (store : Option Nat) : Option EventContext :=
  store.bind (contexts.objects[·]?)

def getEventContext (contexts : ContextStore) (task : Nat) : Option EventContext :=
  contexts.tasks[task]?.bind contexts.read

def step (contexts : ContextStore) : ContextEvent → ContextStore
  | .make context => { contexts with objects := contexts.objects ++ [context] }
  | .runWithEventContext object =>
    -- The task gets the object itself.
    if object < contexts.objects.length then
      { contexts with tasks := contexts.tasks ++ [some object] }
    else contexts
  | .start task =>
    match contexts.tasks[task]? with
    | some store => { contexts with tasks := contexts.tasks ++ [store] }
    | none => contexts
  | .updateEventContext task updates =>
    match contexts.tasks[task]? with
    | some (some object) =>
      { contexts with objects := contexts.objects.modify object (·.assign updates) }
    | _ => contexts

end ContextStore

/-- What the tasks should see: every task has a context of its own. -/
structure PrivateContexts where
  objects : List EventContext := []
  tasks : List (Option EventContext) := [none]

/-- The contexts after one event, where every task that is run or started gets a copy. -/
def PrivateContexts.step (contexts : PrivateContexts) : ContextEvent → PrivateContexts
  | .make context => { contexts with objects := contexts.objects ++ [context] }
  | .runWithEventContext object =>
    match contexts.objects[object]? with
    | some context => { contexts with tasks := contexts.tasks ++ [some context] }
    | none => contexts
  | .start task =>
    match contexts.tasks[task]? with
    | some context => { contexts with tasks := contexts.tasks ++ [context] }
    | none => contexts
  | .updateEventContext task updates =>
    { contexts with tasks := contexts.tasks.modify task (·.map (·.assign updates)) }

structure ContextRun where
  shared : ContextStore := {}
  own : PrivateContexts := {}

def ContextRun.step (run : ContextRun) (event : ContextEvent) : ContextRun where
  shared := run.shared.step event
  own := run.own.step event

/-- Every task reads its own context, and the objects of the callers are as they made them. -/
structure ContextRun.Isolated (run : ContextRun) : Prop where
  tasks : run.own.tasks = run.shared.tasks.map run.shared.read
  objects : run.own.objects = run.shared.objects

def UpdatesNothing (run : ContextRun) : ContextEvent → Prop
  | .updateEventContext task updates =>
    ∀ context ∈ run.shared.getEventContext task, context.assign updates = context
  | _ => True

structure ContextRun.Sound (run : ContextRun) : Prop extends run.Isolated where
  made : ∀ store ∈ run.shared.tasks, ∀ object ∈ store, object < run.shared.objects.length

section

variable {run : ContextRun}

theorem made_step {contexts : ContextStore}
    (made : ∀ store ∈ contexts.tasks, ∀ object ∈ store, object < contexts.objects.length)
    (event : ContextEvent) :
    ∀ store ∈ (contexts.step event).tasks, ∀ object ∈ store,
      object < (contexts.step event).objects.length := by
  cases event with
  | make context =>
    intro store member object held
    have before := made store member object held
    simp only [ContextStore.step, List.length_append]
    omega
  | runWithEventContext object =>
    simp only [ContextStore.step]
    split
    · simp only [List.mem_append, List.mem_singleton]
      rintro store (member | rfl) other held
      · exact made store member other held
      · cases held
        assumption
    · exact made
  | start task =>
    simp only [ContextStore.step]
    split
    · rename_i store found
      simp only [List.mem_append, List.mem_singleton]
      rintro other (member | rfl) object held
      · exact made other member object held
      · exact made other (List.mem_of_getElem? found) object held
    · exact made
  | updateEventContext task updates =>
    simp only [ContextStore.step]
    split
    · simpa using made
    · exact made

theorem modify_eq_self_iff {α : Type} {change : α → α} {place : Nat} {items : List α} :
    items.modify place change = items ↔ ∀ item ∈ items[place]?, change item = item := by
  constructor
  · intro same item found
    have here := congrArg (·[place]?) same
    simpa [Option.mem_def.mp found] using here
  · intro fixed
    apply List.ext_getElem?
    intro other
    by_cases here : place = other
    · subst here
      cases found : items[place]? with
      | none => simp [found]
      | some item => simp [found, fixed item found]
    · simp [here]

theorem isolated_step_iff (sound : run.Sound) (event : ContextEvent) :
    (run.step event).Isolated ↔ UpdatesNothing run event := by
  cases event with
  | make context =>
    refine iff_of_true ⟨?_, ?_⟩ trivial
    · show run.own.tasks = _
      rw [sound.tasks]
      apply List.map_congr_left
      intro store member
      cases store with
      | none => rfl
      | some object =>
        have below := sound.made _ member object rfl
        simp [ContextRun.step, ContextStore.step, ContextStore.read,
          List.getElem?_append_left below]
    · show run.own.objects ++ _ = _
      rw [sound.objects]
      rfl
  | runWithEventContext object =>
    refine iff_of_true ?_ trivial
    by_cases below : object < run.shared.objects.length
    · constructor <;> simp [ContextRun.step, PrivateContexts.step, ContextStore.step,
        ContextStore.read, sound.objects, sound.tasks, below]
    · constructor <;> simp [ContextRun.step, PrivateContexts.step, ContextStore.step,
        sound.objects, sound.tasks, below]
  | start task =>
    refine iff_of_true ?_ trivial
    cases found : run.shared.tasks[task]? <;>
      constructor <;> simp [ContextRun.step, PrivateContexts.step, ContextStore.step,
        ContextStore.read, sound.objects, sound.tasks, found]
  | updateEventContext task updates =>
    have objects_iff (object : Nat) (found : run.shared.tasks[task]? = some (some object)) :
        run.shared.objects.modify object (·.assign updates) = run.shared.objects ↔
          UpdatesNothing run (.updateEventContext task updates) := by
      simp [modify_eq_self_iff, UpdatesNothing, ContextStore.getEventContext, found,
        ContextStore.read]
    -- The task's own context is the one that it reads.
    have tasks_eq (nothing : UpdatesNothing run (.updateEventContext task updates)) :
        run.own.tasks.modify task (·.map (·.assign updates)) = run.own.tasks := by
      rw [modify_eq_self_iff, sound.tasks]
      intro context found
      cases context with
      | none => rfl
      | some context =>
        obtain ⟨store, held, reads⟩ : ∃ store, run.shared.tasks[task]? = some store ∧
            run.shared.read store = some context := by simpa using found
        exact congrArg some (nothing context (by simp [ContextStore.getEventContext, held, reads]))
    constructor
    · intro isolated
      cases found : run.shared.tasks[task]? with
      | none => simp [UpdatesNothing, ContextStore.getEventContext, found]
      | some store =>
        cases store with
        | none => simp [UpdatesNothing, ContextStore.getEventContext, found, ContextStore.read]
        | some object =>
          refine (objects_iff object found).mp ?_
          have kept := isolated.objects
          simp only [ContextRun.step, PrivateContexts.step, ContextStore.step, found] at kept
          rw [← kept, sound.objects]
    · intro nothing
      have shared_eq : run.shared.step (.updateEventContext task updates) = run.shared := by
        simp only [ContextStore.step]
        split
        · rename_i object found
          rw [(objects_iff object found).mpr nothing]
        · rfl
      refine ⟨?_, ?_⟩
      · show run.own.tasks.modify task _ =
          (run.shared.step (.updateEventContext task updates)).tasks.map
            (run.shared.step (.updateEventContext task updates)).read
        rw [shared_eq, tasks_eq nothing, sound.tasks]
      · show run.own.objects = (run.shared.step (.updateEventContext task updates)).objects
        rw [shared_eq, sound.objects]

/-- In every run the contexts are isolated at all times, exactly when no update changes the context
that its task has. -/
theorem contextRun_isolated_iff (events : List ContextEvent) :
    (∀ early, early <+: events → (Machine.run ContextRun.step {} early).Isolated) ↔
      Along ContextRun.step UpdatesNothing {} events := by
  have initial : ContextRun.Sound {} := ⟨⟨rfl, rfl⟩, by simp⟩
  rw [forall_prefix_iff_along, and_iff_right initial.toIsolated]
  exact along_congr ContextRun.Sound
    (fun run event sound nothing =>
      ⟨(isolated_step_iff sound event).mpr nothing, made_step sound.made event⟩)
    (fun run event sound => isolated_step_iff sound event) initial events

/-- The update of one of two tasks that are run with one object is read by the other. -/
theorem contextRun_not_isolated :
    ¬ ∀ events, ∀ early, early <+: events →
      (Machine.run ContextRun.step {} early).Isolated := by
  intro isolated
  have shared := (isolated _ [.make {}, .runWithEventContext 0, .runWithEventContext 0,
    .updateEventContext 1 (.set .empty "userId" (.str "u-1"))] List.prefix_rfl).tasks
  have second := congrArg (fun tasks => tasks.map (·.map (·.fields.size))) shared
  revert second
  decide +kernel

end

end BitBrat
