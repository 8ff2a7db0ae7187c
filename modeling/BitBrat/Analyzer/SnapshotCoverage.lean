import BitBrat.Analyzer.SnapshotManager
import BitBrat.Machine.Pending
import BitBrat.Machine.Run

/-! The windows that end by the clock, and whether the window states report what is in them. -/

namespace BitBrat

open Js Machine

structure WindowEntry where
  stream : Nat
  number : Nat
  observerId : String
  correlationId : String
  deriving DecidableEq

structure OpenWindow where
  openedAt : ℚ≥0
  entries : List WindowEntry

inductive TimedWindow where
  | sliding
  | tumbling

structure TimedPipeline where
  stream : Nat
  observer : StreamObserver
  kind : TimedWindow
  lastOpened : ℚ≥0
  windows : List OpenWindow

/-- A callback that has not come back, with the window that it was given. -/
structure WindowCallback where
  observerId : String
  entries : List WindowEntry

/-- The window manager, and the pipelines and callbacks that its streams consist of. -/
structure WindowSystem where
  now : ℚ≥0
  manager : RxJSWindowManager
  pipelines : List TimedPipeline
  callbacks : List WindowCallback
  failed : List WindowEntry
  entered : List WindowEntry
  events : Nat

inductive TimedInput where
  | createSlidingWindow (observer : StreamObserver)
  | createTumblingWindow (observer : StreamObserver)
  | addEvent (event : Event)
  | elapse (ms : ℚ≥0)
  | opens (pipeline : Nat)
  | closes (pipeline : Nat)
  | settles (callback : Nat) (succeeds : Bool)

/-- The size of a window, five minutes by default. -/
def StreamObserver.windowSizeMs (observer : StreamObserver) : ℚ≥0 :=
  durationOr (observer.window.map (·.sizeMs)) (300000 : ℕ)

/-- The time from window to window, one minute by default. -/
def StreamObserver.slideMs (observer : StreamObserver) : ℚ≥0 :=
  durationOr (observer.window.bind (·.slideMs)) (60000 : ℕ)

namespace TimedPipeline

def entry (event : Event) (number : Nat) (pipeline : TimedPipeline) : WindowEntry where
  stream := pipeline.stream
  number := number
  observerId := pipeline.observer.id
  correlationId := event.correlationId

def receive (event : Event) (number : Nat) (pipeline : TimedPipeline) : TimedPipeline :=
  if matchesObserver event pipeline.observer then
    { pipeline with
      windows := pipeline.windows.map fun window =>
        { window with entries := window.entries ++ [pipeline.entry event number] } }
  else pipeline

/-- Open a window as soon as the slide is over, which only a sliding pipeline does. -/
def openWindow (now : ℚ≥0) (pipeline : TimedPipeline) : TimedPipeline :=
  match pipeline.kind with
  | .tumbling => pipeline
  | .sliding =>
    if now < pipeline.lastOpened + pipeline.observer.slideMs then pipeline
    else
      { pipeline with
        lastOpened := now
        windows := pipeline.windows ++ [{ openedAt := now, entries := [] }] }

/-- End the oldest window as soon as its time is over, and return what is in it. -/
def closeWindow (now : ℚ≥0) (pipeline : TimedPipeline) : List WindowEntry × TimedPipeline :=
  match pipeline.windows with
  | [] => ([], pipeline)
  | window :: others =>
    if now < window.openedAt + pipeline.observer.windowSizeMs then ([], pipeline)
    else
      match pipeline.kind with
      | .sliding => (window.entries, { pipeline with windows := others })
      | .tumbling =>
        (window.entries,
          { pipeline with
            lastOpened := now
            windows := others ++ [{ openedAt := now, entries := [] }] })

def entries (pipeline : TimedPipeline) : List WindowEntry := pipeline.windows.flatMap (·.entries)

end TimedPipeline

namespace WindowSystem

def empty : WindowSystem where
  now := 0
  manager := .empty
  pipelines := []
  callbacks := []
  failed := []
  entered := []
  events := 0

/-- A new pipeline, whose first window is open at once. -/
def subscribe (kind : TimedWindow) (observer : StreamObserver) (system : WindowSystem) :
    WindowSystem :=
  { system with
    manager := system.manager.createWindow observer
    pipelines := system.pipelines ++ [{
      stream := system.manager.nextStream
      observer := observer
      kind := kind
      lastOpened := system.now
      windows := [{ openedAt := system.now, entries := [] }] }] }

def entriesOf (event : Event) (system : WindowSystem) : List WindowEntry :=
  (system.pipelines.filter fun pipeline => matchesObserver event pipeline.observer).map
    (·.entry event system.events)

def without (callback : Nat) (system : WindowSystem) : WindowSystem :=
  { system with callbacks := system.callbacks.eraseIdx callback }

def step (system : WindowSystem) : TimedInput → WindowSystem
  | .createSlidingWindow observer => system.subscribe .sliding observer
  | .createTumblingWindow observer => system.subscribe .tumbling observer
  | .addEvent event =>
    { system with
      manager := system.manager.addEvent event
      pipelines := system.pipelines.map (·.receive event system.events)
      entered := system.entered ++ system.entriesOf event
      events := system.events + 1 }
  | .elapse ms => { system with now := system.now + ms }
  | .opens index =>
    { system with pipelines := system.pipelines.modify index (·.openWindow system.now) }
  | .closes index =>
    match system.pipelines[index]? with
    | none => system
    | some pipeline =>
      let (entries, closed) := pipeline.closeWindow system.now
      let system := { system with pipelines := system.pipelines.set index closed }
      -- An empty window is not handed over.
      if entries = [] then system
      else
        { system with
          manager := system.manager.closeWindow pipeline.stream
          callbacks := system.callbacks ++ [{ observerId := pipeline.observer.id, entries }] }
  | .settles index succeeds =>
    match system.callbacks[index]? with
    | none => system
    | some callback =>
      { system.without index with
        manager := system.manager.settleCallback index succeeds
        failed := if succeeds then system.failed else system.failed ++ callback.entries }

/-- Whatever is in an open window, or in one whose callback has not finished. -/
def held (failureFinishes : Bool) (system : WindowSystem) : List WindowEntry :=
  system.pipelines.flatMap (·.entries) ++ system.callbacks.flatMap (·.entries) ++
    -- A callback that failed has come back, but it has not done its work.
    if failureFinishes then [] else system.failed

/-- The entries of an observer that are still held, in the order in which they came. -/
def unfinished (failureFinishes : Bool) (system : WindowSystem) (observerId : String) :
    List WindowEntry :=
  system.entered.filter fun entry =>
    entry.observerId = observerId ∧ entry ∈ system.held failureFinishes

/-- Exactly the entries that are still held are reported. -/
def Covered (failureFinishes : Bool) (system : WindowSystem) : Prop :=
  ∀ observerId, system.manager.reportedIds observerId =
    (system.unfinished failureFinishes observerId).map (·.correlationId)

/-- The input leaves nothing behind that is reported, and takes nothing along that is held. -/
def Harmless (failureFinishes : Bool) (system : WindowSystem) : TimedInput → Prop
  -- An event finds a window wherever it is tracked.
  | .addEvent event => ∀ pipeline ∈ system.pipelines,
      matchesObserver event pipeline.observer = true → pipeline.windows ≠ []
  | .settles index succeeds => ∀ callback, system.callbacks[index]? = some callback →
      -- A callback that succeeds is the only one of its observer that has anything.
      if succeeds then
        ∀ entry ∈ (system.without index).held failureFinishes,
          entry.observerId ≠ callback.observerId
      -- A callback that fails has nothing for itself.
      else failureFinishes = true →
        ∀ entry ∈ callback.entries, entry ∈ (system.without index).held failureFinishes
  | _ => True

end WindowSystem

/-- What a pipeline and its manager know of each other, and where the entries may be. -/
structure Tracked (system : WindowSystem) : Prop where
  streams : system.manager.streams =
    system.pipelines.map fun pipeline => (pipeline.stream, pipeline.observer)
  distinct : (system.pipelines.map (·.stream)).Nodup
  numbered : ∀ pipeline ∈ system.pipelines, pipeline.stream < system.manager.nextStream
  pending : system.manager.pending = system.callbacks.map (·.observerId)
  entered : ∀ entry ∈ system.held false, entry ∈ system.entered
  earlier : ∀ entry ∈ system.entered, entry.number < system.events
  windows : ∀ pipeline ∈ system.pipelines, ∀ entry ∈ pipeline.entries,
    entry.observerId = pipeline.observer.id
  callbacks : ∀ callback ∈ system.callbacks, ∀ entry ∈ callback.entries,
    entry.observerId = callback.observerId

section

variable {system : WindowSystem} {failureFinishes : Bool} {entry : WindowEntry}

theorem map_filter_eq_iff {α β : Type} (also : α → Bool) (f : α → β) (list : List α) :
    list.map f = (list.filter also).map f ↔ ∀ member ∈ list, also member = true := by
  constructor
  · intro same
    -- Equal lists are equally long, so nothing was left out.
    have lengths := congrArg List.length same
    rw [List.length_map, List.length_map] at lengths
    exact List.length_filter_eq_length_iff.mp lengths.symm
  · intro all
    rw [List.filter_eq_self.mpr all]

theorem mem_receive (event : Event) (number : Nat) (pipeline : TimedPipeline) :
    entry ∈ (pipeline.receive event number).entries ↔
      entry ∈ pipeline.entries ∨ (matchesObserver event pipeline.observer = true ∧
        pipeline.windows ≠ [] ∧ entry = pipeline.entry event number) := by
  simp only [TimedPipeline.receive]
  split
  · rename_i passes
    simp only [TimedPipeline.entries, List.flatMap_map, List.mem_flatMap, List.mem_append,
      List.mem_singleton, passes, true_and]
    constructor
    · rintro ⟨window, is_window, inside | rfl⟩
      · exact .inl ⟨window, is_window, inside⟩
      · exact .inr ⟨List.ne_nil_of_mem is_window, rfl⟩
    · rintro (⟨window, is_window, inside⟩ | ⟨some_open, rfl⟩)
      · exact ⟨window, is_window, .inl inside⟩
      · obtain ⟨window, is_window⟩ := List.exists_mem_of_ne_nil _ some_open
        exact ⟨window, is_window, .inr rfl⟩
  · rename_i blocked
    simp [blocked]

@[simp] theorem entries_openWindow (now : ℚ≥0) (pipeline : TimedPipeline) :
    (pipeline.openWindow now).entries = pipeline.entries := by
  simp only [TimedPipeline.openWindow]
  split
  · rfl
  · split
    · rfl
    · simp [TimedPipeline.entries]

theorem mem_closeWindow (now : ℚ≥0) (pipeline : TimedPipeline) :
    entry ∈ pipeline.entries ↔
      entry ∈ (pipeline.closeWindow now).2.entries ∨ entry ∈ (pipeline.closeWindow now).1 := by
  simp only [TimedPipeline.closeWindow]
  split
  · simp
  · rename_i window others windows
    split
    · simp
    · -- Either kind of pipeline keeps the other windows.
      split <;> simp [TimedPipeline.entries, windows, or_comm]

namespace RxJSWindowManager

theorem addEvent_spec (manager : RxJSWindowManager) (event : Event) :
    (manager.addEvent event).streams = manager.streams ∧
      (manager.addEvent event).nextStream = manager.nextStream ∧
      (manager.addEvent event).pending = manager.pending ∧
      ∀ id, (manager.addEvent event).reportedIds id = manager.reportedIds id ++
        (manager.streams.filter fun stream =>
          matchesObserver event stream.2 ∧ stream.2.id = id).map fun _ => event.correlationId := by
  simp only [addEvent]
  -- The induction is on the streams, for whatever was tracked before them.
  suffices all : ∀ (streams : List (Nat × StreamObserver)) (before : RxJSWindowManager),
      let after := (streams.filter fun stream => matchesObserver event stream.2).foldl
        (fun manager stream => manager.trackEventAdded stream.2.id event.correlationId) before
      after.streams = before.streams ∧ after.nextStream = before.nextStream ∧
        after.pending = before.pending ∧
        ∀ id, after.reportedIds id = before.reportedIds id ++
          (streams.filter fun stream =>
            matchesObserver event stream.2 ∧ stream.2.id = id).map fun _ => event.correlationId from
    all manager.streams manager
  intro streams
  induction streams with
  | nil => simp
  | cons stream rest ih =>
    intro before
    by_cases passes : matchesObserver event stream.2 = true
    · obtain ⟨streams_eq, next_eq, pending_eq, reported_eq⟩ :=
        ih (before.trackEventAdded stream.2.id event.correlationId)
      rw [List.filter_cons_of_pos (by simpa using passes), List.foldl_cons]
      refine ⟨streams_eq, next_eq, pending_eq, ?_⟩
      intro id
      rw [reported_eq]
      by_cases same : stream.2.id = id
      · simp [reportedIds, trackEventAdded, passes, same]
      · simp [reportedIds, trackEventAdded, same, Ne.symm same]
    · obtain ⟨streams_eq, next_eq, pending_eq, reported_eq⟩ := ih before
      rw [List.filter_cons_of_neg (by simpa using passes)]
      refine ⟨streams_eq, next_eq, pending_eq, ?_⟩
      intro id
      rw [reported_eq, List.filter_cons_of_neg (by simp [passes])]

theorem settleCallback_spec (manager : RxJSWindowManager) {index : Nat}
    {observerId : String} (found : manager.pending[index]? = some observerId) (succeeds : Bool) :
    (manager.settleCallback index succeeds).streams = manager.streams ∧
      (manager.settleCallback index succeeds).nextStream = manager.nextStream ∧
      (manager.settleCallback index succeeds).pending = manager.pending.eraseIdx index ∧
      ∀ id, (manager.settleCallback index succeeds).reportedIds id =
        if succeeds ∧ id = observerId then [] else manager.reportedIds id := by
  simp only [settleCallback, found]
  cases succeeds with
  | false => simp [reportedIds]
  | true =>
    refine ⟨rfl, rfl, rfl, ?_⟩
    intro id
    simp only [reportedIds, if_true, trackWindowClosed, OrderedMap.get?_erase,
      true_and]
    split
    · rfl
    · rfl

end RxJSWindowManager

namespace WindowSystem

theorem mem_held :
    entry ∈ system.held failureFinishes ↔
      entry ∈ system.pipelines.flatMap (·.entries) ∨
        entry ∈ system.callbacks.flatMap (·.entries) ∨
        failureFinishes = false ∧ entry ∈ system.failed := by
  cases failureFinishes <;> simp [held]

theorem held_subset (is_held : entry ∈ system.held failureFinishes) :
    entry ∈ system.held false := by
  rw [mem_held] at is_held ⊢
  tauto

theorem mem_held_subscribe (kind : TimedWindow) (observer : StreamObserver) :
    entry ∈ (system.subscribe kind observer).held failureFinishes ↔
      entry ∈ system.held failureFinishes := by
  simp [mem_held, subscribe, TimedPipeline.entries]

theorem mem_held_addEvent (event : Event) :
    entry ∈ (system.step (.addEvent event)).held failureFinishes ↔
      entry ∈ system.held failureFinishes ∨ ∃ pipeline ∈ system.pipelines,
        matchesObserver event pipeline.observer = true ∧ pipeline.windows ≠ [] ∧
          entry = pipeline.entry event system.events := by
  simp only [mem_held, step, List.flatMap_map, List.mem_flatMap, mem_receive]
  constructor
  · rintro (⟨pipeline, is_pipeline, inside | entered⟩ | others)
    · exact .inl (.inl ⟨pipeline, is_pipeline, inside⟩)
    · exact .inr ⟨pipeline, is_pipeline, entered⟩
    · exact .inl (.inr others)
  · rintro ((⟨pipeline, is_pipeline, inside⟩ | others) | ⟨pipeline, is_pipeline, entered⟩)
    · exact .inl ⟨pipeline, is_pipeline, .inl inside⟩
    · exact .inr others
    · exact .inl ⟨pipeline, is_pipeline, .inr entered⟩

theorem mem_held_opens (index : Nat) :
    entry ∈ (system.step (.opens index)).held failureFinishes ↔
      entry ∈ system.held failureFinishes := by
  have same : (system.pipelines.modify index (·.openWindow system.now)).map TimedPipeline.entries =
      system.pipelines.map TimedPipeline.entries :=
    map_modify index fun pipeline => entries_openWindow _ pipeline
  simp only [mem_held, step, List.flatMap_def, same]

theorem mem_held_closes (index : Nat) :
    entry ∈ (system.step (.closes index)).held failureFinishes ↔
      entry ∈ system.held failureFinishes := by
  simp only [step]
  split
  · rfl
  · rename_i pipeline found
    have moved : entry ∈ system.pipelines.flatMap (·.entries) ↔ _ :=
      mem_flatMap_set found (mem_closeWindow system.now pipeline)
    split
    · rename_i nothing
      simp only [mem_held, moved, nothing, List.not_mem_nil, or_false]
    · simp only [mem_held, moved, List.flatMap_append, List.mem_append, List.flatMap_cons,
        List.flatMap_nil, List.append_nil]
      tauto

theorem mem_held_without {index : Nat} {callback : WindowCallback}
    (found : system.callbacks[index]? = some callback) :
    entry ∈ system.held failureFinishes ↔
      entry ∈ (system.without index).held failureFinishes ∨ entry ∈ callback.entries := by
  have taken : entry ∈ system.callbacks.flatMap (·.entries) ↔ _ := mem_flatMap_eraseIdx found
  simp only [mem_held, without, taken]
  tauto

theorem mem_held_settles {index : Nat} {callback : WindowCallback}
    (found : system.callbacks[index]? = some callback) (succeeds : Bool) :
    entry ∈ (system.step (.settles index succeeds)).held failureFinishes ↔
      entry ∈ (system.without index).held failureFinishes ∨
        succeeds = false ∧ failureFinishes = false ∧ entry ∈ callback.entries := by
  simp only [step, found, mem_held, without]
  cases succeeds with
  | true => simp
  | false =>
    simp only [Bool.false_eq_true, if_false, List.mem_append, true_and]
    tauto

end WindowSystem

@[simp] theorem receive_frame (event : Event) (number : Nat) (pipeline : TimedPipeline) :
    (pipeline.receive event number).stream = pipeline.stream ∧
      (pipeline.receive event number).observer = pipeline.observer := by
  simp only [TimedPipeline.receive]
  split <;> simp

@[simp] theorem openWindow_frame (now : ℚ≥0) (pipeline : TimedPipeline) :
    (pipeline.openWindow now).stream = pipeline.stream ∧
      (pipeline.openWindow now).observer = pipeline.observer := by
  simp only [TimedPipeline.openWindow]
  split
  · simp
  · split <;> simp

@[simp] theorem closeWindow_frame (now : ℚ≥0) (pipeline : TimedPipeline) :
    (pipeline.closeWindow now).2.stream = pipeline.stream ∧
      (pipeline.closeWindow now).2.observer = pipeline.observer := by
  simp only [TimedPipeline.closeWindow]
  split
  · simp
  · split
    · simp
    · split <;> simp

namespace Tracked

theorem subscribe (tracked : Tracked system) (kind : TimedWindow) (observer : StreamObserver) :
    Tracked (system.subscribe kind observer) where
  streams := by simp [WindowSystem.subscribe, RxJSWindowManager.createWindow, tracked.streams]
  distinct := by
    simp only [WindowSystem.subscribe, List.map_append, List.map_cons, List.map_nil]
    refine List.nodup_append.mpr ⟨tracked.distinct, by simp, ?_⟩
    intro number is_number other is_new
    obtain ⟨pipeline, is_pipeline, rfl⟩ := List.mem_map.mp is_number
    rw [List.mem_singleton.mp is_new]
    exact (tracked.numbered pipeline is_pipeline).ne
  numbered := by
    intro pipeline is_pipeline
    simp only [WindowSystem.subscribe, RxJSWindowManager.createWindow, List.mem_append,
      List.mem_singleton] at is_pipeline ⊢
    rcases is_pipeline with is_pipeline | rfl
    · exact (tracked.numbered pipeline is_pipeline).trans (Nat.lt_succ_self _)
    · exact Nat.lt_succ_self _
  pending := tracked.pending
  entered := by
    intro entry is_held
    exact tracked.entered entry ((WindowSystem.mem_held_subscribe kind observer).mp is_held)
  earlier := tracked.earlier
  windows := by
    intro pipeline is_pipeline entry inside
    simp only [WindowSystem.subscribe, List.mem_append, List.mem_singleton] at is_pipeline
    rcases is_pipeline with is_pipeline | rfl
    · exact tracked.windows pipeline is_pipeline entry inside
    · simp [TimedPipeline.entries] at inside
  callbacks := tracked.callbacks

theorem addEvent (tracked : Tracked system) (event : Event) :
    Tracked (system.step (.addEvent event)) where
  streams := by
    simp [WindowSystem.step, (system.manager.addEvent_spec event).1, tracked.streams]
  distinct := by
    simpa [WindowSystem.step, Function.comp_def] using tracked.distinct
  numbered := by
    intro pipeline is_pipeline
    obtain ⟨before, is_before, rfl⟩ := List.mem_map.mp is_pipeline
    simp only [WindowSystem.step, (system.manager.addEvent_spec event).2.1, receive_frame]
    exact tracked.numbered before is_before
  pending := by
    simp only [WindowSystem.step, (system.manager.addEvent_spec event).2.2.1]
    exact tracked.pending
  entered := by
    intro entry is_held
    rcases (WindowSystem.mem_held_addEvent event).mp is_held with
      before | ⟨pipeline, is_pipeline, passes, -, rfl⟩
    · exact List.mem_append_left _ (tracked.entered entry before)
    · exact List.mem_append_right _
        (List.mem_map_of_mem (List.mem_filter.mpr ⟨is_pipeline, passes⟩))
  earlier := by
    intro entry has_entered
    simp only [WindowSystem.step, List.mem_append] at has_entered ⊢
    rcases has_entered with before | is_new
    · exact (tracked.earlier entry before).trans (Nat.lt_succ_self _)
    · obtain ⟨pipeline, -, rfl⟩ := List.mem_map.mp is_new
      exact Nat.lt_succ_self _
  windows := by
    intro pipeline is_pipeline entry inside
    obtain ⟨before, is_before, rfl⟩ := List.mem_map.mp is_pipeline
    rw [(receive_frame event system.events before).2]
    rcases (mem_receive event system.events before).mp inside with inside | ⟨-, -, rfl⟩
    · exact tracked.windows before is_before entry inside
    · rfl
  callbacks := tracked.callbacks

theorem opens (tracked : Tracked system) (index : Nat) :
    Tracked (system.step (.opens index)) where
  streams := by
    rw [show (system.step (.opens index)).manager = system.manager from rfl, tracked.streams]
    exact (map_modify index fun pipeline => by simp).symm
  distinct := by
    have same : (system.pipelines.modify index (·.openWindow system.now)).map
        TimedPipeline.stream = system.pipelines.map TimedPipeline.stream :=
      map_modify index fun pipeline => (openWindow_frame _ pipeline).1
    simpa only [WindowSystem.step, same] using tracked.distinct
  numbered := by
    intro pipeline is_pipeline
    obtain ⟨before, is_before, rfl | rfl⟩ := mem_modify is_pipeline
    · exact tracked.numbered _ is_before
    · rw [(openWindow_frame system.now before).1]
      exact tracked.numbered before is_before
  pending := tracked.pending
  entered := by
    intro entry is_held
    exact tracked.entered entry ((WindowSystem.mem_held_opens index).mp is_held)
  earlier := tracked.earlier
  windows := by
    intro pipeline is_pipeline entry inside
    obtain ⟨before, is_before, rfl | rfl⟩ := mem_modify is_pipeline
    · exact tracked.windows _ is_before entry inside
    · rw [(openWindow_frame system.now before).2]
      rw [entries_openWindow] at inside
      exact tracked.windows before is_before entry inside
  callbacks := tracked.callbacks

theorem closes (tracked : Tracked system) (index : Nat) :
    Tracked (system.step (.closes index)) := by
  have entered : ∀ entry ∈ (system.step (.closes index)).held false, entry ∈ system.entered := by
    intro entry is_held
    exact tracked.entered entry ((WindowSystem.mem_held_closes index).mp is_held)
  simp only [WindowSystem.step] at entered ⊢
  split
  · exact tracked
  · rename_i pipeline found
    simp only [found] at entered
    have frame := closeWindow_frame system.now pipeline
    have is_pipeline := List.mem_of_getElem? found
    -- The pipeline keeps its number and its observer, and its entries were there before.
    have streams : system.manager.streams =
        (system.pipelines.set index (pipeline.closeWindow system.now).2).map fun pipeline =>
          (pipeline.stream, pipeline.observer) := by
      rw [tracked.streams]
      exact (map_set_of_eq found (by rw [frame.1, frame.2])).symm
    have distinct : ((system.pipelines.set index (pipeline.closeWindow system.now).2).map
        (·.stream)).Nodup := by
      rw [map_set_of_eq found frame.1]
      exact tracked.distinct
    have numbered : ∀ other ∈ system.pipelines.set index (pipeline.closeWindow system.now).2,
        other.stream < system.manager.nextStream := by
      intro other is_other
      rcases List.mem_or_eq_of_mem_set is_other with is_other | rfl
      · exact tracked.numbered other is_other
      · rw [frame.1]
        exact tracked.numbered pipeline is_pipeline
    have windows : ∀ other ∈ system.pipelines.set index (pipeline.closeWindow system.now).2,
        ∀ entry ∈ other.entries, entry.observerId = other.observer.id := by
      intro other is_other entry inside
      rcases List.mem_or_eq_of_mem_set is_other with is_other | rfl
      · exact tracked.windows other is_other entry inside
      · rw [frame.2]
        exact tracked.windows pipeline is_pipeline entry
          ((mem_closeWindow system.now pipeline).mpr (.inl inside))
    split
    · rename_i nothing
      rw [if_pos nothing] at entered
      exact { tracked with streams, distinct, numbered, windows, entered }
    · rename_i something
      rw [if_neg something] at entered
      -- The stream that the manager looks up is the one of the pipeline.
      have known : system.manager.streams.lookup pipeline.stream = some pipeline.observer := by
        apply lookup_of_mem
        · rw [tracked.streams, List.map_map]
          exact tracked.distinct
        · rw [tracked.streams]
          exact List.mem_map_of_mem is_pipeline
      refine {
        streams := ?_, distinct, numbered := ?_, pending := ?_, entered, earlier := tracked.earlier,
        windows, callbacks := ?_ }
      · simpa only [RxJSWindowManager.closeWindow, known] using streams
      · simpa only [RxJSWindowManager.closeWindow, known] using numbered
      · simp [RxJSWindowManager.closeWindow, known, tracked.pending]
      · intro callback is_callback entry inside
        rcases List.mem_append.mp is_callback with is_callback | is_new
        · exact tracked.callbacks callback is_callback entry inside
        · obtain rfl := List.mem_singleton.mp is_new
          exact tracked.windows pipeline is_pipeline entry
            ((mem_closeWindow system.now pipeline).mpr (.inr inside))

theorem settles (tracked : Tracked system) (index : Nat) (succeeds : Bool) :
    Tracked (system.step (.settles index succeeds)) := by
  simp only [WindowSystem.step]
  split
  · exact tracked
  · rename_i callback found
    have pending : system.manager.pending[index]? = some callback.observerId := by
      rw [tracked.pending, List.getElem?_map, found]
      rfl
    obtain ⟨streams_eq, next_eq, pending_eq, -⟩ :=
      system.manager.settleCallback_spec pending succeeds
    refine {
      streams := ?_, distinct := tracked.distinct, numbered := ?_, pending := ?_, entered := ?_,
      earlier := tracked.earlier, windows := tracked.windows, callbacks := ?_ }
    · exact streams_eq.trans tracked.streams
    · intro pipeline is_pipeline
      rw [next_eq]
      exact tracked.numbered pipeline is_pipeline
    · simp only [pending_eq, tracked.pending, WindowSystem.without,
        List.eraseIdx_eq_take_drop_succ, List.map_append, List.map_take, List.map_drop]
    · intro entry is_held
      apply tracked.entered
      rw [WindowSystem.mem_held_without found]
      have after : entry ∈ (system.step (.settles index succeeds)).held false := by
        simpa only [WindowSystem.step, found] using is_held
      have held := (WindowSystem.mem_held_settles found succeeds).mp after
      tauto
    · intro other is_other
      exact tracked.callbacks other (List.mem_of_mem_eraseIdx is_other)

end Tracked

theorem Tracked.step (tracked : Tracked system) (input : TimedInput) :
    Tracked (system.step input) := by
  cases input with
  | createSlidingWindow observer => exact tracked.subscribe .sliding observer
  | createTumblingWindow observer => exact tracked.subscribe .tumbling observer
  | addEvent event => exact tracked.addEvent event
  | elapse ms => exact { tracked with }
  | opens index => exact tracked.opens index
  | closes index => exact tracked.closes index
  | settles index succeeds => exact tracked.settles index succeeds

theorem Tracked.empty : Tracked .empty := by
  constructor <;> simp [WindowSystem.empty, RxJSWindowManager.empty, WindowSystem.held]

namespace WindowSystem

private theorem Covered.of_same {after : WindowSystem} (covered : system.Covered failureFinishes)
    (reported : ∀ id, after.manager.reportedIds id = system.manager.reportedIds id)
    (entered : after.entered = system.entered)
    (held : ∀ entry, entry ∈ after.held failureFinishes ↔ entry ∈ system.held failureFinishes) :
    after.Covered failureFinishes := by
  intro id
  simp only [unfinished, reported, entered, held]
  exact covered id

theorem reportedIds_addEvent (tracked : Tracked system) (event : Event) (id : String) :
    (system.step (.addEvent event)).manager.reportedIds id = system.manager.reportedIds id ++
      ((system.entriesOf event).filter (·.observerId = id)).map (·.correlationId) := by
  simp only [step]
  rw [(system.manager.addEvent_spec event).2.2.2, tracked.streams, entriesOf, List.filter_map,
    List.filter_map, List.map_map, List.map_map, List.filter_filter]
  congr 1
  -- Every pipeline that passes the event on adds its identifier.
  have same : ∀ pipeline : TimedPipeline,
      decide (matchesObserver event pipeline.observer = true ∧ pipeline.observer.id = id) =
        (decide (pipeline.observer.id = id) && matchesObserver event pipeline.observer) := by
    intro pipeline
    by_cases passes : matchesObserver event pipeline.observer = true <;> simp [passes]
  simp only [Function.comp_def, TimedPipeline.entry, same]

theorem mem_held_addEvent_entry (tracked : Tracked system) {event : Event}
    {pipeline : TimedPipeline} (is_pipeline : pipeline ∈ system.pipelines)
    (passes : matchesObserver event pipeline.observer = true) :
    pipeline.entry event system.events ∈ (system.step (.addEvent event)).held failureFinishes ↔
      pipeline.windows ≠ [] := by
  rw [mem_held_addEvent]
  constructor
  · rintro (before | ⟨other, is_other, -, some_open, same⟩)
    · -- The numbers of the entries from before are smaller.
      have has_entered := tracked.entered _ (held_subset before)
      exact absurd rfl (tracked.earlier _ has_entered).ne
    · have streams : pipeline.stream = other.stream := congrArg WindowEntry.stream same
      rw [List.inj_on_of_nodup_map tracked.distinct is_pipeline is_other streams]
      exact some_open
  · intro some_open
    exact .inr ⟨pipeline, is_pipeline, passes, some_open, rfl⟩

theorem mem_held_addEvent_of_entered (tracked : Tracked system) (event : Event)
    (has_entered : entry ∈ system.entered) :
    entry ∈ (system.step (.addEvent event)).held failureFinishes ↔
      entry ∈ system.held failureFinishes := by
  rw [mem_held_addEvent]
  refine or_iff_left ?_
  rintro ⟨pipeline, -, -, -, rfl⟩
  exact (tracked.earlier _ has_entered).ne rfl

theorem unfinished_addEvent (tracked : Tracked system) (event : Event) (id : String) :
    (system.step (.addEvent event)).unfinished failureFinishes id =
      system.unfinished failureFinishes id ++
        ((system.entriesOf event).filter (·.observerId = id)).filter
          fun entry => entry ∈ (system.step (.addEvent event)).held failureFinishes := by
  rw [List.filter_filter]
  have entered : (system.step (.addEvent event)).entered =
      system.entered ++ system.entriesOf event := rfl
  simp only [unfinished]
  rw [entered, List.filter_append]
  congr 1
  · apply List.filter_congr
    intro entry has_entered
    simp only [mem_held_addEvent_of_entered tracked event has_entered]
  · apply List.filter_congr
    intro entry _
    simp only [Bool.decide_and]
    exact Bool.and_comm _ _

theorem covered_addEvent_iff (tracked : Tracked system)
    (covered : system.Covered failureFinishes) (event : Event) :
    (system.step (.addEvent event)).Covered failureFinishes ↔
      system.Harmless failureFinishes (.addEvent event) := by
  -- What was reported before stays right, and what is added is right when all of it is held.
  have at_id : ∀ id, ((system.step (.addEvent event)).manager.reportedIds id =
      ((system.step (.addEvent event)).unfinished failureFinishes id).map (·.correlationId)) ↔
        ∀ entry ∈ (system.entriesOf event).filter (·.observerId = id),
          entry ∈ (system.step (.addEvent event)).held failureFinishes := by
    intro id
    rw [reportedIds_addEvent tracked, unfinished_addEvent tracked, covered id, List.map_append,
      List.append_cancel_left_eq, map_filter_eq_iff]
    simp only [decide_eq_true_eq]
  simp only [Covered, at_id]
  constructor
  · intro all pipeline is_pipeline passes
    have is_entry : pipeline.entry event system.events ∈ system.entriesOf event :=
      List.mem_map_of_mem (List.mem_filter.mpr ⟨is_pipeline, passes⟩)
    exact (mem_held_addEvent_entry tracked is_pipeline passes).mp
      (all pipeline.observer.id _ (List.mem_filter.mpr ⟨is_entry, by simp [TimedPipeline.entry]⟩))
  · intro harmless id entry is_entry
    obtain ⟨pipeline, is_chosen, rfl⟩ := List.mem_map.mp (List.mem_filter.mp is_entry).1
    obtain ⟨is_pipeline, passes⟩ := List.mem_filter.mp is_chosen
    exact (mem_held_addEvent_entry tracked is_pipeline passes).mpr
      (harmless pipeline is_pipeline passes)

variable {index : Nat} {callback : WindowCallback}

theorem reportedIds_settles (tracked : Tracked system)
    (found : system.callbacks[index]? = some callback) (succeeds : Bool) (id : String) :
    (system.step (.settles index succeeds)).manager.reportedIds id =
      if succeeds ∧ id = callback.observerId then [] else system.manager.reportedIds id := by
  have pending : system.manager.pending[index]? = some callback.observerId := by
    rw [tracked.pending, List.getElem?_map, found]
    rfl
  simp only [step, found]
  exact (system.manager.settleCallback_spec pending succeeds).2.2.2 id

theorem entered_of_without (tracked : Tracked system)
    (found : system.callbacks[index]? = some callback)
    (is_held : entry ∈ (system.without index).held failureFinishes) : entry ∈ system.entered :=
  tracked.entered entry (held_subset ((mem_held_without found).mpr (.inl is_held)))

theorem covered_success_iff (tracked : Tracked system)
    (covered : system.Covered failureFinishes) (found : system.callbacks[index]? = some callback) :
    (system.step (.settles index true)).Covered failureFinishes ↔
      ∀ entry ∈ (system.without index).held failureFinishes,
        entry.observerId ≠ callback.observerId := by
  have entered : (system.step (.settles index true)).entered = system.entered := by
    simp only [step, found, without]
  have held : ∀ entry, entry ∈ (system.step (.settles index true)).held failureFinishes ↔
      entry ∈ (system.without index).held failureFinishes := by
    intro entry
    simp [mem_held_settles found]
  simp only [Covered, reportedIds_settles tracked found, unfinished, entered, held, true_and]
  constructor
  · intro all entry is_held same
    -- After a success the observer has nothing reported, and this entry is held.
    have nothing := all callback.observerId
    rw [if_pos rfl, eq_comm, List.map_eq_nil_iff, List.filter_eq_nil_iff] at nothing
    refine nothing entry (entered_of_without tracked found is_held) ?_
    simp [same, is_held]
  · intro harmless id
    split
    · rename_i same
      rw [eq_comm, List.map_eq_nil_iff, List.filter_eq_nil_iff]
      intro entry _ claimed
      obtain ⟨of_observer, is_held⟩ := of_decide_eq_true claimed
      exact harmless entry is_held (of_observer.trans same)
    · -- What the callback had was for another observer.
      rename_i other
      rw [covered id, unfinished]
      congr 1
      apply List.filter_congr
      intro entry _
      have apart : entry.observerId = id → entry ∉ callback.entries := by
        intro of_observer inside
        exact other (of_observer.symm.trans
          (tracked.callbacks callback (List.mem_of_getElem? found) entry inside))
      simp only [decide_eq_decide, mem_held_without found]
      tauto

theorem covered_failure_iff (tracked : Tracked system)
    (covered : system.Covered failureFinishes) (found : system.callbacks[index]? = some callback) :
    (system.step (.settles index false)).Covered failureFinishes ↔
      (failureFinishes = true →
        ∀ entry ∈ callback.entries, entry ∈ (system.without index).held failureFinishes) := by
  have reported (id : String) : (system.step (.settles index false)).manager.reportedIds id =
      system.manager.reportedIds id := by
    simp [reportedIds_settles tracked found]
  have entered : (system.step (.settles index false)).entered = system.entered := by
    simp only [step, found, without]
  cases failureFinishes with
  | false =>
    -- The entries go from the callback to those of the failures.
    have held : ∀ entry, entry ∈ (system.step (.settles index false)).held false ↔
        entry ∈ system.held false := by
      intro entry
      rw [mem_held_settles found, mem_held_without found]
      simp
    exact iff_of_true (covered.of_same reported entered held) (by simp)
  | true =>
    have held : ∀ entry, entry ∈ (system.step (.settles index false)).held true ↔
        entry ∈ (system.without index).held true := by
      intro entry
      simp [mem_held_settles found]
    -- The report stays, so that whatever was held has to be held still.
    have at_id : ∀ id, (system.manager.reportedIds id =
        ((system.step (.settles index false)).unfinished true id).map (·.correlationId)) ↔
          ∀ entry ∈ system.unfinished true id, entry ∈ (system.without index).held true := by
      intro id
      have kept : (system.step (.settles index false)).unfinished true id =
          (system.unfinished true id).filter fun entry =>
            entry ∈ (system.without index).held true := by
        simp only [unfinished, entered, held, List.filter_filter]
        apply List.filter_congr
        intro entry _
        rw [← Bool.decide_and, decide_eq_decide, mem_held_without found]
        tauto
      rw [covered id, kept, map_filter_eq_iff]
      simp only [decide_eq_true_eq]
    simp only [Covered, reported, at_id, forall_const]
    constructor
    · -- What the callback had was held, and has to be held without it.
      intro all entry inside
      have is_held : entry ∈ system.held true := (mem_held_without found).mpr (.inr inside)
      refine all entry.observerId entry (List.mem_filter.mpr ⟨?_, by simp [is_held]⟩)
      exact tracked.entered entry (held_subset is_held)
    · intro harmless id entry is_unfinished
      have is_held := (of_decide_eq_true (List.mem_filter.mp is_unfinished).2).2
      rcases (mem_held_without found).mp is_held with elsewhere | inside
      · exact elsewhere
      · exact harmless entry inside

theorem reportedIds_closes (index : Nat) (id : String) :
    (system.step (.closes index)).manager.reportedIds id = system.manager.reportedIds id := by
  simp only [step]
  split
  · rfl
  · split
    · rfl
    · simp only [RxJSWindowManager.closeWindow]
      split <;> rfl

theorem entered_closes (index : Nat) :
    (system.step (.closes index)).entered = system.entered := by
  simp only [step]
  split
  · rfl
  · split <;> rfl

theorem covered_step_iff (tracked : Tracked system)
    (covered : system.Covered failureFinishes) (input : TimedInput) :
    (system.step input).Covered failureFinishes ↔ system.Harmless failureFinishes input := by
  cases input with
  | createSlidingWindow observer =>
    exact iff_of_true (covered.of_same (fun _ => rfl) rfl fun _ => mem_held_subscribe _ _) trivial
  | createTumblingWindow observer =>
    exact iff_of_true (covered.of_same (fun _ => rfl) rfl fun _ => mem_held_subscribe _ _) trivial
  | addEvent event => exact covered_addEvent_iff tracked covered event
  | elapse ms => exact iff_of_true (covered.of_same (fun _ => rfl) rfl fun _ => Iff.rfl) trivial
  | opens index =>
    exact iff_of_true (covered.of_same (fun _ => rfl) rfl fun _ => mem_held_opens index) trivial
  | closes index =>
    exact iff_of_true (covered.of_same (reportedIds_closes index) (entered_closes index)
      fun _ => mem_held_closes index) trivial
  | settles index succeeds =>
    cases found : system.callbacks[index]? with
    | none => simpa [Harmless, step, found] using covered
    | some callback =>
      cases succeeds with
      | true => simpa [Harmless, found] using covered_success_iff tracked covered found
      | false => simpa [Harmless, found] using covered_failure_iff tracked covered found

end WindowSystem

private theorem WindowSystem.covered_empty (failureFinishes : Bool) :
    WindowSystem.empty.Covered failureFinishes :=
  fun _ => rfl

end

/-- At every moment of a run, exactly what is in a window that is open, or whose callback has not
finished, is reported. -/
def SnapshotsCover (failureFinishes : Bool) (inputs : List TimedInput) : Prop :=
  ∀ early, early <+: inputs → (run WindowSystem.step .empty early).Covered failureFinishes

/-- The window states cover the windows throughout exactly the runs without a harmful step. -/
theorem snapshotsCover_iff (failureFinishes : Bool) (inputs : List TimedInput) :
    SnapshotsCover failureFinishes inputs ↔
      Along WindowSystem.step (WindowSystem.Harmless failureFinishes) .empty inputs := by
  rw [SnapshotsCover, forall_prefix_iff_along,
    and_iff_right (WindowSystem.covered_empty failureFinishes)]
  -- As long as the report is right, a step keeps it right exactly when it is harmless.
  apply along_congr fun system : WindowSystem =>
    Tracked system ∧ system.Covered failureFinishes
  · intro system input invariant harmless
    exact ⟨invariant.1.step input,
      (WindowSystem.covered_step_iff invariant.1 invariant.2 input).mpr harmless⟩
  · intro system input invariant
    exact WindowSystem.covered_step_iff invariant.1 invariant.2 input
  · exact ⟨.empty, WindowSystem.covered_empty failureFinishes⟩

def tumblingObserver : StreamObserver where
  id := "raids"
  active := true
  window := some { type := .tumbling, sizeMs := (1000 : ℕ) }

/-- The second event comes while the callback of the first one's window is at work: the callback
takes it along when it comes back, although its window is open. -/
theorem snapshotsCover_fails :
    ¬ ∃ failureFinishes, ∀ inputs, SnapshotsCover failureFinishes inputs := by
  rintro ⟨failureFinishes, all⟩
  have covered := all
    [.createTumblingWindow tumblingObserver, .elapse 500,
      .addEvent { correlationId := "e-1", type := "chat.message.v1" }, .elapse 500, .closes 0,
      .elapse 200, .addEvent { correlationId := "e-2", type := "chat.message.v1" },
      .elapse 300, .settles 0 true] _ (List.prefix_refl _) "raids"
  revert covered
  cases failureFinishes <;> decide +kernel

end BitBrat
