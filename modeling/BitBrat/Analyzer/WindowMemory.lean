import BitBrat.Analyzer.WindowManager
import BitBrat.Machine.Run
import Mathlib.Tactic.Linarith

/-! The two counters of window events: when the memory manager agrees with the window manager. -/

namespace BitBrat

open Js Machine

inductive WindowInput where
  | createWindow (observer : StreamObserver)
  | addEvent (event : Event)
  | closeWindow (stream : Nat)
  | settleCallback (index : Nat) (succeeds : Bool)
  | evictOldestEvents (observerId : String) (count : Nat)
  | removeObserver (observerId : String)
  | restoreWindowStates (states : OrderedMap String (List String))
  | performMemoryEviction

/-- The windows, and the observers that were removed and have not come back. -/
structure WindowMemory where
  manager : RxJSWindowManager
  removed : List String

def WindowMemory.empty : WindowMemory where
  manager := .empty
  removed := []

def windowStep (double : ℚ → ℚ) (manager : RxJSWindowManager) : WindowInput → RxJSWindowManager
  | .createWindow observer => manager.createWindow observer
  | .addEvent event => manager.addEvent event
  | .closeWindow stream => manager.closeWindow stream
  | .settleCallback index succeeds => manager.settleCallback index succeeds
  | .evictOldestEvents observerId count => manager.evictOldestEvents observerId count
  | .removeObserver observerId => manager.removeObserver observerId
  | .restoreWindowStates states => manager.restoreWindowStates states
  | .performMemoryEviction => performMemoryEviction double manager

def removedAfter (removed : List String) : WindowInput → List String
  | .createWindow observer => removed.filter (· ≠ observer.id)
  | .removeObserver observerId => observerId :: removed
  -- An observer that is restored is back.
  | .restoreWindowStates states => removed.filter fun id => (states.get? id).isNone
  | _ => removed

def WindowMemory.step (double : ℚ → ℚ) (memory : WindowMemory) (input : WindowInput) :
    WindowMemory where
  manager := windowStep double memory.manager input
  removed := removedAfter memory.removed input

namespace RxJSWindowManager

def trackedCount (manager : RxJSWindowManager) (observerId : String) : Nat :=
  ((manager.windowStates.get? observerId).getD []).length

def recordedCount (manager : RxJSWindowManager) (observerId : String) : Nat :=
  manager.memoryManager.getObserverCount observerId

end RxJSWindowManager

def evictionNeeded (manager : RxJSWindowManager) : Prop :=
  manager.memoryManager.warningLevel memoryConfig = true

structure MemoryAccounted (memory : WindowMemory) : Prop where
  counted : ∀ id, memory.manager.recordedCount id = memory.manager.trackedCount id
  removed : ∀ id ∈ memory.removed, memory.manager.recordedCount id = 0

/-- What an input owes to the accounts, and an eviction to the memory. -/
structure MemoryLaw (input : WindowInput) (before after : WindowMemory) : Prop where
  accounted : MemoryAccounted after
  evicted : input = .performMemoryEviction → evictionNeeded before.manager →
    (after.manager.memoryManager.getTotalEvents : ℚ) ≤ memoryConfig.maxEvents * (7 / 10)

/-- The input does nothing that only one of the two counters notices. -/
def NoticedByBoth (memory : WindowMemory) : WindowInput → Prop
  -- No stream of a removed observer is left to track the event.
  | .addEvent event => ∀ stream ∈ memory.manager.streams,
      matchesObserver event stream.2 = true → stream.2.id ∉ memory.removed
  -- Nothing is given up.
  | .evictOldestEvents observerId count =>
      count = 0 ∨ memory.manager.trackedCount observerId = 0
  | .removeObserver observerId => memory.manager.trackedCount observerId = 0
  -- Nothing is overwritten.
  | .restoreWindowStates states => ∀ id ids, states.get? id = some ids →
      memory.manager.trackedCount id = 0
  | .performMemoryEviction => ¬ evictionNeeded memory.manager
  | _ => True

namespace RxJSWindowManager

variable (manager : RxJSWindowManager)

theorem counts_trackEventAdded (observerId correlationId id : String) :
    (manager.trackEventAdded observerId correlationId).recordedCount id =
        manager.recordedCount id + (if observerId = id then 1 else 0) ∧
      (manager.trackEventAdded observerId correlationId).trackedCount id =
        manager.trackedCount id + (if observerId = id then 1 else 0) := by
  by_cases same : observerId = id
  · subst same
    simp [recordedCount, trackedCount, trackEventAdded, MemoryManager.getObserverCount_addEvents]
  · simp [recordedCount, trackedCount, trackEventAdded, MemoryManager.getObserverCount_addEvents,
      same, Ne.symm same]

theorem counts_addEvent (event : Event) (id : String) :
    (manager.addEvent event).recordedCount id = manager.recordedCount id +
        manager.streams.countP (fun stream => matchesObserver event stream.2 ∧ stream.2.id = id) ∧
      (manager.addEvent event).trackedCount id = manager.trackedCount id +
        manager.streams.countP fun stream => matchesObserver event stream.2 ∧ stream.2.id = id := by
  simp only [addEvent]
  -- The induction is on the streams, for the counts that were reached before them.
  generalize manager.streams = streams
  induction streams generalizing manager with
  | nil => simp
  | cons stream rest ih =>
    by_cases admitted : matchesObserver event stream.2 = true
    · obtain ⟨recorded, tracked⟩ := counts_trackEventAdded manager stream.2.id
        event.correlationId id
      obtain ⟨recorded_rest, tracked_rest⟩ :=
        ih (manager.trackEventAdded stream.2.id event.correlationId)
      rw [List.filter_cons_of_pos (by simpa using admitted), List.foldl_cons, recorded_rest,
        tracked_rest, recorded, tracked, List.countP_cons]
      simp only [admitted, true_and, decide_eq_true_eq]
      omega
    · rw [List.filter_cons_of_neg (by simpa using admitted),
        List.countP_cons_of_neg (by simp [admitted])]
      exact ih manager

theorem counts_trackWindowClosed (observerId id : String) :
    (manager.trackWindowClosed observerId).recordedCount id =
        (if observerId = id then manager.recordedCount id - manager.trackedCount id
          else manager.recordedCount id) ∧
      (manager.trackWindowClosed observerId).trackedCount id =
        if observerId = id then 0 else manager.trackedCount id := by
  simp only [recordedCount, trackedCount, trackWindowClosed, OrderedMap.get?_erase]
  constructor
  · cases tracked : manager.windowStates.get? observerId with
    | none =>
      -- Without a window state there is nothing to subtract.
      by_cases same : observerId = id
      · simp [← same, tracked]
      · simp [same]
    | some eventIds =>
      simp only [MemoryManager.getObserverCount_removeEvents]
      by_cases same : observerId = id
      · simp [← same, tracked]
      · simp [same, Ne.symm same]
  · by_cases same : observerId = id
    · simp [same]
    · simp [same, Ne.symm same]

theorem counts_evictOldestEvents (observerId : String) (count : Nat) (id : String) :
    (manager.evictOldestEvents observerId count).recordedCount id = manager.recordedCount id ∧
      (manager.evictOldestEvents observerId count).trackedCount id =
        if observerId = id then manager.trackedCount id - count else manager.trackedCount id := by
  -- Where nothing is tracked, there is nothing to give up.
  have nothing (untracked : manager.trackedCount observerId = 0) : manager.trackedCount id =
      if observerId = id then manager.trackedCount id - count else manager.trackedCount id := by
    split
    · rename_i same
      rw [← same, untracked, Nat.zero_sub]
    · rfl
  simp only [evictOldestEvents]
  split
  · rename_i unknown
    exact ⟨rfl, nothing (by simp [trackedCount, unknown])⟩
  · rename_i emptied
    exact ⟨rfl, nothing (by simp [trackedCount, emptied])⟩
  · -- The oldest events are at the front of what is tracked.
    rename_i eventIds _ tracked
    refine ⟨rfl, ?_⟩
    by_cases same : observerId = id
    · simp [trackedCount, ← same, tracked]
    · simp [trackedCount, same, Ne.symm same]

theorem counts_restoreWindowStates (states : OrderedMap String (List String))
    (id : String) : (manager.restoreWindowStates states).recordedCount id =
        manager.recordedCount id + ((states.get? id).map List.length).getD 0 ∧
      (manager.restoreWindowStates states).trackedCount id =
        ((states.get? id).map List.length).getD (manager.trackedCount id) := by
  simp only [restoreWindowStates, OrderedMap.get?]
  have distinct := states.distinct
  -- The induction is on the entries, of which only one can be that of the observer.
  revert distinct
  generalize states.entries = entries
  intro distinct
  induction entries generalizing manager with
  | nil => simp
  | cons entry rest ih =>
    obtain ⟨name, eventIds⟩ := entry
    simp only [List.map_cons, List.nodup_cons] at distinct
    obtain ⟨recorded_rest, tracked_rest⟩ := ih ({ manager with
      windowStates := manager.windowStates.set name eventIds
      memoryManager := manager.memoryManager.addEvents name eventIds.length }) distinct.2
    rw [List.foldl_cons, recorded_rest, tracked_rest]
    by_cases same : name = id
    · subst same
      have later : rest.lookup name = none := lookup_eq_none_iff_not_mem.mpr distinct.1
      simp [later, recordedCount, trackedCount, MemoryManager.getObserverCount_addEvents]
    · have skipped : (id == name) = false := by simpa using Ne.symm same
      simp [List.lookup_cons, skipped, recordedCount, trackedCount,
        MemoryManager.getObserverCount_addEvents, Ne.symm same]

theorem memoryManager_performMemoryEviction (double : ℚ → ℚ) :
    (performMemoryEviction double manager).memoryManager = manager.memoryManager := by
  have each (manager : RxJSWindowManager) (observerId : String) (count : Nat) :
      (manager.evictOldestEvents observerId count).memoryManager = manager.memoryManager := by
    simp only [evictOldestEvents]
    split <;> rfl
  simp only [performMemoryEviction]
  split
  · rfl
  · -- No candidate changes the record.
    refine List.foldlRecOn (motive := fun after : RxJSWindowManager =>
      after.memoryManager = manager.memoryManager)
      _ _ rfl ?_
    intro after same candidate _
    rw [each, same]

theorem performMemoryEviction_of_not_needed (double : ℚ → ℚ)
    (spare : ¬ evictionNeeded manager) : performMemoryEviction double manager = manager := by
  have below : manager.memoryManager.warningLevel memoryConfig = false := by
    simpa [evictionNeeded] using spare
  simp only [performMemoryEviction, MemoryManager.getEvictionCandidates, below]
  split <;> rfl

end RxJSWindowManager

section

variable {memory : WindowMemory}

theorem MemoryAccounted.alike {after : WindowMemory} (accounted : MemoryAccounted memory)
    (alike : ∀ id, ∃ grown,
      after.manager.recordedCount id = memory.manager.recordedCount id + grown ∧
      after.manager.trackedCount id = memory.manager.trackedCount id + grown)
    (removed : ∀ id ∈ after.removed, after.manager.recordedCount id = 0) :
    MemoryAccounted after := by
  refine ⟨fun id => ?_, removed⟩
  obtain ⟨grown, recorded, tracked⟩ := alike id
  rw [recorded, tracked, accounted.counted id]

theorem accounted_addEvent_iff (double : ℚ → ℚ) (accounted : MemoryAccounted memory)
    (event : Event) :
    MemoryAccounted (memory.step double (.addEvent event)) ↔
      NoticedByBoth memory (.addEvent event) := by
  have counts := RxJSWindowManager.counts_addEvent memory.manager event
  constructor
  · intro after stream is_stream admitted is_removed
    -- A removed observer would be recorded with one event more.
    have zero : (memory.manager.addEvent event).recordedCount stream.2.id = 0 :=
      after.removed stream.2.id is_removed
    have some_stream : 0 < memory.manager.streams.countP fun other =>
        matchesObserver event other.2 ∧ other.2.id = stream.2.id :=
      List.countP_pos_iff.mpr ⟨stream, is_stream, by simp [admitted]⟩
    rw [(counts stream.2.id).1] at zero
    omega
  · intro unremoved
    refine accounted.alike (fun id => ⟨_, (counts id).1, (counts id).2⟩) ?_
    intro id is_removed
    have no_stream : (memory.manager.streams.countP fun other =>
        matchesObserver event other.2 ∧ other.2.id = id) = 0 := by
      refine List.countP_eq_zero.mpr fun stream is_stream => ?_
      simp only [decide_eq_true_eq, not_and]
      rintro admitted rfl
      exact unremoved stream is_stream admitted is_removed
    refine (counts id).1.trans ?_
    rw [accounted.removed id is_removed, no_stream]

theorem accounted_settleCallback (double : ℚ → ℚ) (accounted : MemoryAccounted memory)
    (index : Nat) (succeeds : Bool) :
    MemoryAccounted (memory.step double (.settleCallback index succeeds)) := by
  simp only [WindowMemory.step, windowStep, RxJSWindowManager.settleCallback]
  split
  · exact accounted
  · rename_i observerId _
    cases succeeds with
    | false => exact ⟨accounted.counted, accounted.removed⟩
    | true =>
      have counts := RxJSWindowManager.counts_trackWindowClosed
        { memory.manager with pending := memory.manager.pending.eraseIdx index }
        observerId
      constructor
      · intro id
        refine (counts id).1.trans (Eq.trans ?_ (counts id).2.symm)
        -- For the observer itself both are zero now.
        split
        · exact Nat.sub_eq_zero_of_le (accounted.counted id).le
        · exact accounted.counted id
      · intro id is_removed
        refine (counts id).1.trans ?_
        have zero := accounted.removed id is_removed
        split
        · exact Nat.sub_eq_zero_of_le (zero.le.trans (Nat.zero_le _))
        · exact zero

theorem accounted_evictOldestEvents_iff (double : ℚ → ℚ)
    (accounted : MemoryAccounted memory) (observerId : String) (count : Nat) :
    MemoryAccounted (memory.step double (.evictOldestEvents observerId count)) ↔
      NoticedByBoth memory (.evictOldestEvents observerId count) := by
  have counts := RxJSWindowManager.counts_evictOldestEvents memory.manager
    observerId count
  constructor
  · intro after
    have same : memory.manager.recordedCount observerId =
        memory.manager.trackedCount observerId - count := by
      have agree : (memory.manager.evictOldestEvents observerId count).recordedCount observerId =
          (memory.manager.evictOldestEvents observerId count).trackedCount observerId :=
        after.counted observerId
      rwa [(counts observerId).1, (counts observerId).2, if_pos rfl] at agree
    rw [accounted.counted] at same
    simp only [NoticedByBoth]
    omega
  · intro nothing
    refine ⟨fun id => ?_, fun id is_removed => ?_⟩
    · refine (counts id).1.trans (Eq.trans ?_ (counts id).2.symm)
      rw [accounted.counted id]
      split
      · -- Nothing is taken off what is tracked.
        rename_i same
        subst same
        simp only [NoticedByBoth] at nothing
        omega
      · rfl
    · exact (counts id).1.trans (accounted.removed id is_removed)

theorem accounted_removeObserver_iff (double : ℚ → ℚ) (accounted : MemoryAccounted memory)
    (observerId : String) :
    MemoryAccounted (memory.step double (.removeObserver observerId)) ↔
      NoticedByBoth memory (.removeObserver observerId) := by
  -- Neither counter is told of the removal.
  have same : (memory.manager.removeObserver observerId).windowStates =
        memory.manager.windowStates ∧
      (memory.manager.removeObserver observerId).memoryManager = memory.manager.memoryManager := by
    simp only [RxJSWindowManager.removeObserver]
    split <;> exact ⟨rfl, rfl⟩
  have recorded (id : String) : (memory.manager.removeObserver observerId).recordedCount id =
      memory.manager.recordedCount id := congrArg (·.getObserverCount id) same.2
  have tracked (id : String) : (memory.manager.removeObserver observerId).trackedCount id =
      memory.manager.trackedCount id :=
    congrArg (fun states => ((states.get? id).getD []).length) same.1
  constructor
  · intro after
    have zero := (recorded observerId).symm.trans (after.removed observerId List.mem_cons_self)
    exact (accounted.counted observerId).symm.trans zero
  · intro untracked
    refine accounted.alike (fun id => ⟨0, recorded id, tracked id⟩) fun id is_removed => ?_
    refine (recorded id).trans ?_
    rcases List.mem_cons.mp is_removed with rfl | earlier
    · exact (accounted.counted id).trans untracked
    · exact accounted.removed id earlier

theorem accounted_restoreWindowStates_iff (double : ℚ → ℚ)
    (accounted : MemoryAccounted memory) (states : OrderedMap String (List String)) :
    MemoryAccounted (memory.step double (.restoreWindowStates states)) ↔
      NoticedByBoth memory (.restoreWindowStates states) := by
  have counts := RxJSWindowManager.counts_restoreWindowStates memory.manager states
  constructor
  · intro after id ids restored
    -- What was recorded before is recorded on top of what was restored.
    have agree : (memory.manager.restoreWindowStates states).recordedCount id =
        (memory.manager.restoreWindowStates states).trackedCount id := after.counted id
    rw [(counts id).1, (counts id).2, restored, accounted.counted id] at agree
    simpa using agree
  · intro untracked
    refine ⟨fun id => ?_, fun id is_removed => ?_⟩
    · refine (counts id).1.trans (Eq.trans ?_ (counts id).2.symm)
      rw [accounted.counted id]
      cases restored : states.get? id with
      | none => rfl
      | some ids => simp [untracked id ids restored]
    · obtain ⟨was_removed, unrestored⟩ := List.mem_filter.mp is_removed
      refine (counts id).1.trans ?_
      rw [Option.isNone_iff_eq_none.mp unrestored]
      exact accounted.removed id was_removed

theorem memoryLaw_performMemoryEviction_iff (double : ℚ → ℚ)
    (accounted : MemoryAccounted memory) :
    MemoryLaw .performMemoryEviction memory (memory.step double .performMemoryEviction) ↔
      NoticedByBoth memory .performMemoryEviction := by
  constructor
  · intro law needed
    -- The record is as full as it was, which is above the target.
    have full := law.evicted rfl needed
    have above : (memoryConfig.warningThreshold : ℚ) ≤
        (memory.manager.memoryManager.getTotalEvents : ℚ) / memoryConfig.maxEvents := by
      simpa [evictionNeeded, MemoryManager.warningLevel] using needed
    simp only [WindowMemory.step, windowStep,
      RxJSWindowManager.memoryManager_performMemoryEviction, memoryConfig] at full above
    linarith
  · intro spare
    -- Below the threshold nothing happens.
    have same : memory.step double .performMemoryEviction = memory := by
      simp only [WindowMemory.step, windowStep, removedAfter,
        RxJSWindowManager.performMemoryEviction_of_not_needed memory.manager double spare]
    rw [same]
    exact ⟨accounted, fun _ needed => absurd needed spare⟩

theorem memoryLaw_iff (double : ℚ → ℚ) (accounted : MemoryAccounted memory)
    (input : WindowInput) :
    MemoryLaw input memory (memory.step double input) ↔ NoticedByBoth memory input := by
  -- Only an eviction owes anything to the memory.
  have only_accounts (other : input ≠ .performMemoryEviction) :
      MemoryLaw input memory (memory.step double input) ↔
        MemoryAccounted (memory.step double input) :=
    ⟨fun law => law.accounted, fun after => ⟨after, fun same => absurd same other⟩⟩
  cases input with
  | createWindow observer =>
    -- Neither counter changes, and fewer observers are removed.
    refine iff_of_true ((only_accounts (by simp)).mpr ⟨accounted.counted, ?_⟩) trivial
    intro id still_removed
    exact accounted.removed id (List.mem_of_mem_filter still_removed)
  | addEvent event =>
    exact (only_accounts (by simp)).trans (accounted_addEvent_iff double accounted event)
  | closeWindow stream =>
    -- The callback has begun, and nothing has been counted.
    refine iff_of_true ((only_accounts (by simp)).mpr ?_) trivial
    simp only [WindowMemory.step, windowStep, RxJSWindowManager.closeWindow]
    split
    · exact accounted
    · exact ⟨accounted.counted, accounted.removed⟩
  | settleCallback index succeeds =>
    refine iff_of_true ((only_accounts (by simp)).mpr ?_) trivial
    exact accounted_settleCallback double accounted index succeeds
  | evictOldestEvents observerId count =>
    exact (only_accounts (by simp)).trans
      (accounted_evictOldestEvents_iff double accounted observerId count)
  | removeObserver observerId =>
    exact (only_accounts (by simp)).trans (accounted_removeObserver_iff double accounted observerId)
  | restoreWindowStates states =>
    exact (only_accounts (by simp)).trans
      (accounted_restoreWindowStates_iff double accounted states)
  | performMemoryEviction => exact memoryLaw_performMemoryEviction_iff double accounted

end

private theorem memoryAccounted_empty : MemoryAccounted .empty where
  counted _ := rfl
  removed _ is_removed := by cases is_removed

/-- The two counters agree after every step of exactly the runs in which both notice each input. -/
theorem memoryLaw_along_iff (double : ℚ → ℚ) (inputs : List WindowInput) :
    Along (WindowMemory.step double)
        (fun memory input => MemoryLaw input memory (memory.step double input)) .empty inputs ↔
      Along (WindowMemory.step double) NoticedByBoth .empty inputs := by
  -- The accounts are the invariant under which the law and the condition are the same.
  refine along_congr MemoryAccounted ?_ ?_ memoryAccounted_empty inputs
  · intro memory input accounted noticed
    exact ((memoryLaw_iff double accounted input).mpr noticed).accounted
  · intro memory input accounted
    exact memoryLaw_iff double accounted input

/-- Giving up a tracked event leaves it on the record. -/
theorem eviction_keeps_record :
    ¬ ∀ (double : ℚ → ℚ) (inputs : List WindowInput),
      Along (WindowMemory.step double)
        (fun memory input => MemoryLaw input memory (memory.step double input)) .empty inputs := by
  intro lawful
  have law := lawful id [.createWindow { id := "observer-1", active := true },
    .addEvent { correlationId := "e-1", type := "chat.message.v1" },
    .evictOldestEvents "observer-1" 1]
  -- The event is still recorded, and is tracked no more.
  have agree := law.2.2.1.accounted.counted "observer-1"
  revert agree
  decide +kernel

end BitBrat
