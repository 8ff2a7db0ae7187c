import BitBrat.Types.Observer
import Mathlib.Data.Rat.Floor

/-! The window manager with its streams, and the memory manager that counts their events. -/

namespace BitBrat

open Js

inductive EvictionStrategy where
  | oldest
  | largestWindow
  deriving DecidableEq

structure MemoryManagerConfig where
  maxEvents : Nat
  warningThreshold : ℚ
  evictionStrategy : EvictionStrategy

structure EvictionCandidate where
  observerId : String
  evictCount : Nat
  reason : EvictionStrategy
  deriving DecidableEq

structure MemoryManager where
  observerEventCounts : OrderedMap String Nat

namespace MemoryManager

def getObserverCount (memory : MemoryManager) (observerId : String) : Nat :=
  (memory.observerEventCounts.get? observerId).getD 0

def addEvents (memory : MemoryManager) (observerId : String) (count : Nat) : MemoryManager where
  observerEventCounts :=
    memory.observerEventCounts.set observerId (memory.getObserverCount observerId + count)

def removeEvents (memory : MemoryManager) (observerId : String) (count : Nat) : MemoryManager :=
  let newCount := memory.getObserverCount observerId - count
  -- No zeros are kept.
  if newCount = 0 then { observerEventCounts := memory.observerEventCounts.erase observerId }
  else { observerEventCounts := memory.observerEventCounts.set observerId newCount }

def getTotalEvents (memory : MemoryManager) : Nat :=
  (memory.observerEventCounts.entries.map Prod.snd).sum

def warningLevel (config : MemoryManagerConfig) (memory : MemoryManager) : Bool :=
  config.warningThreshold ≤ (memory.getTotalEvents : ℚ) / config.maxEvents

/-- Every observer gives up its share, as far as the division and the product are rounded. -/
def getEvictionCandidatesOldest (double : ℚ → ℚ) (memory : MemoryManager)
    (targetEvictionCount : Nat) : List EvictionCandidate :=
  let totalEvents := memory.getTotalEvents
  if totalEvents = 0 then []
  else
    memory.observerEventCounts.entries.filterMap fun (observerId, eventCount) =>
      let proportion := double ((eventCount : ℚ) / totalEvents)
      let evictCount := ⌈double (targetEvictionCount * proportion)⌉
      -- No observer gives up more events than it has.
      if 0 < evictCount then
        some { observerId, evictCount := min evictCount.toNat eventCount, reason := .oldest }
      else none

/-- The observer with the most events gives up what is needed, as far as it can. -/
def getEvictionCandidatesLargestWindow (memory : MemoryManager) (targetEvictionCount : Nat) :
    List EvictionCandidate :=
  let (largestObserver, largestCount) :=
    memory.observerEventCounts.entries.foldl
      -- Among equals, the first one stays.
      (fun largest entry => if largest.2 < entry.2 then entry else largest) ("", 0)
  if largestObserver = "" then []
  else [{
    observerId := largestObserver
    evictCount := min targetEvictionCount largestCount
    reason := .largestWindow }]

/-- Who gives up how many events, which is nobody below the threshold. -/
def getEvictionCandidates (config : MemoryManagerConfig) (double : ℚ → ℚ) (memory : MemoryManager)
    (targetEvictionCount : Nat) : List EvictionCandidate :=
  if !memory.warningLevel config then []
  else
    match config.evictionStrategy with
    | .oldest => memory.getEvictionCandidatesOldest double targetEvictionCount
    | .largestWindow => memory.getEvictionCandidatesLargestWindow targetEvictionCount

theorem getObserverCount_addEvents (memory : MemoryManager) (observerId other : String)
    (count : Nat) :
    (memory.addEvents observerId count).getObserverCount other =
      if other = observerId then memory.getObserverCount observerId + count
      else memory.getObserverCount other := by
  simp only [getObserverCount, addEvents, OrderedMap.get?_set]
  split <;> rfl

theorem getObserverCount_removeEvents (memory : MemoryManager) (observerId other : String)
    (count : Nat) :
    (memory.removeEvents observerId count).getObserverCount other =
      if other = observerId then memory.getObserverCount observerId - count
      else memory.getObserverCount other := by
  simp only [removeEvents]
  -- A count of zero reads like no count at all.
  split
  · rename_i none_left
    simp only [getObserverCount, OrderedMap.get?_erase] at none_left ⊢
    split
    · rw [none_left]
      rfl
    · rfl
  · simp only [getObserverCount, OrderedMap.get?_set]
    split <;> rfl

end MemoryManager

/-- The window manager: its streams, the events they track, and the callbacks under way. -/
structure RxJSWindowManager where
  streams : List (Nat × StreamObserver)
  nextStream : Nat
  subscriptions : OrderedMap String Nat
  windowStates : OrderedMap String (List String)
  memoryManager : MemoryManager
  pending : List String

namespace RxJSWindowManager

def empty : RxJSWindowManager where
  streams := []
  nextStream := 0
  subscriptions := .empty
  windowStates := .empty
  memoryManager := { observerEventCounts := .empty }
  pending := []

/-- Subscribe a new pipeline to the events, also when the observer has one already. -/
def createWindow (manager : RxJSWindowManager) (observer : StreamObserver) : RxJSWindowManager :=
  { manager with
    streams := manager.streams ++ [(manager.nextStream, observer)]
    nextStream := manager.nextStream + 1
    -- A pipeline that was registered before runs on, and cannot be removed any more.
    subscriptions := manager.subscriptions.set observer.id manager.nextStream }

def removeObserver (manager : RxJSWindowManager) (observerId : String) : RxJSWindowManager :=
  match manager.subscriptions.get? observerId with
  | none => manager
  | some stream =>
    { manager with
      -- What was tracked for the observer stays, and so does the record of it.
      streams := manager.streams.filter (·.1 ≠ stream)
      subscriptions := manager.subscriptions.erase observerId }

def trackEventAdded (manager : RxJSWindowManager) (observerId correlationId : String) :
    RxJSWindowManager :=
  let eventIds := (manager.windowStates.get? observerId).getD []
  { manager with
    windowStates := manager.windowStates.set observerId (eventIds ++ [correlationId])
    memoryManager := manager.memoryManager.addEvents observerId 1 }

def addEvent (manager : RxJSWindowManager) (event : Event) : RxJSWindowManager :=
  -- Two pipelines of one observer track the event twice.
  (manager.streams.filter fun stream => matchesObserver event stream.2).foldl
    (fun manager stream => manager.trackEventAdded stream.2.id event.correlationId) manager

/-- A stream closes a window, and its callback begins. -/
def closeWindow (manager : RxJSWindowManager) (stream : Nat) : RxJSWindowManager :=
  match manager.streams.lookup stream with
  | none => manager
  -- Nothing is forgotten before the callback has come back.
  | some observer => { manager with pending := manager.pending ++ [observer.id] }

def trackWindowClosed (manager : RxJSWindowManager) (observerId : String) : RxJSWindowManager :=
  { manager with
    windowStates := manager.windowStates.erase observerId
    memoryManager :=
      match manager.windowStates.get? observerId with
      | some eventIds => manager.memoryManager.removeEvents observerId eventIds.length
      | none => manager.memoryManager }

def settleCallback (manager : RxJSWindowManager) (index : Nat) (succeeds : Bool) :
    RxJSWindowManager :=
  match manager.pending[index]? with
  | none => manager
  | some observerId =>
    let settled := { manager with pending := manager.pending.eraseIdx index }
    -- After a failure, what was tracked stays.
    if succeeds then settled.trackWindowClosed observerId else settled

def restoreWindowStates (manager : RxJSWindowManager)
    (states : OrderedMap String (List String)) : RxJSWindowManager :=
  states.entries.foldl (fun manager (observerId, eventIds) =>
    { manager with
      -- The tracked events are replaced, and the record of them grows.
      windowStates := manager.windowStates.set observerId eventIds
      memoryManager := manager.memoryManager.addEvents observerId eventIds.length }) manager

def evictOldestEvents (manager : RxJSWindowManager) (observerId : String) (count : Nat) :
    RxJSWindowManager :=
  match manager.windowStates.get? observerId with
  | none | some [] => manager
  | some eventIds =>
    -- The memory manager is not told of the events that were dropped.
    { manager with windowStates := manager.windowStates.set observerId (eventIds.drop count) }

end RxJSWindowManager

def memoryConfig : MemoryManagerConfig where
  maxEvents := 10000
  warningThreshold := 4 / 5
  evictionStrategy := .oldest

def targetEvents : Nat := (⌊(memoryConfig.maxEvents : ℚ) * (7 / 10)⌋).toNat

def performMemoryEviction (double : ℚ → ℚ) (manager : RxJSWindowManager) : RxJSWindowManager :=
  let evictCount := manager.memoryManager.getTotalEvents - targetEvents
  if evictCount = 0 then manager
  else
    (manager.memoryManager.getEvictionCandidates memoryConfig double evictCount).foldl
      (fun manager candidate =>
        manager.evictOldestEvents candidate.observerId candidate.evictCount) manager

end BitBrat
