import BitBrat.Analyzer.WindowManager
import BitBrat.Js.Assignment

/-! The snapshots of the windows: how they are taken, and what is restored from them. -/

namespace BitBrat

open Js

structure WindowState where
  observerId : String
  eventIds : List String
  eventCount : Nat
  windowStartedAt : String
  lastEventAt : String
  snapshotAt : String
  deriving DecidableEq

structure SnapshotManagerConfig where
  enabled : Bool
  staleThresholdMs : Option ℚ≥0 := none

structure WindowStates where
  states : OrderedMap String WindowState
  keyed : ∀ entry ∈ states.entries, entry.2.observerId = entry.1

namespace WindowStates

def empty : WindowStates where
  states := .empty
  keyed := by simp [OrderedMap.empty]

def get? (windows : WindowStates) (observerId : String) : Option WindowState :=
  windows.states.get? observerId

def values (windows : WindowStates) : List WindowState := windows.states.entries.map Prod.snd

def set (windows : WindowStates) (state : WindowState) : WindowStates where
  states := windows.states.set state.observerId state
  keyed := by
    intro entry is_entry
    have found := lookup_of_mem (windows.states.set state.observerId state).distinct is_entry
    rw [← OrderedMap.get?, OrderedMap.get?_set] at found
    split at found
    · rename_i same
      rw [same, ← Option.some.inj found]
    · exact windows.keyed entry (mem_of_lookup found)

def eventIds (windows : WindowStates) (observerId : String) : List String :=
  ((windows.get? observerId).map (·.eventIds)).getD []

@[simp] theorem get?_empty (observerId : String) : empty.get? observerId = none := rfl

theorem get?_set (windows : WindowStates) (state : WindowState) (observerId : String) :
    (windows.set state).get? observerId =
      if observerId = state.observerId then some state else windows.get? observerId :=
  OrderedMap.get?_set windows.states state.observerId observerId state

theorem get?_foldl_set (keep : WindowState → Bool) (windows stored : WindowStates)
    (observerId : String) :
    ((windows.values.filter keep).foldl set stored).get? observerId =
      ((windows.get? observerId).filter keep).or (stored.get? observerId) := by
  -- What is put in are the entries that are kept, each under its own observer.
  have written (list : List WindowState) (before : WindowStates) :
      (list.foldl set before).states.entries =
        (list.map fun state => (state.observerId, state)).foldl
          (fun held entry => setEntry entry.1 entry.2 held) before.states.entries := by
    induction list generalizing before with
    | nil => rfl
    | cons state rest ih => exact ih (before.set state)
  have entries : (windows.values.filter keep).map (fun state => (state.observerId, state)) =
      (windows.states.filter fun entry => keep entry.2).entries := by
    rw [values, List.filter_map, List.map_map]
    conv_rhs => rw [← List.map_id (windows.states.filter fun entry => keep entry.2).entries]
    apply List.map_congr_left
    intro entry is_entry
    exact Prod.ext (windows.keyed entry (List.mem_filter.mp is_entry).1) rfl
  have found := OrderedMap.get?_filter windows.states (fun entry => keep entry.2) observerId
  simp only [get?, OrderedMap.get?, written, entries, lookup_foldl_setEntry] at found ⊢
  rw [lastAssigned_eq_lookup (OrderedMap.distinct _), found]

end WindowStates

/-- When the windows of an observer got their first and their last event. -/
structure WindowTimes where
  windowStartedAt : String
  lastEventAt : String

def trackedState (times : String → WindowTimes) (snapshotAt observerId : String)
    (eventIds : List String) : WindowState where
  observerId := observerId
  eventIds := eventIds
  eventCount := eventIds.length
  windowStartedAt := (times observerId).windowStartedAt
  lastEventAt := (times observerId).lastEventAt
  snapshotAt := snapshotAt

namespace RxJSWindowManager

def reportedIds (manager : RxJSWindowManager) (observerId : String) : List String :=
  (manager.windowStates.get? observerId).getD []

/-- The states of all windows, with the times that are tracked beside the identifiers. -/
def getAllWindowStates (manager : RxJSWindowManager) (times : String → WindowTimes)
    (snapshotAt : String) : WindowStates where
  states := {
    entries := manager.windowStates.entries.map fun tracked =>
      (tracked.1, trackedState times snapshotAt tracked.1 tracked.2)
    distinct := by
      rw [List.map_map]
      exact manager.windowStates.distinct }
  keyed := by
    intro entry is_entry
    obtain ⟨tracked, -, rfl⟩ := List.mem_map.mp is_entry
    rfl

/-- Unsubscribe all pipelines, and forget what was tracked. -/
def destroy (manager : RxJSWindowManager) : RxJSWindowManager :=
  { manager with
    -- The subject completes, so that a pipeline that is not registered ends as well.
    streams := []
    subscriptions := .empty
    windowStates := .empty }

end RxJSWindowManager

def takeSnapshot (config : SnapshotManagerConfig) (fulfilled : WindowState → Bool)
    (stored windowStates : WindowStates) : WindowStates :=
  if !config.enabled then stored
  else
    -- The documents of observers that have no windows any more are left as they are.
    (windowStates.values.filter fulfilled).foldl .set stored

def SnapshotManagerConfig.staleThreshold (config : SnapshotManagerConfig) : ℚ≥0 :=
  durationOr config.staleThresholdMs 600000

def WindowState.stale (parseDate : String → Option Int) (config : SnapshotManagerConfig)
    (now : Int) (state : WindowState) : Bool :=
  match parseDate state.snapshotAt with
  -- An age that is not a number is not above any threshold.
  | none => false
  | some time => (config.staleThreshold : ℚ) < ((now - time : Int) : ℚ)

/-- Read all documents, and keep those that are not stale. -/
def restoreWindows (parseDate : String → Option Int) (config : SnapshotManagerConfig) (now : Int)
    (queried : Option WindowStates) : WindowStates :=
  if !config.enabled then .empty
  else
    match queried with
    -- A query that fails is a cold start.
    | none => .empty
    | some snapshots =>
      (snapshots.values.filter fun snapshot => !snapshot.stale parseDate config now).foldl .set
        .empty

end BitBrat
