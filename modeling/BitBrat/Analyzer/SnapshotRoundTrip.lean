import BitBrat.Analyzer.SnapshotManager
import BitBrat.Analyzer.SubscriptionManager
import BitBrat.Js.IsoDate

/-! What is restored after a sequence of snapshots, and what a shutdown leaves to be restored. -/

namespace BitBrat

open Js

/-- The documents after a sequence of snapshots, all of whose writes succeed. -/
def storedAfter (config : SnapshotManagerConfig) (history : List WindowStates) : WindowStates :=
  history.foldl (takeSnapshot config fun _ => true) .empty

/-- Exactly the states of the last snapshot are restored. -/
def RestoresLast (parseDate : String → Option Int) (config : SnapshotManagerConfig) (now : Int)
    (history : List WindowStates) (last : WindowStates) : Prop :=
  ∀ id, (restoreWindows parseDate config now (some (storedAfter config (history ++ [last])))).get?
    id = last.get? id

def latestState (history : List WindowStates) (observerId : String) : Option WindowState :=
  history.reverse.findSome? (·.get? observerId)

/-- The last snapshot is not stale, and whatever only earlier ones have is. -/
structure OnlyLastFresh (parseDate : String → Option Int) (config : SnapshotManagerConfig)
    (now : Int) (history : List WindowStates) (last : WindowStates) : Prop where
  fresh : ∀ id state, last.get? id = some state → state.stale parseDate config now = false
  stale : ∀ id state, last.get? id = none → latestState history id = some state →
    state.stale parseDate config now = true

structure AnalyzerManagers where
  windowManager : RxJSWindowManager
  times : String → WindowTimes
  subscriptionManager : SubscriptionManager

inductive ShutdownHook where
  | gracefulShutdown
  | other

structure EventStreamAnalyzerServer where
  managers : Option AnalyzerManagers
  snapshotTimer : Bool
  shutdownHooks : List ShutdownHook
  shutdownBound : Bool
  windowSnapshots : WindowStates

def snapshotConfig : SnapshotManagerConfig where
  enabled := true
  staleThresholdMs := some (600000 : ℕ)

namespace EventStreamAnalyzerServer

def trackedIds (server : EventStreamAnalyzerServer) (observerId : String) : List String :=
  (server.managers.map (·.windowManager.reportedIds observerId)).getD []

/-- End all windows and all subscriptions, as far as they have been set up. -/
def shutdown (server : EventStreamAnalyzerServer) : EventStreamAnalyzerServer :=
  { server with
    managers := server.managers.map fun managers =>
      { managers with
        windowManager := managers.windowManager.destroy
        -- An unsubscription that fails is logged, and forgotten like the others.
        subscriptionManager := .empty } }

/-- Stop the timer, take a last snapshot, and end all windows and subscriptions. -/
def gracefulShutdown (fulfilled : WindowState → Bool) (now : String)
    (server : EventStreamAnalyzerServer) : EventStreamAnalyzerServer :=
  match server.managers with
  -- Without managers, the first line of the log throws.
  | none => server
  | some managers =>
    let windowStates := managers.windowManager.getAllWindowStates managers.times now
    shutdown { server with
      snapshotTimer := false
      windowSnapshots :=
        if windowStates.values = [] then server.windowSnapshots
        else takeSnapshot snapshotConfig fulfilled server.windowSnapshots windowStates }

def runHook (fulfilled : WindowState → Bool) (now : String) (server : EventStreamAnalyzerServer) :
    ShutdownHook → EventStreamAnalyzerServer
  | .gracefulShutdown => server.gracefulShutdown fulfilled now
  | .other => server

def closeBit (fulfilled : WindowState → Bool) (now : String) (server : EventStreamAnalyzerServer) :
    EventStreamAnalyzerServer :=
  if server.shutdownBound then server
  else
    server.shutdownHooks.foldl (runHook fulfilled now)
      { server with shutdownBound := true, shutdownHooks := [] }

/-- Close the service, while writes of an earlier snapshot may still reach their documents. -/
def close (fulfilled : WindowState → Bool) (now : String) (underWay : List WindowState)
    (server : EventStreamAnalyzerServer) : EventStreamAnalyzerServer :=
  let ended := server.shutdown
  closeBit fulfilled now { ended with windowSnapshots := underWay.foldl .set ended.windowSnapshots }

end EventStreamAnalyzerServer

/-- After the service was closed, exactly what was tracked is stored. -/
def StoresTracked (fulfilled : WindowState → Bool) (now : String) (underWay : List WindowState)
    (server : EventStreamAnalyzerServer) : Prop :=
  ∀ id, (server.close fulfilled now underWay).windowSnapshots.eventIds id = server.trackedIds id

section

variable {parseDate : String → Option Int} {config : SnapshotManagerConfig} {now : Int}
  {history : List WindowStates} {last : WindowStates}

theorem get?_takeSnapshot (enabled : config.enabled = true) (fulfilled : WindowState → Bool)
    (stored windowStates : WindowStates) (id : String) :
    (takeSnapshot config fulfilled stored windowStates).get? id =
      ((windowStates.get? id).filter fulfilled).or (stored.get? id) := by
  rw [takeSnapshot, enabled]
  exact WindowStates.get?_foldl_set fulfilled windowStates stored id

theorem get?_storedAfter (enabled : config.enabled = true) (history : List WindowStates)
    (id : String) : (storedAfter config history).get? id = latestState history id := by
  -- The induction is on the end of the history, where the last snapshot is written over the rest.
  induction history using List.reverseRecOn with
  | nil => rfl
  | append_singleton history last ih =>
    rw [storedAfter, List.foldl_append, ← storedAfter, List.foldl_cons, List.foldl_nil,
      get?_takeSnapshot enabled, ih]
    cases found : last.get? id <;> simp [latestState, found]

theorem get?_restoreWindows (enabled : config.enabled = true) (snapshots : WindowStates)
    (id : String) :
    (restoreWindows parseDate config now (some snapshots)).get? id =
      (snapshots.get? id).filter fun snapshot => !snapshot.stale parseDate config now := by
  simp [restoreWindows, enabled, WindowStates.get?_foldl_set]

theorem get?_restoreWindows_of_disabled (disabled : config.enabled = false)
    (queried : Option WindowStates) (id : String) :
    (restoreWindows parseDate config now queried).get? id = none := by
  simp [restoreWindows, disabled]

theorem filter_or_eq_iff {α : Type} (stale : α → Bool) (latest earlier : Option α) :
    (latest.or earlier).filter (fun state => !stale state) = latest ↔
      (∀ state, latest = some state → stale state = false) ∧
        ∀ state, latest = none → earlier = some state → stale state = true := by
  cases latest with
  | some state => simp [Option.filter_eq_some_iff]
  | none => cases earlier <;> simp

theorem get?_restoreWindows_storedAfter (enabled : config.enabled = true) (id : String) :
    (restoreWindows parseDate config now (some (storedAfter config (history ++ [last])))).get? id =
      ((last.get? id).or (latestState history id)).filter
        fun snapshot => !snapshot.stale parseDate config now := by
  rw [get?_restoreWindows enabled, get?_storedAfter enabled]
  congr 1
  cases found : last.get? id <;> simp [latestState, found]

theorem restoresLast_iff :
    RestoresLast parseDate config now history last ↔
      if config.enabled then OnlyLastFresh parseDate config now history last
      else ∀ id, last.get? id = none := by
  simp only [RestoresLast]
  split
  · -- For each observer, only the last snapshot may count.
    rename_i enabled
    simp only [get?_restoreWindows_storedAfter enabled, filter_or_eq_iff, forall_and]
    constructor
    · intro both
      exact ⟨both.1, both.2⟩
    · intro only
      exact ⟨only.fresh, only.stale⟩
  · rename_i disabled
    simp only [get?_restoreWindows_of_disabled (by simpa using disabled), eq_comm]

end

namespace EventStreamAnalyzerServer

variable (server : EventStreamAnalyzerServer) (fulfilled : WindowState → Bool) (now : String)

/-- No window is left in which something is tracked. -/
def Ended (server : EventStreamAnalyzerServer) : Prop :=
  ∀ managers, server.managers = some managers → managers.windowManager.windowStates = .empty

theorem ended_shutdown : server.shutdown.Ended := by
  intro managers set_up
  obtain ⟨before, -, rfl⟩ := Option.map_eq_some_iff.mp set_up
  rfl

theorem runHook_of_ended {server : EventStreamAnalyzerServer} (ended : server.Ended)
    (hook : ShutdownHook) :
    (server.runHook fulfilled now hook).Ended ∧
      (server.runHook fulfilled now hook).windowSnapshots = server.windowSnapshots := by
  cases hook with
  | other => exact ⟨ended, rfl⟩
  | gracefulShutdown =>
    simp only [runHook, gracefulShutdown]
    split
    · exact ⟨ended, rfl⟩
    · rename_i managers set_up
      refine ⟨ended_shutdown _, ?_⟩
      -- The last snapshot has no states.
      have nothing :
          (managers.windowManager.getAllWindowStates managers.times now).values = [] := by
        simp [WindowStates.values, RxJSWindowManager.getAllWindowStates, ended managers set_up,
          OrderedMap.empty]
      simp only [shutdown, if_pos nothing]

theorem foldl_runHook_of_ended {server : EventStreamAnalyzerServer} (ended : server.Ended)
    (hooks : List ShutdownHook) :
    (hooks.foldl (runHook fulfilled now) server).windowSnapshots = server.windowSnapshots := by
  induction hooks generalizing server with
  | nil => rfl
  | cons hook rest ih =>
    obtain ⟨still_ended, same⟩ := runHook_of_ended fulfilled now ended hook
    rw [List.foldl_cons, ih still_ended, same]

theorem windowSnapshots_close (underWay : List WindowState) :
    (server.close fulfilled now underWay).windowSnapshots =
      underWay.foldl .set server.windowSnapshots := by
  simp only [close, closeBit]
  split
  · rfl
  · -- The windows have been ended by the time the first hook is run.
    rw [foldl_runHook_of_ended]
    · rfl
    · exact ended_shutdown server

theorem storesTracked_iff (underWay : List WindowState) :
    StoresTracked fulfilled now underWay server ↔ ∀ id,
      (underWay.foldl .set server.windowSnapshots : WindowStates).eventIds id =
        server.trackedIds id := by
  simp only [StoresTracked, windowSnapshots_close]

end EventStreamAnalyzerServer

/-- The last snapshot is restored exactly when it is fresh and all that it lacks is stale, and
closing the service leaves what is tracked exactly when it was stored anyway. -/
theorem snapshotRoundTrip_iff (parseDate : String → Option Int) (config : SnapshotManagerConfig)
    (now : Int) (history : List WindowStates) (last : WindowStates)
    (server : EventStreamAnalyzerServer) (fulfilled : WindowState → Bool) (closedAt : String)
    (underWay : List WindowState) :
    (RestoresLast parseDate config now history last ↔
        if config.enabled then OnlyLastFresh parseDate config now history last
        else ∀ id, last.get? id = none) ∧
      (StoresTracked fulfilled closedAt underWay server ↔ ∀ id,
        (underWay.foldl .set server.windowSnapshots : WindowStates).eventIds id =
          server.trackedIds id) :=
  ⟨restoresLast_iff, server.storesTracked_iff fulfilled closedAt underWay⟩

def snapshotOf (observerId eventId : String) (ms : Int) : WindowStates :=
  .set .empty {
    observerId
    eventIds := [eventId]
    eventCount := 1
    windowStartedAt := toISOString ms
    lastEventAt := toISOString ms
    snapshotAt := toISOString ms }

def trackingServer : EventStreamAnalyzerServer where
  managers := some {
    windowManager := RxJSWindowManager.empty.trackEventAdded "raids" "e-1"
    times := fun _ => { windowStartedAt := toISOString 0, lastEventAt := toISOString 0 }
    subscriptionManager := .empty }
  snapshotTimer := true
  shutdownHooks := [.gracefulShutdown]
  shutdownBound := false
  windowSnapshots := .empty

/-- One minute after the second snapshot, the observer of the first one is restored as well, and
a service that is closed in its first minutes stores nothing. -/
theorem snapshotRoundTrip_fails :
    ¬ (∀ history last, (∀ id state, last.get? id = some state →
          state.stale ofISOString snapshotConfig 360000 = false) →
        RestoresLast ofISOString snapshotConfig 360000 history last) ∧
      ¬ ∀ server, StoresTracked (fun _ => true) (toISOString 360000) [] server := by
  constructor
  · -- The window of the first observer has closed before the second snapshot.
    intro all
    have restored := all [snapshotOf "raids" "e-1" 0] (snapshotOf "follows" "e-2" 300000) (by
      intro id state found
      rw [snapshotOf, WindowStates.get?_set] at found
      split at found
      · obtain rfl := Option.some.inj found
        decide +kernel
      · simp at found) "raids"
    revert restored
    decide +kernel
  · -- The windows are gone before the hook looks at them.
    intro all
    have stored := all trackingServer "raids"
    revert stored
    decide +kernel

end BitBrat
