import Mathlib.Data.List.Induction
import BitBrat.Machine.Run
import BitBrat.Mcp.Rbac

/-! The watcher of the server registry, which tells what changed from one snapshot to the next. -/

namespace BitBrat

open Js

inductive WatcherCallback where
  | onServerActive (name : String) (config : Value)
  | onServerInactive (name : String)
  deriving DecidableEq

def WatcherCallback.server : WatcherCallback → String
  | .onServerActive name _ => name
  | .onServerInactive name => name

def WatcherCallback.config : WatcherCallback → Option Value
  | .onServerActive _ config => some config
  | .onServerInactive _ => none

def isInactiveConfig (config : Value) : Bool :=
  (config.get "status").or (.str "active") = .str "inactive"

def invalidConfig (config : Value) : Option String :=
  let transport := (config.get "transport").or (.str "stdio")
  if transport = .str "stdio" ∧ ¬ (config.get "command").truthy then
    some "Stdio transport requires a command"
  else if transport = .str "sse" ∧ ¬ (config.get "url").truthy then
    some "SSE transport requires a URL"
  else none

def isActiveConfig (config : Value) : Bool :=
  !isInactiveConfig config && invalidConfig config = none

structure RegistryWatcher where
  previousConfigs : OrderedMap String Value := .empty
  callbacks : List WatcherCallback := []

namespace RegistryWatcher

def processConfig (stringify : Value → String) (watcher : RegistryWatcher)
    (entry : String × Value) : RegistryWatcher :=
  let (name, config) := entry
  -- An inactive server is told of in every snapshot, not only in the first one.
  if isInactiveConfig config then
    { previousConfigs := watcher.previousConfigs.erase name
      callbacks := watcher.callbacks ++ [.onServerInactive name] }
  -- An invalid configuration is logged, and nothing else happens.
  else if (invalidConfig config).isSome then watcher
  else
    -- Configurations are compared as texts.
    let configChanged := (watcher.previousConfigs.get? name).all fun previous =>
      stringify previous ≠ stringify config
    if configChanged then
      { previousConfigs := watcher.previousConfigs.set name config
        callbacks := watcher.callbacks ++ [.onServerActive name config] }
    else watcher

def removedNames (watcher : RegistryWatcher) (configs : OrderedMap String Value) : List String :=
  (watcher.previousConfigs.entries.map Prod.fst).filter fun name => (configs.get? name).isNone

/-- A snapshot of the registry, with the configurations by their names. -/
def snapshot (stringify : Value → String) (watcher : RegistryWatcher)
    (configs : OrderedMap String Value) : RegistryWatcher :=
  let removed := watcher.removedNames configs
  -- The configuration of a removed server is still remembered.
  configs.entries.foldl (processConfig stringify)
    { watcher with callbacks := watcher.callbacks ++ removed.map .onServerInactive }

end RegistryWatcher

def lastCallback (callbacks : List WatcherCallback) (name : String) : Option WatcherCallback :=
  (callbacks.filter (·.server = name)).getLast?

theorem lastCallback_append (before after : List WatcherCallback) (name : String) :
    lastCallback (before ++ after) name =
      (lastCallback after name).or (lastCallback before name) := by
  rw [lastCallback, List.filter_append, List.getLast?_append]
  rfl

theorem lastCallback_singleton (callback : WatcherCallback) (name : String) :
    lastCallback [callback] name = if callback.server = name then some callback else none := by
  by_cases own : callback.server = name
  · simp [lastCallback, own]
  · simp [lastCallback, own]

theorem lastCallback_inactive (names : List String) (name : String) :
    lastCallback (names.map .onServerInactive) name =
      if name ∈ names then some (.onServerInactive name) else none := by
  -- The induction is on the names, from the last call back to the first.
  induction names with
  | nil => rfl
  | cons first rest ih =>
    rw [List.map_cons, ← List.singleton_append, lastCallback_append, lastCallback_singleton, ih]
    by_cases later : name ∈ rest
    · simp [later]
    · by_cases here : first = name
      · subst here
        simp [WatcherCallback.server, later]
      · simp [WatcherCallback.server, later, here, Ne.symm here]

/-- The servers whose last call activated them, with the configuration of that call. -/
def RegistryWatcher.activeConfig (watcher : RegistryWatcher) (name : String) : Option Value :=
  (lastCallback watcher.callbacks name).bind WatcherCallback.config

/-! The servers that the watcher has activated, next to the snapshot that it has seen last. -/

open Js Machine

/-- The servers whose last call activated them are those of the snapshot that should be active,
with the same configuration text. -/
def Converged (stringify : Value → String) (watcher : RegistryWatcher)
    (configs : OrderedMap String Value) : Prop :=
  ∀ name, (watcher.activeConfig name).map stringify =
    ((configs.get? name).filter isActiveConfig).map stringify

/-- No server that is active has become invalid, and none that is not comes back unchanged. -/
def SnapshotFits (stringify : Value → String) (watcher : RegistryWatcher)
    (configs : OrderedMap String Value) : Prop :=
  ∀ entry ∈ configs.entries, isInactiveConfig entry.2 = false →
    if (invalidConfig entry.2).isSome then watcher.activeConfig entry.1 = none
    else ((watcher.previousConfigs.get? entry.1).any fun previous =>
      stringify previous = stringify entry.2) = true → watcher.activeConfig entry.1 ≠ none

structure ServerView where
  previous : Option Value
  active : Option Value

def RegistryWatcher.view (watcher : RegistryWatcher) (name : String) : ServerView where
  previous := watcher.previousConfigs.get? name
  active := watcher.activeConfig name

def ServerView.process (stringify : Value → String) (view : ServerView) (config : Value) :
    ServerView :=
  if isInactiveConfig config then { previous := none, active := none }
  else if (invalidConfig config).isSome then view
  else if view.previous.all fun previous => stringify previous ≠ stringify config then
    { previous := some config, active := some config }
  else view

/-- What a snapshot does to the view of a server, which may have no configuration in it. -/
def ServerView.snapshot (stringify : Value → String) (view : ServerView) :
    Option Value → ServerView
  | none => { view with active := if view.previous.isSome then none else view.active }
  | some config => view.process stringify config

section

variable {stringify : Value → String} {watcher : RegistryWatcher}

theorem view_processConfig_self (watcher : RegistryWatcher) (name : String)
    (config : Value) : (watcher.processConfig stringify (name, config)).view name =
      (watcher.view name).process stringify config := by
  -- The cases are the branches of the watcher, each for the server of the configuration.
  simp only [RegistryWatcher.processConfig, ServerView.process]
  by_cases inactive : isInactiveConfig config = true
  · rw [if_pos inactive, if_pos inactive]
    simp [RegistryWatcher.view, RegistryWatcher.activeConfig, lastCallback_append,
      lastCallback_singleton, WatcherCallback.server, WatcherCallback.config,
      OrderedMap.get?_erase]
  · rw [if_neg inactive, if_neg inactive]
    by_cases invalid : (invalidConfig config).isSome = true
    · rw [if_pos invalid, if_pos invalid]
    · rw [if_neg invalid, if_neg invalid]
      -- The watcher and the view compare the same two texts.
      split
      · rename_i changed
        have view_changed : ((watcher.view name).previous.all fun previous =>
            stringify previous ≠ stringify config) = true := changed
        rw [if_pos view_changed]
        simp [RegistryWatcher.view, RegistryWatcher.activeConfig, lastCallback_append,
          lastCallback_singleton, WatcherCallback.server, WatcherCallback.config]
      · rename_i unchanged
        have view_unchanged : ¬ ((watcher.view name).previous.all fun previous =>
            stringify previous ≠ stringify config) = true := unchanged
        rw [if_neg view_unchanged]

theorem view_processConfig_of_ne (watcher : RegistryWatcher) {name other : String}
    (apart : other ≠ name) (config : Value) :
    (watcher.processConfig stringify (name, config)).view other = watcher.view other := by
  simp only [RegistryWatcher.processConfig]
  -- A call is for the server of the configuration alone.
  split
  · simp [RegistryWatcher.view, RegistryWatcher.activeConfig, lastCallback_append,
      lastCallback_singleton, WatcherCallback.server, OrderedMap.get?_erase, apart, Ne.symm apart]
  · split
    · rfl
    · split
      · simp [RegistryWatcher.view, RegistryWatcher.activeConfig, lastCallback_append,
          lastCallback_singleton, WatcherCallback.server, apart, Ne.symm apart]
      · rfl

theorem view_foldl_processConfig (watcher : RegistryWatcher)
    {entries : List (String × Value)} (distinct : (entries.map Prod.fst).Nodup) (name : String) :
    (entries.foldl (RegistryWatcher.processConfig stringify) watcher).view name =
      match entries.lookup name with
      | none => watcher.view name
      | some config => (watcher.view name).process stringify config := by
  -- The induction is on the entries, where a name is met at most once.
  induction entries generalizing watcher with
  | nil => rfl
  | cons entry rest ih =>
    obtain ⟨server, config⟩ := entry
    rw [List.map_cons, List.nodup_cons] at distinct
    rw [List.foldl_cons, ih _ distinct.2]
    by_cases own : name = server
    · -- The rest of the entries say nothing of the server.
      subst own
      have absent : rest.lookup name = none := lookup_eq_none_iff_not_mem.mpr distinct.1
      rw [absent, List.lookup_cons_self]
      exact view_processConfig_self watcher name config
    · have skipped : (name == server) = false := by simpa using own
      rw [List.lookup_cons, skipped, view_processConfig_of_ne watcher own]

theorem mem_removedNames {configs : OrderedMap String Value} {name : String} :
    name ∈ watcher.removedNames configs ↔
      (watcher.previousConfigs.get? name).isSome = true ∧ configs.get? name = none := by
  rw [RegistryWatcher.removedNames, List.mem_filter]
  refine and_congr ?_ Option.isNone_iff_eq_none
  rw [Option.isSome_iff_ne_none, OrderedMap.get?, ne_eq, lookup_eq_none_iff_not_mem, not_not]

theorem view_snapshot (watcher : RegistryWatcher) (configs : OrderedMap String Value)
    (name : String) :
    (watcher.snapshot stringify configs).view name =
      (watcher.view name).snapshot stringify (configs.get? name) := by
  rw [RegistryWatcher.snapshot, view_foldl_processConfig _ configs.distinct]
  -- First the removed servers are told, and then the configurations are processed.
  have told : RegistryWatcher.view
      { watcher with
        callbacks := watcher.callbacks ++
          (watcher.removedNames configs).map .onServerInactive } name =
      { watcher.view name with
        active := if name ∈ watcher.removedNames configs then none
          else watcher.activeConfig name } := by
    simp only [RegistryWatcher.view, RegistryWatcher.activeConfig, lastCallback_append,
      lastCallback_inactive]
    by_cases removed : name ∈ watcher.removedNames configs
    · simp [removed, WatcherCallback.config]
    · simp [removed]
  rw [told]
  cases found : configs.get? name with
  | none =>
    have lookup : configs.entries.lookup name = none := found
    by_cases known : (watcher.previousConfigs.get? name).isSome = true
    · simp [lookup, ServerView.snapshot, mem_removedNames, found, RegistryWatcher.view, known]
    · simp [lookup, ServerView.snapshot, mem_removedNames, found, RegistryWatcher.view, known]
  | some config =>
    have lookup : configs.entries.lookup name = some config := found
    simp [lookup, ServerView.snapshot, mem_removedNames, found, RegistryWatcher.view]

theorem activeConfig_snapshot (watcher : RegistryWatcher)
    (configs : OrderedMap String Value) (name : String) :
    (watcher.snapshot stringify configs).activeConfig name =
      ((watcher.view name).snapshot stringify (configs.get? name)).active :=
  congrArg ServerView.active (view_snapshot watcher configs name)

def ServerView.Remembered (stringify : Value → String) (view : ServerView) : Prop :=
  view.active = none ∨ view.active.map stringify = view.previous.map stringify

theorem ServerView.Remembered.snapshot {view : ServerView} (remembered : view.Remembered stringify)
    (config : Option Value) : (view.snapshot stringify config).Remembered stringify := by
  -- A server becomes active only when its configuration is remembered.
  cases config with
  | none =>
    cases previous : view.previous with
    | none =>
      -- Nothing was remembered, so nothing was active.
      have inactive : view.active = none := by
        rcases remembered with none | same
        · exact none
        · simpa [previous] using same
      exact .inl (by simp [ServerView.snapshot, inactive])
    | some stored => exact .inl (by simp [ServerView.snapshot, previous])
  | some config =>
    simp only [ServerView.snapshot, ServerView.process]
    split
    · exact .inl rfl
    · split
      · exact remembered
      · split
        · exact .inr rfl
        · exact remembered

private theorem ServerView.Remembered.snapshot_converged_iff {view : ServerView}
    (remembered : view.Remembered stringify) (config : Option Value) :
    (view.snapshot stringify config).active.map stringify =
        (config.filter isActiveConfig).map stringify ↔
      ∀ present ∈ config, isInactiveConfig present = false →
        if (invalidConfig present).isSome then view.active = none
        else (view.previous.any fun previous => stringify previous = stringify present) = true →
          view.active ≠ none := by
  -- Two branches go wrong: an invalid configuration, and one that seems unchanged.
  cases config with
  | none =>
    -- A server that is not in the snapshot is told to be inactive, or was never active.
    have inactive : (view.snapshot stringify none).active = none := by
      cases previous : view.previous with
      | none =>
        rcases remembered with none | same
        · simp [ServerView.snapshot, none]
        · simpa [ServerView.snapshot, previous] using same
      | some stored => simp [ServerView.snapshot, previous]
    simp [inactive]
  | some config =>
    have one : ∀ fits : Value → Prop, (∀ present ∈ some config, fits present) ↔ fits config := by
      simp
    rw [one]
    simp only [ServerView.snapshot, ServerView.process]
    by_cases inactive : isInactiveConfig config = true
    · simp [inactive, isActiveConfig]
    · have on : isInactiveConfig config = false := by simpa using inactive
      by_cases invalid : (invalidConfig config).isSome = true
      · -- An invalid configuration changes nothing.
        have off : isActiveConfig config = false := by
          simp [isActiveConfig, Option.isSome_iff_ne_none.mp invalid]
        have dropped : (some config).filter isActiveConfig = none := by simp [off]
        simp [on, invalid, dropped]
      · have valid : invalidConfig config = none := by simpa using invalid
        have active : isActiveConfig config = true := by simp [isActiveConfig, on, valid]
        cases previous : view.previous with
        | none =>
          -- A server that is not remembered is activated.
          simp [on, valid, active]
        | some stored =>
          by_cases same : stringify stored = stringify config
          · -- An unchanged configuration leaves the server as it was.
            rcases remembered with none | equal
            · simp [on, valid, active, same, none]
            · rw [previous, Option.map_some] at equal
              have on_already : view.active ≠ none := by
                intro none
                simp [none] at equal
              simp [on, valid, active, same, equal, on_already]
          · simp [on, valid, active, same]

end

/-- The watcher has converged after every snapshot exactly when every snapshot fits. -/
theorem converged_along_iff (stringify : Value → String)
    (snapshots : List (OrderedMap String Value)) :
    Along (RegistryWatcher.snapshot stringify)
        (fun watcher configs => Converged stringify (watcher.snapshot stringify configs) configs)
        {} snapshots ↔
      Along (RegistryWatcher.snapshot stringify) (SnapshotFits stringify) {} snapshots := by
  -- What is active is remembered, in every run.
  refine along_congr (fun watcher => ∀ name, (watcher.view name).Remembered stringify)
    (fun watcher configs remembered _ name => ?_) (fun watcher configs remembered => ?_)
    (fun _ => .inl rfl) snapshots
  · rw [view_snapshot]
    exact (remembered name).snapshot _
  · constructor
    · -- Every entry of the snapshot is what its own name reads.
      intro converged entry member
      have found : configs.get? entry.1 = some entry.2 := lookup_of_mem configs.distinct member
      have own := converged entry.1
      rw [activeConfig_snapshot] at own
      exact ((remembered entry.1).snapshot_converged_iff _).mp own entry.2 found
    · intro fits name
      rw [activeConfig_snapshot]
      refine ((remembered name).snapshot_converged_iff _).mpr fun present found => ?_
      exact fits (name, present) (mem_of_lookup found)

/-- A server that is removed and comes back unchanged is not activated again. -/
theorem readded_server_stays_inactive :
    ¬ ∀ (stringify : Value → String) (snapshots : List (OrderedMap String Value)),
      Along (RegistryWatcher.snapshot stringify)
        (fun watcher configs => Converged stringify (watcher.snapshot stringify configs) configs)
        {} snapshots := by
  intro converges
  let obs : Value := .obj [("name", .str "obs"), ("command", .str "obs-mcp")]
  have readded := (converges stringifyTexts [OrderedMap.empty.set "obs" obs, .empty,
    OrderedMap.empty.set "obs" obs]).2.2.1 "obs"
  revert readded
  decide +kernel

end BitBrat
