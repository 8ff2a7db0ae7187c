import BitBrat.Types.Event

/-! Consumer-side dedupe: the key of a delivery, and the process-wide store of keys seen. -/

namespace BitBrat

open Js

/-- The environment of the dedupe store, with its numbers already read from their texts. -/
structure DedupeEnv where
  MESSAGE_DEDUP_DISABLE : String := ""
  MESSAGE_DEDUP_TTL_MS : Number := .finite 600000
  MESSAGE_DEDUP_MAX : Number := .finite 5000

def isDedupeDisabled (env : DedupeEnv) : Bool := env.MESSAGE_DEDUP_DISABLE.toLower = "1"

/-- A positive finite setting rounded down, or the default. -/
def positiveFloor (setting : Number) (fallback : Int) : Int :=
  match setting with
  | .finite value => if 0 < value then value.floor else fallback
  | _ => fallback

/-- The time that an entry stays fresh, in milliseconds. -/
def getDedupeTtlMs (env : DedupeEnv) : Int := positiveFloor env.MESSAGE_DEDUP_TTL_MS 600000

def getDedupeMax (env : DedupeEnv) : Int := positiveFloor env.MESSAGE_DEDUP_MAX 5000

/-- The first non-empty attribute among several names. -/
def pick (attrs : AttributeMap) (names : List String) : Option String :=
  names.findSome? fun name => (attrs.get? name).bind nonEmpty

def idempotencyKeyNames : List String :=
  ["idempotencyKey", "IdempotencyKey", "idempotency-key", "Idempotency-Key"]

def correlationIdNames : List String :=
  ["correlationId", "CorrelationId", "correlation-id", "Correlation-Id"]

/-- The canonical key of a message, empty when nothing identifies it. -/
def buildDedupeKey (attrs : AttributeMap) (fallbackId : Option String) : String :=
  match pick attrs idempotencyKeyNames with
  | some explicit => explicit
  -- Without an explicit key the correlation is taken, and then the transport.
  | none =>
    match pick attrs correlationIdNames with
    | some correlationId =>
      let step := (pick attrs ["step", "Step"]).getD ""
      let attempt := (pick attrs ["attempt", "Attempt"]).getD ""
      correlationId ++ "::" ++ step ++ "::" ++ attempt
    | none =>
      match fallbackId.bind nonEmpty with
      | some transportId => "id:" ++ transportId
      | none => ""

/-- The keys seen by this process, with the time each was last seen. -/
structure DedupeStore where
  map : OrderedMap String Int
  lastPrune : Int

def DedupeStore.empty : DedupeStore := { map := .empty, lastPrune := 0 }

/-- Forget stale keys, and the oldest tenth when too many are left. -/
def DedupeStore.prune (env : DedupeEnv) (now : Int) (store : DedupeStore) : DedupeStore :=
  let ttl := getDedupeTtlMs env
  let max := getDedupeMax env
  if max < store.map.size ∨ min ttl 30000 < now - store.lastPrune then
    let fresh := store.map.filter fun entry => ¬ ttl < now - entry.2
    let kept := if max < fresh.size then fresh.dropOldest (max * 9 / 10).toNat else fresh
    { map := kept, lastPrune := now }
  else store

def DedupeStore.holds (env : DedupeEnv) (now : Int) (key : String) (store : DedupeStore) : Bool :=
  match (store.prune env now).map.get? key with
  -- A time of zero reads as no time at all.
  | some seen => seen ≠ 0 ∧ now - seen ≤ getDedupeTtlMs env
  | none => false

/-- Record a key, and report whether the delivery that carries it is to be dropped. -/
def dedupeShouldDrop (env : DedupeEnv) (key : String) (now : Int) (store : DedupeStore) :
    DedupeStore × Bool :=
  if key = "" then (store, false)
  else
    let store := store.prune env now
    let seen := { store with map := store.map.set key now }
    match store.map.get? key with
    -- Both answers refresh the time, which extends the window of a key that keeps coming.
    | some previous =>
      if previous ≠ 0 ∧ now - previous ≤ getDedupeTtlMs env then (seen, true) else (seen, false)
    | none => (seen, false)

variable {key : String}

theorem dedupeShouldDrop_eq_holds (env : DedupeEnv) (identified : key ≠ "") (now : Int)
    (store : DedupeStore) : (dedupeShouldDrop env key now store).2 = store.holds env now key := by
  unfold dedupeShouldDrop DedupeStore.holds
  rw [if_neg identified]
  -- The pruning goes before the look-up in both.
  cases found : (store.prune env now).map.get? key with
  | none => simp [found]
  | some seen =>
    simp only [found]
    split <;> simp_all

theorem pick_eq_none {attrs : AttributeMap} {names : List String}
    (absent : ∀ name ∈ names, ∀ value, attrs.get? name = some value → value = "") :
    pick attrs names = none := by
  refine List.findSome?_eq_none_iff.mpr fun name member => ?_
  cases found : attrs.get? name with
  | none => rfl
  | some value =>
    rw [absent name member value found]
    rfl

variable {env : DedupeEnv} {now : Int} {store : DedupeStore}

theorem get?_of_prune {seen : Int} (found : (store.prune env now).map.get? key = some seen) :
    store.map.get? key = some seen := by
  unfold DedupeStore.prune at found
  dsimp only at found
  split at found
  · split at found
    · exact OrderedMap.get?_of_filter (OrderedMap.get?_of_dropOldest found)
    · exact OrderedMap.get?_of_filter found
  · exact found

theorem get?_of_dedupeShouldDrop {other : String} {seen : Int} (apart : other ≠ key)
    (found : (dedupeShouldDrop env key now store).1.map.get? other = some seen) :
    store.map.get? other = some seen := by
  unfold dedupeShouldDrop at found
  split at found
  · exact found
  · dsimp only at found
    -- Every answer leaves the pruned store with this one key refreshed.
    split at found
    · split at found <;> exact get?_of_prune (by simpa [apart] using found)
    · exact get?_of_prune (by simpa [apart] using found)

theorem dedupeShouldDrop_of_absent (absent : store.map.get? key = none) :
    (dedupeShouldDrop env key now store).2 = false := by
  unfold dedupeShouldDrop
  split
  · rfl
  · cases found : (store.prune env now).map.get? key with
    | none => simp [found]
    | some seen =>
      -- Pruning adds nothing.
      rw [get?_of_prune found] at absent
      cases absent

end BitBrat
