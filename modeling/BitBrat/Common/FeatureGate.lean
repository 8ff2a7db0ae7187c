import BitBrat.Brat.ServiceMerge
import BitBrat.Machine.Run
import BitBrat.Release.VersionFiles

/-! Feature flags, and the cache of the values that they had. -/

namespace BitBrat

open Js Machine

def TRUTHY : List String := ["1", "true", "yes", "on"]

def FALSY : List String := ["0", "false", "no", "off"]

def parseBool (val : Option String) (fallback : Bool) : Bool :=
  match val with
  | none => fallback
  | some text =>
    let v := (trimmedText text).toLower
    if v ∈ TRUTHY then true else if v ∈ FALSY then false else fallback

structure FlagEntry where
  key : String
  env : Option (List String)
  default : Option Bool

def CANONICAL_TO_ENVS (flags : List FlagEntry) : OrderedMap String (List String) :=
  flags.foldl (fun map flag => map.set flag.key (flag.env.getD [])) .empty

def DEFAULTS (flags : List FlagEntry) : OrderedMap String Bool :=
  flags.foldl (fun map flag => map.set flag.key (flag.default.getD false)) .empty

/-- A gate: where it reads variables, what is overridden, and the values it has found. -/
structure FeatureGate where
  env : String → Option String
  overrides : OrderedMap String String := .empty
  cache : OrderedMap String Bool := .empty

namespace FeatureGate

/-- The text that sets a flag: an override, or else the first of its variables that is there. -/
def rawValue (flags : List FlagEntry) (gate : FeatureGate) (key : String) :
    Except String (Option String) :=
  match gate.overrides.get? key with
  | some ov => .ok (some ov)
  | none =>
    match (CANONICAL_TO_ENVS flags).get? key with
    | some envNames => .ok (envNames.findSome? gate.env)
    -- What every object has under such a name is no list of variables.
    | none => if key ∈ OBJECT_PROTOTYPE then .error "envNames is not iterable" else .ok none

def caches (flags : List FlagEntry) (key : String) (raw : Option String) : Bool :=
  ((DEFAULTS flags).get? key).isSome || raw.isSome

/-- Whether a flag is on, and the gate after the call. -/
def enabled (flags : List FlagEntry) (gate : FeatureGate) (key : String)
    (fallback : Option Bool) : Except String Bool × FeatureGate :=
  match gate.rawValue flags key with
  | .error message => (.error message, gate)
  | .ok raw =>
    match if caches flags key raw then gate.cache.get? key else none with
    | some value => (.ok value, gate)
    | none =>
      let val := parseBool raw (((DEFAULTS flags).get? key).getD (fallback.getD false))
      (.ok val,
        if caches flags key raw then { gate with cache := gate.cache.set key val } else gate)

/-- Whether a flag is on, by a gate that caches nothing. -/
def uncached (flags : List FlagEntry) (gate : FeatureGate) (key : String)
    (fallback : Option Bool) : Except String Bool :=
  (gate.rawValue flags key).map fun raw =>
    parseBool raw (((DEFAULTS flags).get? key).getD (fallback.getD false))

def setOverride (gate : FeatureGate) (key : String) (value : Option String) : FeatureGate where
  env := gate.env
  overrides :=
    match value with
    | none => gate.overrides.erase key
    | some text => gate.overrides.set key text
  cache := gate.cache.erase key

end FeatureGate

inductive GateCall where
  | enabled (key : String) (fallback : Option Bool)
  | setOverride (key : String) (value : Option String)
  | reset
  | setEnvProvider (env : String → Option String)

/-- A gate, and the fallback of the first question about each key since the key was cleared. -/
structure AskedGate where
  gate : FeatureGate
  asked : String → Option Bool := fun _ => none

def AskedGate.step (flags : List FlagEntry) (state : AskedGate) : GateCall → AskedGate
  | .enabled key fallback =>
    { gate := (state.gate.enabled flags key fallback).2
      asked := fun other =>
        if other = key then some ((state.asked key).getD (fallback.getD false))
        else state.asked other }
  | .setOverride key value =>
    { gate := state.gate.setOverride key value
      asked := fun other => if other = key then none else state.asked other }
  | .reset => { gate := { env := state.gate.env } }
  | .setEnvProvider env => { gate := { env } }

/-- A call answers what a gate without a cache answers. -/
def Transparent (flags : List FlagEntry) (state : AskedGate) : GateCall → Prop
  | .enabled key fallback =>
    (state.gate.enabled flags key fallback).1 = state.gate.uncached flags key fallback
  | _ => True

/-- A question about a key that the manifest does not know, and whose override is no truth value,
has the fallback of the first question. -/
def Consistent (flags : List FlagEntry) (state : AskedGate) : GateCall → Prop
  | .enabled key fallback =>
    key ∈ flags.map FlagEntry.key ∨ ∀ text ∈ state.gate.overrides.get? key,
      (trimmedText text).toLower ∈ TRUTHY ++ FALSY ∨
        ∀ first ∈ state.asked key, fallback.getD false = first
  | _ => True

section

variable {flags : List FlagEntry} {state : AskedGate} {key : String}

theorem isSome_tabled {ν : Type} (value : FlagEntry → ν) (map : OrderedMap String ν) :
    ((flags.foldl (fun map flag => map.set flag.key (value flag)) map).get? key).isSome ↔
      key ∈ flags.map FlagEntry.key ∨ (map.get? key).isSome := by
  induction flags generalizing map with
  | nil => simp
  | cons flag rest ih =>
    rw [List.foldl_cons, ih, OrderedMap.get?_set]
    by_cases same : key = flag.key <;> simp [same]

theorem isSome_DEFAULTS :
    ((DEFAULTS flags).get? key).isSome ↔ key ∈ flags.map FlagEntry.key := by
  rw [DEFAULTS, isSome_tabled]
  simp

theorem isSome_CANONICAL_TO_ENVS :
    ((CANONICAL_TO_ENVS flags).get? key).isSome ↔ key ∈ flags.map FlagEntry.key := by
  rw [CANONICAL_TO_ENVS, isSome_tabled]
  simp

/-- A cached value is the one for the first question about its key. -/
def AskedGate.Recorded (flags : List FlagEntry) (state : AskedGate) : Prop :=
  ∀ key raw, state.gate.rawValue flags key = .ok raw → FeatureGate.caches flags key raw = true →
    state.gate.cache.get? key = (state.asked key).map fun first =>
      parseBool raw (((DEFAULTS flags).get? key).getD first)

theorem AskedGate.Recorded.step (recorded : state.Recorded flags) (call : GateCall) :
    (state.step flags call).Recorded flags := by
  cases call with
  | reset => exact fun _ _ _ _ => rfl
  | setEnvProvider env => exact fun _ _ _ _ => rfl
  | setOverride key value =>
    intro other raw read caches
    show (state.gate.cache.erase key).get? other = _
    rw [OrderedMap.get?_erase]
    by_cases same : other = key
    · simp [AskedGate.step, same]
    · -- The texts of the other keys are the same as before.
      have before : state.gate.rawValue flags other = .ok raw := by
        rw [← read]
        cases value <;> simp [AskedGate.step, FeatureGate.setOverride, FeatureGate.rawValue,
          OrderedMap.get?_erase, same]
      simpa [AskedGate.step, same] using recorded other raw before caches
  | enabled key fallback =>
    intro other raw read caches
    have unread : state.gate.rawValue flags other = .ok raw := by
      rw [← read]
      simp only [AskedGate.step, FeatureGate.enabled]
      repeat' split
      all_goals rfl
    have before := recorded other raw unread caches
    by_cases same : other = key
    · subst same
      simp only [AskedGate.step, FeatureGate.enabled, unread, caches, if_true]
      cases first : state.asked other <;> simp [before, first]
    · simp only [AskedGate.step, FeatureGate.enabled, same, if_false]
      rw [← before]
      repeat' split
      all_goals simp [same]

theorem parseBool_eq_iff (text : String) (first fallback : Bool) :
    parseBool (some text) first = parseBool (some text) fallback ↔
      (trimmedText text).toLower ∈ TRUTHY ++ FALSY ∨ fallback = first := by
  simp only [parseBool, List.mem_append]
  split
  · simp [*]
  · split <;> simp [*, eq_comm]

theorem transparent_iff (recorded : state.Recorded flags) (call : GateCall) :
    Transparent flags state call ↔ Consistent flags state call := by
  cases call with
  | reset => exact Iff.rfl
  | setEnvProvider env => exact Iff.rfl
  | setOverride key value => exact Iff.rfl
  | enabled key fallback =>
    simp only [Transparent, Consistent, FeatureGate.enabled, FeatureGate.uncached,
      ← isSome_DEFAULTS]
    -- A key that is not in the manifest has its override as its text, or none.
    have unknown (absent : (DEFAULTS flags).get? key = none) : ∀ raw,
        state.gate.rawValue flags key = .ok raw → state.gate.overrides.get? key = raw := by
      intro raw read
      have no_names : (CANONICAL_TO_ENVS flags).get? key = none := by
        rw [← Option.not_isSome_iff_eq_none, isSome_CANONICAL_TO_ENVS, ← isSome_DEFAULTS, absent]
        simp
      revert read
      unfold FeatureGate.rawValue
      rw [no_names]
      repeat' split
      all_goals simp_all
    cases read : state.gate.rawValue flags key with
    | error message =>
      have unset : state.gate.overrides.get? key = none := by
        revert read
        unfold FeatureGate.rawValue
        split <;> simp [*]
      simp [Except.map, unset]
    | ok raw =>
      have before := recorded key raw read
      cases known : (DEFAULTS flags).get? key with
      | some default =>
        simp only [FeatureGate.caches, known, Option.isSome_some, Bool.true_or, Option.getD_some,
          forall_const] at before
        cases first : state.asked key <;>
          simp [FeatureGate.caches, known, Except.map, before, first]
      | none =>
        have set := unknown known raw read
        cases raw with
        | none => simp [FeatureGate.caches, known, set, Except.map]
        | some text =>
          simp only [FeatureGate.caches, known, Option.isSome_some, Bool.or_true, Option.getD_none,
            forall_const] at before
          cases first : state.asked key <;>
            simp [FeatureGate.caches, known, set, Except.map, before, first, parseBool_eq_iff]

/-- In every run each question is answered as without a cache, exactly when a malformed override of
a key that is not in the manifest is only asked about with one fallback. -/
theorem featureGate_transparent_iff (flags : List FlagEntry) (env : String → Option String)
    (calls : List GateCall) :
    Along (AskedGate.step flags) (Transparent flags) { gate := { env } } calls ↔
      Along (AskedGate.step flags) (Consistent flags) { gate := { env } } calls :=
  along_congr (AskedGate.Recorded flags) (fun _ call recorded _ => recorded.step call)
    (fun _ call recorded => transparent_iff recorded call) (fun _ _ _ _ => rfl) calls

/-- The second question about a malformed override gets the fallback of the first. -/
theorem featureGate_not_transparent :
    ¬ ∀ flags env calls,
      Along (AskedGate.step flags) (Transparent flags) { gate := { env } } calls := by
  intro transparent
  have along := transparent [] (fun _ => none) [.setOverride "beta.search" (some "maybe"),
    .enabled "beta.search" (some true), .enabled "beta.search" (some false)]
  -- A text that is no truth value is cached as the first fallback.
  have second := along.2.2.1
  simp only [Transparent] at second
  revert second
  decide +kernel

end

end BitBrat
