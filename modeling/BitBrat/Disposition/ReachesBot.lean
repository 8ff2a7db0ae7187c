import BitBrat.Disposition.Context
import BitBrat.State.History

/-! The disposition service: what it stores of an observation, and what it proposes for it. -/

namespace BitBrat

open Js

structure ProposedDisposition where
  correlationId : String
  userKey : String
  snapshot : DispositionSnapshot
  nowIso : String
  deriving DecidableEq

def dispositionServiceName : String := "disposition-service"

def ProposedDisposition.mutation (proposed : ProposedDisposition) (config : DispositionConfig) :
    MutationProposal where
  id := proposed.correlationId ++ ":disposition"
  op := .set
  key := dispositionStateKey proposed.userKey
  value := proposed.snapshot.toValue
  actor := dispositionServiceName
  reason := "disposition.snapshot.recomputed"
  ts := proposed.nowIso
  ttl := some (.finite (max 1 ((config.snapshotTtlMs : ℚ) / 1000).ceil))
  metadata := some [("correlationId", .str proposed.correlationId),
    ("userKey", .str proposed.userKey)]

structure DispositionService where
  observations : OrderedMap String StoredDispositionObservation := .empty
  proposed : List ProposedDisposition := []
  updates : List DispositionUpdatedEvent := []

inductive DispositionFailure where
  | upsert
  | query
  | publishMutation
  | publishUpdate
  deriving DecidableEq

/-- Store an observation over what is there under its id, of which absent properties stay. -/
def upsertObservation (observations : OrderedMap String StoredDispositionObservation)
    (docId : String) (observation : StoredDispositionObservation) :
    OrderedMap String StoredDispositionObservation :=
  match observations.get? docId with
  | some stored => observations.set docId { observation with
      sourcePlatform := observation.sourcePlatform <|> stored.sourcePlatform
      internalUserId := observation.internalUserId <|> stored.internalUserId }
  | none => observations.set docId observation

def queryActive (runtime : DispositionRuntime)
    (observations : OrderedMap String StoredDispositionObservation) (userKey cutoffIso : String)
    (maxEvents : Nat) : List DispositionObservationEvent :=
  let rows := (observations.entries.map (·.2)).filter fun row =>
    row.userKey = userKey ∧ runtime.notBefore row.observedAt cutoffIso
  let sorted := rows.mergeSort fun left right => runtime.textLe right.observedAt left.observedAt
  -- A limit of zero is no limit.
  (if maxEvents = 0 then sorted else sorted.take maxEvents).map (·.toDispositionObservationEvent)

section

variable (runtime : DispositionRuntime) (config : DispositionConfig)

/-- The observation as it is stored, with the time after which nothing needs it any more. -/
def storedObservation (observation : DispositionObservationEvent) :
    Except String StoredDispositionObservation := do
  let some observedAt := runtime.parse observation.observedAt | .error "Invalid time value"
  let expireAt ← dateToISOString (observedAt + config.windowMs + config.snapshotTtlMs)
  .ok {
    toDispositionObservationEvent := observation
    expireAt
    sourcePlatform := observation.identity.external.map (·.platform)
    internalUserId := observation.identity.userId }

def activeSnapshot (observations : OrderedMap String StoredDispositionObservation)
    (userKey nowIso : String) : Except String DispositionSnapshot := do
  let some nowMs := runtime.parse nowIso | .error "Invalid time value"
  let cutoff ← dateToISOString (nowMs - config.windowMs)
  computeDispositionSnapshot runtime
    (queryActive runtime observations userKey cutoff config.maxEvents) config nowIso

/-- Handle an observation, where an exception leaves what was done before it. -/
def handleObservation (service : DispositionService) (observation : DispositionObservationEvent)
    (nowIso : String) (fails : Option DispositionFailure) : DispositionService :=
  match storedObservation runtime config observation with
  | .error _ => service
  | .ok stored =>
    if fails = some .upsert then service
    else
      let docId :=
        dispositionObservationDocumentId observation.userKey observation.correlationId
      let service := { service with
        observations := upsertObservation service.observations docId stored }
      if fails = some .query then service
      else
        match activeSnapshot runtime config service.observations observation.userKey nowIso with
        | .error _ => service
        | .ok snapshot =>
          if fails = some .publishMutation then service
          else
            let { correlationId, userKey, .. } := observation
            let service := { service with
              proposed := service.proposed ++ [{ correlationId, userKey, snapshot, nowIso }] }
            if config.publishUpdates ∧ fails ≠ some .publishUpdate then
              { service with
                updates := service.updates ++ [{
                  correlationId, userKey, snapshot
                  source := dispositionServiceName
                  publishedAt := nowIso }] }
            else service

def onObservation (service : DispositionService) (observation : DispositionObservationEvent)
    (nowIso : String) (fails : Option DispositionFailure) : DispositionService :=
  if !config.enabled then service
  else if observation.userKey = "" ∨ observation.correlationId = "" ∨
      observation.observedAt = "" then service
  else handleObservation runtime config service observation nowIso fails

end

/-! What the bot is told of the dispositions that the state engine has accepted. -/

open Js Machine

structure DispositionSystem where
  service : DispositionService := {}
  store : StateCollections := .empty
  accepted : OrderedMap String DispositionSnapshot := .empty

inductive DispositionInput where
  | observe (observation : DispositionObservationEvent) (nowIso : String)
    (fails : Option DispositionFailure)
  | deliver (index : Nat) (stamp : MutationStamp)

structure DispositionSetting where
  runtime : DispositionRuntime
  config : DispositionConfig := {}
  backend : Backend := .documentStore
  allowedKeys : List String

def ProposedDisposition.message (proposed : ProposedDisposition) (config : DispositionConfig)
    (stamp : MutationStamp) : MutationMessage where
  mutation := proposed.mutation config
  stamp

def DispositionSystem.deliver (system : DispositionSystem) (setting : DispositionSetting)
    (proposed : ProposedDisposition) (stamp : MutationStamp) : DispositionSystem :=
  let message := proposed.message setting.config stamp
  { system with
    store := mutationStep setting.backend setting.allowedKeys system.store message
    accepted :=
      if refusal setting.allowedKeys system.store message.mutation = none then
        system.accepted.set proposed.userKey proposed.snapshot
      else system.accepted }

def dispositionStep (setting : DispositionSetting) (system : DispositionSystem) :
    DispositionInput → DispositionSystem
  | .observe observation nowIso fails =>
    { system with
      service := onObservation setting.runtime setting.config system.service observation nowIso
        fails }
  | .deliver index stamp =>
    match system.service.proposed[index]? with
    | some proposed => system.deliver setting proposed stamp
    | none => system

/-- The snapshot of a user that the state engine has accepted, unless it has expired. -/
def DispositionSystem.inForce (setting : DispositionSetting) (system : DispositionSystem)
    (identity : EventIdentity) (nowIso : String) : Option DispositionSnapshot :=
  ((deriveDispositionUserKey identity).bind system.accepted.get?).filter fun snapshot =>
    isDispositionSnapshotActive setting.runtime snapshot.toValue nowIso

/-- The bot adds the annotations of the snapshot in force, and nothing when there is none. -/
def DispositionReachesBot (setting : DispositionSetting) (system : DispositionSystem)
    (identity : EventIdentity) (nowIso createdAt : String) (ids : String × String) : Prop :=
  dispositionAnnotations setting.runtime system.store identity { nowIso, createdAt, ids } =
    match system.inForce setting identity nowIso with
    | some snapshot => buildDispositionAnnotations snapshot.toValue createdAt ids
    | none => []

section

variable {setting : DispositionSetting} {system : DispositionSystem}

theorem inactive_document (store : StateCollections) (key nowIso : String) :
    isDispositionSnapshotActive setting.runtime (getStateDocument store key) nowIso = false := by
  unfold getStateDocument
  split <;> rfl

theorem dispositionAnnotations_eq_nil (identity : EventIdentity)
    (lookup : DispositionLookup) :
    dispositionAnnotations setting.runtime system.store identity lookup = [] := by
  unfold dispositionAnnotations
  simp only [inactive_document]
  split
  · rfl
  · split
    · rfl
    · split <;> rfl

theorem buildDispositionAnnotations_ne_nil (snapshot : Value) (createdAt : String)
    (ids : String × String) : buildDispositionAnnotations snapshot createdAt ids ≠ [] :=
  List.cons_ne_nil _ _

end

/-- The bot is told what it should be exactly if no accepted snapshot of the user is active. -/
theorem dispositionReachesBot_iff (setting : DispositionSetting) (inputs : List DispositionInput)
    (identity : EventIdentity) (nowIso createdAt : String) (ids : String × String) :
    DispositionReachesBot setting (run (dispositionStep setting) {} inputs) identity nowIso
        createdAt ids ↔
      ∀ userKey snapshot, deriveDispositionUserKey identity = some userKey →
        (run (dispositionStep setting) {} inputs).accepted.get? userKey = some snapshot →
          isDispositionSnapshotActive setting.runtime snapshot.toValue nowIso = false := by
  rw [DispositionReachesBot, dispositionAnnotations_eq_nil]
  constructor
  · -- The annotations of a snapshot in force are the ones that are missing.
    intro reaches userKey snapshot derived accepted
    rw [Bool.eq_false_iff]
    intro active
    have inForce : (run (dispositionStep setting) {} inputs).inForce setting identity nowIso =
        some snapshot := by
      simp [DispositionSystem.inForce, derived, accepted, active]
    rw [inForce] at reaches
    exact buildDispositionAnnotations_ne_nil _ _ _ reaches.symm
  · intro expired
    split
    case h_1 snapshot inForce =>
      obtain ⟨found, active⟩ := Option.filter_eq_some_iff.mp inForce
      obtain ⟨userKey, derived, accepted⟩ := Option.bind_eq_some_iff.mp found
      rw [expired userKey snapshot derived accepted] at active
      cases active
    case h_2 => rfl

/-- Services on one document store, whose database compares texts as the script does. -/
def sampleSetting : DispositionSetting where
  runtime := {
    parse := ofISOString
    notBefore := fun left right => right ≤ left
    textLe := fun left right => left ≤ right
    parse_toISOString := fun ms _ => ofISOString_toISOString ms }
  allowedKeys := ["stream.state", "user.disposition.*"]

/-- A user who said something nice, and whose snapshot was accepted a second later. -/
def praiseAccepted : List DispositionInput :=
  [.observe {
      correlationId := "c1"
      observedAt := "2026-04-03T00:00:00.000Z"
      userKey := "ada"
      analysis := { intent := "praise", valence := 1 }
      source := "query-analyzer" } "2026-04-03T00:00:01.000Z" none,
    .deliver 0 {
      updatedAt := "2026-04-03T00:00:01.100Z"
      committedAt := "2026-04-03T00:00:01.200Z"
      rejectedAt := "2026-04-03T00:00:01.300Z" }]

/-- The bot is not told of a snapshot that is in force. -/
theorem praise_not_told :
    ¬ DispositionReachesBot sampleSetting (run (dispositionStep sampleSetting) {} praiseAccepted)
      { userId := some "ada" } "2026-04-03T00:00:02.000Z" "2026-04-03T00:00:02.000Z"
        ("a1", "a2") := by
  intro reaches
  have inForce : ((run (dispositionStep sampleSetting) {} praiseAccepted).inForce sampleSetting
      { userId := some "ada" } "2026-04-03T00:00:02.000Z").isSome = true := by
    decide +kernel
  obtain ⟨snapshot, found⟩ := Option.isSome_iff_exists.mp inForce
  rw [DispositionReachesBot, dispositionAnnotations_eq_nil, found] at reaches
  exact buildDispositionAnnotations_ne_nil _ _ _ reaches.symm

end BitBrat
