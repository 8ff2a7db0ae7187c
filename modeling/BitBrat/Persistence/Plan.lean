import BitBrat.Persistence.LedgerRun

/-! What the store hands to a repository, and what the repository does with it. -/

namespace BitBrat

open Js

/-- One of the two operations that read the documents of an event before they write them. -/
inductive Plan where
  | upsertIngressEvent (aggregate snapshot : Value)
  | applySnapshotEvent (idempotencyKey initialAggregate : Value) (buildSnapshot : Value → Value)

/-- What is made of an event that enters, unless it throws. -/
def ingressPlan (clock : Clock) (event : Value) : Option Plan :=
  match computeExpireAt clock ((event.get "ingress").get "ingressAt")
      ((event.get "qos").get "persistenceTtlSec") with
  | .error _ => none
  | .ok expireAt =>
    let normalized := normalizeIngressEvent clock event expireAt
    if (normalized.1.get "correlationId").truthy then
      some (.upsertIngressEvent normalized.1 normalized.2)
    else none

/-- What is made of a snapshot message, unless it throws. -/
def snapshotPlan (clock : Clock) (message : Value) : Option Plan :=
  let snapshotEvent := normalizeSnapshotEvent clock message
  if ¬ (snapshotEvent.get "correlationId").truthy then none
  else if ¬ (snapshotEvent.get "idempotencyKey").truthy then none
  else if ¬ (snapshotEvent.get "event").truthy then none
  else
    -- A message that names its event, its key and a copy of the event is dated.
    match snapshotExpireAt clock snapshotEvent with
    | .error _ => none
    | .ok expireAt =>
      some (.applySnapshotEvent (snapshotEvent.get "idempotencyKey")
        (initialAggregate snapshotEvent expireAt) (buildSnapshot snapshotEvent expireAt))

/-- What a repository does with a plan, all at once. -/
def Plan.perform (backend : Backend) (correlationId : String) (plan : Plan)
    (database : Database) : Database :=
  match plan with
  | upsertIngressEvent aggregate snapshot =>
    match database.events.get? correlationId with
    | some _ => database
    | none => database.write backend correlationId aggregate (snapshotIdOf snapshot) snapshot
  | applySnapshotEvent idempotencyKey initialAggregate buildSnapshot =>
    database.applySnapshotEvent backend correlationId idempotencyKey initialAggregate buildSnapshot

def Plan.Sound (correlationId : String) : Plan → Prop
  | upsertIngressEvent aggregate snapshot =>
    (∃ clock event expireAt, event.get "correlationId" = .str correlationId ∧
      (aggregate, snapshot) = normalizeIngressEvent clock event expireAt)
  | applySnapshotEvent idempotencyKey initial build =>
    ∃ snapshotEvent expireAt, Normalized snapshotEvent correlationId ∧
      idempotencyKey = snapshotEvent.get "idempotencyKey" ∧
      initial = initialAggregate snapshotEvent expireAt ∧
      build = buildSnapshot snapshotEvent expireAt

/-- The database after an operation, which is the one before it where the operation throws. -/
def Database.settle (database : Database) : Except PersistError Database → Database
  | .ok after => after
  | .error _ => database

section Plans

variable {clock : Clock} {event message : Value} {correlationId : String} {plan : Plan}

theorem correlationId_normalizeIngressEvent
    (addressed : event.get "correlationId" = .str correlationId) (expireAt : Value) :
    (normalizeIngressEvent clock event expireAt).1.get "correlationId" = .str correlationId := by
  simp only [normalizeIngressEvent, get_strip, Value.get_obj_cons, addressed]
  exact strip_str _

theorem settle_upsertIngressEvent (backend : Backend) (database : Database)
    (addressed : event.get "correlationId" = .str correlationId) :
    database.settle (upsertIngressEvent backend clock event database) =
      (ingressPlan clock event).elim database fun plan =>
        plan.perform backend correlationId database := by
  unfold upsertIngressEvent ingressPlan
  cases dated : computeExpireAt clock ((event.get "ingress").get "ingressAt")
      ((event.get "qos").get "persistenceTtlSec") with
  | error reason => rfl
  | ok expireAt =>
    -- Reaching the repository, the operation is the plan.
    simp only [Bind.bind, Except.bind, Database.upsertIngressEvent,
      correlationId_normalizeIngressEvent addressed, Value.toText]
    split
    · simp only [Option.elim_some, Plan.perform]
      cases database.events.get? correlationId <;> rfl
    · rfl

theorem settle_of_ingressPlan_none (backend : Backend) (database : Database)
    (throws : ingressPlan clock event = none) :
    database.settle (upsertIngressEvent backend clock event database) = database := by
  unfold ingressPlan at throws
  unfold upsertIngressEvent
  cases dated : computeExpireAt clock ((event.get "ingress").get "ingressAt")
      ((event.get "qos").get "persistenceTtlSec") with
  | error reason => rfl
  | ok expireAt =>
    simp only [dated] at throws
    split at throws
    · cases throws
    · -- An event without a correlation is refused by the repository itself.
      rename_i blank
      simp only [Bind.bind, Except.bind, Database.upsertIngressEvent, if_neg blank]
      rfl

theorem exists_of_ingressPlan (planned : ingressPlan clock event = some plan) :
    ∃ expireAt, plan = .upsertIngressEvent (normalizeIngressEvent clock event expireAt).1
      (normalizeIngressEvent clock event expireAt).2 := by
  -- Only a dated event that is named becomes a plan.
  unfold ingressPlan at planned
  split at planned
  · cases planned
  · rename_i expireAt _
    dsimp only at planned
    split at planned
    · cases planned
      exact ⟨expireAt, rfl⟩
    · cases planned

theorem sound_ingressPlan (addressed : event.get "correlationId" = .str correlationId)
    (planned : ingressPlan clock event = some plan) : plan.Sound correlationId := by
  obtain ⟨expireAt, rfl⟩ := exists_of_ingressPlan planned
  exact ⟨clock, event, expireAt, addressed, rfl⟩

theorem addressed_of_ingressPlan (planned : ingressPlan clock event = some plan)
    (typed : (event.get "correlationId").truthy → (event.get "correlationId").isString) :
    ∃ correlationId, event.get "correlationId" = .str correlationId := by
  unfold ingressPlan at planned
  split at planned
  · cases planned
  · dsimp only at planned
    split at planned
    · rename_i named
      simp only [normalizeIngressEvent, get_strip, Value.get_obj_cons] at named
      -- What is not empty is a text, by the type of an event.
      have text := typed (by simpa using named)
      cases id : event.get "correlationId" <;> simp_all [Value.isString]
    · cases planned

theorem settle_applySnapshotEvent (backend : Backend) (database : Database)
    (addressed : snapshotCorrelationId message = correlationId) :
    database.settle (applySnapshotEvent backend clock message database) =
      (snapshotPlan clock message).elim database fun plan =>
        plan.perform backend correlationId database := by
  -- The operation and the plan make the same checks, in the same order.
  have normalized := normalized_normalizeSnapshotEvent clock addressed
  unfold applySnapshotEvent snapshotPlan
  dsimp only
  split
  · rfl
  · split
    · rfl
    · split
      · rfl
      · cases dated : snapshotExpireAt clock (normalizeSnapshotEvent clock message) with
        | error reason => rfl
        | ok expireAt =>
          simp only [Bind.bind, Except.bind, normalized.correlationId, Value.toText]
          rfl

theorem sound_snapshotPlan (addressed : snapshotCorrelationId message = correlationId)
    (planned : snapshotPlan clock message = some plan) : plan.Sound correlationId := by
  -- Only a message that passes all three checks becomes a plan.
  unfold snapshotPlan at planned
  dsimp only at planned
  split at planned
  · cases planned
  · split at planned
    · cases planned
    · split at planned
      · cases planned
      · split at planned
        · cases planned
        · rename_i expireAt _
          cases planned
          exact ⟨_, expireAt, normalized_normalizeSnapshotEvent clock addressed, rfl, rfl, rfl⟩

end Plans

end BitBrat
