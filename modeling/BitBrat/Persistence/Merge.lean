import BitBrat.Persistence.Repository

/-! The persistence store: one operation for each kind of message. -/

namespace BitBrat

open Js

def nextSequence (aggregate : Value) : Number :=
  -- The count is only ever written as a number, and read as zero where it is missing.
  match (aggregate.get "snapshotCount").or (.num (.finite 0)) with
  | .num count => count.add (.finite 1)
  | _ => .nan

/-- The aggregate that a snapshot starts from when it arrives first. -/
def initialAggregate (snapshotEvent expireAt : Value) : Value :=
  let event := snapshotEvent.get "event"
  let ingress := event.get "ingress"
  let external := (event.get "identity").get "external"
  let user := (event.get "identity").get "user"
  let firstId := Value.str (buildSnapshotId (snapshotEvent.get "correlationId").toText (.finite 1)
    (snapshotEvent.get "kind"))
  -- The count starts at zero, since the snapshot itself is counted afterwards.
  stripUndefinedDeep (.obj
    [("correlationId", snapshotEvent.get "correlationId"),
     ("eventType", (event.get "type").or (.str "unknown")),
     ("source", (ingress.get "source").or (.str "unknown")),
     ("channel", ingress.get "channel"),
     ("status", .str "INGESTED"),
     ("ingressAt", (ingress.get "ingressAt").or (snapshotEvent.get "capturedAt")),
     ("latestStage", snapshotEvent.get "stage"),
     ("latestStepId", snapshotEvent.get "stepId"),
     ("initialSnapshotId", firstId),
     ("latestSnapshotId", firstId),
     ("snapshotCount", .num (.finite 0)),
     ("identitySummary",
       (Value.obj
         [("externalId", external.get "id"),
          ("platform", external.get "platform"),
          ("displayName", (user.get "displayName").or (external.get "displayName")),
          ("userId", user.get "id")]).onlyIf (event.get "identity").truthy),
     ("currentProjection", .obj
       [("annotations", event.get "annotations"),
        ("candidates", event.get "candidates"),
        ("routing", event.get "routing"),
        ("metadata", event.get "metadata")]),
     ("expireAt", expireAt)])

def buildSnapshot (snapshotEvent expireAt aggregate : Value) : Value :=
  let sequence := nextSequence aggregate
  let snapshotId := buildSnapshotId (snapshotEvent.get "correlationId").toText sequence
    (snapshotEvent.get "kind")
  buildSnapshotDoc snapshotId sequence snapshotEvent expireAt

def finalizationDelivery (clock : Clock) (message : Value) : Value :=
  let egress := message.get "egress"
  stripUndefinedDeep (.obj
    [("destination", (message.get "destination").or
       ((message.get "egressDestination").or (egress.get "destination"))),
     ("deliveredAt", (message.get "deliveredAt").or
       ((message.get "finalizedAt").or (.str clock.nowIso))),
     ("providerMessageId",
       (message.get "providerMessageId").or (egress.get "providerMessageId")),
     ("status", (message.get "status").or ((egress.get "status").or (.str "FINALIZED"))),
     ("error", (message.get "error").or ((egress.get "error").or .null)),
     ("metadata", (message.get "metadata").or (egress.get "metadata"))])

def finalizationPatch (clock : Clock) (message expireAt : Value) : Value :=
  let delivery := finalizationDelivery clock message
  let annotations := message.get "annotations"
  let candidates := message.get "candidates"
  -- Neither the count nor the latest snapshot is part of the patch.
  stripUndefinedDeep (.obj
    [("status", .str "FINALIZED"),
     ("finalizedAt", delivery.get "deliveredAt"),
     ("delivery", delivery),
     ("expireAt", expireAt),
     ("currentProjection", .obj
       [("annotations", annotations.onlyIf annotations.isArray),
        ("candidates", candidates.onlyIf candidates.isArray)])])

/-- The patch that a source event makes, when it is a source event. -/
def sourcePatch (clock : Clock) (event : Value) : Value :=
  if event.get "type" = .str "system.source.status" then normalizeSourceStatus clock event
  else if event.get "type" = .str "system.stream.online" ∨
      event.get "type" = .str "system.stream.offline" then normalizeStreamEvent clock event
  else .undefined

theorem strip_sourcePatch (clock : Clock) (event : Value) :
    stripUndefinedDeep (sourcePatch clock event) = sourcePatch clock event := by
  unfold sourcePatch
  split
  · exact strip_strip _
  · split
    · exact strip_strip _
    · exact strip_undefined

def upsertIngressEvent (backend : Backend) (clock : Clock) (event : Value) (database : Database) :
    Except PersistError Database := do
  let expireAt ← computeExpireAt clock ((event.get "ingress").get "ingressAt")
    ((event.get "qos").get "persistenceTtlSec")
  let normalized := normalizeIngressEvent clock event expireAt
  database.upsertIngressEvent backend normalized.1 normalized.2

/-- When the aggregate expires after a finalization message. -/
def finalizationExpireAt (clock : Clock) (message : Value) : Except PersistError Value :=
  computeExpireAt clock ((finalizationDelivery clock message).get "deliveredAt")
    ((message.get "qos").get "persistenceTtlSec")

def applyFinalization (backend : Backend) (clock : Clock) (message : Value)
    (database : Database) : Except PersistError Database := do
  let correlationId := ((message.get "correlationId").or (.str "")).toText
  if correlationId = "" then .error .missing_correlationId
  else
    let expireAt ← finalizationExpireAt clock message
    .ok (database.applyFinalization backend correlationId
      (finalizationPatch clock message expireAt))

def snapshotExpireAt (clock : Clock) (snapshotEvent : Value) : Except PersistError Value :=
  computeExpireAt clock
    (((snapshotEvent.get "delivery").get "deliveredAt").or
      (((snapshotEvent.get "deadletter").get "at").or (snapshotEvent.get "capturedAt")))
    (((snapshotEvent.get "event").get "qos").get "persistenceTtlSec")

def applySnapshotEvent (backend : Backend) (clock : Clock) (message : Value)
    (database : Database) : Except PersistError Database := do
  let snapshotEvent := normalizeSnapshotEvent clock message
  if ¬ (snapshotEvent.get "correlationId").truthy then .error .missing_correlationId
  else if ¬ (snapshotEvent.get "idempotencyKey").truthy then .error .missing_idempotencyKey
  else if ¬ (snapshotEvent.get "event").truthy then .error .missing_event
  else
    let expireAt ← snapshotExpireAt clock snapshotEvent
    .ok (database.applySnapshotEvent backend (snapshotEvent.get "correlationId").toText
      (snapshotEvent.get "idempotencyKey") (initialAggregate snapshotEvent expireAt)
      (buildSnapshot snapshotEvent expireAt))

/-- A dead letter names its event, itself or in its envelope. -/
def namesEvent (message : Value) : Bool :=
  ((message.get "correlationId").or
    (((message.get "envelope").get "correlationId").or (.str ""))).toText ≠ ""

/-- Apply a dead letter as a snapshot, or ignore it when it names no event. -/
def applyDeadLetter (backend : Backend) (clock : Clock) (message : Value) (database : Database) :
    Except PersistError Database :=
  if namesEvent message then
    applySnapshotEvent backend clock (normalizeDeadLetterPayload clock message) database
  else .ok database

def sourceDocId (patch : Value) : String :=
  (patch.get "platform").toText ++ ":" ++ (patch.get "id").toText

/-- Merge the state of a source, or ignore an event that names none. -/
def upsertSourceState (backend : Backend) (clock : Clock) (event : Value) (database : Database) :
    Database :=
  let patch := sourcePatch clock event
  if patch.truthy ∧ (patch.get "platform").truthy ∧ (patch.get "id").truthy then
    { database with
      sources := backend.setMerged database.sources (sourceDocId patch)
        (stripUndefinedDeep patch) }
  else database

/-! Merge writes: what they leave alone, and when they leave everything as it was. -/

theorem lookup_strip (value : Value) (key : String) :
    (stripUndefinedDeep value).fields.lookup key =
      if value.get key = .undefined then none else some (stripUndefinedDeep (value.get key)) := by
  cases value with
  | obj fields =>
    rw [strip_obj, Value.fields_obj]
    -- The induction is on the properties, of which the absent ones are dropped.
    induction fields with
    | nil => simp [stripUndefinedDeep.stripFields]
    | cons entry rest ih =>
      obtain ⟨name, value⟩ := entry
      rw [Value.get_obj_cons, stripUndefinedDeep.stripFields]
      by_cases same : key = name
      · subst same
        by_cases absent : value = .undefined
        · simp [absent, lookup_eraseKey]
        · simp [absent]
      · have skipped : (key == name) = false := by simpa using same
        rw [if_neg same]
        by_cases absent : value = .undefined
        · simp [absent, lookup_eraseKey, same, ih]
        · simp [absent, List.lookup_cons, skipped, lookup_eraseKey, same, ih]
  | _ => simp [stripUndefinedDeep, Value.get, Value.fields]

theorem get_merge (backend : Backend) (stored patch : Value) (key : String) :
    (backend.merge stored (stripUndefinedDeep patch)).get key =
      if patch.get key = .undefined then stored.get key
      else match backend with
        | .firestore => Value.deepMerge (stripUndefinedDeep (patch.get key)) (stored.get key)
        | .documentStore => stripUndefinedDeep (patch.get key) := by
  cases backend with
  -- The nested merge descends where the patch holds a map.
  | firestore =>
    simp only [Backend.merge, Value.mergeInto, Value.get_deepMergeFields, lookup_strip,
      Value.get_obj_fields]
    split <;> simp_all
  | documentStore =>
    simp only [Backend.merge, Value.get_concat, lookup_strip]
    split <;> simp_all

theorem merge_eq_obj (backend : Backend) (stored patch : Value) :
    ∃ fields, backend.merge stored patch = .obj fields := by
  cases backend <;> exact ⟨_, rfl⟩

def Backend.InForce (backend : Backend) (stored patch : Value) : Prop :=
  match backend with
  -- Maps only have to agree where the patch reaches, unless it ends in an empty one.
  | firestore => ∀ path, patch.atPath path ≠ .undefined →
      (stored.atPath path).shape = (patch.atPath path).shape ∧
      ((patch.atPath path).fields = [] → Value.Same (stored.atPath path) (patch.atPath path))
  | documentStore => stored.isObject ∧
      ∀ key, patch.get key ≠ .undefined → Value.Same (stored.get key) (patch.get key)

theorem atPath_strip (value : Value) (path : List String) :
    (stripUndefinedDeep value).atPath path = stripUndefinedDeep (value.atPath path) := by
  induction path generalizing value with
  | nil => rfl
  | cons key rest ih => simp only [Value.atPath, get_strip, ih]

theorem deepMerge_of_inForce {stored patch : Value} (present : patch ≠ .undefined)
    (force : Backend.firestore.InForce stored (stripUndefinedDeep patch)) :
    Value.Same (Value.deepMerge (stripUndefinedDeep patch) stored) stored := by
  have root := force [] (by simpa [Value.atPath] using present)
  simp only [Value.atPath] at root
  intro path
  -- The induction is on the path, since the merge descends one property at a time.
  induction path generalizing stored patch with
  | nil => exact (Value.shape_deepMerge _ _).trans root.1.symm
  | cons key rest ih =>
    by_cases bare : (stripUndefinedDeep patch).fields = []
    · rw [Value.deepMerge_of_no_fields bare]
      exact ((root.2 bare).symm) (key :: rest)
    · have object : stored.isObject = true := Value.isObject_of_shape root.1 bare
      simp only [Value.atPath, Value.get_deepMerge bare object, lookup_strip]
      by_cases absent : patch.get key = .undefined
      · simp [absent]
      · simp only [if_neg absent]
        have below : Backend.firestore.InForce (stored.get key)
            (stripUndefinedDeep (patch.get key)) := by
          intro path reached
          rw [← get_strip] at reached ⊢
          exact force (key :: path) reached
        have start := below [] (by simpa [Value.atPath] using absent)
        exact ih absent below start

theorem merge_of_inForce {backend : Backend} {stored : Value} {fields : List (String × Value)}
    (force : backend.InForce stored (stripUndefinedDeep (.obj fields))) :
    Value.Same (backend.merge stored (stripUndefinedDeep (.obj fields))) stored := by
  -- What a patch is in force in is an object.
  have object : ∃ held, stored = .obj held := by
    cases backend with
    | firestore =>
      have root := (force [] (by simp [Value.atPath])).1
      cases stored <;> simp_all [Value.atPath, Value.shape, stripUndefinedDeep]
    | documentStore =>
      have root := force.1
      cases stored <;> simp_all [Value.isObject]
  obtain ⟨held, rfl⟩ := object
  obtain ⟨merged, same⟩ := merge_eq_obj backend (.obj held) (stripUndefinedDeep (.obj fields))
  have read (key : String) := get_merge backend (.obj held) (.obj fields) key
  rw [same] at read ⊢
  refine Value.Same.of_get fun key => ?_
  rw [read key]
  by_cases absent : (Value.obj fields).get key = .undefined
  · rw [if_pos absent]
  · rw [if_neg absent]
    cases backend with
    | firestore =>
      refine deepMerge_of_inForce absent fun path reached => ?_
      rw [← get_strip] at reached ⊢
      exact force (key :: path) reached
    | documentStore =>
      have holds := force.2 key (by rwa [get_strip, Ne, strip_eq_undefined])
      rw [get_strip] at holds
      exact holds.symm

end BitBrat
