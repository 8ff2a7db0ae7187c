import BitBrat.Js.Document
import BitBrat.Js.Text
import BitBrat.Types.Event

/-! Removing undefined properties from documents before they are written. -/

namespace BitBrat

open Js

/-- Remove undefined properties and items, at every depth. -/
def stripUndefinedDeep : Value → Value
  | .arr items => .arr (stripItems items)
  | .obj fields => .obj (stripFields fields)
  -- Instances of classes are kept as they are, like every value without properties.
  | other => other
where
  stripItems : List Value → List Value
    | [] => []
    | item :: rest =>
      if item = .undefined then stripItems rest
      else stripUndefinedDeep item :: stripItems rest
  stripFields : List (String × Value) → List (String × Value)
    | [] => []
    | (key, value) :: rest =>
      -- An object has each name once, so that nothing is erased from a real one.
      let others := eraseKey key (stripFields rest)
      if value = .undefined then others else (key, stripUndefinedDeep value) :: others

@[simp] theorem strip_undefined : stripUndefinedDeep .undefined = .undefined := rfl

@[simp] theorem strip_null : stripUndefinedDeep .null = .null := rfl

@[simp] theorem strip_str (text : String) : stripUndefinedDeep (.str text) = .str text := rfl

@[simp] theorem strip_num (number : Number) : stripUndefinedDeep (.num number) = .num number := rfl

@[simp] theorem strip_date (ms : Int) : stripUndefinedDeep (.date ms) = .date ms := rfl

@[simp] theorem strip_obj (fields : List (String × Value)) :
    stripUndefinedDeep (.obj fields) = .obj (stripUndefinedDeep.stripFields fields) := rfl

@[simp] theorem strip_eq_undefined {value : Value} :
    stripUndefinedDeep value = .undefined ↔ value = .undefined := by
  cases value <;> simp [stripUndefinedDeep]

@[simp] theorem truthy_strip (value : Value) :
    (stripUndefinedDeep value).truthy = value.truthy := by
  cases value <;> simp [stripUndefinedDeep, Value.truthy]

@[simp] theorem get_strip (value : Value) (key : String) :
    (stripUndefinedDeep value).get key = stripUndefinedDeep (value.get key) := by
  cases value with
  | obj fields =>
    rw [strip_obj]
    -- The induction is on the properties, each of which has its name once.
    induction fields with
    | nil => simp [stripUndefinedDeep.stripFields]
    | cons entry rest ih =>
      obtain ⟨name, value⟩ := entry
      rw [Value.get_obj_cons, stripUndefinedDeep.stripFields]
      simp only [Value.get, Value.fields] at ih ⊢
      by_cases absent : value = .undefined
      · subst absent
        simp only [↓reduceIte, lookup_eraseKey]
        by_cases same : key = name
        · simp [same]
        · simp [same, ih]
      · rw [if_neg absent]
        by_cases same : key = name
        · subst same; simp
        · have skipped : (key == name) = false := by simpa using same
          simp only [List.lookup_cons, skipped, lookup_eraseKey, if_neg same]
          exact ih
  | _ => simp [stripUndefinedDeep, Value.get, Value.fields]

theorem stripFields_eraseKey (name : String) (fields : List (String × Value)) :
    stripUndefinedDeep.stripFields (eraseKey name fields) =
      eraseKey name (stripUndefinedDeep.stripFields fields) := by
  induction fields with
  | nil => rfl
  | cons entry rest ih =>
    obtain ⟨key, value⟩ := entry
    by_cases here : key = name
    · subst here
      -- The name is erased from what follows, whether it was written here or not.
      rw [eraseKey_cons_self, ih, stripUndefinedDeep.stripFields]
      split <;> simp
    · rw [eraseKey_cons_of_ne _ _ here, stripUndefinedDeep.stripFields,
        stripUndefinedDeep.stripFields, ih]
      split
      · exact eraseKey_comm key name _
      · rw [eraseKey_comm key name, eraseKey_cons_of_ne _ _ here]

mutual

@[simp] theorem strip_strip : ∀ value : Value,
    stripUndefinedDeep (stripUndefinedDeep value) = stripUndefinedDeep value
  | .undefined => by simp
  | .null => by simp
  | .bool flag => by simp [stripUndefinedDeep]
  | .num number => by simp
  | .str text => by simp
  | .date ms => by simp
  | .arr items => by simp [stripUndefinedDeep, stripItems_stripItems items]
  | .obj fields => by simp [stripFields_stripFields fields]

theorem stripItems_stripItems : ∀ items : List Value,
    stripUndefinedDeep.stripItems (stripUndefinedDeep.stripItems items) =
      stripUndefinedDeep.stripItems items
  | [] => rfl
  | item :: rest => by
    by_cases absent : item = .undefined
    · simp [stripUndefinedDeep.stripItems, absent, stripItems_stripItems rest]
    · simp [stripUndefinedDeep.stripItems, absent, stripItems_stripItems rest, strip_strip item]

theorem stripFields_stripFields : ∀ fields : List (String × Value),
    stripUndefinedDeep.stripFields (stripUndefinedDeep.stripFields fields) =
      stripUndefinedDeep.stripFields fields
  | [] => rfl
  | (key, value) :: rest => by
    have below := stripFields_stripFields rest
    -- What is dropped once is not there to be dropped again.
    by_cases absent : value = .undefined
    · simp [stripUndefinedDeep.stripFields, absent, stripFields_eraseKey, below]
    · have kept : stripUndefinedDeep value ≠ .undefined := by simpa using absent
      have again : eraseKey key (eraseKey key (stripUndefinedDeep.stripFields rest)) =
          eraseKey key (stripUndefinedDeep.stripFields rest) := by
        simp [eraseKey, List.filter_filter]
      simp [stripUndefinedDeep.stripFields, absent, stripFields_eraseKey, below, again,
        strip_strip value]

end

theorem Same.strip {left right : Value} (same : Value.Same left right) :
    Value.Same (stripUndefinedDeep left) (stripUndefinedDeep right) := by
  intro path
  -- The induction is on the path, since stripping goes through every read.
  induction path generalizing left right with
  | nil =>
    have root := same.shape_eq
    simp only [Value.atPath]
    cases left <;> cases right <;> simp_all [Value.shape, stripUndefinedDeep]
  | cons key rest ih =>
    simp only [Value.atPath, get_strip]
    exact ih (same.get key)

/-! Persistence documents: the aggregate of an event, its snapshots, and what they update. -/

/-- One reading of the clock, with what the process knows about times. -/
structure Clock where
  now : Int
  nowIso : String
  /-- The milliseconds that a text or number denotes as a date, where it denotes one. -/
  parseDate : Value → Option Int
  ttlDays : Number := .finite 7

inductive PersistError where
  | missing_correlationId
  | missing_idempotencyKey
  | missing_event
  | invalid_date
  deriving DecidableEq

def buildInitialSnapshotId (correlationId : String) : String := correlationId ++ "-000001-initial"

/-- The identifier of a snapshot: whose it is, its number in six digits, and its kind. -/
def buildSnapshotId (correlationId : String) (sequence : Number) (kind : Value) : String :=
  correlationId ++ "-" ++ padStart 6 sequence.toText ++ "-" ++ kind.toText

def resolveSnapshotBaseDate (clock : Clock) (base : Value) : Int :=
  if base.truthy then (clock.parseDate base).getD clock.now else clock.now

def truncate (ms : ℚ) : Int := if 0 ≤ ms then ms.floor else ms.ceil

/-- When a document expires: after its own seconds to live, or after the configured days. -/
def computeExpireAt (clock : Clock) (baseDate qosTtlSeconds : Value) :
    Except PersistError Value :=
  let base := resolveSnapshotBaseDate clock baseDate
  let days :=
    match clock.ttlDays with
    | .finite days => if 0 < days then days else 7
    | _ => 7
  -- A positive lifetime of the event itself comes before the configured days.
  let lifetime :=
    match qosTtlSeconds with
    | .num (.finite seconds) => if 0 < seconds then seconds * 1000 else days * 86400000
    | _ => days * 86400000
  let expiry := truncate (base + lifetime)
  if expiry.natAbs ≤ 8640000000000000 then .ok (.date expiry) else .error .invalid_date

/-- The status of an aggregate after a snapshot of some kind. -/
def deriveAggregateStatus (kind currentStatus : Value) : Value :=
  if kind = .str "deadletter" then .str "ERROR"
  else if kind = .str "final" then .str "FINALIZED"
  else if kind = .str "update" then
    if currentStatus = .str "FINALIZED" ∨ currentStatus = .str "ERROR" then currentStatus
    else .str "IN_PROGRESS"
  else .str "INGESTED"

def buildIdentitySummary (event : Value) : Value :=
  let external := (event.get "identity").get "external"
  let user := (event.get "identity").get "user"
  stripUndefinedDeep (.obj
    [("externalId", external.get "id"),
     ("platform", external.get "platform"),
     ("displayName", (user.get "displayName").or (external.get "displayName")),
     ("userId", user.get "id"),
     ("roles", user.get "roles"),
     ("rolesMeta", user.get "rolesMeta"),
     ("tags", user.get "tags"),
     ("status", user.get "status")])

def buildCurrentProjection (event : Value) : Value :=
  stripUndefinedDeep (.obj
    [("annotations", event.get "annotations"),
     ("candidates", event.get "candidates"),
     ("routing", event.get "routing"),
     ("metadata", event.get "metadata")])

def buildSnapshotDoc (snapshotId : String) (sequence : Number) (params : Value)
    (expireAt : Value) : Value :=
  stripUndefinedDeep (.obj
    [("v", .str "1"),
     ("snapshotId", .str snapshotId),
     -- The event's own identifier, whatever the message around it says.
     ("correlationId", (params.get "event").get "correlationId"),
     ("sequence", .num sequence),
     ("kind", params.get "kind"),
     ("capturedAt", params.get "capturedAt"),
     ("sourceService", params.get "sourceService"),
     ("sourceTopic", params.get "sourceTopic"),
     ("idempotencyKey", params.get "idempotencyKey"),
     ("stage", params.get "stage"),
     ("stepId", params.get "stepId"),
     ("attempt", params.get "attempt"),
     ("changeSummary", params.get "changeSummary"),
     ("delivery", params.get "delivery"),
     ("deadletter", params.get "deadletter"),
     ("event", params.get "event"),
     ("expireAt", expireAt)])

/-- The first two documents of an event: its aggregate and its initial snapshot. -/
def normalizeIngressEvent (clock : Clock) (event expireAt : Value) : Value × Value :=
  let ingress := event.get "ingress"
  let routing := event.get "routing"
  let capturedAt := (ingress.get "ingressAt").or (.str clock.nowIso)
  let correlationId := (event.get "correlationId").toText
  let snapshotId := buildInitialSnapshotId correlationId
  let stepId := ((routing.get "slip").item 0).get "id"
  let aggregate := stripUndefinedDeep (.obj
    [("correlationId", event.get "correlationId"),
     ("eventType", event.get "type"),
     ("source", (ingress.get "source").or (.str "unknown")),
     ("channel", ingress.get "channel"),
     ("status", .str "INGESTED"),
     ("ingressAt", (ingress.get "ingressAt").or capturedAt),
     ("latestStage", routing.get "stage"),
     ("latestStepId", stepId),
     ("initialSnapshotId", .str snapshotId),
     ("latestSnapshotId", .str snapshotId),
     ("snapshotCount", .num (.finite 1)),
     ("identitySummary", buildIdentitySummary event),
     ("currentProjection", buildCurrentProjection event),
     ("expireAt", expireAt)])
  -- The first snapshot has a key of its own, by the time of its capture.
  let key := correlationId ++ ":initial:persistence:" ++ capturedAt.toText
  let params := Value.obj
    [("kind", .str "initial"), ("capturedAt", capturedAt), ("sourceService", .str "persistence"),
     ("sourceTopic", .str INTERNAL_INGRESS_V1), ("idempotencyKey", .str key), ("event", event),
     ("stage", routing.get "stage"), ("stepId", stepId)]
  (aggregate, buildSnapshotDoc snapshotId (.finite 1) params expireAt)

def normalizeSnapshotEvent (clock : Clock) (message : Value) : Value :=
  let event := message.get "event"
  let textOf (value : Value) := Value.str (value.or (.str "")).toText
  stripUndefinedDeep (.obj
    [("v", .str "1"),
     ("correlationId", textOf ((message.get "correlationId").or (event.get "correlationId"))),
     ("kind", message.get "kind"),
     ("capturedAt", (message.get "capturedAt").or (.str clock.nowIso)),
     ("sourceService", textOf (message.get "sourceService")),
     ("sourceTopic", textOf (message.get "sourceTopic")),
     ("idempotencyKey", textOf (message.get "idempotencyKey")),
     ("stage", (message.get "stage").or ((event.get "routing").get "stage")),
     ("stepId", message.get "stepId"),
     ("attempt", match message.get "attempt" with
       | .num attempt => .num attempt
       | _ => .undefined),
     ("changeSummary", message.get "changeSummary"),
     ("delivery", message.get "delivery"),
     ("deadletter", message.get "deadletter"),
     ("event", event)])

def applySnapshotToAggregate (aggregate snapshot : Value) (nextSnapshotCount : Number) : Value :=
  let delivery := (snapshot.get "delivery").or (aggregate.get "delivery")
  let deadletter := (snapshot.get "deadletter").or (aggregate.get "deadletter")
  let kind := snapshot.get "kind"
  let event := snapshot.get "event"
  -- What the snapshot does not say is taken over from the aggregate.
  stripUndefinedDeep (aggregate.extend
    [("status", deriveAggregateStatus kind (aggregate.get "status")),
     ("finalizedAt",
       if kind = .str "final" ∨ kind = .str "deadletter" then
         ((delivery.get "deliveredAt").or (deadletter.get "at")).or (snapshot.get "capturedAt")
       else aggregate.get "finalizedAt"),
     ("latestStage",
       ((snapshot.get "stage").or ((event.get "routing").get "stage")).or
         (aggregate.get "latestStage")),
     ("latestStepId", (snapshot.get "stepId").or (aggregate.get "latestStepId")),
     ("latestSnapshotId", snapshot.get "snapshotId"),
     ("finalSnapshotId",
       if kind = .str "final" then snapshot.get "snapshotId"
       else aggregate.get "finalSnapshotId"),
     ("snapshotCount", .num nextSnapshotCount),
     ("identitySummary", buildIdentitySummary event),
     ("delivery", delivery),
     ("deadletter", deadletter),
     ("currentProjection", buildCurrentProjection event),
     ("expireAt", (snapshot.get "expireAt").or (aggregate.get "expireAt"))])

/-- The key of a dead letter: its own, or one made of its reason and the time. -/
def deadLetterKey (clock : Clock) (message : Value) : Value :=
  let correlationId := (message.get "correlationId").or
    (((message.get "envelope").get "correlationId").or (.str "missing"))
  let reason := ((message.get "payload").get "reason").or (.str "unknown")
  (message.get "idempotencyKey").or
    (.str (correlationId.toText ++ ":deadletter:" ++ reason.toText ++ ":" ++ clock.nowIso))

def normalizeDeadLetterPayload (clock : Clock) (message : Value) : Value :=
  let payload := message.get "payload"
  let reason := payload.get "reason"
  let textOf (value : Value) := Value.str value.toText
  stripUndefinedDeep (.obj
    [("v", .str "1"),
     ("correlationId", textOf ((message.get "correlationId").or
       (((message.get "envelope").get "correlationId").or
         ((payload.get "correlationId").or (.str ""))))),
     ("kind", .str "deadletter"),
     ("capturedAt", .str clock.nowIso),
     ("sourceService", textOf ((message.get "source").or
       ((message.get "service").or (.str "persistence")))),
     ("sourceTopic", textOf ((message.get "sourceTopic").or ((message.get "topic").or
       ((message.get "type").or (.str "internal.deadletter.v1"))))),
     ("idempotencyKey", textOf (deadLetterKey clock message)),
     ("stage", (message.get "routing").get "stage"),
     ("stepId", payload.get "lastStepId"),
     ("changeSummary", reason.or (.str "deadletter")),
     ("deadletter", .obj
       [("reason", reason.or (.str "unknown")),
        ("error", (payload.get "error").or .null),
        ("lastStepId", payload.get "lastStepId"),
        ("originalType", payload.get "originalType"),
        ("slipSummary", payload.get "slipSummary"),
        ("at", .str clock.nowIso)]),
     ("event", (message.get "event").or ((message.get "original").or message))])

def splitPart (value : Value) (separator : Char) (index : Nat) : Value :=
  match value with
  | .str text =>
    match (text.toList.splitOn separator)[index]? with
    | some part => .str (String.ofList part)
    | none => .undefined
  | _ => .undefined

def sourcePayload (event : Value) : Value :=
  (event.get "payload").or (((event.get "externalEvent").get "metadata").or (.obj []))

def normalizeSourceStatus (clock : Clock) (event : Value) : Value :=
  let payload := sourcePayload event
  let metrics := payload.get "metrics"
  let lastError := payload.get "lastError"
  stripUndefinedDeep (.obj
    [("platform", payload.get "platform"),
     ("id", (payload.get "id").or (splitPart (payload.get "source") ':' 1)),
     ("status", payload.get "status"),
     ("displayName", payload.get "displayName"),
     ("lastStatusUpdate", .str clock.nowIso),
     ("metrics",
       (metrics.extend [("lastHeartbeat", .str clock.nowIso)]).onlyIf metrics.truthy),
     ("lastError",
       (lastError.extend [("at", (lastError.get "at").or (.str clock.nowIso))]).onlyIf
         lastError.truthy),
     ("metadata", payload.get "metadata"),
     ("authStatus", payload.get "authStatus")])

def normalizeStreamEvent (clock : Clock) (event : Value) : Value :=
  let payload := sourcePayload event
  let identity := event.get "identity"
  let platform := (payload.get "platform").or
    ((splitPart ((event.get "externalEvent").get "source") '.' 0).or
      ((splitPart ((event.get "ingress").get "source") '.' 1).or (.str "unknown")))
  let id := (payload.get "id").or ((payload.get "broadcasterId").or
    (((identity.get "user").get "id").or (((identity.get "external").get "id").or
      (splitPart (payload.get "source") ':' 1))))
  let online := event.get "type" = .str "system.stream.online"
  stripUndefinedDeep (.obj
    [("platform", platform),
     ("id", id),
     ("streamStatus", .str (if online then "ONLINE" else "OFFLINE")),
     ("lastStreamUpdate", .str clock.nowIso),
     ("viewerCount", payload.get "viewer_count"),
     ("metadata", payload)])

end BitBrat
