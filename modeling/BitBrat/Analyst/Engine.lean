import Mathlib.Data.List.Perm.Subperm
import BitBrat.Js.IsoDate
import BitBrat.Types.Observer

/-! The buffer of the lines that are summarized, which has room for a number of tokens. -/

namespace BitBrat

open Js

/-- What the analysis relies on of the database, of its settings and of the tokenizer. -/
structure AnalystEnv where
  /-- Whether the database takes a text for no earlier a time than another. -/
  notBefore : String → String → Bool
  /-- Whether the database sorts a text before another, or with it. -/
  textLe : String → String → Bool
  /-- Whether the database takes a property that is there for equal to a parameter. -/
  equals : Value → Value → Bool
  STREAM_TYPE_MAP_CHAT : Option String := none
  STREAM_TYPE_MAP_LOGS : Option String := none
  STREAM_TYPE_MAP_ERRORS : Option String := none
  redactPII : String → String
  stringify : Value → String
  encodedLength : String → Nat
  equals_str : ∀ stored parameter,
    equals (.str stored) (.str parameter) = decide (stored = parameter)

/-- The line of an event, as far as the event says when it came and who said what. -/
def bufferLine (env : AnalystEnv) (nowIso : String) (event : Value) : String :=
  let timestamp := ((event.get "ingress").get "ingressAt").or (.str nowIso)
  let identity := event.get "identity"
  let user := (((identity.get "user").get "displayName").or
    ((identity.get "external").get "displayName")).or (.str "System")
  let payload := event.get "payload"
  let message := ((event.get "message").get "text").or
    (.str (if payload.truthy then env.stringify payload else ""))
  "[" ++ timestamp.toText ++ "] [" ++ user.toText ++ "] " ++ env.redactPII message.toText

/-- The tokens of the line of an event, with the line break. -/
def lineTokens (env : AnalystEnv) (nowIso : String) (event : Value) : Nat :=
  env.encodedLength (bufferLine env nowIso event) + 1

def BUFFER_MAX_TOKENS : Nat := 8000

section

variable {α : Type} (cost : α → Nat)

/-- The first items, as long as they fit into what is left. -/
def takeFitting : Nat → List α → List α
  | _, [] => []
  | room, item :: rest =>
    -- The first item that does not fit ends it.
    if cost item ≤ room then item :: takeFitting (room - cost item) rest else []

theorem takeFitting_initial (room : Nat) (items : List α) :
    takeFitting cost room items <+: items := by
  induction items generalizing room with
  | nil => exact List.prefix_refl _
  | cons item rest ih =>
    simp only [takeFitting]
    split
    · exact List.cons_prefix_cons.mpr ⟨rfl, ih _⟩
    · exact List.nil_prefix

theorem takeFitting_eq_self_iff (room : Nat) (items : List α) :
    takeFitting cost room items = items ↔ (items.map cost).sum ≤ room := by
  induction items generalizing room with
  | nil => simp [takeFitting]
  | cons item rest ih =>
    simp only [takeFitting, List.map_cons, List.sum_cons]
    split
    case isTrue fits =>
      simp only [List.cons.injEq, true_and, ih]
      omega
    case isFalse =>
      simp only [List.nil_eq, reduceCtorEq, false_iff]
      omega

theorem subset_takeFitting_iff {room : Nat} {items : List α} (distinct : items.Nodup) :
    (∀ item ∈ items, item ∈ takeFitting cost room items) ↔ (items.map cost).sum ≤ room := by
  rw [← takeFitting_eq_self_iff]
  constructor
  · intro all
    -- A beginning that has all items is as long as the items.
    exact (takeFitting_initial cost room items).eq_of_length_le
      (List.subperm_of_subset distinct all).length_le
  · intro whole item member
    rwa [whole]

end

/-! The engine that summarizes the events of a window, which it queries from the database. -/

structure AggregateSummaries where
  initialSnapshotId : String
  identitySummary : Value := .undefined
  currentProjection : Value := .undefined
  expireAt : Value := .undefined

structure PersistedEvent where
  event : Event
  nowIso : String
  summaries : AggregateSummaries

/-- The time that is stored for an event: its own, or else the time of storing. -/
def PersistedEvent.ingressAt (persisted : PersistedEvent) : String :=
  textOr (persisted.event.ingress.map (·.ingressAt)) persisted.nowIso

/-- The aggregate of an event, where a property that is absent reads as one that is left out. -/
def PersistedEvent.document (persisted : PersistedEvent) : Value :=
  let event := persisted.event
  .obj [
    ("correlationId", .str event.correlationId),
    ("eventType", .str event.type),
    ("source", .str (textOr (event.ingress.map (·.source)) "unknown")),
    ("channel", optionalText (event.ingress.bind (·.channel))),
    ("status", .str "INGESTED"),
    ("ingressAt", .str persisted.ingressAt),
    ("latestStage", optionalText (event.routing.map (·.stage))),
    ("latestStepId", optionalText (event.slip.head?.map (·.id))),
    ("initialSnapshotId", .str persisted.summaries.initialSnapshotId),
    ("latestSnapshotId", .str persisted.summaries.initialSnapshotId),
    ("snapshotCount", .num (.finite 1)),
    ("identitySummary", persisted.summaries.identitySummary),
    ("currentProjection", persisted.summaries.currentProjection),
    ("expireAt", persisted.summaries.expireAt)]

/-- An observer of the stream, with the settings that only the analysis reads. -/
structure AnalyzedObserver extends StreamObserver where
  collection : Option String := none
  customLogic : Option Value := none
  inspectionEnabled : Bool := false

/-- The properties of the filters of an observer, if it has filters. -/
def AnalyzedObserver.filterEntries (observer : AnalyzedObserver) :
    Option (List (String × Value)) :=
  (observer.source.bind (·.filters)).map fun filters =>
    (filters.platforms.map fun listed => ("platforms", textList listed)).toList ++
    (filters.eventTypes.map fun listed => ("eventTypes", textList listed)).toList ++
    (filters.channels.map fun listed => ("channels", textList listed)).toList ++
    (observer.customLogic.map fun logic => ("customLogic", logic)).toList

structure SummarizationRequest where
  observerId : Option String := none
  streamType : Option String := none
  windowMinutes : Option Nat := none
  filters : Option (List (String × Value)) := none
  inspectionEnabled : Bool := false
  requestId : String

/-- A summary that was made, for the observer and the stretch of time that it was made for. -/
structure SummarizationRun where
  observerId : String
  windowStart : String
  storedAt : String
  summary : String
  requestId : String

inductive QueryOperator where
  | atLeast
  | equal
  deriving DecidableEq

structure QueryFilter where
  field : String
  operator : QueryOperator
  value : Value

structure EventQueryOptions where
  collectionName : String
  timeField : String
  startTime : String
  eventType : Option String
  filters : Option (List (String × Value))

/-- A document that a query returns, with the event that it was stored for, if there is one. -/
structure AnalystRow where
  id : String
  document : Value
  event : Option PersistedEvent

structure AnalyzedClose where
  observerId : String
  closedAt : Int
  windowMinutes : Nat
  ran : Bool

/-- The documents of the database, and the closes of windows that were handled. -/
structure AnalystState where
  observers : OrderedMap String AnalyzedObserver := .empty
  events : OrderedMap String PersistedEvent := .empty
  others : OrderedMap (String × String) Value := .empty
  runs : OrderedMap String SummarizationRun := .empty
  closes : List AnalyzedClose := []

def EVENTS_COLLECTION : String := "events"

def AnalystState.rows (state : AnalystState) (collectionName : String) : List AnalystRow :=
  if collectionName = EVENTS_COLLECTION then
    state.events.entries.map fun (id, persisted) =>
      { id, document := persisted.document, event := some persisted }
  else
    (state.others.entries.filter fun entry => entry.1.1 = collectionName).map fun entry =>
      { id := entry.1.2, document := entry.2, event := none }

section

variable (env : AnalystEnv)

/-- Whether a document meets a condition, which none does without the property. -/
def passesFilter (document : Value) (filter : QueryFilter) : Bool :=
  match document.get filter.field with
  | .undefined => false
  | .null => false
  | stored =>
    match filter.operator with
    | .atLeast => env.notBefore stored.toText filter.value.toText
    | .equal => env.equals stored filter.value

def queryFilters (options : EventQueryOptions) : List QueryFilter :=
  [{ field := options.timeField, operator := .atLeast, value := .str options.startTime }] ++
    (match options.eventType.bind nonEmpty with
      | some eventType =>
        if options.collectionName = EVENTS_COLLECTION then
          [{ field := "eventType", operator := .equal, value := .str eventType }]
        else []
      | none => []) ++
    (options.filters.getD []).map fun (field, value) => { field, operator := .equal, value }

def normalizePromptLog (document : Value) : Value :=
  document.extend [
    ("ingressAt", document.get "createdAt"),
    ("eventType", .str "prompt_log.v1"),
    ("message", .obj [("text", (((document.get "response").get "text").or
      (document.get "prompt")).or (.str (env.stringify document)))])]

/-- The documents that a query of the database returns, the latest first. -/
def DocumentStoreStreamAnalystStore.queryEvents (state : AnalystState)
    (options : EventQueryOptions) : List AnalystRow :=
  let records := ((state.rows options.collectionName).filter fun row =>
      (queryFilters options).all (passesFilter env row.document)).mergeSort fun left right =>
    env.textLe (right.document.get options.timeField).toText
      (left.document.get options.timeField).toText
  if options.collectionName = "prompt_logs" then
    records.map fun row => { row with document := normalizePromptLog env row.document }
  else records

def streamEventType (streamType : String) : String :=
  if streamType = "chat" then textOr env.STREAM_TYPE_MAP_CHAT "chat.message.v1"
  else if streamType = "logs" then textOr env.STREAM_TYPE_MAP_LOGS "llm.response.v1"
  else if streamType = "errors" then textOr env.STREAM_TYPE_MAP_ERRORS "system.error.v1"
  else streamType

/-- A number of minutes, unless it is absent or zero. -/
def minutesOr (minutes : Option Nat) (fallback : Nat) : Nat :=
  match minutes with
  | some found => if found = 0 then fallback else found
  | none => fallback

def minutesMs (minutes : Nat) : Int := minutes * 60000

def queryEvents (state : AnalystState) (request : SummarizationRequest)
    (observer : Option AnalyzedObserver) (queriedAt : Int) : List AnalystRow :=
  let windowMinutes := minutesOr request.windowMinutes 10
  let collectionName := textOr (observer.bind (·.collection)) EVENTS_COLLECTION
  DocumentStoreStreamAnalystStore.queryEvents env state {
    collectionName
    timeField := if collectionName = "prompt_logs" then "createdAt" else "ingressAt"
    startTime := toISOString (queriedAt - minutesMs windowMinutes)
    eventType := (request.streamType.bind nonEmpty).map (streamEventType env)
    filters := (observer.bind (·.filterEntries)).or request.filters }

/-- The readings of the clock, and what comes of the calls to the language model. -/
structure AnalysisAnswers where
  closedAt : Int
  queriedAt : Int
  builtAt : String
  storedAt : String
  summary : Option String

def windowStartMs (windowMinutes : Nat) (now : Int) : Int :=
  now / minutesMs windowMinutes * minutesMs windowMinutes

/-- The key of a run: one for each observer and each stretch of the clock. -/
def idempotencyKey (observerId : String) (windowMinutes : Nat) (now : Int) : String :=
  observerId ++ ":" ++ toISOString (windowStartMs windowMinutes now)

inductive SummarizeOutcome where
  | skipped (summary : String)
  | noEvents
  | summarized (rows : List AnalystRow) (summary : Option String)

def storedRun (state : AnalystState) (observerId : Option String) (key : String) :
    Option SummarizationRun :=
  match observerId with
  | some _ => state.runs.get? key
  | none => none

def summarize (state : AnalystState) (request : SummarizationRequest) (answers : AnalysisAnswers) :
    SummarizeOutcome × OrderedMap String SummarizationRun :=
  let requested := request.observerId.bind nonEmpty
  let observer := requested.bind state.observers.get?
  let windowMinutes := minutesOr request.windowMinutes 10
  let observerId := requested.getD "manual"
  let key := idempotencyKey observerId windowMinutes answers.closedAt
  match storedRun state requested key with
  | some run =>
    (.skipped (if run.summary = "" then "Duplicate run skipped." else run.summary), state.runs)
  | none =>
    let events := queryEvents env state request observer answers.queriedAt
    if events = [] then (.noEvents, state.runs)
    else
      let buffered :=
        takeFitting (fun row => lineTokens env answers.builtAt row.document) BUFFER_MAX_TOKENS
          events
      match answers.summary, requested with
      | some summary, some observerId =>
        (.summarized buffered (some summary), state.runs.set key {
          observerId
          windowStart := toISOString (windowStartMs windowMinutes answers.closedAt)
          storedAt := answers.storedAt
          summary
          requestId := request.requestId })
      | summary, _ => (.summarized buffered summary, state.runs)

def AnalyzedObserver.windowMinutes (observer : AnalyzedObserver) : Nat :=
  (((durationOr (observer.window.map (·.sizeMs)) 300000 : ℚ≥0) : ℚ) / 60000).ceil.toNat

def AnalyzedObserver.request (observer : AnalyzedObserver) (observerId requestId : String) :
    SummarizationRequest where
  observerId := some observerId
  streamType := some "chat"
  windowMinutes := some observer.windowMinutes
  inspectionEnabled := observer.inspectionEnabled
  requestId

/-- Handle the close of a window with its events, of which only the presence matters. -/
def handleWindowClose (state : AnalystState) (events : List Event) (observerId requestId : String)
    (answers : AnalysisAnswers) :
    Option (SummarizeOutcome × OrderedMap String SummarizationRun) :=
  match state.observers.get? observerId with
  | none => none
  | some observer =>
    if events.isEmpty then none
    else some (summarize env state (observer.request observerId requestId) answers)

end

end BitBrat
