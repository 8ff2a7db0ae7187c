import BitBrat.Types.Event

/-! Progress feedback of long-running operations: which message a call sends, and when. -/

namespace BitBrat

open Js

structure FeedbackMiddlewareConfig where
  initialThresholdMs : Number := .finite 2000
  updateIntervalMs : Number := .finite 5000
  timeoutThresholdMs : Number := .finite 30000
  enabled : Bool := true

inductive ProgressStage where
  | initial
  | update
  | timeout
  | completion
  deriving DecidableEq

structure OperationState where
  /-- When the operation started, unless that is not a valid time. -/
  startedAt : Option Int
  lastProgressAt : Option Int := none
  stage : ProgressStage

structure FeedbackEnv where
  parseJson : String → Option Value
  /-- The time that a text denotes, if it is a valid one. -/
  parseDate : String → Option Int

/-- One call before an event is published, with the time that passes before each clock reading. -/
structure FeedbackCall where
  event : Event
  untilTracked : Nat
  untilElapsed : Nat
  untilDecided : Nat
  untilSent : Nat
  untilRecorded : Nat

structure FeedbackMessage where
  correlationId : String
  stage : ProgressStage
  elapsedMs : Number
  sentAt : Int

/-- The middleware with its clock, and the messages that it sent, oldest first. -/
structure FeedbackMiddleware where
  operationTracking : OrderedMap String OperationState
  clock : Int
  sent : List FeedbackMessage

def FeedbackMiddleware.started (clock : Int) : FeedbackMiddleware :=
  { operationTracking := .empty, clock, sent := [] }

/-- Whether a number is at least another one, where not-a-number never is. -/
def atLeast (left right : Number) : Bool :=
  left ≠ .nan && right ≠ .nan && !left.lt right

/-- The time of a number of milliseconds, cut to whole ones, if it is in range. -/
def dateOfNumber : Number → Option Int
  | .finite value =>
    let ms := value.num.tdiv value.den
    if ms.natAbs ≤ 8640000000000000 then some ms else none
  | _ => none

/-- The description of the operation that an event belongs to, if it carries one. -/
def extractOperationContext (env : FeedbackEnv) (event : Event) : Option Value :=
  let annotations := event.annotations.getD []
  match annotations.find? fun found => found.get "kind" = .str "operation_context" with
  | none => none
  | some found =>
    let value := found.get "value"
    let context :=
      if ¬ value.truthy then none
      else
        match value with
        | .str text => env.parseJson text
        | other => some other
    -- A falsy context is none.
    context.filter Value.truthy

def startOf (env : FeedbackEnv) (operationContext : Value) (now : Int) : Option Int :=
  let startedAt := operationContext.get "startedAt"
  if startedAt.truthy then
    -- What a date is built from decides when the operation has started.
    match startedAt with
    | .num value => dateOfNumber value
    | .str text => env.parseDate text
    | .date ms => some ms
    | _ => some now
  else some now

/-- The tracked state of the event's operation, which is created when there is none. -/
def getOrCreateState (env : FeedbackEnv) (operationTracking : OrderedMap String OperationState)
    (event : Event) (operationContext : Value) (now : Int) :
    OperationState × OrderedMap String OperationState :=
  match operationTracking.get? event.correlationId with
  | some existing => (existing, operationTracking)
  | none =>
    -- A new operation is stored before anything is sent for it.
    let state : OperationState :=
      { startedAt := startOf env operationContext now, stage := .initial }
    (state, operationTracking.set event.correlationId state)

/-- The stage of the message to send now, if one is due. -/
def determineStage (config : FeedbackMiddlewareConfig) (state : OperationState)
    (elapsedMs : Number) (now : Int) : Option ProgressStage :=
  if atLeast elapsedMs config.timeoutThresholdMs ∧ state.stage ≠ .timeout then some .timeout
  else
    -- The stage is not looked at any more, only when the last message was sent.
    match state.lastProgressAt with
    | some lastProgressAt =>
      if atLeast (.finite (now - lastProgressAt : Int)) config.updateIntervalMs then some .update
      else none
    | none => if atLeast elapsedMs config.initialThresholdMs then some .initial else none

/--
Send the progress message that is due before an event is published.

A message counts as sent whether or not the bus accepts it, and the state is updated either way.
-/
def FeedbackMiddleware.beforeNext (env : FeedbackEnv) (config : FeedbackMiddlewareConfig)
    (middleware : FeedbackMiddleware) (call : FeedbackCall) : FeedbackMiddleware :=
  let trackedAt := middleware.clock + call.untilTracked
  let elapsedAt := trackedAt + call.untilElapsed
  let decidedAt := elapsedAt + call.untilDecided
  let sentAt := decidedAt + call.untilSent
  let recordedAt := sentAt + call.untilRecorded
  if ¬ config.enabled then { middleware with clock := recordedAt }
  else
    match extractOperationContext env call.event with
    | none => { middleware with clock := recordedAt }
    | some operationContext =>
      let (state, operationTracking) :=
        getOrCreateState env middleware.operationTracking call.event operationContext trackedAt
      -- No threshold is reached from a start that is not a valid time.
      let elapsedMs : Number :=
        match state.startedAt with
        | some startedAt => .finite (elapsedAt - startedAt : Int)
        | none => .nan
      match determineStage config state elapsedMs decidedAt with
      | none => { middleware with operationTracking, clock := recordedAt }
      | some stage =>
        { operationTracking := operationTracking.set call.event.correlationId
            { state with stage, lastProgressAt := some recordedAt }
          clock := recordedAt
          sent := middleware.sent ++
            [{ correlationId := call.event.correlationId, stage, elapsedMs, sentAt }] }

end BitBrat
