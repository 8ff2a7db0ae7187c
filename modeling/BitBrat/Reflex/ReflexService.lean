import BitBrat.Reflex.ReflexAdmin
import BitBrat.Routing.NextAtomicity

/-! The handler of the reflex service: what it does to an event, whatever goes wrong. -/

namespace BitBrat

open Js

/-- What the execution of a tool, or of its parameters, may throw. -/
inductive ExecutionFailure where
  | timeout (message : String)
  | tool (message : String) (statusCode : Option Nat)
  | other (message : String)

structure ExecutionOutcomes where
  parameters : Except ExecutionFailure Value
  tool : Except ExecutionFailure Value
  candidates : Except String (List Value)

inductive ReflexExecutionResult where
  | success (result : Value) (candidates : Option (List Value)) (latency : Nat)
  | error (message code : String) (latency : Nat)

def ExecutionFailure.details : ExecutionFailure → String × String
  | .timeout message => (message, "TIMEOUT")
  | .tool message (some statusCode) =>
    -- A status of zero counts as none.
    (message, if statusCode = 0 then "TOOL_ERROR" else "HTTP_" ++ toString statusCode)
  | .tool message none => (message, "TOOL_ERROR")
  | .other message => (message, "UNKNOWN_ERROR")

structure SelectedReflex where
  id : String
  name : String
  patternMatch : CreateMatch
  action : Option ToolInvocation := none
  candidateTemplate : Option CandidateTemplate := none

def executeReflex (reflex : SelectedReflex) (outcomes : ExecutionOutcomes) (latency : Nat) :
    ReflexExecutionResult :=
  let toolResult : Except ExecutionFailure Value :=
    match reflex.action with
    | none => .ok .undefined
    | some _ =>
      match outcomes.parameters with
      | .error failure => .error failure
      | .ok _ => outcomes.tool
  match toolResult with
  | .error failure => .error failure.details.1 failure.details.2 latency
  | .ok result =>
    -- Candidates that cannot be built are left out, and the execution succeeds.
    let candidates := if templateTruthy reflex.candidateTemplate then
      outcomes.candidates.toOption else none
    .success result candidates latency

structure HandlerOutcomes where
  selection : Except String (Option SelectedReflex)
  execution : ExecutionOutcomes
  executionLatency : Nat
  totalLatency : Nat
  /-- The message of what attaching the result to the event throws, if it does. -/
  enrichment : Option String := none
  firstAccepted : Bool
  secondAccepted : Bool
  firstAck : Bool
  secondAck : Bool
  nowMs : Int
  nowIso : String
  random : ℚ

inductive Dispatch where
  | next
  | complete
  deriving DecidableEq

/-- The event in the memory of the service, and what was done with it so far, oldest first. -/
structure ReflexRun where
  live : LiveEvent
  marks : List (Nat × RoutingStatus) := []
  calls : List Dispatch := []
  sent : List Publish := []
  acks : List Bool := []

def ReflexRun.mark (run : ReflexRun) (now : String) (update : StepUpdate) : ReflexRun :=
  let (event, marked) := updateCurrentStep now update run.live.event
  { run with
    live := { run.live with event }
    marks := run.marks ++ (marked.map fun (index, step) => (index, step.status)).toList }

/-- Send the event on, where a failure is only logged. -/
def ReflexRun.dispatch (run : ReflexRun) (server : Server) (outcomes : HandlerOutcomes)
    (dispatch : Dispatch) (accepted : Bool) : ReflexRun :=
  let (live, outcome) := match dispatch with
    | .next => next server outcomes.nowIso outcomes.random accepted run.live
    | .complete => complete server outcomes.nowIso outcomes.random accepted run.live
  { run with
    live
    calls := run.calls ++ [dispatch]
    sent := run.sent ++ if outcome.published then outcome.message.toList else [] }

def ReflexRun.ack (run : ReflexRun) (works : Bool) : ReflexRun :=
  { run with acks := run.acks ++ [works] }

def reflexAnnotation (outcomes : HandlerOutcomes) (reflex : SelectedReflex) (latency : Nat) :
    Value :=
  .obj
    [("id", .str ("reflex-" ++ reflex.id ++ "-" ++ toString outcomes.nowMs)),
     ("kind", .str "custom"),
     ("source", .str "reflex"),
     ("createdAt", .str outcomes.nowIso),
     ("label", .str "reflex-execution"),
     ("payload", .obj
       [("reflexId", .str reflex.id),
        ("reflexName", .str reflex.name),
        ("matchedPattern", .obj
          [("type", .str reflex.patternMatch.type.toText),
           ("pattern", .str reflex.patternMatch.pattern),
           ("field", .str reflex.patternMatch.field)]),
        ("executionLatency", .num (.finite latency)),
        ("totalLatency", .num (.finite outcomes.totalLatency))])]

namespace ReflexServer

/-- Attach the result of a reflex to the event: an annotation behind, and candidates in front. -/
def enrichEvent (outcomes : HandlerOutcomes) (reflex : SelectedReflex)
    (candidates : Option (List Value)) (latency : Nat) (event : Event) : Event :=
  let annotated := { event with
    annotations := some (event.annotations.getD [] ++ [ reflexAnnotation outcomes reflex latency]) }
  match candidates with
  | some (first :: rest) =>
    { annotated with candidates := some (first :: rest ++ annotated.candidates.getD []) }
  | _ => annotated

end ReflexServer

/-- What was done when something was thrown: the step fails, and the event is completed. -/
def ReflexRun.degrade (run : ReflexRun) (server : Server) (outcomes : HandlerOutcomes)
    (accepted works : Bool) (message : String) : ReflexRun :=
  let marked := run.mark outcomes.nowIso
    { status := some .error
      error := some (some
        { code := "REFLEX_PROCESSING_ERROR", message := some message, retryable := some false }) }
  (marked.dispatch server outcomes .complete accepted).ack works

/-- Mark the step, send the event on and acknowledge, where an error is handled like any other. -/
def ReflexRun.finish (run : ReflexRun) (server : Server) (outcomes : HandlerOutcomes)
    (update : StepUpdate) (dispatch : Dispatch) : ReflexRun :=
  let acknowledged := ((run.mark outcomes.nowIso update).dispatch server outcomes dispatch
    outcomes.firstAccepted).ack outcomes.firstAck
  if outcomes.firstAck then acknowledged
  else
    -- The message was sent on already, and still the error is handled like one before that.
    acknowledged.degrade server outcomes outcomes.secondAccepted outcomes.secondAck
      "acknowledgement failed"

def handleReflexMessage (server : Server) (outcomes : HandlerOutcomes) (event : Event) :
    ReflexRun :=
  let run : ReflexRun := { live := receive event }
  let failed (run : ReflexRun) (message : String) :=
    run.degrade server outcomes outcomes.firstAccepted outcomes.firstAck message
  match outcomes.selection with
  | .error message => failed run message
  | .ok none =>
    run.finish server outcomes { status := some .ok, notes := some "No matching reflex" } .next
  | .ok (some reflex) =>
    match executeReflex reflex outcomes.execution outcomes.executionLatency with
    | .success _ candidates latency =>
      match outcomes.enrichment with
      | some message => failed run message
      | none =>
        let enriched : ReflexRun := { run with live := { run.live with
          event := ReflexServer.enrichEvent outcomes reflex candidates latency run.live.event } }
        -- The notification of the execution is sent next, and its failure is only logged.
        enriched.finish server outcomes
          { status := some .ok
            notes := some ("Reflex executed: " ++ reflex.name ++ " (" ++ toString latency ++
              "ms)") }
          .complete
    | .error message code _ =>
      run.finish server outcomes
        { status := some .error
          error := some (some
            { code := if code = "" then "REFLEX_EXECUTION_ERROR" else code
              message := some message, retryable := some false })
          notes := some ("Reflex failed: " ++ reflex.name) }
        .complete

/-- The discipline of the handler: one acknowledgement, one way on, and one mark. -/
structure DispatchDiscipline (event : Event) (run : ReflexRun) : Prop where
  acknowledged : run.acks = [true]
  sentOnce : run.sent.length ≤ 1
  oneWayOn : run.calls.length = 1
  markedOnce : ∀ index, firstPending event.statuses = some index →
    run.marks.map Prod.fst = [index]

/-- The step that is current is the one that is waiting, if one is. -/
def CurrentIsPending (event : Event) : Prop :=
  ∀ index, firstPending event.statuses = some index → firstCurrent event.statuses = some index

structure ReflexRun.Untouched (run : ReflexRun) (event : Event) : Prop where
  statuses : run.live.event.statuses = event.statuses
  marks : run.marks = []
  calls : run.calls = []
  sent : run.sent = []
  acks : run.acks = []

theorem updateCurrentStep_lands (now : String) (update : StepUpdate) (event : Event) :
    (updateCurrentStep now update event).2.map Prod.fst = firstCurrent event.statuses := by
  unfold updateCurrentStep
  rw [findIdx_isCurrent]
  cases current : firstCurrent event.statuses with
  | none => rfl
  | some index =>
    obtain ⟨step, found⟩ := exists_step_of_firstCurrent current
    simp [found]

private theorem ReflexRun.marks_mark (run : ReflexRun) (now : String) (update : StepUpdate) :
    (run.mark now update).marks.map Prod.fst =
      run.marks.map Prod.fst ++ (firstCurrent run.live.event.statuses).toList := by
  rw [← updateCurrentStep_lands now update run.live.event]
  simp only [mark, List.map_append, List.append_cancel_left_eq]
  cases (updateCurrentStep now update run.live.event).2 <;> rfl

private theorem ReflexRun.length_sent_dispatch (run : ReflexRun) (server : Server)
    (outcomes : HandlerOutcomes) (way : Dispatch) (accepted : Bool) :
    (run.dispatch server outcomes way accepted).sent.length ≤ run.sent.length + 1 := by
  have short (outcome : NextOutcome) :
      (if outcome.published then outcome.message.toList else []).length ≤ 1 := by
    cases outcome <;> simp [NextOutcome.published, NextOutcome.message]
  simp only [dispatch, List.length_append]
  -- Either function hands at most one message to the bus.
  cases way <;> exact Nat.add_le_add_left (short _) _

variable {run : ReflexRun} {event : Event}

private theorem ReflexRun.Untouched.discipline_iff (untouched : run.Untouched event)
    (server : Server) (outcomes : HandlerOutcomes) (update : StepUpdate) (way : Dispatch)
    (accepted works : Bool) : DispatchDiscipline event
        (((run.mark outcomes.nowIso update).dispatch server outcomes way accepted).ack works) ↔
      works = true ∧ CurrentIsPending event := by
  set marked := run.mark outcomes.nowIso update with markedIs
  have marks : marked.marks.map Prod.fst = (firstCurrent event.statuses).toList := by
    rw [markedIs, marks_mark, untouched.statuses, untouched.marks]
    rfl
  constructor
  · intro law
    refine ⟨?_, ?_⟩
    · have acks : marked.acks ++ [works] = [true] := law.acknowledged
      simpa [markedIs, mark, untouched.acks] using acks
    · intro index pending
      have landed : marked.marks.map Prod.fst = [index] := law.markedOnce index pending
      rw [marks] at landed
      simpa using landed
  · intro ⟨acknowledged, current⟩
    constructor
    case acknowledged => simp [ack, dispatch, markedIs, mark, untouched.acks, acknowledged]
    case sentOnce =>
      have sent := marked.length_sent_dispatch server outcomes way accepted
      have none : marked.sent = [] := untouched.sent
      simpa [ack, none] using sent
    case oneWayOn => simp [ack, dispatch, markedIs, mark, untouched.calls]
    case markedOnce =>
      intro index pending
      have landed : marked.marks.map Prod.fst = [index] := by rw [marks, current index pending]; rfl
      exact landed

private theorem ReflexRun.Untouched.degrade_iff (untouched : run.Untouched event) (server : Server)
    (outcomes : HandlerOutcomes) (accepted works : Bool) (message : String) :
    DispatchDiscipline event (run.degrade server outcomes accepted works message) ↔
      works = true ∧ CurrentIsPending event :=
  untouched.discipline_iff server outcomes _ .complete accepted works

private theorem ReflexRun.Untouched.finish_iff (untouched : run.Untouched event) (server : Server)
    (outcomes : HandlerOutcomes) (update : StepUpdate) (way : Dispatch) :
    DispatchDiscipline event (run.finish server outcomes update way) ↔
      outcomes.firstAck = true ∧ CurrentIsPending event := by
  rw [← untouched.discipline_iff server outcomes update way outcomes.firstAccepted]
  simp only [finish]
  by_cases works : outcomes.firstAck = true
  · rw [if_pos works]
  · rw [if_neg works]
    have failed : outcomes.firstAck = false := by simpa using works
    constructor
    · intro law
      -- The message is acknowledged a second time after the first attempt threw.
      have acks := law.acknowledged
      simp [degrade, ack, dispatch, mark, untouched.acks] at acks
    · intro law
      have acks := law.acknowledged
      simp [ack, dispatch, mark, untouched.acks, failed] at acks

theorem statuses_enrichEvent (outcomes : HandlerOutcomes) (reflex : SelectedReflex)
    (candidates : Option (List Value)) (latency : Nat) (event : Event) :
    (ReflexServer.enrichEvent outcomes reflex candidates latency event).statuses =
      event.statuses := by
  unfold ReflexServer.enrichEvent
  split <;> rfl

/--
The handler keeps its discipline exactly when the acknowledgement goes through and no failed step
stands before the one that is waiting.
-/
theorem handleReflexMessage_iff (server : Server) (outcomes : HandlerOutcomes) (event : Event) :
    DispatchDiscipline event (handleReflexMessage server outcomes event) ↔
      outcomes.firstAck = true ∧ CurrentIsPending event := by
  have untouched : ReflexRun.Untouched { live := receive event } event :=
    ⟨rfl, rfl, rfl, rfl, rfl⟩
  simp only [handleReflexMessage]
  cases outcomes.selection with
  | error message => exact untouched.degrade_iff server outcomes _ _ message
  | ok selected =>
    cases selected with
    | none => exact untouched.finish_iff server outcomes _ .next
    | some reflex =>
      simp only
      cases executeReflex reflex outcomes.execution outcomes.executionLatency with
      | error message code latency => exact untouched.finish_iff server outcomes _ .complete
      | success result candidates latency =>
        cases outcomes.enrichment with
        | some message => exact untouched.degrade_iff server outcomes _ _ message
        | none =>
          -- The result is attached to the event, whose slip stays.
          refine ReflexRun.Untouched.finish_iff ⟨?_, rfl, rfl, rfl, rfl⟩ server outcomes _ .complete
          exact statuses_enrichEvent outcomes reflex candidates latency event

def failedBefore : Event where
  correlationId := "c-1"
  type := "chat.message.v1"
  egress := some { destination := "internal.egress.v1", connector := "slack" }
  routing := some
    { stage := "analysis"
      slip := [{ id := "auth", status := .error, nextTopic := some "internal.auth.v1" },
        { id := "reflex", status := .pending, nextTopic := some "internal.reflex.v1" }]
      history := [] }

def quietOutcomes : HandlerOutcomes where
  selection := .ok none
  execution := { parameters := .ok .undefined, tool := .ok .undefined, candidates := .ok [] }
  executionLatency := 0
  totalLatency := 0
  firstAccepted := true
  secondAccepted := true
  firstAck := true
  secondAck := true
  nowMs := 0
  nowIso := "2024-01-01T00:00:00.000Z"
  random := 0

/-- A step that failed before is marked instead of the one that the event was sent to. -/
theorem handleReflexMessage_fails :
    ¬ ∀ (server : Server) (outcomes : HandlerOutcomes) (event : Event),
      outcomes.firstAck = true →
        DispatchDiscipline event (handleReflexMessage server outcomes event) := by
  intro always
  have law := always { serviceName := "reflex" } quietOutcomes failedBefore rfl
  have marked := law.markedOnce 1 (by decide)
  exact absurd marked (by decide)

end BitBrat
