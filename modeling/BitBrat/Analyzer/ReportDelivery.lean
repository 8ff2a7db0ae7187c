import BitBrat.Analyst.Engine
import BitBrat.Feedback.FeedbackMiddleware
import BitBrat.Routing.Next

/-! Where the summary of a closed window goes: the audit report, and the user that it is for. -/

namespace BitBrat

open Js

def INTERNAL_SUMMARIZATION_REPORT_V1 : String := "internal.summarization.report.v1"

structure StreamDestination where
  type : String
  target : String

structure StreamDelivery where
  egressTopic : String
  destination : Option StreamDestination := none

structure DeliveringObserver extends AnalyzedObserver where
  delivery : StreamDelivery

/-- The target of the summaries, where an observer without one delivers to the default. -/
def DeliveringObserver.target (observer : DeliveringObserver) : String :=
  textOr (observer.delivery.destination.map (·.target)) "default"

structure WindowCloseEnv where
  server : Server
  observers : String → Option DeliveringObserver
  /-- The summary of the engine, unless the analysis fails. -/
  summarize : SummarizationRequest → Option String
  clock : Nat → Int
  random : ℚ
  reportAccepted : Bool
  egressAccepted : Bool

def NextOutcome.accepted : NextOutcome → List Publish
  | .dispatched _ message | .egressed message => [message]
  | .alreadyDispatched | .noTarget | .missingSubject _ | .refused _ => []

def NextOutcome.isRefused : NextOutcome → Bool
  | .refused _ => true
  | _ => false

namespace EventStreamAnalyzerServer

variable (env : WindowCloseEnv)

/-- The routing of an event that this service makes, for the topic that it is meant for. -/
def analyzerRouting (topic : String) : Routing where
  stage := "response"
  slip := [{ id := "event-stream-analyzer", status := .ok, nextTopic := some topic }]
  history := []

def reportPayload (generatedAt summary observerId : String) (eventCount : Nat) : Value :=
  .obj [
    ("observerId", .str observerId),
    ("summary", .str summary),
    ("eventCount", .num (.finite eventCount)),
    ("generatedAt", .str generatedAt),
    ("analysisEngine", .str "llm")]

def reportEvent (summary observerId : String) (eventCount : Nat) : Event where
  correlationId := "summary-" ++ observerId ++ "-" ++ toString (env.clock 1)
  type := "system.summarization.report.v1"
  ingress := some {
    ingressAt := toISOString (env.clock 2)
    source := "event-stream-analyzer"
    connector := "system" }
  externalId := some "system"
  egress := some { destination := "internal", connector := "system" }
  rest := .obj [
    ("payload", reportPayload (toISOString (env.clock 3)) summary observerId eventCount)]
  routing := some ( analyzerRouting INTERNAL_SUMMARIZATION_REPORT_V1)

def egressEvent (summary : String) (observer : DeliveringObserver) : Event where
  correlationId := "egress-" ++ observer.id ++ "-" ++ toString (env.clock 4)
  type := "chat.message.v1"
  ingress := some {
    ingressAt := toISOString (env.clock 5)
    source := "event-stream-analyzer"
    connector := "system" }
  externalId := some "system"
  egress := some {
    destination := observer.target
    type := some (textOr (observer.delivery.destination.map (·.type)) "chat")
    connector := "system" }
  message := some {
    id := "summary-" ++ toString (env.clock 6)
    role := "assistant"
    text := some summary }
  routing := some ( analyzerRouting observer.delivery.egressTopic)

/--
Publish the audit report of a summary.

No step of its slip is waiting, so the time at which a step starts is never read.
-/
def publishSummaryReport (summary observerId : String) (eventCount : Nat) : NextOutcome :=
  (next env.server "" env.random env.reportAccepted
    (receive (reportEvent env summary observerId eventCount))).2

def publishToEgress (summary : String) (observer : DeliveringObserver) : NextOutcome :=
  (next env.server "" env.random env.egressAccepted
    (receive (egressEvent env summary observer))).2

/-- Handle the close of a window with its events: everything that the bus takes because of it. -/
def handleWindowClose (events : List Event) (observerId : String) : List Publish :=
  match env.observers observerId with
  | none => []
  | some observer =>
    if events.isEmpty then []
    else
      let requestId := "window-" ++ observerId ++ "-" ++ toString (env.clock 0)
      match env.summarize (observer.request observerId requestId) with
      | none => []
      | some summary =>
        let report := publishSummaryReport env summary observerId events.length
        -- A report that the bus refuses ends the delivery.
        if report.isRefused then []
        else if observer.delivery.egressTopic = "" then report.accepted
        else report.accepted ++ (publishToEgress env summary observer).accepted

def isReport (summary observerId : String) (eventCount : Nat) (event : Event) : Bool :=
  let payload := event.rest.get "payload"
  payload.get "observerId" = .str observerId ∧ payload.get "summary" = .str summary ∧
    payload.get "eventCount" = .num (.finite eventCount)

def ReportPublished (summary observerId : String) (eventCount : Nat)
    (messages : List Publish) : Prop :=
  (messages.filter fun message =>
    message.subject = withBusPrefix env.server INTERNAL_SUMMARIZATION_REPORT_V1 ∧
      isReport summary observerId eventCount message.event).length = 1

/-- Exactly one event is on the topic of an observer that has one: the summary for its target. -/
def EgressDelivered (summary : String) (observer : DeliveringObserver)
    (messages : List Publish) : Prop :=
  observer.delivery.egressTopic ≠ "" →
    ∃ message : Publish, message.event.egress.map (·.destination) = some observer.target ∧
      message.event.message.bind (·.text) = some summary ∧
      messages.filter (·.subject = withBusPrefix env.server observer.delivery.egressTopic) =
        [message]

/-- The bus takes both messages, and the target happens to name the topic, as no report does. -/
def TargetNamesTopic (observer : DeliveringObserver) : Prop :=
  observer.delivery.egressTopic ≠ "" →
    env.reportAccepted ∧ env.egressAccepted ∧
    withBusPrefix env.server observer.target =
      withBusPrefix env.server observer.delivery.egressTopic ∧
    withBusPrefix env.server "internal" ≠
      withBusPrefix env.server observer.delivery.egressTopic

end EventStreamAnalyzerServer

theorem egressForm_of_no_candidates (random : ℚ) {event : Event}
    (unproposed : event.candidates = none) :
    egressForm random event = { event with type := "egress.deliver.v1" } := by
  simp [egressForm, markSelectedCandidate, selectBestCandidate, unproposed]

theorem published_next_receive (server : Server) (now : String) (random : ℚ)
    (accepted : Bool) {event : Event} (settled : firstPending event.statuses = none) :
    (next server now random accepted (receive event)).2 =
      match egressPublish server random event with
      | none => .noTarget
      | some message => if accepted then .egressed message else .refused message := by
  have waiting : event.slip.findIdx? (fun step => step.status = .pending) = none := by
    rw [findIdx_pending]
    exact settled
  simp only [next, receive, settle, waiting, Bool.false_eq_true, ↓reduceIte]
  cases egressPublish server random event with
  | none => rfl
  | some message => cases accepted <;> rfl

theorem getLast?_withBusPrefix (server : Server) (topic : String) (named : topic ≠ "") :
    (withBusPrefix server topic).toList.getLast? = topic.toList.getLast? := by
  have present : topic.toList.getLast?.isSome := by simpa using named
  unfold withBusPrefix
  split
  · rw [String.toList_append, List.getLast?_append]
    exact Option.or_of_isSome present
  · rfl

namespace EventStreamAnalyzerServer

variable (env : WindowCloseEnv)

/-- The message that an event of this service becomes, for its destination. -/
def outgoing (destination : String) (event : Event) : Publish :=
  let delivered := { event with type := "egress.deliver.v1" }
  { subject := withBusPrefix env.server destination
    event := delivered
    attributes := buildRoutingAttributes env.server delivered none }

def reportMessage (summary observerId : String) (eventCount : Nat) : Publish :=
  outgoing env "internal" (reportEvent env summary observerId eventCount)

def egressMessage (summary : String) (observer : DeliveringObserver) : Publish :=
  outgoing env observer.target (egressEvent env summary observer)

theorem target_ne_empty (observer : DeliveringObserver) : observer.target ≠ "" := by
  unfold DeliveringObserver.target textOr
  split
  · split
    · decide
    · assumption
  · decide

theorem next_of_analyzerRouting (accepted : Bool) (event : Event)
    {topic destination : String} (routed : event.routing = some ( analyzerRouting topic))
    (unproposed : event.candidates = none)
    (addressed : event.egress.map (·.destination) = some destination) (named : destination ≠ "") :
    (next env.server "" env.random accepted (receive event)).2 =
      if accepted then .egressed (outgoing env destination event)
      else .refused (outgoing env destination event) := by
  have settled : firstPending event.statuses = none := by
    simp [Event.statuses, Event.slip, routed, analyzerRouting, firstPending]
  have fallback : egressPublish env.server env.random event =
      some (outgoing env destination event) := by
    simp [egressPublish, resolveSubject, addressed, nonEmpty, named,
      egressForm_of_no_candidates env.random unproposed, outgoing]
  rw [published_next_receive env.server "" env.random accepted settled, fallback]

theorem publishSummaryReport_eq (summary observerId : String) (eventCount : Nat) :
    publishSummaryReport env summary observerId eventCount =
      if env.reportAccepted then .egressed (reportMessage env summary observerId eventCount)
      else .refused (reportMessage env summary observerId eventCount) :=
  next_of_analyzerRouting env env.reportAccepted
    (reportEvent env summary observerId eventCount) rfl rfl rfl (by decide)

theorem publishToEgress_eq (summary : String) (observer : DeliveringObserver) :
    publishToEgress env summary observer =
      if env.egressAccepted then .egressed (egressMessage env summary observer)
      else .refused (egressMessage env summary observer) :=
  next_of_analyzerRouting env env.egressAccepted (egressEvent env summary observer) rfl rfl rfl
    (target_ne_empty observer)

variable {events : List Event} {observerId summary : String} {observer : DeliveringObserver}

theorem handleWindowClose_analyzed (found : env.observers observerId = some observer)
    (nonempty : events ≠ []) (analyzed : env.summarize (observer.request observerId
      ("window-" ++ observerId ++ "-" ++ toString (env.clock 0))) = some summary) :
    handleWindowClose env events observerId =
      if env.reportAccepted then
        reportMessage env summary observerId events.length ::
          (if observer.delivery.egressTopic ≠ "" ∧ env.egressAccepted then
            [egressMessage env summary observer] else [])
      else [] := by
  have filled : events.isEmpty = false := by simpa using nonempty
  simp only [handleWindowClose, found, filled, analyzed, publishSummaryReport_eq,
    publishToEgress_eq, Bool.false_eq_true, ↓reduceIte]
  -- A refused report leaves nothing, and a refused message to the user leaves the report.
  cases env.reportAccepted with
  | false => simp [NextOutcome.isRefused]
  | true =>
    by_cases unnamed : observer.delivery.egressTopic = ""
    · simp [NextOutcome.isRefused, NextOutcome.accepted, unnamed]
    · cases env.egressAccepted <;>
        simp [NextOutcome.isRefused, NextOutcome.accepted, unnamed]

theorem internal_ne_report :
    withBusPrefix env.server "internal" ≠
      withBusPrefix env.server INTERNAL_SUMMARIZATION_REPORT_V1 := by
  intro same
  -- The two names end in different characters, and a namespace only stands in front.
  have endings := congrArg (fun text => text.toList.getLast?) same
  simp only [getLast?_withBusPrefix env.server "internal" (by decide),
    getLast?_withBusPrefix env.server INTERNAL_SUMMARIZATION_REPORT_V1 (by decide)] at endings
  revert endings
  decide

theorem isReport_egressMessage (summary observerId : String) (eventCount : Nat)
    (observer : DeliveringObserver) :
    isReport summary observerId eventCount (egressMessage env summary observer).event = false := by
  simp [isReport, egressMessage, outgoing, egressEvent, Value.get, Value.fields]

theorem not_reportPublished (found : env.observers observerId = some observer)
    (nonempty : events ≠ []) (analyzed : env.summarize (observer.request observerId
      ("window-" ++ observerId ++ "-" ++ toString (env.clock 0))) = some summary) :
    ¬ ReportPublished env summary observerId events.length
      (handleWindowClose env events observerId) := by
  intro published
  have nothing : (handleWindowClose env events observerId).filter (fun message =>
      message.subject = withBusPrefix env.server INTERNAL_SUMMARIZATION_REPORT_V1 ∧
        isReport summary observerId events.length message.event) = [] := by
    rw [handleWindowClose_analyzed env found nonempty analyzed]
    -- The report has another subject, and the message to the user is no report.
    have elsewhere : (reportMessage env summary observerId events.length).subject ≠
        withBusPrefix env.server INTERNAL_SUMMARIZATION_REPORT_V1 := internal_ne_report env
    have plain := isReport_egressMessage env summary observerId events.length observer
    split
    · split <;> simp [elsewhere, plain]
    · rfl
  rw [ReportPublished, nothing] at published
  cases published

theorem egressDelivered_iff (found : env.observers observerId = some observer)
    (nonempty : events ≠ []) (analyzed : env.summarize (observer.request observerId
      ("window-" ++ observerId ++ "-" ++ toString (env.clock 0))) = some summary) :
    EgressDelivered env summary observer (handleWindowClose env events observerId) ↔
      TargetNamesTopic env observer := by
  rw [handleWindowClose_analyzed env found nonempty analyzed]
  unfold EgressDelivered TargetNamesTopic
  refine imp_congr_right fun named => ?_
  have unsaid : (reportMessage env summary observerId events.length).event.message.bind (·.text) =
      none := rfl
  have said : (egressMessage env summary observer).event.message.bind (·.text) = some summary :=
    rfl
  have addressed : (egressMessage env summary observer).event.egress.map (·.destination) =
      some observer.target := rfl
  have reported : (reportMessage env summary observerId events.length).subject =
      withBusPrefix env.server "internal" := rfl
  have sent : (egressMessage env summary observer).subject =
      withBusPrefix env.server observer.target := rfl
  constructor
  · rintro ⟨message, _, carries, only⟩
    have present : message ∈ [message] := List.mem_singleton_self message
    rw [← only, List.mem_filter] at present
    obtain ⟨member, onTopic⟩ := present
    have other : message ≠ reportMessage env summary observerId events.length := by
      intro same
      rw [same, unsaid] at carries
      cases carries
    -- The one message that carries the summary is the message to the user, so both were taken.
    cases reportAccepted : env.reportAccepted with
    | false => simp [reportAccepted] at member
    | true =>
      cases egressAccepted : env.egressAccepted with
      | false => simp [reportAccepted, egressAccepted, other] at member
      | true =>
        have same : message = egressMessage env summary observer := by
          simpa [reportAccepted, egressAccepted, named, other] using member
        have sameTopic : withBusPrefix env.server observer.target =
            withBusPrefix env.server observer.delivery.egressTopic := by
          simpa [same, sent] using onTopic
        refine ⟨rfl, rfl, sameTopic, ?_⟩
        intro reportToo
        -- The report would be a second event on the topic.
        simp [reportAccepted, egressAccepted, named, reported, sent, sameTopic, reportToo]
          at only
  · rintro ⟨reportAccepted, egressAccepted, sameTopic, apart⟩
    refine ⟨egressMessage env summary observer, addressed, said, ?_⟩
    simp [reportAccepted, egressAccepted, named, reported, sent, sameTopic, apart]

/--
No window whose analysis succeeds has its audit report on the topic of the reports, and its
summary is on the observer's own topic exactly where the observer's target happens to name it.
-/
theorem handleWindowClose_deliveries {events : List Event} {observerId summary : String}
    {observer : DeliveringObserver} (found : env.observers observerId = some observer)
    (nonempty : events ≠ [])
    (analyzed : env.summarize (observer.request observerId
      ("window-" ++ observerId ++ "-" ++ toString (env.clock 0))) = some summary) :
    ¬ ReportPublished env summary observerId events.length
      (handleWindowClose env events observerId) ∧
    (EgressDelivered env summary observer (handleWindowClose env events observerId) ↔
      TargetNamesTopic env observer) :=
  ⟨not_reportPublished env found nonempty analyzed,
    egressDelivered_iff env found nonempty analyzed⟩

def channelObserver : DeliveringObserver where
  id := "moderation"
  active := true
  delivery := {
    egressTopic := "internal.egress.v1"
    destination := some { type := "chat", target := "#moderators" } }

/-- A platform with that observer, where the analysis succeeds and the bus accepts everything. -/
def channelEnv : WindowCloseEnv where
  server := { serviceName := "event-stream-analyzer" }
  observers := fun _ => some channelObserver
  summarize := fun _ => some "A quiet hour."
  clock := fun reading => 1700000000000 + reading
  random := 0
  reportAccepted := true
  egressAccepted := true

def channelMessage : Event := { correlationId := "c-1", type := "chat.message.v1" }

/-- The window of one message at that observer. -/
theorem handleWindowClose_deliveries_channel :
    ¬ ReportPublished channelEnv "A quiet hour." "moderation" 1
      (handleWindowClose channelEnv [channelMessage] "moderation") ∧
    (EgressDelivered channelEnv "A quiet hour." channelObserver
        (handleWindowClose channelEnv [channelMessage] "moderation") ↔
      TargetNamesTopic channelEnv channelObserver) :=
  have nonempty : [channelMessage] ≠ [] := by simp
  handleWindowClose_deliveries channelEnv rfl nonempty rfl

/-- Neither of the two messages of that window is on the topic that it is meant for. -/
theorem not_delivered_channel :
    ¬ ∀ (env : WindowCloseEnv) (events : List Event) (observerId summary : String)
        (observer : DeliveringObserver), env.observers observerId = some observer →
      events ≠ [] →
      env.summarize (observer.request observerId
        ("window-" ++ observerId ++ "-" ++ toString (env.clock 0))) = some summary →
      ReportPublished env summary observerId events.length
          (handleWindowClose env events observerId) ∧
        EgressDelivered env summary observer (handleWindowClose env events observerId) := by
  intro delivered
  have both := delivered channelEnv [channelMessage] "moderation" "A quiet hour." channelObserver
    rfl (by simp) rfl
  have found : channelEnv.observers "moderation" = some channelObserver := rfl
  exact not_reportPublished channelEnv found (by simp) rfl both.1

end EventStreamAnalyzerServer

end BitBrat
