import BitBrat.Routing.Contenders

/-! Settling the current step of a routing slip, and which statuses that leaves behind. -/

namespace BitBrat

open Js

structure StepUpdate where
  status : Option RoutingStatus := none
  error : Option (Option StepError) := none
  notes : Option String := none
  appendNote : Option String := none

def RoutingStatus.isCurrent (status : RoutingStatus) : Bool :=
  -- A failed step is current again, unlike a step that was handled or passed over.
  status ≠ .ok ∧ status ≠ .skip

def updatedNotes (update : StepUpdate) (notes : Option String) : Option String :=
  match update.notes with
  | some replaced => some replaced
  | none =>
    match update.appendNote.bind nonEmpty with
    | none => notes
    | some appended =>
      match notes.bind nonEmpty with
      | some held => some (held ++ "\n" ++ appended)
      | none => some appended

def RoutingStep.apply (now : String) (update : StepUpdate) (step : RoutingStep) : RoutingStep :=
  let noted := { step with
    notes := updatedNotes update step.notes
    error := update.error <|> step.error }
  match update.status with
  | none => noted
  -- Reopening a step records no end time.
  | some .pending => { noted with status := .pending }
  | some status => { noted with status, endedAt := some (textOr step.endedAt now) }

/-- Update the first step that is neither handled nor passed over, and report which one it was. -/
def updateCurrentStep (now : String) (update : StepUpdate) (event : Event) :
    Event × Option (Nat × RoutingStep) :=
  match event.slip.findIdx? (·.status.isCurrent) with
  | none => (event, none)
  | some index =>
    -- The position was just found, so that a step is there.
    match event.slip[index]? with
    | none => (event, none)
    | some step =>
      let updated := step.apply now update
      (event.setStep index updated, some (index, updated))

/-- The topics that the steps are dispatched to, in slip order. -/
def Event.topics (event : Event) : List (Option String) := event.slip.map (·.nextTopic)

/-- The position of the first step that is waiting to be dispatched. -/
def firstPending (statuses : List RoutingStatus) : Option Nat := statuses.findIdx? (· = .pending)

def firstCurrent (statuses : List RoutingStatus) : Option Nat := statuses.findIdx? (·.isCurrent)

/-- The positions waiting to be dispatched, in slip order. -/
def pendingIndices (statuses : List RoutingStatus) : List Nat :=
  (List.range statuses.length).filter fun index => statuses[index]? = some .pending

@[simp] theorem RoutingStep.status_apply (now : String) (status : RoutingStatus)
    (step : RoutingStep) : (step.apply now { status := some status }).status = status := by
  cases status <;> rfl

@[simp] theorem RoutingStep.nextTopic_apply (now : String) (update : StepUpdate)
    (step : RoutingStep) : (step.apply now update).nextTopic = step.nextTopic := by
  unfold apply
  split <;> rfl

theorem findIdx_isCurrent (event : Event) :
    event.slip.findIdx? (·.status.isCurrent) = firstCurrent event.statuses := by
  simp [firstCurrent, Event.statuses, List.findIdx?_map, Function.comp_def]

theorem findIdx_pending (event : Event) :
    event.slip.findIdx? (fun step => step.status = .pending) = firstPending event.statuses := by
  simp [firstPending, Event.statuses, List.findIdx?_map, Function.comp_def]

variable {event : Event} {index : Nat}

theorem exists_step_of_firstCurrent (current : firstCurrent event.statuses = some index) :
    ∃ step, event.slip[index]? = some step := by
  -- The search only answers with positions inside the list.
  obtain ⟨within, _⟩ := List.findIdx?_eq_some_iff_getElem.mp current
  have inside : index < event.slip.length := by simpa [Event.statuses] using within
  exact ⟨event.slip[index], List.getElem?_eq_getElem inside⟩

theorem exists_step_of_firstPending (waiting : firstPending event.statuses = some index) :
    ∃ step, event.slip[index]? = some step ∧ step.status = .pending := by
  obtain ⟨within, holds, _⟩ := List.findIdx?_eq_some_iff_getElem.mp waiting
  have inside : index < event.slip.length := by simpa [Event.statuses] using within
  refine ⟨event.slip[index], List.getElem?_eq_getElem inside, ?_⟩
  simpa [Event.statuses] using holds

theorem updateCurrentStep_spec (now : String) (status : RoutingStatus) (event : Event) :
    (firstCurrent event.statuses = none ∧
      updateCurrentStep now { status := some status } event = (event, none)) ∨
    ∃ index step, firstCurrent event.statuses = some index ∧ event.slip[index]? = some step ∧
      updateCurrentStep now { status := some status } event =
        (event.setStep index (step.apply now { status := some status }),
          some (index, step.apply now { status := some status })) := by
  -- Without a current step the event stays.
  cases current : firstCurrent event.statuses with
  | none =>
    refine .inl ⟨rfl, ?_⟩
    simp [updateCurrentStep, findIdx_isCurrent, current]
  | some index =>
    obtain ⟨step, found⟩ := exists_step_of_firstCurrent current
    refine .inr ⟨index, step, rfl, found, ?_⟩
    simp [updateCurrentStep, findIdx_isCurrent, current, found]

theorem updateCurrentStep_index (now : String) (status : RoutingStatus) (event : Event) :
    (updateCurrentStep now { status := some status } event).2.map Prod.fst =
      firstCurrent event.statuses := by
  rcases updateCurrentStep_spec now status event with
    ⟨none_left, same⟩ | ⟨index, step, at_, _, same⟩
  · simp [same, none_left]
  · simp [same, at_]

theorem statuses_updateCurrentStep (now : String) (status : RoutingStatus) (event : Event)
    (current : firstCurrent event.statuses = some index) :
    (updateCurrentStep now { status := some status } event).1.statuses =
      event.statuses.set index status := by
  rcases updateCurrentStep_spec now status event with ⟨none_left, _⟩ | ⟨other, step, at_, _, same⟩
  · rw [current] at none_left; cases none_left
  · rw [current] at at_
    cases at_
    simp [same]

variable {step : RoutingStep}

theorem topics_setStep {other : RoutingStep} (found : event.slip[index]? = some step)
    (same : other.nextTopic = step.nextTopic) :
    (event.setStep index other).topics = event.topics := by
  simp only [Event.topics, Event.slip_setStep, List.map_set, same]
  -- Only the replaced position can differ, and it carries the topic it had.
  apply List.ext_getElem?
  intro position
  by_cases here : index = position
  · subst here
    obtain ⟨inside, held⟩ := List.getElem?_eq_some_iff.mp found
    simp [inside, held]
  · simp [here]

theorem topics_updateCurrentStep (now : String) (status : RoutingStatus) (event : Event) :
    (updateCurrentStep now { status := some status } event).1.topics = event.topics := by
  rcases updateCurrentStep_spec now status event with ⟨_, same⟩ | ⟨index, step, _, found, same⟩
  · simp [same]
  · simp only [same]
    exact topics_setStep found (by simp)

theorem egress_updateCurrentStep (now : String) (status : RoutingStatus) (event : Event) :
    (updateCurrentStep now { status := some status } event).1.egress = event.egress := by
  rcases updateCurrentStep_spec now status event with ⟨_, same⟩ | ⟨index, step, _, _, same⟩
  · simp [same]
  · simp [same]

theorem pendingIndices_sorted (statuses : List RoutingStatus) :
    (pendingIndices statuses).Pairwise (· < ·) :=
  -- They are some of the positions of the slip, which are listed in order.
  List.pairwise_lt_range.filter _

@[simp] theorem mem_pendingIndices {statuses : List RoutingStatus} :
    index ∈ pendingIndices statuses ↔ statuses[index]? = some .pending := by
  simp only [pendingIndices, List.mem_filter, List.mem_range, decide_eq_true_eq]
  constructor
  · exact fun both => both.2
  · intro waiting
    exact ⟨(List.getElem?_eq_some_iff.mp waiting).1, waiting⟩

/-! Advancing an event: the next waiting step of its slip, or the egress destination behind it. -/

structure Server where
  serviceName : String
  busPrefix : String := ""

structure Publish where
  subject : String
  event : Event
  attributes : AttributeMap

/-- An event in the memory of one service, with its marks against a second dispatch. -/
structure LiveEvent where
  event : Event
  nextMark : Bool := false
  completeMark : Bool := false

/-- A service that receives an event starts without marks, which are never serialized. -/
def receive (event : Event) : LiveEvent := { event }

def withBusPrefix (server : Server) (topic : String) : String :=
  if server.busPrefix ≠ "" ∧ ¬ topic.startsWith server.busPrefix then server.busPrefix ++ topic
  else topic

/-- The subject to publish to, unless no topic is named. -/
def resolveSubject (server : Server) (topic : Option String) : Option String :=
  (topic.bind nonEmpty).map (withBusPrefix server)

def reserveAttributes (server : Server) (event : Event) (attributes : AttributeMap) :
    AttributeMap :=
  ((attributes.set "correlationId" event.correlationId).set "type" event.type).set
    "source" server.serviceName

def buildRoutingAttributes (server : Server) (event : Event) (step : Option RoutingStep) :
    AttributeMap :=
  let base := reserveAttributes server event OrderedMap.empty
  -- With or without an active tracer, an existing trace id is what travels.
  let traced :=
    match event.traceId.bind nonEmpty with
    | some traceId => base.set "traceparent" traceId
    | none => base
  let addressed :=
    if event.replyTo.truthy then traced.set "replyTo" event.replyTo.toText else traced
  match step.bind (·.attributes) with
  | none => addressed
  | some attributes =>
    -- The step's own attributes win, except over the reserved names written again.
    reserveAttributes server event
      (attributes.entries.foldl (fun built entry => built.set entry.1 entry.2) addressed)

inductive NextOutcome where
  | alreadyDispatched
  | noTarget
  | missingSubject (index : Nat)
  | dispatched (index : Nat) (message : Publish)
  | egressed (message : Publish)
  | refused (message : Publish)

/-- The position that an outcome dispatched, if it dispatched one. -/
def NextOutcome.dispatchedIndex : NextOutcome → Option Nat
  | .dispatched index _ => some index
  | _ => none

/-- Settle the current step first, when the caller reports a status. -/
def settle (now : String) (stepStatus : Option RoutingStatus) (event : Event) : Event :=
  match stepStatus with
  | some status => (updateCurrentStep now { status := some status } event).1
  | none => event

/-- The event in its standard egress form, with one candidate marked. -/
def egressForm (random : ℚ) (event : Event) : Event :=
  markSelectedCandidate random { event with type := "egress.deliver.v1" }

/-- The publish that sends an event to its egress destination, when it has one. -/
def egressPublish (server : Server) (random : ℚ) (event : Event) : Option Publish :=
  (resolveSubject server (event.egress.map (·.destination))).map fun subject =>
    let egressEvent := egressForm random event
    { subject, event := egressEvent
      attributes := buildRoutingAttributes server egressEvent none }

/-- A step on its way out: its start is recorded once, and its attempts are counted from zero. -/
def RoutingStep.started (now : String) (step : RoutingStep) : RoutingStep :=
  { step with
    startedAt := some (textOr step.startedAt now)
    attempt := some (step.attempt.getD (-1) + 1) }

/--
Advance the event to the first waiting step, or to its egress destination when none is waiting.

The bus either accepts the message or refuses it.
-/
def next (server : Server) (now : String) (random : ℚ) (accepted : Bool) (live : LiveEvent)
    (stepStatus : Option RoutingStatus := none) : LiveEvent × NextOutcome :=
  -- The current step is settled even when this copy was dispatched before.
  let event := settle now stepStatus live.event
  if live.nextMark then ({ live with event }, .alreadyDispatched)
  else
    let marked : LiveEvent := { live with event, nextMark := true }
    match event.slip.findIdx? (fun step => step.status = .pending) with
    | none =>
      match egressPublish server random event with
      | none => (marked, .noTarget)
      | some message =>
        if accepted then (marked, .egressed message)
        else ({ marked with nextMark := false }, .refused message)
    | some index =>
      match event.slip[index]? with
      | none => (marked, .missingSubject index)
      | some step =>
        let started := step.started now
        let event := event.setStep index started
        match resolveSubject server step.nextTopic with
        | none => ({ marked with event }, .missingSubject index)
        | some subject =>
          let message : Publish :=
            { subject, event, attributes := buildRoutingAttributes server event (some started) }
          if accepted then ({ marked with event }, .dispatched index message)
          else ({ marked with event, nextMark := false }, .refused message)

def complete (server : Server) (now : String) (random : ℚ) (accepted : Bool) (live : LiveEvent)
    (stepStatus : Option RoutingStatus := none) : LiveEvent × NextOutcome :=
  let event := settle now stepStatus live.event
  -- The mark is set before the publish, and taken back when it fails.
  if live.completeMark then ({ live with event }, .alreadyDispatched)
  else
    let marked : LiveEvent := { live with event, completeMark := true }
    match egressPublish server random event with
    | none => (marked, .noTarget)
    | some message =>
      if accepted then (marked, .egressed message)
      else ({ marked with completeMark := false }, .refused message)

theorem resolveSubject_isSome (server : Server) (topic : Option String) :
    (resolveSubject server topic).isSome = (topic.bind nonEmpty).isSome := by
  unfold resolveSubject
  exact Option.isSome_map

variable {server : Server} {now : String} {stepStatus : Option RoutingStatus}

theorem next_receive_none {random : ℚ}
    (waiting : firstPending (settle now stepStatus event).statuses = none) :
    next server now random true (receive event) stepStatus =
      match egressPublish server random (settle now stepStatus event) with
      | none => ({ event := settle now stepStatus event, nextMark := true }, .noTarget)
      | some message =>
        ({ event := settle now stepStatus event, nextMark := true }, .egressed message) := by
  simp only [next, receive, findIdx_pending, waiting, Bool.false_eq_true, ↓reduceIte]

theorem next_receive_some (random : ℚ) {subject : String}
    (waiting : firstPending (settle now stepStatus event).statuses = some index)
    (found : (settle now stepStatus event).slip[index]? = some step)
    (named : resolveSubject server step.nextTopic = some subject) : ∃ message : Publish,
      message.event = (settle now stepStatus event).setStep index (step.started now) ∧
      next server now random true (receive event) stepStatus =
        ({ event := message.event, nextMark := true }, .dispatched index message) := by
  simp only [next, receive, findIdx_pending, waiting, found, named, Bool.false_eq_true,
    ↓reduceIte]
  -- The message carries the event with its step already started.
  exact ⟨{ subject
           event := (settle now stepStatus event).setStep index (step.started now)
           attributes := buildRoutingAttributes server
             ((settle now stepStatus event).setStep index (step.started now))
             (some (step.started now)) }, rfl, rfl⟩

theorem next_receive_unnamed {random : ℚ}
    (waiting : firstPending (settle now stepStatus event).statuses = some index)
    (found : (settle now stepStatus event).slip[index]? = some step)
    (unnamed : resolveSubject server step.nextTopic = none) :
    next server now random true (receive event) stepStatus =
      ({ event := (settle now stepStatus event).setStep index (step.started now)
         nextMark := true }, .missingSubject index) := by
  simp only [next, receive, findIdx_pending, waiting, found, unnamed, Bool.false_eq_true,
    ↓reduceIte]

theorem next_receive_cases (server : Server) (now : String) (random : ℚ) (event : Event)
    (stepStatus : Option RoutingStatus) :
    ((next server now random true (receive event) stepStatus).2.dispatchedIndex = none ∧
      (next server now random true (receive event) stepStatus).1.event.topics =
        (settle now stepStatus event).topics) ∨
    ∃ (index : Nat) (step : RoutingStep) (message : Publish),
      (settle now stepStatus event).slip[index]? = some step ∧
      (resolveSubject server step.nextTopic).isSome ∧
      message.event = (settle now stepStatus event).setStep index (step.started now) ∧
      next server now random true (receive event) stepStatus =
        ({ event := message.event, nextMark := true }, .dispatched index message) := by
  cases waiting : firstPending (settle now stepStatus event).statuses with
  | none =>
    left
    rw [next_receive_none waiting]
    -- With or without an egress destination, no step is dispatched.
    cases egressPublish server random (settle now stepStatus event) <;> exact ⟨rfl, rfl⟩
  | some index =>
    obtain ⟨step, found, _⟩ := exists_step_of_firstPending waiting
    cases resolved : resolveSubject server step.nextTopic with
    | none =>
      left
      rw [next_receive_unnamed waiting found resolved]
      exact ⟨rfl, topics_setStep found rfl⟩
    | some subject =>
      right
      obtain ⟨message, carried, called⟩ := next_receive_some random waiting found resolved
      exact ⟨index, step, message, found, by simp [resolved], carried, called⟩

end BitBrat
