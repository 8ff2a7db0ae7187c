import BitBrat.Routing.NextAtomicity

/-! The query analyzer: an event is analyzed, gets the route that waits for it, and is passed on. -/

namespace BitBrat

open Js

structure QueryAnalysis where
  intent : String
  tone : Value
  riskLevel : String
  risk : Value
  entities : Value
  topic : String

/-- The part of a routing that takes the place of the old one after the step of the analyzer. -/
structure PendingRoute where
  stage : Option String := none
  slip : Option (List RoutingStep) := none

structure AnalyzerMessage where
  event : Event
  route : Option PendingRoute := none

/-- What the handler meets outside, where a missing answer is an exception. -/
structure AnalyzerEnv where
  server : Server
  now : String
  random : ℚ
  /-- Whether the bus takes what is published. -/
  accepted : Bool
  randomUUID : Nat → String
  encode : String → Option Nat
  analyzeQuery : String → Nat → Option (Option QueryAnalysis)
  generateEmbedding : String → Option (Option Value)
  /-- Whether the observation comes about or fails within its own handler. -/
  emitDispositionObservation : Event → QueryAnalysis → Bool

/-- What the handler does with a message, if no exception comes first. -/
inductive AnalyzerPlan where
  | fail
  | forward (msg : AnalyzerMessage)
  | stop (msg : AnalyzerMessage)

section

variable (env : AnalyzerEnv)

/-- The message with its pending route in place, if it has one. -/
def applyPendingRoute (msg : AnalyzerMessage) : Option AnalyzerMessage :=
  msg.route.bind fun pendingRoute => pendingRoute.slip.map fun slip =>
    let event := settle env.now (some .ok) msg.event
    { event := { event with routing := some {
        stage := (pendingRoute.stage <|> event.routing.map (·.stage)).getD "contextualization"
        slip
        history := event.routing.elim [] (·.history) ++ event.slip } } }

def analysisAnnotations (analysis : QueryAnalysis) (count : Nat) (embedding : Option Value) :
    List Value :=
  let mark (place : Nat) (kind : String) (shown : List (String × Value)) : Value :=
    .obj ([("id", .str (env.randomUUID place)), ("kind", .str kind),
      ("source", .str env.server.serviceName), ("createdAt", .str env.now)] ++ shown)
  [mark 0 "intent" [("label", .str analysis.intent), ("value", .str analysis.intent)],
    mark 1 "tone" [("payload", analysis.tone)],
    mark 2 "risk" [("label", .str analysis.riskLevel), ("payload", analysis.risk)],
    mark 3 "tokens" [("payload", .obj [("count", .num (.finite count))])],
    mark 4 "entities" [("payload", .obj [("entities", analysis.entities)])],
    mark 5 "topic" [("label", .str analysis.topic),
      ("payload", .obj [("topic", .str analysis.topic)])]] ++
    (embedding.filter (·.truthy)).toList.map fun embedding =>
      mark 6 "semantic" [("payload", .obj [("embedding", embedding)])]

def AnalyzerMessage.plan (msg : AnalyzerMessage) : AnalyzerPlan :=
  match (msg.event.message.bind (·.text)).bind nonEmpty with
  | none => .forward msg
  | some text =>
    match env.encode text with
    | none => .fail
    | some tokens =>
      if tokens < 3 then .forward msg
      else
        match env.analyzeQuery text tokens, env.generateEmbedding text with
        | some none, some _ => .forward msg
        | some (some analysis), some embedding =>
          let annotations := analysisAnnotations env analysis tokens embedding
          let event := { msg.event with
            annotations := some (msg.event.annotations.getD [] ++ annotations) }
          if !env.emitDispositionObservation event analysis then .fail
          else if analysis.intent = "spam" ∨ analysis.riskLevel = "high" then
            .stop { msg with event }
          else .forward { msg with event }
        | _, _ => .fail

def AnalyzerMessage.forward (msg : AnalyzerMessage) : LiveEvent × NextOutcome :=
  match applyPendingRoute env msg with
  | some routed => next env.server env.now env.random env.accepted (receive routed.event)
  | none => next env.server env.now env.random env.accepted (receive msg.event) (some .ok)

def AnalyzerMessage.stop (msg : AnalyzerMessage) : LiveEvent × NextOutcome :=
  complete env.server env.now env.random env.accepted (receive msg.event) (some .ok)

/-- A message as it was handled: how it was passed on, if it came to that, and the answer. -/
structure HandledMessage where
  sent : Option (LiveEvent × NextOutcome)
  acked : Bool

/-- The message is acknowledged at the end, and also where an exception is caught. -/
def AnalyzerMessage.handle (msg : AnalyzerMessage) : HandledMessage where
  sent := match msg.plan env with
    | .fail => none
    | .forward msg => some (msg.forward env)
    | .stop msg => some (msg.stop env)
  acked := true

def ownStepSettled (event : Event) : List RoutingStep :=
  match firstPending event.statuses with
  | none => event.slip
  | some index => event.slip.modify index (·.apply env.now { status := some .ok })

/-- A route is put in place of the old one, whose steps are kept in the history. -/
structure RouteApplied (before after : AnalyzerMessage) : Prop where
  history : after.event.routing.map (·.history) =
    some (before.event.routing.elim [] (·.history) ++ ownStepSettled env before.event)
  slip : before.route.bind (·.slip) = some after.event.slip
  gone : after.route = none

structure AnalyzerLaw (msg : AnalyzerMessage) : Prop where
  /-- What is acknowledged was passed on. -/
  kept : (msg.handle env).acked = true →
    ∃ sent ∈ (msg.handle env).sent, sent.2.published = true
  routed : ∀ forwarded routed, msg.plan env = .forward forwarded →
    applyPendingRoute env forwarded = some routed → RouteApplied env forwarded routed
  first : ∀ forwarded routed, msg.plan env = .forward forwarded →
    applyPendingRoute env forwarded = some routed →
      ∀ index, (forwarded.forward env).2.dispatchedIndex = some index →
        firstPending routed.event.statuses = some index
  /-- What is stopped goes to no further step. -/
  stopped : ∀ stopped, msg.plan env = .stop stopped →
    ∀ sent ∈ (msg.handle env).sent, sent.2.dispatchedIndex = none

def isNamed (topic : Option String) : Bool := (topic.bind nonEmpty).isSome

/-- The first waiting step of an event has a topic, or the event has an egress destination if no
step is waiting. -/
def Event.hasTarget (event : Event) : Bool :=
  match firstPending event.statuses with
  | none => isNamed (event.egress.map (·.destination))
  | some index => isNamed (event.slip[index]?.bind (·.nextTopic))

/-- A message that is analyzed without an exception, can be published, and has been dispatched for
its current step. -/
structure AnalyzerInPlace (msg : AnalyzerMessage) : Prop where
  planned : msg.plan env ≠ .fail
  accepted : env.accepted = true
  forwarded : ∀ forwarded, msg.plan env = .forward forwarded →
    ((applyPendingRoute env forwarded).elim (settle env.now (some .ok) forwarded.event)
      (·.event)).hasTarget = true
  stopped : ∀ stopped, msg.plan env = .stop stopped →
    isNamed (stopped.event.egress.map (·.destination)) = true
  own : ∀ forwarded routed, msg.plan env = .forward forwarded →
    applyPendingRoute env forwarded = some routed →
      firstCurrent forwarded.event.statuses = firstPending forwarded.event.statuses

end

section

variable {server : Server} {now : String} {random : ℚ} {accepted : Bool} {event : Event}
  {stepStatus : Option RoutingStatus}

theorem isSome_egressPublish :
    (egressPublish server random event).isSome =
      isNamed (event.egress.map (·.destination)) := by
  rw [egressPublish, Option.isSome_map, resolveSubject_isSome, isNamed]

theorem next_published_iff :
    (next server now random accepted (receive event) stepStatus).2.published = true ↔
      accepted = true ∧ (settle now stepStatus event).hasTarget = true := by
  simp only [next, receive, findIdx_pending, Event.hasTarget, Bool.false_eq_true, ↓reduceIte]
  cases waiting : firstPending (settle now stepStatus event).statuses with
  | none =>
    have named := @isSome_egressPublish server random (settle now stepStatus event)
    cases egress : egressPublish server random (settle now stepStatus event) with
    | none => simp_all [NextOutcome.published]
    | some message => cases accepted <;> simp_all [NextOutcome.published]
  | some index =>
    obtain ⟨step, found, _⟩ := exists_step_of_firstPending waiting
    have named := resolveSubject_isSome server step.nextTopic
    simp only [found, Option.bind_some, isNamed]
    cases subject : resolveSubject server step.nextTopic with
    | none => simp_all [NextOutcome.published]
    | some message => cases accepted <;> simp_all [NextOutcome.published]

theorem complete_published_iff :
    (complete server now random accepted (receive event) stepStatus).2.published = true ↔
      accepted = true ∧ isNamed ((settle now stepStatus event).egress.map (·.destination)) := by
  have named := @isSome_egressPublish server random (settle now stepStatus event)
  simp only [complete, receive, Bool.false_eq_true, ↓reduceIte]
  cases egress : egressPublish server random (settle now stepStatus event) with
  | none => simp_all [NextOutcome.published]
  | some message => cases accepted <;> simp_all [NextOutcome.published]

theorem complete_dispatchedIndex :
    (complete server now random accepted (receive event) stepStatus).2.dispatchedIndex = none := by
  simp only [complete, receive, Bool.false_eq_true, ↓reduceIte]
  cases egressPublish server random (settle now stepStatus event) with
  | none => rfl
  | some message => cases accepted <;> rfl

theorem firstPending_of_dispatched {index : Nat}
    (dispatched : (next server now random accepted (receive event)).2.dispatchedIndex =
      some index) : firstPending event.statuses = some index := by
  simp only [next, receive, settle, findIdx_pending, Bool.false_eq_true, ↓reduceIte] at dispatched
  cases waiting : firstPending event.statuses with
  | none =>
    rw [waiting] at dispatched
    cases egress : egressPublish server random event <;> cases accepted <;>
      simp [egress, NextOutcome.dispatchedIndex] at dispatched
  | some position =>
    obtain ⟨step, found, _⟩ := exists_step_of_firstPending waiting
    simp only [waiting, found] at dispatched
    cases subject : resolveSubject server step.nextTopic <;> cases accepted <;>
      simp_all [NextOutcome.dispatchedIndex]

end

section

variable {env : AnalyzerEnv} {msg before after : AnalyzerMessage}

theorem isCurrent_of_firstCurrent {event : Event} {index : Nat} {step : RoutingStep}
    (current : firstCurrent event.statuses = some index) (found : event.slip[index]? = some step) :
    step.status.isCurrent = true := by
  obtain ⟨inside, holds, _⟩ := List.findIdx?_eq_some_iff_getElem.mp current
  obtain ⟨_, rfl⟩ := List.getElem?_eq_some_iff.mp found
  simpa [Event.statuses] using holds

/-- The code settles the step of the analyzer exactly when no failed step is in front of it. -/
theorem slip_settle_iff (event : Event) :
    (settle env.now (some .ok) event).slip = ownStepSettled env event ↔
      firstCurrent event.statuses = firstPending event.statuses := by
  simp only [settle]
  rcases updateCurrentStep_spec env.now .ok event with
    ⟨settled, same⟩ | ⟨index, step, current, found, same⟩
  · have idle : firstPending event.statuses = none := by
      -- A waiting step would be current.
      refine List.findIdx?_eq_none_iff.mpr fun status member => ?_
      have passed := List.findIdx?_eq_none_iff.mp settled status member
      cases status <;> simp_all [RoutingStatus.isCurrent]
    simp [ownStepSettled, same, settled, idle]
  · rw [same, current, Event.slip_setStep]
    by_cases own : firstPending event.statuses = some index
    · simp [ownStepSettled, own, List.modify_eq_set_getElem?, found]
    · refine iff_of_false (fun alike => ?_) (Ne.symm own)
      have here := congrArg (·[index]?) alike
      have kept : (ownStepSettled env event)[index]? = some step := by
        unfold ownStepSettled
        cases waiting : firstPending event.statuses with
        | none => exact found
        | some other =>
          have apart : other ≠ index := fun same => own (by rw [waiting, same])
          simp [apart, found]
      obtain ⟨inside, _⟩ := List.getElem?_eq_some_iff.mp found
      rw [kept, List.getElem?_set_self inside, Option.some.injEq] at here
      have passed := congrArg RoutingStep.status here
      rw [RoutingStep.status_apply] at passed
      simpa [← passed, RoutingStatus.isCurrent] using isCurrent_of_firstCurrent current found

theorem history_settle (event : Event) :
    (settle env.now (some .ok) event).routing.elim [] (·.history) =
      event.routing.elim [] (·.history) := by
  simp only [settle]
  rcases updateCurrentStep_spec env.now .ok event with ⟨_, same⟩ | ⟨_, _, _, _, same⟩
  · rw [same]
  · rw [same]
    cases routed : event.routing <;> simp [Event.setStep, routed]

theorem routeApplied_iff (applied : applyPendingRoute env before = some after) :
    RouteApplied env before after ↔
      firstCurrent before.event.statuses = firstPending before.event.statuses := by
  obtain ⟨pendingRoute, pending, applied⟩ := Option.bind_eq_some_iff.mp applied
  obtain ⟨slip, given, rfl⟩ := Option.map_eq_some_iff.mp applied
  rw [← @slip_settle_iff env]
  constructor
  · intro holds
    simpa [history_settle] using holds.history
  · intro own
    exact ⟨by simp [history_settle, own], by simp [pending, given, Event.slip], rfl⟩

theorem forward_published_iff :
    (msg.forward env).2.published = true ↔ env.accepted = true ∧
      ((applyPendingRoute env msg).elim (settle env.now (some .ok) msg.event)
        (·.event)).hasTarget = true := by
  unfold AnalyzerMessage.forward
  cases applyPendingRoute env msg with
  | none => exact next_published_iff
  | some routed => exact next_published_iff

theorem stop_published_iff :
    (msg.stop env).2.published = true ↔
      env.accepted = true ∧ isNamed (msg.event.egress.map (·.destination)) = true := by
  rw [AnalyzerMessage.stop, complete_published_iff, settle, egress_updateCurrentStep]

/-- A message is handled as promised exactly when it is in place. -/
theorem analyzerLaw_iff (env : AnalyzerEnv) (msg : AnalyzerMessage) :
    AnalyzerLaw env msg ↔ AnalyzerInPlace env msg := by
  constructor
  · intro law
    obtain ⟨sent, member, published⟩ := law.kept rfl
    unfold AnalyzerMessage.handle at member
    cases planned : msg.plan env with
    | fail => simp [planned] at member
    | forward forwarded =>
      obtain rfl : forwarded.forward env = sent := by simpa [planned] using member
      obtain ⟨accepted, target⟩ := forward_published_iff.mp published
      refine ⟨by simp [planned], accepted, fun other same => ?_, by simp [planned],
        fun other routed same applied => ?_⟩
      · obtain rfl := AnalyzerPlan.forward.inj (planned.symm.trans same)
        exact target
      · exact (routeApplied_iff applied).mp (law.routed other routed same applied)
    | stop stopped =>
      obtain rfl : stopped.stop env = sent := by simpa [planned] using member
      obtain ⟨accepted, target⟩ := stop_published_iff.mp published
      refine ⟨by simp [planned], accepted, by simp [planned], fun other same => ?_,
        by simp [planned]⟩
      obtain rfl := AnalyzerPlan.stop.inj (planned.symm.trans same)
      exact target
  · intro place
    refine { kept := fun _ => ?_, routed := ?_, first := ?_, stopped := ?_ }
    · unfold AnalyzerMessage.handle
      cases planned : msg.plan env with
      | fail => exact absurd planned place.planned
      | forward forwarded =>
        exact ⟨_, rfl, forward_published_iff.mpr ⟨place.accepted, place.forwarded _ planned⟩⟩
      | stop stopped =>
        exact ⟨_, rfl, stop_published_iff.mpr ⟨place.accepted, place.stopped _ planned⟩⟩
    · intro forwarded routed planned applied
      exact (routeApplied_iff applied).mpr (place.own _ _ planned applied)
    · intro forwarded routed planned applied index dispatched
      rw [AnalyzerMessage.forward, applied] at dispatched
      exact firstPending_of_dispatched dispatched
    · intro stopped planned sent member
      obtain rfl : stopped.stop env = sent := by
        simpa [AnalyzerMessage.handle, planned] using member
      exact complete_dispatchedIndex

/-- A message whose tokens cannot be counted is acknowledged and lost. -/
theorem not_analyzerLaw : ¬ ∀ env msg, AnalyzerLaw env msg := by
  intro law
  obtain ⟨sent, member, _⟩ := (law
    { server := { serviceName := "query-analyzer" }, now := "", random := 0, accepted := true
      randomUUID := fun _ => "", encode := fun _ => none, analyzeQuery := fun _ _ => none
      generateEmbedding := fun _ => none, emitDispositionObservation := fun _ _ => true }
    { event := { correlationId := "c-1", type := "llm.request.v1"
                 message := some { id := "m-1", role := "user", text := "<|endoftext|>" } } }).kept
      rfl
  have nothing : none = some sent := member
  cases nothing

end

end BitBrat
