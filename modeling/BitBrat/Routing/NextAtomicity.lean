import BitBrat.Router.Engine
import BitBrat.Routing.Next

/-! Whether advancing an event is atomic: one dispatch for each copy, and no trace of a failure. -/

namespace BitBrat

open Js Machine

structure NextCall where
  server : Server
  now : String
  random : ℚ
  accepted : Bool
  stepStatus : Option RoutingStatus := none

/-- What happens to an event: it is advanced, a handler updates its step, or the service that it
was dispatched to receives it. -/
inductive NextStep where
  | call (call : NextCall)
  | update (now : String) (patch : StepUpdate)
  | receive

/-- An event on its way: the copy in memory, whether it was published, how often each position of
the slip was dispatched, and the copy that was dispatched last. -/
structure NextRun where
  live : LiveEvent
  published : Bool := false
  dispatches : Nat → Nat := fun _ => 0
  sent : Option Event := none

/-- What a call handed to the bus, if it came to that. -/
def NextOutcome.message : NextOutcome → Option Publish
  | .dispatched _ message | .egressed message | .refused message => some message
  | .alreadyDispatched | .noTarget | .missingSubject _ => none

def NextOutcome.published : NextOutcome → Bool
  | .dispatched _ _ | .egressed _ => true
  | .alreadyDispatched | .noTarget | .missingSubject _ | .refused _ => false

def NextOutcome.failed : NextOutcome → Bool
  | .noTarget | .missingSubject _ | .refused _ => true
  | .alreadyDispatched | .dispatched _ _ | .egressed _ => false

def NextRun.called (run : NextRun) (call : NextCall) : LiveEvent × NextOutcome :=
  next call.server call.now call.random call.accepted run.live call.stepStatus

def NextRun.record (run : NextRun) (result : LiveEvent × NextOutcome) : NextRun where
  live := result.1
  published := run.published || result.2.published
  dispatches := match result.2 with
    | .dispatched index _ => fun position =>
      run.dispatches position + if position = index then 1 else 0
    | _ => run.dispatches
  sent := match result.2 with
    | .dispatched _ message => some message.event
    | _ => run.sent

def NextRun.step (run : NextRun) : NextStep → NextRun
  | .call call => run.record (run.called call)
  | .update now patch =>
    { run with live := { run.live with event := (updateCurrentStep now patch run.live.event).1 } }
  | .receive =>
    match run.sent with
    | some event => { run with live := receive event, published := false }
    | none => run

structure NextLaw (run : NextRun) (call : NextCall) : Prop where
  once : run.published = true → (run.called call).2.message = none
  /-- A call that publishes nothing leaves the event as it was. -/
  atomic : (run.called call).2.failed = true → (run.called call).1 = run.live
  counted : ∀ index message, (run.called call).2 = .dispatched index message →
    ∃ step : RoutingStep, message.event.slip[index]? = some step ∧
      step.attempt = some (run.dispatches index : Int)

/-- The law of a step: calls are the only ones that owe anything. -/
def NextStepLaw (run : NextRun) : NextStep → Prop
  | .call call => NextLaw run call
  | _ => True

def attemptAt (event : Event) (index : Nat) : Int :=
  (event.slip[index]?.bind (·.attempt)).getD (-1)

/-- A call whose publish is accepted, for a step that has a topic, and had no attempt in the event
`start`; or whose event goes to an egress destination that it has. -/
structure NextInPlace (start : Event) (run : NextRun) (call : NextCall) : Prop where
  waiting : run.live.nextMark = false → ∀ index,
    firstPending (settle call.now call.stepStatus run.live.event).statuses = some index →
      call.accepted = true ∧
      ((run.live.event.topics[index]?).bind (·.bind nonEmpty)).isSome ∧
      attemptAt start index = -1
  egress : run.live.nextMark = false →
    firstPending (settle call.now call.stepStatus run.live.event).statuses = none →
      ((run.live.event.egress.map (·.destination)).bind nonEmpty).isSome ∧
      (call.accepted = true ∨ settle call.now call.stepStatus run.live.event = run.live.event)

def NextStepInPlace (start : Event) (run : NextRun) : NextStep → Prop
  | .call call => NextInPlace start run call
  | _ => True

structure NextHolds (start : Event) (run : NextRun) : Prop where
  marked : run.published = true → run.live.nextMark = true
  counted : ∀ index, attemptAt run.live.event index = attemptAt start index + run.dispatches index
  sent : ∀ event ∈ run.sent, ∀ index,
    attemptAt event index = attemptAt start index + run.dispatches index

theorem attemptAt_setStep {event : Event} {index : Nat} {step other : RoutingStep}
    (found : event.slip[index]? = some step) (position : Nat) :
    attemptAt (event.setStep index other) position =
      if position = index then other.attempt.getD (-1) else attemptAt event position := by
  unfold attemptAt
  rw [Event.slip_setStep, List.getElem?_set]
  obtain ⟨inside, _⟩ := List.getElem?_eq_some_iff.mp found
  by_cases here : position = index
  · subst here
    simp [inside]
  · simp [here, Ne.symm here]

theorem attemptAt_updateCurrentStep (now : String) (patch : StepUpdate) (event : Event)
    (index : Nat) :
    attemptAt (updateCurrentStep now patch event).1 index = attemptAt event index := by
  unfold updateCurrentStep
  split
  · rfl
  · split
    · rfl
    case h_2 position _ step found =>
      have kept : (step.apply now patch).attempt = step.attempt := by
        unfold RoutingStep.apply
        split <;> rfl
      dsimp only
      rw [attemptAt_setStep found]
      split
      case isTrue here => rw [here, kept, attemptAt, found]; rfl
      case isFalse => rfl

section Settle

variable (now : String) (stepStatus : Option RoutingStatus) (event : Event)

theorem attemptAt_settle (index : Nat) :
    attemptAt (settle now stepStatus event) index = attemptAt event index := by
  unfold settle
  split
  · exact attemptAt_updateCurrentStep now _ event index
  · rfl

theorem topics_settle : (settle now stepStatus event).topics = event.topics := by
  unfold settle
  split
  · exact topics_updateCurrentStep now _ event
  · rfl

theorem egress_settle : (settle now stepStatus event).egress = event.egress := by
  unfold settle
  split
  · exact egress_updateCurrentStep now _ event
  · rfl

end Settle

/-- The event with its current step settled, as a call does first. -/
def NextRun.settled (run : NextRun) (call : NextCall) : Event :=
  settle call.now call.stepStatus run.live.event

section Calls

variable {run : NextRun} {call : NextCall}

theorem called_marked (marked : run.live.nextMark = true) :
    run.called call = ({ run.live with event := run.settled call }, .alreadyDispatched) := by
  unfold NextRun.called next
  rw [if_pos marked]
  rfl

theorem called_egress (unmarked : run.live.nextMark = false)
    (nothing : firstPending (run.settled call).statuses = none) :
    run.called call =
      match egressPublish call.server call.random (run.settled call) with
      | none => ({ run.live with event := run.settled call, nextMark := true }, .noTarget)
      | some message =>
        if call.accepted then
          ({ run.live with event := run.settled call, nextMark := true }, .egressed message)
        else
          ({ run.live with event := run.settled call, nextMark := false }, .refused message) := by
  have search := findIdx_pending (run.settled call)
  rw [nothing] at search
  unfold NextRun.settled at search
  unfold NextRun.called next
  rw [if_neg (by simp [unmarked])]
  dsimp only
  rw [search]
  rfl

theorem called_step (unmarked : run.live.nextMark = false) {index : Nat}
    {step : RoutingStep} (waiting : firstPending (run.settled call).statuses = some index)
    (found : (run.settled call).slip[index]? = some step) :
    let event := (run.settled call).setStep index (step.started call.now)
    run.called call =
      match resolveSubject call.server step.nextTopic with
      | none => ({ run.live with event, nextMark := true }, .missingSubject index)
      | some subject =>
        let message : Publish :=
          { subject, event
            attributes := buildRoutingAttributes call.server event
              (some (step.started call.now)) }
        if call.accepted then ({ run.live with event, nextMark := true }, .dispatched index message)
        else ({ run.live with event, nextMark := false }, .refused message) := by
  have search := findIdx_pending (run.settled call)
  rw [waiting] at search
  unfold NextRun.settled at search found
  unfold NextRun.called next
  rw [if_neg (by simp [unmarked])]
  dsimp only
  rw [search]
  dsimp only
  rw [found]
  rfl

theorem attemptAt_started {index : Nat} {step : RoutingStep}
    (found : (run.settled call).slip[index]? = some step) (position : Nat) :
    attemptAt ((run.settled call).setStep index (step.started call.now)) position =
      attemptAt run.live.event position + if position = index then 1 else 0 := by
  rw [attemptAt_setStep found, ← attemptAt_settle call.now call.stepStatus run.live.event position]
  split
  case isTrue here =>
    subst here
    unfold NextRun.settled at found
    rw [attemptAt, found]
    rfl
  case isFalse => simp [NextRun.settled]

theorem egressPublish_isSome (run : NextRun) (call : NextCall) :
    (egressPublish call.server call.random (run.settled call)).isSome =
      ((run.live.event.egress.map (·.destination)).bind nonEmpty).isSome := by
  unfold egressPublish
  rw [Option.isSome_map, resolveSubject_isSome, NextRun.settled, egress_settle]

theorem topic_of_found {index : Nat} {step : RoutingStep}
    (found : (run.settled call).slip[index]? = some step) :
    ((run.live.event.topics[index]?).bind (·.bind nonEmpty)).isSome =
      (resolveSubject call.server step.nextTopic).isSome := by
  have topics : (run.settled call).topics = run.live.event.topics :=
    topics_settle call.now call.stepStatus run.live.event
  rw [resolveSubject_isSome, ← topics, Event.topics, List.getElem?_map, found]
  rfl

variable {start : Event}

theorem NextHolds.lawful (holds : NextHolds start run) (inPlace : NextInPlace start run call) :
    NextLaw run call := by
  cases unmarked : run.live.nextMark with
  | true =>
    have called : (run.called call).2 = .alreadyDispatched := by rw [called_marked unmarked]
    refine ⟨fun _ => ?_, fun failed => ?_, fun _ _ outcome => ?_⟩
    · rw [called]
      rfl
    · rw [called] at failed
      cases failed
    · rw [called] at outcome
      cases outcome
  | false =>
    have unpublished : run.published = true → False := fun published => by
      rw [holds.marked published] at unmarked
      cases unmarked
    cases waiting : firstPending (run.settled call).statuses with
    | none =>
      obtain ⟨named, accepted⟩ := inPlace.egress unmarked waiting
      rw [← egressPublish_isSome run call] at named
      obtain ⟨message, target⟩ := Option.isSome_iff_exists.mp named
      have called := called_egress unmarked waiting
      rw [target] at called
      dsimp only at called
      refine ⟨fun published => (unpublished published).elim, fun failed => ?_,
        fun _ _ outcome => ?_⟩
      · rw [called] at failed ⊢
        split
        case isTrue yes => simp [yes, NextOutcome.failed] at failed
        case isFalse no =>
          -- A refused event is as it was, where nothing was settled.
          have same : run.settled call = run.live.event := accepted.resolve_left no
          rw [same, ← unmarked]
      · rw [called] at outcome
        split at outcome <;> cases outcome
    | some index =>
      obtain ⟨step, found, _⟩ := exists_step_of_firstPending waiting
      obtain ⟨accepted, named, fresh⟩ := inPlace.waiting unmarked index waiting
      rw [topic_of_found found] at named
      obtain ⟨subject, resolved⟩ := Option.isSome_iff_exists.mp named
      have called := called_step unmarked waiting found
      rw [resolved] at called
      dsimp only at called
      rw [if_pos accepted] at called
      refine ⟨fun published => (unpublished published).elim, fun failed => ?_,
        fun position message outcome => ?_⟩
      · rw [called] at failed
        cases failed
      rw [called] at outcome
      cases outcome
      refine ⟨step.started call.now, ?_, ?_⟩
      · obtain ⟨inside, _⟩ := List.getElem?_eq_some_iff.mp found
        simp [inside]
      · -- The attempt counts from the one that the step had at the start.
        have before := holds.counted index
        rw [fresh, ← attemptAt_settle call.now call.stepStatus run.live.event index] at before
        unfold NextRun.settled at found
        rw [attemptAt, found, Option.bind_some] at before
        show some (step.attempt.getD (-1) + 1) = _
        rw [before]
        congr 1
        omega

theorem NextHolds.inPlace (holds : NextHolds start run) (law : NextLaw run call) :
    NextInPlace start run call where
  waiting := by
    intro unmarked index waiting
    obtain ⟨step, found, _⟩ := exists_step_of_firstPending waiting
    have called := called_step unmarked waiting found
    rw [topic_of_found found]
    cases resolved : resolveSubject call.server step.nextTopic with
    | none =>
      -- The mark would stay.
      rw [resolved] at called
      have same := law.atomic (by rw [called]; rfl)
      rw [called] at same
      have marks := congrArg LiveEvent.nextMark same
      rw [unmarked] at marks
      cases marks
    | some subject =>
      rw [resolved] at called
      dsimp only at called
      split at called
      case isTrue accepted =>
        refine ⟨accepted, rfl, ?_⟩
        obtain ⟨published, there, counted⟩ := law.counted index _ (by rw [called])
        have attempt := attemptAt_started found index
        rw [attemptAt, there, Option.bind_some, counted, Option.getD_some, holds.counted index,
          if_pos rfl] at attempt
        omega
      case isFalse refused =>
        -- The attempt would be counted.
        have same := law.atomic (by rw [called]; rfl)
        rw [called] at same
        have event : (run.settled call).setStep index (step.started call.now) = run.live.event :=
          congrArg LiveEvent.event same
        have attempt := attemptAt_started found index
        rw [event, if_pos rfl] at attempt
        omega
  egress := by
    intro unmarked nothing
    have called := called_egress unmarked nothing
    rw [← egressPublish_isSome run call]
    cases target : egressPublish call.server call.random (run.settled call) with
    | none =>
      rw [target] at called
      have same := law.atomic (by rw [called]; rfl)
      rw [called] at same
      have marks := congrArg LiveEvent.nextMark same
      rw [unmarked] at marks
      cases marks
    | some message =>
      rw [target] at called
      dsimp only at called
      refine ⟨rfl, ?_⟩
      by_cases accepted : call.accepted = true
      · exact .inl accepted
      · rw [if_neg accepted] at called
        have same := law.atomic (by rw [called]; rfl)
        rw [called] at same
        exact .inr (congrArg LiveEvent.event same)

theorem NextHolds.initial (event : Event) : NextHolds event { live := receive event } where
  marked := by simp
  counted := by simp [receive]
  sent := by simp

private theorem NextHolds.undispatched (holds : NextHolds start run) {live : LiveEvent}
    {outcome : NextOutcome} (called : run.called call = (live, outcome))
    (unmoved : outcome.dispatchedIndex = none) (event : live.event = run.settled call)
    (marked : run.published || outcome.published → live.nextMark = true) :
    NextHolds start (run.step (.call call)) := by
  have counts : (run.record (live, outcome)).dispatches = run.dispatches ∧
      (run.record (live, outcome)).sent = run.sent := by
    cases outcome with
    | dispatched => cases unmoved
    | _ => exact ⟨rfl, rfl⟩
  show NextHolds start (run.record (run.called call))
  rw [called]
  constructor
  · exact marked
  · intro index
    rw [counts.1, ← holds.counted index]
    show attemptAt live.event index = _
    rw [event]
    exact attemptAt_settle call.now call.stepStatus run.live.event index
  · rw [counts.1, counts.2]
    exact holds.sent

theorem NextHolds.called (holds : NextHolds start run) (inPlace : NextInPlace start run call) :
    NextHolds start (run.step (.call call)) := by
  cases unmarked : run.live.nextMark with
  | true =>
    exact holds.undispatched (called_marked unmarked) rfl rfl fun _ => unmarked
  | false =>
    have unpublished : run.published = false := by
      by_contra published
      rw [holds.marked (by simpa using published)] at unmarked
      cases unmarked
    cases waiting : firstPending (run.settled call).statuses with
    | none =>
      have named := (inPlace.egress unmarked waiting).1
      rw [← egressPublish_isSome run call] at named
      obtain ⟨message, target⟩ := Option.isSome_iff_exists.mp named
      have called := called_egress unmarked waiting
      rw [target] at called
      dsimp only at called
      split at called
      · exact holds.undispatched called rfl rfl fun _ => rfl
      · refine holds.undispatched called rfl rfl fun published => ?_
        rw [unpublished] at published
        cases published
    | some index =>
      obtain ⟨step, found, _⟩ := exists_step_of_firstPending waiting
      obtain ⟨accepted, named, _⟩ := inPlace.waiting unmarked index waiting
      rw [topic_of_found found] at named
      obtain ⟨subject, resolved⟩ := Option.isSome_iff_exists.mp named
      have called := called_step unmarked waiting found
      rw [resolved] at called
      dsimp only at called
      rw [if_pos accepted] at called
      -- Both the attempt and the count go up by one, at this position only.
      have counted : ∀ position, attemptAt ((run.settled call).setStep index
          (step.started call.now)) position = attemptAt start position +
            (run.dispatches position + if position = index then 1 else 0 : Nat) := by
        intro position
        rw [attemptAt_started found, holds.counted]
        split
        · push_cast
          omega
        · simp
      show NextHolds start (run.record (run.called call))
      rw [called]
      exact ⟨fun _ => rfl, counted, fun event sent => by cases sent; exact counted⟩

theorem NextHolds.step {step : NextStep} (holds : NextHolds start run)
    (inPlace : NextStepInPlace start run step) : NextHolds start (run.step step) := by
  cases step with
  | call call => exact holds.called inPlace
  | update now patch =>
    exact ⟨holds.marked, fun index => (attemptAt_updateCurrentStep now patch run.live.event
      index).trans (holds.counted index), holds.sent⟩
  | receive =>
    unfold NextRun.step
    dsimp only
    split
    case h_1 event sent =>
      exact ⟨nofun, holds.sent event sent, holds.sent⟩
    case h_2 => exact holds

end Calls

/-- Advancing an event is atomic along a run exactly when every call of the run is in place. -/
theorem nextAtomic_iff (event : Event) (steps : List NextStep) :
    Along NextRun.step NextStepLaw { live := receive event } steps ↔
      Along NextRun.step (NextStepInPlace event) { live := receive event } steps := by
  refine along_congr (NextHolds event) (fun run step holds inPlace => holds.step inPlace)
    (fun run step holds => ?_) (.initial event) steps
  cases step with
  | call call => exact ⟨holds.inPlace, holds.lawful⟩
  | update | receive => exact Iff.rfl

/-- A service that advances an event at noon, with the bus accepting or not. -/
def noonCall (accepted : Bool) : NextStep :=
  .call { server := { serviceName := "event-router" }, now := "noon", random := 0, accepted }

/-- The first dispatch of a slip made by the router is counted as the second attempt, and a
dispatch that is refused is counted as well. -/
theorem nextAtomic_fails :
    let routed (slip : List RoutingStep) : Event :=
      { correlationId := "c-1", type := "chat.message.v1"
        routing := some { stage := "analysis", slip, history := [] } }
    ¬ Along NextRun.step NextStepLaw
        { live := receive (routed (normalizeSlip [{ id := "bot", nextTopic := "internal.bot" }])) }
        [noonCall true] ∧
      ¬ Along NextRun.step NextStepLaw
        { live := receive (routed
          [{ id := "bot", status := .pending, nextTopic := some "internal.bot" }]) }
        [noonCall false] ∧
      ¬ Along NextRun.step NextStepLaw { live := receive (routed []) } [noonCall true] := by
  intro routed
  refine ⟨fun along => ?_, fun along => ?_, fun along => ?_⟩
  · obtain ⟨step, found, counted⟩ := along.1.counted 0 _ rfl
    cases found
    exact absurd counted (by decide)
  · have same := along.1.atomic (by decide)
    have attempts := congrArg (fun live => attemptAt live.event 0) same
    exact absurd attempts (by decide)
  · have same := along.1.atomic (by decide)
    exact absurd (congrArg LiveEvent.nextMark same) (by decide)

end BitBrat
