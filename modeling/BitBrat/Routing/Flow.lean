import Mathlib.Data.List.Induction
import BitBrat.Machine.Run
import BitBrat.Routing.Next

/-! An event on its way through a slip: which step each service settles, and where it goes next. -/

namespace BitBrat

open Js

inductive HandlerStatus where
  | ok
  | skip
  deriving DecidableEq

def HandlerStatus.toStatus : HandlerStatus → RoutingStatus
  | ok => .ok
  | skip => .skip

/-- One service's turn: who it is, when it runs, and how it reports its step. -/
structure Hop where
  server : Server
  now : String
  random : ℚ
  status : HandlerStatus

/-- The history of one event: where it is now, and what its services did so far. -/
structure Flow where
  event : Event
  outcome : NextOutcome
  dispatches : List Nat
  settlements : List (Nat × Option Nat)

/-- The first service sends the event on its way without settling anything. -/
def Flow.start (server : Server) (now : String) (random : ℚ) (event : Event) : Flow :=
  let result := next server now random true (receive event)
  { event := result.1.event
    outcome := result.2
    dispatches := result.2.dispatchedIndex.toList
    settlements := [] }

/-- The service that receives a dispatched event settles its step and sends the event on. -/
def Flow.hop (flow : Flow) (hop : Hop) : Flow :=
  match flow.outcome with
  | .dispatched index message =>
    let status := hop.status.toStatus
    let result := next hop.server hop.now hop.random true (receive message.event) (some status)
    let settled := (updateCurrentStep hop.now { status := some status } message.event).2
    { event := result.1.event
      outcome := result.2
      dispatches := flow.dispatches ++ result.2.dispatchedIndex.toList
      settlements := flow.settlements ++ [(index, settled.map Prod.fst)] }
  -- An event that was not dispatched reaches no further handler.
  | _ => flow

def Flow.after (server : Server) (now : String) (random : ℚ) (event : Event) (hops : List Hop) :
    Flow :=
  Machine.run Flow.hop (Flow.start server now random event) hops

structure Dispatchable (event : Event) : Prop where
  noErrorBefore : ∀ failed waiting : Nat, failed < waiting →
    event.statuses[failed]? = some .error → event.statuses[waiting]? ≠ some .pending
  topicsNamed : ∀ index : Nat, event.statuses[index]? = some .pending →
    ∃ topic, event.topics[index]? = some (some topic) ∧ topic ≠ ""
  egressNamed : ((event.egress.map (·.destination)).bind nonEmpty).isSome

structure Progress (original current : List RoutingStatus) (done : List Nat) : Prop where
  settled : ∀ index : Nat, index ∈ done →
    current[index]? = some .ok ∨ current[index]? = some .skip
  kept : ∀ index : Nat, index ∉ done → current[index]? = original[index]?

theorem Progress.initial (original : List RoutingStatus) : Progress original original [] :=
  ⟨fun _ member => absurd member List.not_mem_nil, fun _ _ => rfl⟩

variable {original current : List RoutingStatus} {index : Nat}

theorem Progress.settle {done : List Nat} (progress : Progress original current done)
    (within : index < current.length) (status : HandlerStatus) :
    Progress original (current.set index status.toStatus) (done ++ [index]) := by
  constructor
  · intro position member
    -- The step that is settled now is done, and the others are as before.
    by_cases here : index = position
    · subst here
      cases status <;> simp [within, HandlerStatus.toStatus]
    · have earlier : position ∈ done := by
        simpa [Ne.symm here] using member
      simpa [here] using progress.settled position earlier
  · intro position outside
    simp only [List.mem_append, List.mem_singleton, not_or] at outside
    rw [List.getElem?_set_ne (Ne.symm outside.2)]
    exact progress.kept position outside.1

private theorem Progress.next_position {done rest : List Nat}
    (progress : Progress original current done)
    (listed : pendingIndices original = done ++ index :: rest)
    (noErrorBefore : ∀ failed : Nat, failed < index → original[failed]? ≠ some .error) :
    firstPending current = some index ∧ firstCurrent current = some index := by
  have sorted := pendingIndices_sorted original
  rw [listed, List.pairwise_append, List.pairwise_cons] at sorted
  obtain ⟨_, ⟨later, _⟩, below⟩ := sorted
  -- The position itself is still waiting, because only smaller positions are done.
  have fresh : index ∉ done := fun member => by
    have smaller := below index member index List.mem_cons_self
    omega
  have waits : current[index]? = some .pending := by
    rw [progress.kept index fresh, ← mem_pendingIndices, listed]
    simp
  obtain ⟨within, holds⟩ := List.getElem?_eq_some_iff.mp waits
  -- Everything before it was done by a handler or needs no handling.
  have passed : ∀ position, position < index →
      current[position]? = some .ok ∨ current[position]? = some .skip := by
    intro position before
    by_cases member : position ∈ done
    · exact progress.settled position member
    · have inside : position < current.length := by omega
      have kept := progress.kept position member
      have not_pending : original[position]? ≠ some .pending := by
        intro waiting
        rw [← mem_pendingIndices, listed] at waiting
        rcases List.mem_append.mp waiting with earlier | onward
        · exact member earlier
        · rcases List.mem_cons.mp onward with same | behind
          · omega
          · have above := later position behind
            omega
      have not_error := noErrorBefore position before
      rw [← kept] at not_pending not_error
      rw [List.getElem?_eq_getElem inside] at not_pending not_error ⊢
      cases held : current[position] <;> simp_all
  constructor
  · refine List.findIdx?_eq_some_iff_getElem.mpr ⟨within, by simp [holds], ?_⟩
    intro position before
    have inside : position < current.length := by omega
    rcases passed position before with handled | skipped <;> simp_all
  · refine List.findIdx?_eq_some_iff_getElem.mpr
      ⟨within, by simp [holds, RoutingStatus.isCurrent], ?_⟩
    intro position before
    have inside : position < current.length := by omega
    rcases passed position before with handled | skipped <;>
      simp_all [RoutingStatus.isCurrent]

private theorem Progress.none_waiting
    (progress : Progress original current (pendingIndices original)) :
    firstPending current = none := by
  refine List.findIdx?_eq_none_iff.mpr fun status member => ?_
  obtain ⟨index, held⟩ := List.getElem?_of_mem member
  by_cases done : index ∈ pendingIndices original
  · have reported := progress.settled index done
    rw [held] at reported
    rcases reported with handled | skipped
    · cases handled; rfl
    · cases skipped; rfl
  · -- A position that was never waiting has kept a status other than waiting.
    have kept := progress.kept index done
    rw [mem_pendingIndices, ← kept, held] at done
    simpa using done

structure OnCourse (event : Event) (flow : Flow) (done : List Nat) : Prop where
  progress : Progress event.statuses flow.event.statuses done
  topics : flow.event.topics = event.topics
  egress : flow.event.egress = event.egress
  settles : ∀ turn ∈ flow.settlements, turn.2 = some turn.1

theorem started_kept (now : String) (step : RoutingStep) :
    (step.started now).status = step.status ∧ (step.started now).nextTopic = step.nextTopic :=
  ⟨rfl, rfl⟩

variable {event : Event}

theorem statuses_started {step : RoutingStep} (now : String)
    (found : event.slip[index]? = some step) :
    (event.setStep index (step.started now)).statuses = event.statuses := by
  rw [Event.statuses_setStep, (started_kept now step).1]
  apply List.ext_getElem?
  intro position
  -- Starting a step leaves its status.
  by_cases here : index = position
  · subst here
    obtain ⟨inside, held⟩ := List.getElem?_eq_some_iff.mp found
    simp [Event.statuses, inside, held]
  · simp [here]

/-- Where a service sends the event while the given positions are left to dispatch. -/
def Target (event : Event) (server : Server) (carried : Event) (outcome : NextOutcome) :
    List Nat → Prop
  | index :: _ => ∃ message, message.event = carried ∧ outcome = .dispatched index message
  | [] => ∃ message, outcome = .egressed message ∧
      resolveSubject server (event.egress.map (·.destination)) = some message.subject

theorem Target.dispatchedIndex {server : Server} {carried : Event} {outcome : NextOutcome}
    {left : List Nat} (target : Target event server carried outcome left) :
    outcome.dispatchedIndex = left.head? := by
  cases left with
  | nil =>
    obtain ⟨message, reached, _⟩ := target
    rw [reached]; rfl
  | cons index rest =>
    obtain ⟨message, _, dispatched⟩ := target
    rw [dispatched]; rfl

/--
From a received event whose settled copy is on course, the call goes to the next waiting step.

With no step left it goes to the egress destination.
-/
theorem next_onCourse {event : Event} (dispatchable : Dispatchable event) (received : Event)
    (server : Server) (now : String) (random : ℚ) (stepStatus : Option RoutingStatus)
    {done rest : List Nat} (listed : pendingIndices event.statuses = done ++ rest)
    (progress : Progress event.statuses (settle now stepStatus received).statuses done)
    (topics : (settle now stepStatus received).topics = event.topics)
    (egress : (settle now stepStatus received).egress = event.egress) :
    let result := next server now random true (receive received) stepStatus
    result.1.event.statuses = (settle now stepStatus received).statuses ∧
    result.1.event.topics = event.topics ∧ result.1.event.egress = event.egress ∧
    Target event server result.1.event result.2 rest := by
  cases rest with
  | nil =>
    rw [List.append_nil] at listed
    rw [← listed] at progress
    have named := dispatchable.egressNamed
    rw [← resolveSubject_isSome server] at named
    obtain ⟨subject, resolved⟩ := Option.isSome_iff_exists.mp named
    have published : ∃ message : Publish, message.subject = subject ∧
        egressPublish server random (settle now stepStatus received) = some message := by
      rw [egressPublish, egress, resolved]
      exact ⟨_, rfl, rfl⟩
    obtain ⟨message, addressed, published⟩ := published
    rw [next_receive_none progress.none_waiting, published]
    exact ⟨rfl, topics, egress, message, rfl, by rw [resolved, addressed]⟩
  | cons index rest =>
    have waits : event.statuses[index]? = some .pending := by
      rw [← mem_pendingIndices, listed]; simp
    have waiting := (progress.next_position listed fun failed before error =>
      dispatchable.noErrorBefore failed index before error waits).1
    obtain ⟨step, found, _⟩ := exists_step_of_firstPending waiting
    obtain ⟨topic, named, nonempty⟩ := dispatchable.topicsNamed index waits
    -- The topic that the event names is the topic of the step found.
    have own : step.nextTopic = some topic := by
      rw [← topics, Event.topics, List.getElem?_map, found] at named
      simpa using named
    have resolved : ∃ subject, resolveSubject server step.nextTopic = some subject := by
      rw [← Option.isSome_iff_exists, resolveSubject_isSome, own]
      simp [nonEmpty, nonempty]
    obtain ⟨subject, resolved⟩ := resolved
    obtain ⟨message, carried, called⟩ := next_receive_some random waiting found resolved
    simp only [called]
    refine ⟨?_, ?_, ?_, message, rfl, rfl⟩
    · rw [carried, statuses_started now found]
    · rw [carried, topics_setStep found (started_kept now step).2, topics]
    · rw [carried, Event.egress_setStep, egress]

/-- Where the history stands after so many turns of a dispatchable event. -/
structure Arrived (event : Event) (servers : List Server) (flow : Flow) (turns : Nat) : Prop where
  onCourse : OnCourse event flow ((pendingIndices event.statuses).take turns)
  dispatches : flow.dispatches = (pendingIndices event.statuses).take (turns + 1)
  /-- The next waiting step was dispatched, or the egress destination was reached. -/
  target : ∃ last ∈ servers,
    Target event last flow.event flow.outcome ((pendingIndices event.statuses).drop turns)

theorem arrived_start (dispatchable : Dispatchable event) (server : Server) (now : String)
    (random : ℚ) : Arrived event [server] (Flow.start server now random event) 0 := by
  -- Nothing is done, and every waiting step is left.
  have listed : pendingIndices event.statuses = [] ++ pendingIndices event.statuses := rfl
  have result := next_onCourse dispatchable event server now random none listed
    (Progress.initial _) rfl rfl
  obtain ⟨statuses, topics, egress, target⟩ := result
  have progress : Progress event.statuses (Flow.start server now random event).event.statuses
      ((pendingIndices event.statuses).take 0) := by
    simp only [Flow.start, statuses, List.take_zero]
    exact Progress.initial _
  refine ⟨⟨progress, topics, egress, fun turn member => absurd member List.not_mem_nil⟩, ?_, ?_⟩
  · rw [List.take_one, ← target.dispatchedIndex]
    rfl
  · exact ⟨server, List.mem_singleton_self server, target⟩

theorem arrived_hop (dispatchable : Dispatchable event) {servers : List Server} {flow : Flow}
    {turns : Nat} (arrived : Arrived event servers flow turns) (hop : Hop) :
    Arrived event (servers ++ [hop.server]) (flow.hop hop) (turns + 1) := by
  obtain ⟨last, member, target⟩ := arrived.target
  cases left : (pendingIndices event.statuses).drop turns with
  | nil =>
    -- The event is at its egress destination, so nobody handles it any more.
    rw [left] at target
    obtain ⟨message, reached, resolved⟩ := target
    have short : (pendingIndices event.statuses).length ≤ turns := List.drop_eq_nil_iff.mp left
    have still : flow.hop hop = flow := by simp [Flow.hop, reached]
    rw [still]
    refine ⟨?_, ?_, ?_⟩
    · rw [List.take_of_length_le (by omega), ← List.take_of_length_le short]
      exact arrived.onCourse
    · rw [arrived.dispatches, List.take_of_length_le (by omega), List.take_of_length_le (by omega)]
    · rw [List.drop_eq_nil_iff.mpr (by omega)]
      exact ⟨last, List.mem_append_left _ member, message, reached, resolved⟩
  | cons index rest =>
    rw [left] at target
    obtain ⟨message, carried, dispatched⟩ := target
    have within : turns < (pendingIndices event.statuses).length := by
      by_contra beyond
      rw [List.drop_eq_nil_iff.mpr (by omega)] at left
      cases left
    have listed : pendingIndices event.statuses =
        (pendingIndices event.statuses).take turns ++ index :: rest := by
      rw [← left, List.take_append_drop]
    have further : (pendingIndices event.statuses).drop (turns + 1) = rest := by
      rw [← List.drop_drop, left]; rfl
    have grown : (pendingIndices event.statuses).take (turns + 1) =
        (pendingIndices event.statuses).take turns ++ [index] := by
      have here : (pendingIndices event.statuses)[turns]? = some index := by
        rw [← List.head?_drop, left]; rfl
      rw [List.take_add_one, here]
      rfl
    have listed' : pendingIndices event.statuses =
        (pendingIndices event.statuses).take (turns + 1) ++ rest := by
      rw [grown, List.append_assoc]
      exact listed
    -- The handler settles the position that was dispatched to it.
    have waits : event.statuses[index]? = some .pending := by
      rw [← mem_pendingIndices, listed]; simp
    have current := (arrived.onCourse.progress.next_position listed fun failed before error =>
      dispatchable.noErrorBefore failed index before error waits).2
    have inside := (List.findIdx?_eq_some_iff_getElem.mp current).1
    rw [← carried] at current inside
    have settled : (settle hop.now (some hop.status.toStatus) message.event).statuses =
        message.event.statuses.set index hop.status.toStatus :=
      statuses_updateCurrentStep hop.now hop.status.toStatus message.event current
    have progress : Progress event.statuses
        (settle hop.now (some hop.status.toStatus) message.event).statuses
        ((pendingIndices event.statuses).take (turns + 1)) := by
      rw [settled, grown]
      have before := arrived.onCourse.progress
      rw [← carried] at before
      exact before.settle inside hop.status
    have topics : (settle hop.now (some hop.status.toStatus) message.event).topics =
        event.topics := by
      rw [settle, topics_updateCurrentStep, carried, arrived.onCourse.topics]
    have egress : (settle hop.now (some hop.status.toStatus) message.event).egress =
        event.egress := by
      rw [settle, egress_updateCurrentStep, carried, arrived.onCourse.egress]
    obtain ⟨statuses, topics, egress, onward⟩ := next_onCourse dispatchable message.event hop.server
      hop.now hop.random (some hop.status.toStatus) listed' progress topics egress
    refine ⟨⟨?_, ?_, ?_, ?_⟩, ?_, ?_⟩
    · simp only [Flow.hop, dispatched, statuses]
      exact progress
    · simp only [Flow.hop, dispatched, topics]
    · simp only [Flow.hop, dispatched, egress]
    · intro turn member
      simp only [Flow.hop, dispatched, List.mem_append, List.mem_singleton,
        updateCurrentStep_index, current] at member
      rcases member with earlier | latest
      · exact arrived.onCourse.settles turn earlier
      · rw [latest]
    · simp only [Flow.hop, dispatched, arrived.dispatches]
      rw [List.take_add_one (i := turns + 1), ← List.head?_drop, further,
        onward.dispatchedIndex]
    · rw [further]
      simp only [Flow.hop, dispatched]
      exact ⟨hop.server, List.mem_append_right _ (List.mem_singleton_self _), onward⟩

def Event.openSteps (event : Event) : Nat := event.statuses.countP (·.isCurrent)

/-- What any number of turns leaves of a slip: what was closed stays, and what was settled was open,
each step once. -/
structure Closing (event : Event) (flow : Flow) : Prop where
  remaining : flow.event.openSteps + flow.settlements.length = event.openSteps
  kept : ∀ (index : Nat) (status : RoutingStatus), event.statuses[index]? = some status →
    status.isCurrent = false → flow.event.statuses[index]? = some status
  once : (flow.settlements.map Prod.snd).Nodup
  settled : ∀ turn ∈ flow.settlements, ∃ index status, turn.2 = some index ∧
    flow.event.statuses[index]? = some status ∧ status.isCurrent = false
  topics : flow.event.topics = event.topics

/-- Whatever becomes of it, a received event goes on as it was settled, with a step started. -/
theorem next_receive_kept (server : Server) (now : String) (random : ℚ) (event : Event)
    (stepStatus : Option RoutingStatus) :
    let result := next server now random true (receive event) stepStatus
    result.1.event.statuses = (settle now stepStatus event).statuses ∧
    result.1.event.topics = (settle now stepStatus event).topics ∧
    ∀ index message, result.2 = .dispatched index message →
      message.event = result.1.event ∧
      (settle now stepStatus event).statuses[index]? = some .pending := by
  dsimp only
  cases waiting : firstPending (settle now stepStatus event).statuses with
  | none =>
    rw [next_receive_none waiting]
    cases egressPublish server random (settle now stepStatus event) <;> simp
  | some index =>
    obtain ⟨step, found, _⟩ := exists_step_of_firstPending waiting
    have holds : (settle now stepStatus event).statuses[index]? = some .pending := by
      obtain ⟨inside, pending, _⟩ := List.findIdx?_eq_some_iff_getElem.mp waiting
      rw [List.getElem?_eq_getElem inside]
      simpa using pending
    cases resolved : resolveSubject server step.nextTopic with
    | none =>
      have called : next server now random true (receive event) stepStatus =
          ({ event := (settle now stepStatus event).setStep index (step.started now)
             nextMark := true }, .missingSubject index) := by
        simp only [next, receive, findIdx_pending, waiting, found, resolved, Bool.false_eq_true,
          ↓reduceIte]
      rw [called]
      exact ⟨statuses_started now found, topics_setStep found rfl, by simp⟩
    | some subject =>
      obtain ⟨message, carried, called⟩ := next_receive_some random waiting found resolved
      rw [called]
      refine ⟨by rw [carried, statuses_started now found],
        (congrArg Event.topics carried).trans (topics_setStep found rfl), ?_⟩
      rintro other sent ⟨rfl, rfl⟩
      exact ⟨rfl, holds⟩

/-- A turn that closes the open step it settles. -/
theorem Closing.settle {flow after : Flow} {current turn : Nat} {status : RoutingStatus}
    (closing : Closing event flow) {within : current < flow.event.statuses.length}
    (isOpen : flow.event.statuses[current].isCurrent = true) (closed : status.isCurrent = false)
    (statuses : after.event.statuses = flow.event.statuses.set current status)
    (settlements : after.settlements = flow.settlements ++ [(turn, some current)])
    (topics : after.event.topics = event.topics) : Closing event after := by
  -- A step that is closed is not the one that is settled now.
  have apart {position : Nat} {other : RoutingStatus}
      (held : flow.event.statuses[position]? = some other) (shut : other.isCurrent = false) :
      current ≠ position := by
    rintro rfl
    rw [List.getElem?_eq_getElem within, Option.some.injEq] at held
    simp [held, shut] at isOpen
  constructor
  case remaining =>
    have remaining := closing.remaining
    have some_open : 0 < flow.event.openSteps :=
      List.countP_pos_iff.mpr ⟨_, List.getElem_mem within, isOpen⟩
    rw [Event.openSteps] at remaining some_open
    rw [settlements, List.length_append, List.length_singleton, Event.openSteps, statuses,
      List.countP_set within, closed, isOpen]
    simp only [if_true, Bool.false_eq_true, if_false]
    omega
  case kept =>
    intro position other held shut
    have before := closing.kept position other held shut
    rw [statuses, List.getElem?_set_ne (apart before shut)]
    exact before
  case once =>
    rw [settlements, List.map_append, List.nodup_append]
    refine ⟨closing.once, by simp, ?_⟩
    rintro _ member _ latest rfl
    obtain ⟨earlier, among, rfl⟩ := List.mem_map.mp member
    obtain ⟨position, other, at_, held, shut⟩ := closing.settled earlier among
    exact apart held shut (by simpa [at_, eq_comm] using latest)
  case settled =>
    intro any member
    rw [settlements] at member
    rw [statuses]
    rcases List.mem_append.mp member with earlier | latest
    · obtain ⟨position, other, at_, held, shut⟩ := closing.settled any earlier
      exact ⟨position, other, at_, by rw [List.getElem?_set_ne (apart held shut), held], shut⟩
    · obtain rfl := List.mem_singleton.mp latest
      exact ⟨current, status, rfl, by simp [within], closed⟩
  case topics => exact topics

/-- The dispatches are one ahead of the turns while the event is on its way. -/
structure OnWay (flow : Flow) (turns : Nat) : Prop where
  ahead : flow.dispatches.length =
    flow.settlements.length + flow.outcome.dispatchedIndex.toList.length
  carried : ∀ index message, flow.outcome = .dispatched index message →
    message.event = flow.event ∧ flow.event.statuses[index]? = some .pending ∧
      flow.settlements.length = turns

theorem closing_hop {flow : Flow} {turns : Nat} (closing : Closing event flow)
    (onWay : OnWay flow turns) (hop : Hop) :
    Closing event (flow.hop hop) ∧ OnWay (flow.hop hop) (turns + 1) := by
  cases reached : flow.outcome with
  | dispatched index message =>
    obtain ⟨carried, waits, count⟩ := onWay.carried index message reached
    -- The step that waits is open, so that there is a first open one.
    have inside : .pending ∈ flow.event.statuses := List.mem_of_getElem? waits
    obtain ⟨current, found⟩ : ∃ current, firstCurrent flow.event.statuses = some current := by
      rw [← Option.isSome_iff_exists, firstCurrent, List.findIdx?_isSome, List.any_eq_true]
      exact ⟨.pending, inside, by decide⟩
    obtain ⟨within, isOpen, _⟩ := List.findIdx?_eq_some_iff_getElem.mp found
    have statuses : (settle hop.now (some hop.status.toStatus) flow.event).statuses =
        flow.event.statuses.set current hop.status.toStatus :=
      statuses_updateCurrentStep hop.now hop.status.toStatus flow.event found
    have closed : hop.status.toStatus.isCurrent = false := by cases hop.status <;> rfl
    obtain ⟨same, topics, sent⟩ := next_receive_kept hop.server hop.now hop.random flow.event
      (some hop.status.toStatus)
    rw [statuses] at same sent
    simp only [Flow.hop, reached, updateCurrentStep_index, carried, found]
    refine ⟨closing.settle isOpen closed same rfl ?_, ⟨?_, ?_⟩⟩
    · rw [topics, settle, topics_updateCurrentStep, closing.topics]
    · have ahead := onWay.ahead
      simp only [reached, NextOutcome.dispatchedIndex, Option.toList_some, List.length_append,
        List.length_singleton] at ahead ⊢
      omega
    · intro other message' outcome
      obtain ⟨event', holds⟩ := sent other message' outcome
      refine ⟨event', by rw [same]; exact holds, by simp [count]⟩
  | _ =>
    have still : flow.hop hop = flow := by simp [Flow.hop, reached]
    rw [still]
    exact ⟨closing, onWay.ahead, by simp [reached]⟩

/-- Whatever errors a slip has, and wherever it is dispatched, each turn settles one more open step,
so that the event is dispatched at most once for every open step and then no more. -/
theorem slip_closes (server : Server) (now : String) (random : ℚ) (event : Event)
    (hops : List Hop) :
    let flow := Flow.after server now random event hops
    Closing event flow ∧ flow.dispatches.length ≤ event.openSteps ∧
      (event.openSteps ≤ hops.length → flow.outcome.dispatchedIndex = none) := by
  intro flow
  have reached : Closing event flow ∧ OnWay flow hops.length := by
    induction hops using List.reverseRec with
    | nil =>
      obtain ⟨same, topics, sent⟩ := next_receive_kept server now random event none
      refine ⟨⟨?_, ?_, List.nodup_nil, by simp [flow, Flow.after, Flow.start], topics⟩, ⟨?_, ?_⟩⟩
      · simp [flow, Flow.after, Flow.start, Event.openSteps, same, settle]
      · intro index status held _
        simpa [flow, Flow.after, Flow.start, same, settle] using held
      · simp [flow, Flow.after, Flow.start]
      · intro index message outcome
        obtain ⟨carried, waits⟩ := sent index message outcome
        exact ⟨carried, by simpa [flow, Flow.after, Flow.start, same] using waits, rfl⟩
    | append_singleton earlier hop ih =>
      have step := closing_hop ih.1 ih.2 hop
      simpa [flow, Flow.after, Machine.run_append] using step
  obtain ⟨closing, onWay⟩ := reached
  have remaining := closing.remaining
  cases outcome : flow.outcome.dispatchedIndex with
  | none =>
    have ahead := onWay.ahead
    simp only [outcome, Option.toList_none, List.length_nil] at ahead
    exact ⟨closing, by omega, fun _ => rfl⟩
  | some index =>
    obtain ⟨message, sent⟩ : ∃ message, flow.outcome = .dispatched index message := by
      cases held : flow.outcome with
      | dispatched other message =>
        simp only [held, NextOutcome.dispatchedIndex, Option.some.injEq] at outcome
        exact ⟨message, by rw [outcome]⟩
      | _ => simp [held, NextOutcome.dispatchedIndex] at outcome
    obtain ⟨_, waits, count⟩ := onWay.carried index message sent
    have some_open : 0 < flow.event.openSteps :=
      List.countP_pos_iff.mpr ⟨.pending, List.mem_of_getElem? waits, by decide⟩
    have ahead := onWay.ahead
    simp only [outcome, Option.toList_some, List.length_singleton] at ahead
    exact ⟨closing, by omega, fun enough => by omega⟩

end BitBrat
