import Mathlib.Data.List.Induction
import BitBrat.Routing.Flow

/-! Dispatch and completion pick the same step exactly on the events that can be dispatched. -/

namespace BitBrat

open Js

/-- Dispatch and completion agree on every step, up to the egress destination. -/
structure StepAgreement (server : Server) (now : String) (random : ℚ) (event : Event)
    (hops : List Hop) : Prop where
  /-- Each service settles exactly the position that was dispatched to it. -/
  settles : ∀ turn ∈ (Flow.after server now random event hops).settlements,
    turn.2 = some turn.1
  inOrder : (Flow.after server now random event hops).dispatches =
    (pendingIndices event.statuses).take (hops.length + 1)
  errorsKept : ∀ index : Nat, event.statuses[index]? = some .error →
    (Flow.after server now random event hops).event.statuses[index]? = some .error
  /-- Behind the last waiting step lies the egress destination. -/
  reachesEgress : (pendingIndices event.statuses).length ≤ hops.length →
    ∃ message, (Flow.after server now random event hops).outcome = .egressed message ∧
      ∃ last ∈ server :: hops.map (·.server),
        resolveSubject last (event.egress.map (·.destination)) = some message.subject

theorem arrived_after {event : Event} (dispatchable : Dispatchable event) (server : Server)
    (now : String) (random : ℚ) (hops : List Hop) :
    Arrived event (server :: hops.map (·.server)) (Flow.after server now random event hops)
      hops.length := by
  -- The induction adds one turn at the end, where the history grows.
  induction hops using List.reverseRecOn with
  | nil => exact arrived_start dispatchable server now random
  | append_singleton hops hop ih =>
    have further := arrived_hop dispatchable ih hop
    simpa [Flow.after, Machine.run_append] using further

theorem stepAgreement_of_dispatchable {event : Event} (dispatchable : Dispatchable event)
    (server : Server) (now : String) (random : ℚ) (hops : List Hop) :
    StepAgreement server now random event hops := by
  have arrived := arrived_after dispatchable server now random hops
  refine ⟨arrived.onCourse.settles, arrived.dispatches, ?_, ?_⟩
  · intro index failed
    -- A failed position never waits, so no turn has touched it.
    have untouched : index ∉ (pendingIndices event.statuses).take hops.length := fun member => by
      have waits := mem_pendingIndices.mp (List.mem_of_mem_take member)
      rw [failed] at waits
      cases waits
    rw [arrived.onCourse.progress.kept index untouched, failed]
  · intro enough
    obtain ⟨last, member, target⟩ := arrived.target
    rw [List.drop_eq_nil_iff.mpr enough] at target
    obtain ⟨message, reached, resolved⟩ := target
    exact ⟨message, reached, last, member, resolved⟩

structure Traced (event : Event) (flow : Flow) (turns : Nat) : Prop where
  topics : flow.event.topics = event.topics
  named : ∀ index ∈ flow.dispatches,
    ∃ topic, event.topics[index]? = some (some topic) ∧ topic ≠ ""
  carried : ∀ index message, flow.outcome = .dispatched index message →
    message.event = flow.event
  counted : flow.dispatches.length ≤ turns + 1
  /-- While every turn dispatched a position, the last one is where the event is. -/
  latest : flow.dispatches.length = turns + 1 → ∃ index message,
    flow.dispatches[turns]? = some index ∧ flow.outcome = .dispatched index message

theorem named_of_resolved {event settled : Event} {server : Server} {index : Nat}
    {step : RoutingStep} (topics : settled.topics = event.topics)
    (found : settled.slip[index]? = some step)
    (resolved : (resolveSubject server step.nextTopic).isSome) :
    ∃ topic, event.topics[index]? = some (some topic) ∧ topic ≠ "" := by
  rw [resolveSubject_isSome] at resolved
  -- A subject can only be resolved from a topic with a name.
  cases named : step.nextTopic with
  | none => simp [named] at resolved
  | some topic =>
    refine ⟨topic, ?_, ?_⟩
    · rw [← topics, Event.topics, List.getElem?_map, found, Option.map_some, named]
    · rintro rfl
      simp [named, nonEmpty] at resolved

theorem traced_start (event : Event) (server : Server) (now : String) (random : ℚ) :
    Traced event (Flow.start server now random event) 0 := by
  rcases next_receive_cases server now random event none with
    ⟨nowhere, topics⟩ | ⟨index, step, message, found, resolved, carried, called⟩
  · -- Nothing was dispatched, and so nothing has to be named.
    have empty : (Flow.start server now random event).dispatches = [] := by
      simp [Flow.start, nowhere]
    refine ⟨topics, by simp [empty], ?_, by simp [empty], by simp [empty]⟩
    intro index message dispatched
    simp only [Flow.start] at dispatched
    simp [dispatched, NextOutcome.dispatchedIndex] at nowhere
  · -- The first dispatch is to a step that names its topic.
    have single : (Flow.start server now random event).dispatches = [index] := by
      simp [Flow.start, called, NextOutcome.dispatchedIndex]
    refine ⟨?_, ?_, ?_, by simp [single], fun _ => ⟨index, message, by simp [single], ?_⟩⟩
    · simp only [Flow.start, called, carried]
      exact topics_setStep found (started_kept now step).2
    · intro position member
      rw [single, List.mem_singleton] at member
      subst member
      exact named_of_resolved rfl found resolved
    · intro position other dispatched
      simp only [Flow.start, called, NextOutcome.dispatched.injEq] at dispatched ⊢
      rw [dispatched.2]
    · simp [Flow.start, called]

theorem traced_hop {event : Event} {flow : Flow} {turns : Nat}
    (traced : Traced event flow turns) (hop : Hop) : Traced event (flow.hop hop) (turns + 1) := by
  have counted := traced.counted
  cases outcome : flow.outcome with
  | dispatched position received =>
    have topics : (settle hop.now (some hop.status.toStatus) received.event).topics =
        event.topics := by
      rw [settle, topics_updateCurrentStep, traced.carried position received outcome,
        traced.topics]
    rcases next_receive_cases hop.server hop.now hop.random received.event
        (some hop.status.toStatus) with
      ⟨nowhere, kept⟩ | ⟨index, step, message, found, resolved, carried, called⟩
    · -- The event has reached its end, and the list stays.
      have same : (flow.hop hop).dispatches = flow.dispatches := by
        simp [Flow.hop, outcome, nowhere]
      refine ⟨?_, by rw [same]; exact traced.named, ?_, by rw [same]; omega, ?_⟩
      · simp only [Flow.hop, outcome, kept, topics]
      · intro index message dispatched
        simp only [Flow.hop, outcome] at dispatched
        simp [dispatched, NextOutcome.dispatchedIndex] at nowhere
      · rw [same]
        omega
    · -- One more dispatch joins the list.
      have grown : (flow.hop hop).dispatches = flow.dispatches ++ [index] := by
        simp [Flow.hop, outcome, called, NextOutcome.dispatchedIndex]
      refine ⟨?_, ?_, ?_, by rw [grown, List.length_append]; simpa using counted, ?_⟩
      · simp only [Flow.hop, outcome, called, carried]
        rw [topics_setStep found (started_kept hop.now step).2, topics]
      · intro at_ member
        rw [grown, List.mem_append, List.mem_singleton] at member
        rcases member with earlier | latest
        · exact traced.named at_ earlier
        · subst latest
          exact named_of_resolved topics found resolved
      · intro at_ other dispatched
        simp only [Flow.hop, outcome, called, NextOutcome.dispatched.injEq] at dispatched ⊢
        rw [dispatched.2]
      · intro full
        rw [grown, List.length_append, List.length_singleton] at full
        refine ⟨index, message, ?_, by simp [Flow.hop, outcome, called]⟩
        rw [grown, List.getElem?_append_right (by omega)]
        simp [show turns + 1 - flow.dispatches.length = 0 by omega]
  | alreadyDispatched | noTarget | missingSubject | egressed | refused =>
    -- Where nothing was dispatched, no service takes a turn.
    have still : flow.hop hop = flow := by simp [Flow.hop, outcome]
    rw [still]
    exact ⟨traced.topics, traced.named, traced.carried, by omega, fun full => by omega⟩

theorem traced_after (event : Event) (server : Server) (now : String) (random : ℚ)
    (hops : List Hop) :
    Traced event (Flow.after server now random event hops) hops.length := by
  induction hops using List.reverseRecOn with
  | nil => exact traced_start event server now random
  | append_singleton hops hop ih =>
    have further := traced_hop ih hop
    simpa [Flow.after, Machine.run_append] using further

theorem firstCurrent_of_failed {statuses : List RoutingStatus} {failed : Nat}
    (error : statuses[failed]? = some .error) :
    ∃ index, firstCurrent statuses = some index ∧ index ≤ failed := by
  obtain ⟨within, held⟩ := List.getElem?_eq_some_iff.mp error
  cases found : firstCurrent statuses with
  | none =>
    have absent := List.findIdx?_eq_none_iff.mp found statuses[failed] (List.getElem_mem within)
    simp [held, RoutingStatus.isCurrent] at absent
  | some index =>
    refine ⟨index, rfl, ?_⟩
    -- A failed step counts as current, so the search cannot pass it.
    by_contra later
    have passed := (List.findIdx?_eq_some_iff_getElem.mp found).2.2 failed (by omega)
    simp [held, RoutingStatus.isCurrent] at passed

theorem dispatchable_of_stepAgreement {event : Event} {server : Server} {now : String}
    {random : ℚ}
    (agreement : ∀ hops : List Hop, StepAgreement server now random event hops) :
    Dispatchable event := by
  -- Any turn will do, so take the same one again and again.
  let hop : Hop := { server, now, random, status := .ok }
  constructor
  · intro failed waiting before error waits
    obtain ⟨turns, within, here⟩ :=
      List.getElem_of_mem (mem_pendingIndices.mpr waits)
    let hops := List.replicate turns hop
    have counted : hops.length = turns := List.length_replicate
    have agreed := agreement hops
    have traced := traced_after event server now random hops
    rw [counted] at traced
    have dispatches := agreed.inOrder
    rw [counted] at dispatches
    -- After so many turns the event is at the waiting step, and the failed one stands before it.
    obtain ⟨index, message, last, outcome⟩ := traced.latest (by
      rw [dispatches, List.length_take]
      omega)
    have same : index = waiting := by
      rw [dispatches, List.getElem?_take_of_lt (by omega), List.getElem?_eq_getElem within,
        here] at last
      exact (Option.some.inj last).symm
    have still := agreed.errorsKept failed error
    rw [← traced.carried index message outcome] at still
    obtain ⟨settled, current, early⟩ := firstCurrent_of_failed still
    -- One more turn settles the failed step or an earlier one.
    have next_turn := (agreement (hops ++ [hop])).settles (index, some settled) (by
      have run_hop : Flow.after server now random event (hops ++ [hop]) =
          (Flow.after server now random event hops).hop hop := by
        simp [Flow.after, Machine.run_append]
      rw [run_hop]
      simp [Flow.hop, outcome, updateCurrentStep_index, current])
    simp only [Option.some.injEq] at next_turn
    omega
  · intro index waits
    let hops := List.replicate (pendingIndices event.statuses).length hop
    have traced := traced_after event server now random hops
    refine traced.named index ?_
    rw [(agreement hops).inOrder, List.take_of_length_le (by simp [hops])]
    exact mem_pendingIndices.mpr waits
  · let hops := List.replicate (pendingIndices event.statuses).length hop
    obtain ⟨message, _, last, _, resolved⟩ := (agreement hops).reachesEgress (by simp [hops])
    rw [← resolveSubject_isSome last, resolved]
    rfl

/-- The steps agree on every run exactly when the event is dispatchable. -/
theorem stepAgreement_iff_dispatchable (event : Event) :
    (∀ (server : Server) (now : String) (random : ℚ) (hops : List Hop),
      StepAgreement server now random event hops) ↔ Dispatchable event := by
  constructor
  · intro agreement
    exact dispatchable_of_stepAgreement (agreement { serviceName := "" } "" 0)
  · intro dispatchable server now random hops
    exact stepAgreement_of_dispatchable dispatchable server now random hops

/-- A chat message whose first step failed and whose second step waits for its service. -/
def failedFirst : Event :=
  { correlationId := "c-1"
    type := "internal.llmbot.v1"
    egress := some { destination := "internal.egress.v1", connector := "twitch" }
    routing := some
      { stage := "analysis"
        slip :=
          [{ id := "auth", status := .error, nextTopic := some "internal.auth.v1" },
           { id := "llm-bot", status := .pending, nextTopic := some "internal.llmbot.v1" }]
        history := [] } }

/-- The bot's success is written over the failure of the step before it. -/
theorem failedFirst_disagrees :
    ¬ StepAgreement { serviceName := "event-router" } "2025-01-01T00:00:00Z" 0 failedFirst
      [{ server := { serviceName := "llm-bot" }, now := "2025-01-01T00:00:01Z", random := 0
         status := .ok }] := by
  intro agreement
  have settled := agreement.settles (1, some 0) (by decide)
  cases settled

end BitBrat
