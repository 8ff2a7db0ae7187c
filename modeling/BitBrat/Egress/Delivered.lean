import BitBrat.Egress.IntegrationBit

/-! What is delivered is what was selected, exactly where the candidates leave no choice of text. -/

namespace BitBrat

open Js

def markedCandidates (random : ℚ) (event : Event) : List Value :=
  match selectBestCandidate random event.candidates with
  | none => []
  | some best =>
    (event.candidates.getD []).filter fun candidate => candidate.get "id" = best.get "id"

/-- A service publishes an event to its egress destination, by either of the two calls. -/
def Egresses (server : Server) (now : String) (random : ℚ) (live : LiveEvent)
    (stepStatus : Option RoutingStatus) (message : Publish) : Prop :=
  (next server now random true live stepStatus).2 = .egressed message ∨
    (complete server now random true live stepStatus).2 = .egressed message

def DeliversSelected (env : EgressEnv) (random other : ℚ) (event : Event) (message : Publish) :
    Prop :=
  ∀ call ∈ processEgress env other (overBus env.isoText message.event),
    markedCandidates random event ≠ [] ∧
      ∀ candidate ∈ markedCandidates random event,
        call.text = ((deliverable (candidate.get "text")).map Value.str).getD .undefined

def Departs (server : Server) (live : LiveEvent) (event : Event) : Prop :=
  (resolveSubject server (event.egress.map (·.destination))).isSome ∧
    (live.completeMark = false ∨
      live.nextMark = false ∧ firstPending event.statuses = none)

/-- A connector can send what an event asks for, and a direct message has a recipient. -/
def Sends (connector : String → Option Bool) (event : Event) : Prop :=
  if event.egress.bind Egress.type = some "dm" then
    (event.externalId.bind nonEmpty).isSome ∧
      ((connector "sendDM").isSome ∨ (connector "sendText").isSome)
  else (connector "sendText").isSome

def Reachable (env : EgressEnv) (event : Event) : Prop :=
  ∃ platform connector, event.egress.bind (nonEmpty ·.connector) = some platform ∧
    env.connectors platform = some connector ∧ Sends connector event

/--
The candidates leave no choice of text.

A text that may be drawn at the egress is the text of all that may be marked at the publisher.
-/
def Undisputed (isoText : Int → String) (candidates : List Value) : Prop :=
  ∀ drawn ∈ contenders (candidates.map (jsonItem isoText)), ∀ text,
    deliverable (drawn.get "text") = some text →
      contenders candidates ≠ [] ∧
        ∀ best ∈ contenders candidates, ∀ candidate ∈ candidates,
          candidate.get "id" = best.get "id" → deliverable (candidate.get "text") = some text

/-- A candidate as it is published, with the mark when it shares the chosen one's identifier. -/
def marked (best candidate : Value) : Value :=
  if candidate.get "id" = best.get "id" then candidate.extend [("status", .str "selected")]
  else candidate

theorem get_marked {best candidate : Value} {key : String} (other : key ≠ "status") :
    (marked best candidate).get key = candidate.get key := by
  unfold marked
  split
  · -- The extension writes no other name.
    have skipped : (key == "status") = false := by simpa using other
    rw [Value.get_extend]
    simp [List.lookup_cons, skipped]
  · rfl

theorem findEgressMapping_deliver (platform : String) :
    findEgressMapping platform "egress.deliver.v1" = none := by
  unfold findEgressMapping
  cases found : platformMappings.lookup platform with
  | none => rfl
  | some mappings =>
    have listed := mem_of_lookup found
    simp only [platformMappings, List.mem_cons, List.not_mem_nil, or_false] at listed
    -- Each configured mapping is for a chat message or for a direct message.
    rcases listed with same | same | same <;> cases same <;> rfl

theorem markSelectedCandidate_keeps (random : ℚ) (event : Event) :
    (markSelectedCandidate random event).type = event.type ∧
      (markSelectedCandidate random event).externalId = event.externalId ∧
      (markSelectedCandidate random event).egress = event.egress := by
  unfold markSelectedCandidate
  split <;> exact ⟨rfl, rfl, rfl⟩

theorem sendLegacy_cases (connector : String → Option Bool) (event : Event)
    (text : String) : (sendLegacy connector event text = [] ∧ ¬ Sends connector event) ∨
    ((∃ call, sendLegacy connector event text = [call] ∧ call.text = .str text) ∧
      Sends connector event) := by
  unfold sendLegacy Sends
  by_cases direct : event.egress.bind Egress.type = some "dm"
  · simp only [if_pos direct]
    cases recipient : event.externalId.bind nonEmpty with
    -- A direct message without a recipient is not sent.
    | none => exact .inl ⟨rfl, by simp⟩
    | some userId =>
      by_cases sendsDM : (connector "sendDM").isSome
      · exact .inr ⟨⟨_, if_pos sendsDM, rfl⟩, by simp [sendsDM]⟩
      · -- Without direct messages, the text goes to the channel.
        by_cases sendsText : (connector "sendText").isSome
        · exact .inr ⟨⟨.sendText text (targetChannel event), by simp [sendsDM, sendsText], rfl⟩,
            by simp [sendsText]⟩
        · exact .inl ⟨by simp [sendsDM, sendsText], by simp [sendsDM, sendsText]⟩
  · simp only [if_neg direct]
    -- Every other message goes to its channel, if the connector can send there.
    by_cases sendsText : (connector "sendText").isSome
    · exact .inr ⟨⟨_, if_pos sendsText, rfl⟩, sendsText⟩
    · exact .inl ⟨if_neg sendsText, sendsText⟩

variable {event : Event}

theorem processEgress_cases (env : EgressEnv) (random : ℚ)
    (type : event.type = "egress.deliver.v1") : (processEgress env random event = [] ∧
      ¬ (Reachable env event ∧ (extractEgressTextFromEvent random event).isSome)) ∨
    ∃ text call, extractEgressTextFromEvent random event = some text ∧ Reachable env event ∧
      processEgress env random event = [call] ∧ call.text = .str text := by
  -- No platform maps the type of a delivery, so every text goes the older way.
  have untranslated (platform : String) :
      translateOutbound env platform event.type event =
        .error ("No egress mapping found for " ++ platform ++ ":" ++ event.type) := by
    unfold translateOutbound
    rw [type, findEgressMapping_deliver]
  unfold processEgress Reachable
  cases named : event.egress.bind (nonEmpty ·.connector) with
  -- Without a connector in the event there is nobody to send.
  | none => exact .inl ⟨rfl, by simp⟩
  | some platform =>
    simp only [Option.some.injEq, exists_and_left, exists_eq_left', untranslated, ite_self]
    cases known : env.connectors platform with
    -- Nor does an unknown platform send.
    | none => exact .inl ⟨rfl, by simp⟩
    | some connector =>
      simp only [Option.some.injEq, exists_eq_left']
      cases extracted : extractEgressTextFromEvent random event with
      -- Without a text there is nothing to send.
      | none => exact .inl ⟨rfl, by simp⟩
      | some text =>
        rcases sendLegacy_cases connector event text with
          ⟨silent, closed⟩ | ⟨⟨call, sent, texted⟩, reached⟩
        · exact .inl ⟨silent, fun both => closed both.1⟩
        · exact .inr ⟨text, rfl, reached, call, sent, texted⟩

variable {server : Server} {now : String} {random : ℚ} {live : LiveEvent}
  {stepStatus : Option RoutingStatus} {message : Publish}

theorem complete_egressed_iff :
    (complete server now random true live stepStatus).2 = .egressed message ↔
      live.completeMark = false ∧
        egressPublish server random (settle now stepStatus live.event) = some message := by
  simp only [complete]
  cases once : live.completeMark <;>
    cases published : egressPublish server random (settle now stepStatus live.event) <;> simp

theorem next_egressed_iff :
    (next server now random true live stepStatus).2 = .egressed message ↔
      live.nextMark = false ∧ firstPending (settle now stepStatus live.event).statuses = none ∧
        egressPublish server random (settle now stepStatus live.event) = some message := by
  simp only [next, findIdx_pending]
  cases once : live.nextMark
  · cases waiting : firstPending (settle now stepStatus live.event).statuses with
    -- At the end of the slip the event departs, where its destination resolves.
    | none =>
      cases published : egressPublish server random (settle now stepStatus live.event) <;> simp
    | some index =>
      -- A waiting step is dispatched to its own topic.
      obtain ⟨step, found, -⟩ := exists_step_of_firstPending waiting
      cases resolved : resolveSubject server step.nextTopic <;> simp [found, resolved]
  · simp

theorem event_of_egresses (published : Egresses server now random live stepStatus message) :
    message.event = egressForm random (settle now stepStatus live.event) := by
  -- Both ways of departing publish the same form of the event.
  have form : egressPublish server random (settle now stepStatus live.event) = some message := by
    rcases published with advanced | completed
    · exact (next_egressed_iff.mp advanced).2.2
    · exact (complete_egressed_iff.mp completed).2
  obtain ⟨subject, -, rfl⟩ := Option.map_eq_some_iff.mp form
  rfl

theorem exists_egresses_iff :
    (∃ message, Egresses server now random live stepStatus message) ↔
      Departs server live (settle now stepStatus live.event) := by
  -- A message is published where the destination resolves to a subject.
  have resolves : (∃ message, egressPublish server random (settle now stepStatus live.event) =
      some message) ↔ (resolveSubject server
        ((settle now stepStatus live.event).egress.map (·.destination))).isSome := by
    rw [← Option.isSome_iff_exists, egressPublish, Option.isSome_map]
  simp only [Egresses, next_egressed_iff, complete_egressed_iff, Departs, ← resolves]
  grind

theorem candidates_settle (now : String) (stepStatus : Option RoutingStatus)
    (event : Event) : (settle now stepStatus event).candidates = event.candidates := by
  cases stepStatus with
  | none => rfl
  | some status =>
    -- The status is written to a step of the slip, and to nothing else.
    rcases updateCurrentStep_spec now status event with ⟨-, same⟩ | ⟨_, _, -, -, same⟩
    · simp [settle, same]
    · simp [settle, same, Event.setStep]

variable {candidates : List Value}

theorem candidates_overBus (isoText : Int → String) (random : ℚ)
    (listed : event.candidates = some candidates) : ∃ mark : Value → Value,
      (∀ candidate, ∀ key ≠ "status", (mark candidate).get key = candidate.get key) ∧
      (overBus isoText (egressForm random event)).candidates =
        some (candidates.map (jsonItem isoText ∘ mark)) := by
  unfold egressForm markSelectedCandidate
  simp only [listed]
  cases chosen : selectBestCandidate random (some candidates) with
  -- Nothing is selected, and nothing is marked.
  | none => exact ⟨id, fun _ _ _ => rfl, by simp [overBus]⟩
  | some best =>
    -- The mark is put on before the transport.
    refine ⟨marked best, fun candidate key other => get_marked other, ?_⟩
    simp [overBus, marked, Function.comp_def]

theorem contenders_jsonItem_comp (isoText : Int → String) {mark : Value → Value}
    (keeps : ∀ candidate, ∀ key ≠ "status", (mark candidate).get key = candidate.get key)
    (candidates : List Value) :
    ∃ among : List Value, contenders (candidates.map (jsonItem isoText ∘ mark)) =
        among.map (jsonItem isoText ∘ mark) ∧
      contenders (candidates.map (jsonItem isoText)) = among.map (jsonItem isoText) := by
  -- The mark changes the status alone, and neither priority nor confidence.
  have priorities : priorityOf ∘ jsonItem isoText ∘ mark = priorityOf ∘ jsonItem isoText := by
    funext candidate
    simp [priorityOf, numberOr, keeps]
  have confidences : confidenceOf ∘ jsonItem isoText ∘ mark =
      confidenceOf ∘ jsonItem isoText := by
    funext candidate
    simp [confidenceOf, numberOr, keeps]
  -- So the same positions contend with the mark and without it.
  refine ⟨contendersBy (priorityOf ∘ jsonItem isoText) (confidenceOf ∘ jsonItem isoText)
    candidates, ?_, contendersBy_map _ _ _ _⟩
  rw [contenders, contendersBy_map, priorities, confidences]

theorem exists_extract_iff (isoText : Int → String) (random : ℚ)
    (listed : event.candidates = some candidates) {text : String} :
    (∃ other, Draw other ∧ extractEgressTextFromEvent other
        (overBus isoText (egressForm random event)) = some text) ↔
      ∃ drawn ∈ contenders (candidates.map (jsonItem isoText)),
        deliverable (drawn.get "text") = some text := by
  obtain ⟨mark, keeps, arrived⟩ := candidates_overBus isoText random listed
  obtain ⟨among, seen, sent⟩ := contenders_jsonItem_comp isoText keeps candidates
  have extracts (other : ℚ) : extractEgressTextFromEvent other
      (overBus isoText (egressForm random event)) = some text ↔
      ∃ drawn, selectBestCandidate other
        (some (candidates.map (jsonItem isoText ∘ mark))) = some drawn ∧
        deliverable (drawn.get "text") = some text := by
    unfold extractEgressTextFromEvent
    rw [arrived]
    -- With candidates, there is no fallback.
    cases chosen : selectBestCandidate other (some (candidates.map (jsonItem isoText ∘ mark))) with
    | none => simp
    | some drawn => cases found : deliverable (drawn.get "text") <;> simp [found]
  constructor
  · -- What is drawn with its mark is a contender without it, of the same text.
    rintro ⟨other, draw, extracted⟩
    obtain ⟨drawn, chosen, texted⟩ := (extracts other).mp extracted
    have member := exists_selectBestCandidate_iff.mp ⟨other, draw, chosen⟩
    rw [seen] at member
    obtain ⟨candidate, listed, rfl⟩ := List.mem_map.mp member
    refine ⟨jsonItem isoText candidate, ?_, ?_⟩
    · rw [sent]
      exact List.mem_map_of_mem listed
    · simpa [keeps] using texted
  · -- Every contender is selected by some draw.
    rintro ⟨drawn, member, texted⟩
    rw [sent] at member
    obtain ⟨candidate, listed, rfl⟩ := List.mem_map.mp member
    have arrives : (jsonItem isoText ∘ mark) candidate ∈
        contenders (candidates.map (jsonItem isoText ∘ mark)) := by
      rw [seen]
      exact List.mem_map_of_mem listed
    obtain ⟨other, draw, chosen⟩ := exists_selectBestCandidate_iff.mpr arrives
    refine ⟨other, draw, (extracts other).mpr ⟨_, chosen, ?_⟩⟩
    simpa [keeps] using texted

theorem reachable_overBus_iff {env : EgressEnv} {isoText : Int → String} :
    Reachable env (overBus isoText (egressForm random event)) ↔ Reachable env event := by
  obtain ⟨-, recipient, destination⟩ := markSelectedCandidate_keeps random
    { event with type := "egress.deliver.v1" }
  -- The transport keeps the destination, the type and the recipient.
  have connector : (overBus isoText (egressForm random event)).egress.bind (nonEmpty ·.connector) =
      event.egress.bind (nonEmpty ·.connector) := by
    simp [overBus, egressForm, destination, Option.bind_map]
  have type : (overBus isoText (egressForm random event)).egress.bind Egress.type =
      event.egress.bind Egress.type := by
    simp [overBus, egressForm, destination, Option.bind_map]
  have externalId : (overBus isoText (egressForm random event)).externalId = event.externalId := by
    simp [overBus, egressForm, recipient]
  unfold Reachable Sends
  rw [connector, type, externalId]

theorem exists_mem_markedCandidates_iff (listed : event.candidates = some candidates)
    {candidate : Value} : (∃ random, Draw random ∧ candidate ∈ markedCandidates random event) ↔
      ∃ best ∈ contenders candidates,
        candidate ∈ candidates ∧ candidate.get "id" = best.get "id" := by
  simp only [markedCandidates, listed, ← exists_selectBestCandidate_iff]
  -- A draw selects a contender, and every candidate with its identifier is marked.
  constructor
  · rintro ⟨random, draw, member⟩
    cases chosen : selectBestCandidate random (some candidates) with
    | none => simp [chosen] at member
    | some best => exact ⟨best, ⟨random, draw, chosen⟩, by simpa [chosen] using member⟩
  · rintro ⟨best, ⟨random, draw, chosen⟩, member, same⟩
    exact ⟨random, draw, by simp [chosen, member, same]⟩

theorem markedCandidates_ne_nil_iff (draw : Draw random)
    (listed : event.candidates = some candidates) :
    markedCandidates random event ≠ [] ↔ contenders candidates ≠ [] := by
  rw [← selectBestCandidate_isSome_iff draw]
  simp only [markedCandidates, listed]
  cases chosen : selectBestCandidate random (some candidates) with
  | none => simp
  | some best =>
    -- The chosen candidate is among those that are marked.
    have among := mem_of_mem_contendersBy
      (exists_selectBestCandidate_iff.mp ⟨random, draw, chosen⟩)
    simp only [Option.getD_some, Option.isSome_some, iff_true]
    exact List.ne_nil_of_mem (List.mem_filter.mpr ⟨among, decide_eq_true rfl⟩)

section

variable {env : EgressEnv} {server : Server} {now : String} {live : LiveEvent}
variable {stepStatus : Option RoutingStatus} {candidates : List Value}

theorem type_overBus (isoText : Int → String) (random : ℚ) (event : Event) :
    (overBus isoText (egressForm random event)).type = "egress.deliver.v1" :=
  (markSelectedCandidate_keeps random _).1

theorem marked_of_delivers
    (listed : (settle now stepStatus live.event).candidates = some candidates)
    (departs : Departs server live (settle now stepStatus live.event))
    (reachable : Reachable env (settle now stepStatus live.event))
    (delivers : ∀ random other, Draw random → Draw other → ∀ message,
      Egresses server now random live stepStatus message →
        DeliversSelected env random other (settle now stepStatus live.event) message)
    {drawn : Value} (member : drawn ∈ contenders (candidates.map (jsonItem env.isoText)))
    {text : String} (texted : deliverable (drawn.get "text") = some text) {random : ℚ}
    (draw : Draw random) :
    markedCandidates random (settle now stepStatus live.event) ≠ [] ∧
      ∀ candidate ∈ markedCandidates random (settle now stepStatus live.event),
        deliverable (candidate.get "text") = some text := by
  obtain ⟨message, published⟩ := exists_egresses_iff.mpr departs
  obtain ⟨other, otherDraw, extracted⟩ :=
    (exists_extract_iff env.isoText random listed).mpr ⟨drawn, member, texted⟩
  have delivered := delivers random other draw otherDraw message published
  rw [DeliversSelected, event_of_egresses published] at delivered
  -- Since a connector is reachable and a text is found, it is sent.
  rcases processEgress_cases env other (type_overBus env.isoText random _) with
    ⟨-, unsent⟩ | ⟨found, call, same, -, calls, sends⟩
  · exact absurd ⟨reachable_overBus_iff.mpr reachable, by simp [extracted]⟩ unsent
  · obtain ⟨nonempty, agree⟩ := delivered call (by simp [calls])
    rw [extracted] at same
    cases same
    refine ⟨nonempty, fun candidate among => ?_⟩
    -- The sent text is the one that was extracted.
    have equal := agree candidate among
    rw [sends] at equal
    cases kept : deliverable (candidate.get "text") with
    | none => simp [kept] at equal
    | some left => simpa [kept] using equal.symm

theorem undisputed_of_delivers
    (listed : (settle now stepStatus live.event).candidates = some candidates)
    (departs : Departs server live (settle now stepStatus live.event))
    (reachable : Reachable env (settle now stepStatus live.event))
    (delivers : ∀ random other, Draw random → Draw other → ∀ message,
      Egresses server now random live stepStatus message →
        DeliversSelected env random other (settle now stepStatus live.event) message) :
    Undisputed env.isoText candidates := by
  intro drawn member text texted
  -- Whatever the publisher draws, its marks agree with the text that may be sent.
  have marks {random : ℚ} (draw : Draw random) :=
    marked_of_delivers listed departs reachable delivers member texted draw
  have first : Draw 0 := ⟨le_refl 0, zero_lt_one⟩
  refine ⟨(markedCandidates_ne_nil_iff first listed).mp (marks first).1, ?_⟩
  intro best contends candidate among same
  -- Some publisher marks this candidate.
  obtain ⟨random, draw, marked⟩ :=
    (exists_mem_markedCandidates_iff listed).mpr ⟨best, contends, among, same⟩
  exact (marks draw).2 candidate marked

theorem delivers_of_undisputed
    (listed : (settle now stepStatus live.event).candidates = some candidates)
    (undisputed : Departs server live (settle now stepStatus live.event) →
      Reachable env (settle now stepStatus live.event) → Undisputed env.isoText candidates)
    {random other : ℚ} (draw : Draw random) (otherDraw : Draw other) {message : Publish}
    (published : Egresses server now random live stepStatus message) :
    DeliversSelected env random other (settle now stepStatus live.event) message := by
  intro call calls
  rw [event_of_egresses published] at calls
  have type := type_overBus env.isoText random (settle now stepStatus live.event)
  rcases processEgress_cases env other type with
    ⟨silent, -⟩ | ⟨text, sent, extracted, reachable, only, texted⟩
  · -- Without a call there is nothing to compare.
    simp [silent] at calls
  · rw [only, List.mem_singleton] at calls
    subst calls
    -- The text that is sent is one that the egress may draw.
    obtain ⟨drawn, member, found⟩ :=
      (exists_extract_iff env.isoText random listed).mp ⟨other, otherDraw, extracted⟩
    obtain ⟨contended, agree⟩ := undisputed (exists_egresses_iff.mp ⟨message, published⟩)
      (reachable_overBus_iff.mp reachable) drawn member text found
    refine ⟨(markedCandidates_ne_nil_iff draw listed).mpr contended, ?_⟩
    intro candidate marks
    -- A marked candidate has the identifier of a contender, and so that text.
    obtain ⟨best, contends, among, same⟩ :=
      (exists_mem_markedCandidates_iff listed).mp ⟨random, draw, marks⟩
    rw [texted, agree best contends candidate among same]
    rfl

end

/--
What is delivered is what was selected, exactly where the candidates leave no choice of text. -/
theorem delivers_selected_iff (env : EgressEnv) (server : Server) (now : String)
    (live : LiveEvent) (stepStatus : Option RoutingStatus) {candidates : List Value}
    (listed : live.event.candidates = some candidates) :
    (∀ random other, Draw random → Draw other → ∀ message,
      Egresses server now random live stepStatus message →
        DeliversSelected env random other (settle now stepStatus live.event) message) ↔
    (Departs server live (settle now stepStatus live.event) →
      Reachable env (settle now stepStatus live.event) → Undisputed env.isoText candidates) := by
  -- Settling the current step leaves the candidates.
  rw [← candidates_settle now stepStatus] at listed
  constructor
  · intro delivers departs reachable
    exact undisputed_of_delivers listed departs reachable delivers
  · intro undisputed random other draw otherDraw message published
    exact delivers_of_undisputed listed undisputed draw otherDraw published

def textConnector (method : String) : Option Bool :=
  if method = "sendText" then some true else none

def slackEnv : EgressEnv where
  connectors platform := if platform = "slack" then some textConnector else none
  translates := false
  valueAt _ _ := .undefined
  isoText _ := "1970-01-01T00:00:00.000Z"

def proposal (id text : String) (priority : ℚ) : Value :=
  .obj [("id", .str id), ("kind", .str "text"), ("source", .str "llm"),
    ("createdAt", .str "1970-01-01T00:00:00.000Z"), ("status", .str "proposed"),
    ("priority", .num (.finite priority)), ("text", .str text)]

/-- An event at the end of its slip, with some proposed answers. -/
def answered (candidates : List Value) : LiveEvent :=
  receive
    { correlationId := "c", type := "chat.message.v1", candidates := some candidates
      egress := some { destination := "internal.egress.v1", connector := "slack" } }

/-- Two answers of different priorities are delivered as they are selected. -/
theorem delivers_selected_priorities :
    Undisputed slackEnv.isoText [proposal "a" "Hello!" 0, proposal "b" "Hi!" 1] ∧
      ∀ random other, Draw random → Draw other → ∀ message,
        Egresses ⟨"llm-bot", ""⟩ "1970-01-01T00:00:00.000Z" random
            (answered [proposal "a" "Hello!" 0, proposal "b" "Hi!" 1]) none message →
          DeliversSelected slackEnv random other
            (answered [proposal "a" "Hello!" 0, proposal "b" "Hi!" 1]).event message := by
  suffices undisputed :
      Undisputed slackEnv.isoText [proposal "a" "Hello!" 0, proposal "b" "Hi!" 1] from
    ⟨undisputed, (delivers_selected_iff slackEnv _ _ _ none rfl).mpr fun _ _ => undisputed⟩
  -- The first answer wins on both sides, since its priority is lower.
  have published : contenders [proposal "a" "Hello!" 0, proposal "b" "Hi!" 1] =
      [proposal "a" "Hello!" 0] := by decide +kernel
  have arrived : contenders ([proposal "a" "Hello!" 0, proposal "b" "Hi!" 1].map
      (jsonItem slackEnv.isoText)) = [proposal "a" "Hello!" 0] := by decide +kernel
  intro drawn member text texted
  rw [arrived, List.mem_singleton] at member
  subst member
  rw [published]
  refine ⟨by simp, fun best contends candidate among same => ?_⟩
  rw [List.mem_singleton] at contends
  subst contends
  rcases List.mem_pair.mp among with rfl | rfl
  · exact texted
  · -- The other answer has another identifier.
    exact absurd same (by decide)

/-- Of two answers that tie, one is marked as selected and the other may be delivered. -/
theorem tie_undelivered :
    ¬ ∀ (env : EgressEnv) (server : Server) (now : String) (live : LiveEvent)
      (stepStatus : Option RoutingStatus) (candidates : List Value),
      live.event.candidates = some candidates →
        ∀ random other, Draw random → Draw other → ∀ message,
          Egresses server now random live stepStatus message →
            DeliversSelected env random other (settle now stepStatus live.event) message := by
  intro delivers
  let live := answered [proposal "a" "Hello!" 0, proposal "b" "Hi!" 0]
  -- The event has no step left, and a connector can send for it.
  have departs : Departs ⟨"llm-bot", ""⟩ live (settle "1970-01-01T00:00:00.000Z" none live.event) :=
    ⟨by decide, .inl rfl⟩
  have reachable : Reachable slackEnv (settle "1970-01-01T00:00:00.000Z" none live.event) :=
    ⟨"slack", textConnector, by decide, rfl, rfl⟩
  have undisputed := undisputed_of_delivers rfl departs reachable
    (delivers slackEnv ⟨"llm-bot", ""⟩ "1970-01-01T00:00:00.000Z" live none _ rfl)
  -- The second answer may be drawn at the egress, and the first one at the publisher.
  have second := undisputed (proposal "b" "Hi!" 0) (by decide +kernel) "Hi!" (by decide +kernel)
  have first := second.2 (proposal "a" "Hello!" 0) (by decide +kernel) (proposal "a" "Hello!" 0)
    (by decide +kernel) rfl
  exact absurd first (by decide +kernel)

end BitBrat
