import BitBrat.Router.Engine

/-! First match wins: what the router engine decides, whatever its rules throw. -/

namespace BitBrat

open Js Machine

section FirstMatch

variable {World : Type}

structure Enriched (before after : RouteState World) : Prop where
  /-- Only four properties of the event that goes out are assigned. -/
  rest : ∃ message annotations candidates egress world,
    after = { before with
      evtOut := { before.evtOut with message, annotations, candidates, egress }
      world }
  annotations : before.evtOut.annotations.getD [] <+: after.evtOut.annotations.getD []
  candidates : before.evtOut.candidates.getD [] <+: after.evtOut.candidates.getD []

instance : Std.Refl (Enriched : RouteState World → RouteState World → Prop) where
  refl _ := ⟨⟨_, _, _, _, _, rfl⟩, List.prefix_refl _, List.prefix_refl _⟩

instance : IsTrans (RouteState World) Enriched where
  trans first second third left right := by
    obtain ⟨_, _, _, _, _, middle⟩ := left.rest
    obtain ⟨message, annotations, candidates, egress, world, last⟩ := right.rest
    refine ⟨⟨message, annotations, candidates, egress, world, ?_⟩,
      left.annotations.trans right.annotations, left.candidates.trans right.candidates⟩
    rw [last, middle]

theorem enriched_assign (state : RouteState World) (message : Option Message)
    (egress : Option Egress) (world : World) :
    Enriched state { state with evtOut := { state.evtOut with message, egress }, world } :=
  ⟨⟨_, _, _, _, _, rfl⟩, List.prefix_refl _, List.prefix_refl _⟩

theorem enriched_askWorld {α : Type} (ask : World → α × World) :
    Frames Enriched (askWorld ask) :=
  frames_ofState fun state => enriched_assign state _ _ _

theorem enriched_callStore {α : Type} (call : World → Except String α × World) :
    Frames Enriched (callStore call) :=
  frames_ofState fun state => enriched_assign state _ _ _

section Enrichments

variable (env : RouterEnv World) (rule : RuleDoc) (ctx interpCtx : Value)

theorem enriched_freshId (sort : String) : Frames Enriched (freshId env rule sort) :=
  frames_bind (enriched_askWorld _) fun _ =>
    frames_bind (enriched_askWorld _) fun _ => frames_pure _

theorem enriched_renderField (field : Value) :
    Frames Enriched (renderField env field interpCtx) := by
  unfold renderField
  split
  · exact frames_bind (frames_ofExcept _) fun _ => frames_pure _
  · exact frames_pure _

theorem enriched_idOf (given : Value) (sort : String) :
    Frames Enriched (idOf env rule given sort) := by
  unfold idOf
  split
  · exact frames_pure _
  · exact enriched_freshId env rule sort

theorem enriched_interpolateAnn (given : Value) :
    Frames Enriched (interpolateAnn env rule ctx interpCtx given) :=
  frames_bind (enriched_idOf env rule given "ann") fun _ =>
    frames_bind (enriched_renderField env interpCtx _) fun _ =>
      frames_bind (enriched_renderField env interpCtx _) fun _ => frames_pure _

theorem enriched_interpolateCandidate (candidate : Value) :
    Frames Enriched (interpolateCandidate env rule ctx interpCtx candidate) :=
  frames_bind (enriched_idOf env rule candidate "cand") fun _ =>
    frames_bind (enriched_renderField env interpCtx _) fun _ =>
      frames_bind (enriched_renderField env interpCtx _) fun _ => frames_pure _

variable (enrich : RuleEnrichments Egress)

theorem enriched_enrichMessage : Frames Enriched (enrichMessage env rule interpCtx enrich) := by
  unfold enrichMessage
  split
  · refine frames_bind (enriched_askWorld _) fun now => ?_
    refine frames_bind (frames_ofExcept _) fun text => ?_
    exact frames_modify fun state => enriched_assign state _ _ _
  · exact frames_pure _

theorem enriched_enrichAnnotations :
    Frames Enriched (enrichAnnotations env rule ctx interpCtx enrich) := by
  unfold enrichAnnotations
  split
  · exact frames_pure _
  · exact frames_pure _
  · refine frames_bind (frames_mapM (enriched_interpolateAnn env rule ctx interpCtx) _)
      fun added => frames_modify fun state => ?_
    -- What is added stands behind what was there.
    exact ⟨⟨_, _, _, _, _, rfl⟩, List.prefix_append _ added, List.prefix_refl _⟩

theorem enriched_addCandidates (added : List Value) :
    Frames (Enriched : RouteState World → RouteState World → Prop) (addCandidates added) :=
  frames_modify fun _ => ⟨⟨_, _, _, _, _, rfl⟩, List.prefix_refl _, List.prefix_append _ added⟩

theorem enriched_enrichCandidates :
    Frames Enriched (enrichCandidates env rule ctx interpCtx enrich) := by
  unfold enrichCandidates
  split
  · exact frames_pure _
  · exact frames_pure _
  · refine frames_bind (frames_mapM (enriched_interpolateCandidate env rule ctx interpCtx) _)
      fun candidates => frames_get fun state => ?_
    split
    · -- One candidate by chance, with two calls to the store around it.
      refine frames_bind (enriched_callStore _) fun lastId => ?_
      refine frames_bind (enriched_askWorld _) fun fraction => ?_
      exact frames_bind (enriched_addCandidates _) fun _ => enriched_callStore _
    · exact enriched_addCandidates candidates

theorem enriched_egressDestination (egress : Egress) (evtOut : Event) :
    Frames Enriched (egressDestination env interpCtx egress evtOut) := by
  unfold egressDestination
  split
  · exact frames_ofExcept _
  · exact frames_pure _

theorem enriched_enrichEgress : Frames Enriched (enrichEgress env interpCtx enrich) := by
  unfold enrichEgress
  split
  · exact frames_pure _
  · refine frames_get fun state => ?_
    refine frames_bind (enriched_egressDestination env interpCtx _ _) fun destination => ?_
    exact frames_modify fun state => enriched_assign state _ _ _

theorem enriched_enrichFrom : Frames Enriched (enrichFrom env rule ctx) := by
  unfold enrichFrom
  split
  · exact frames_pure _
  · refine frames_bind (enriched_enrichMessage env rule _ _) fun _ => ?_
    refine frames_bind (enriched_enrichAnnotations env rule ctx _ _) fun _ => ?_
    refine frames_bind (enriched_enrichCandidates env rule ctx _ _) fun _ => ?_
    exact enriched_enrichEgress env _ _

end Enrichments

/-- The condition of a rule holds for an event, without throwing. -/
def matchesRule (env : RouterEnv World) (evt : Event) (rule : RuleDoc) : Bool :=
  match env.evaluate rule.logic (env.buildContext evt) with
  | .ok holds => holds
  | .error _ => false

section Steps

variable {env : RouterEnv World} {evt : Event} {state : RouteState World} {rule : RuleDoc}

theorem step_of_unmatched (unmatched : matchesRule env evt rule = false) :
    state.step env (env.buildContext evt) rule = state := by
  unfold matchesRule at unmatched
  unfold RouteState.step routeRule
  -- A condition that throws counts as one that does not hold.
  cases evaluated : env.evaluate rule.logic (env.buildContext evt) with
  | error reason => exact after_error_bind reason _ state
  | ok holds =>
    rw [evaluated] at unmatched
    subst unmatched
    rw [after_ofExcept_bind]
    rfl

theorem step_of_chosen (matching : matchesRule env evt rule = true)
    (chosen : state.chosen.isSome) :
    state.step env (env.buildContext evt) rule =
      { state with matchedRuleIds := state.matchedRuleIds ++ [rule.id] } := by
  unfold matchesRule at matching
  unfold RouteState.step routeRule
  cases evaluated : env.evaluate rule.logic (env.buildContext evt) with
  | error reason => rw [evaluated] at matching; cases matching
  | ok holds =>
    rw [evaluated] at matching
    subst matching
    -- The rule that was chosen before keeps the choice.
    obtain ⟨slip, held⟩ := Option.isSome_iff_exists.mp chosen
    simp [held]

theorem step_of_matching (state : RouteState World) (matching : matchesRule env evt rule = true)
    (free : state.chosen = none) :
    state.step env (env.buildContext evt) rule =
      after (enrichFrom env rule (env.buildContext evt))
        (selectRule rule { state with matchedRuleIds := state.matchedRuleIds ++ [rule.id] }) := by
  unfold matchesRule at matching
  unfold RouteState.step routeRule
  cases evaluated : env.evaluate rule.logic (env.buildContext evt) with
  -- A rule that throws does not match.
  | error reason => rw [evaluated] at matching; cases matching
  | ok holds =>
    rw [evaluated] at matching
    subst matching
    simp [free]

theorem step_of_first (state : RouteState World)
    (matching : matchesRule env evt rule = true) (free : state.chosen = none) : Enriched
      (selectRule rule { state with matchedRuleIds := state.matchedRuleIds ++ [rule.id] })
      (state.step env (env.buildContext evt) rule) := by
  -- The enrichments may throw, and leave the choice in either case.
  rw [step_of_matching state matching free]
  exact enriched_enrichFrom env rule (env.buildContext evt) _

theorem run_of_chosen (chosen : state.chosen.isSome) (rules : List RuleDoc) :
    run (RouteState.step env (env.buildContext evt)) state rules =
      { state with
        matchedRuleIds := state.matchedRuleIds ++
          (rules.filter (matchesRule env evt)).map (·.id) } := by
  -- The induction is on the rules behind the chosen one.
  induction rules generalizing state with
  | nil => simp
  | cons rule rest ih =>
    rw [run_cons]
    cases matching : matchesRule env evt rule with
    -- A later match is recorded, and changes nothing else.
    | true =>
      rw [step_of_chosen matching chosen, ih]
      · simp [matching]
      · exact chosen
    | false =>
      rw [step_of_unmatched matching, ih chosen]
      simp [matching]

theorem run_of_unmatched {rules : List RuleDoc}
    (unmatched : ∀ rule ∈ rules, matchesRule env evt rule = false) :
    run (RouteState.step env (env.buildContext evt)) state rules = state := by
  induction rules with
  | nil => rfl
  | cons rule rest ih =>
    rw [run_cons, step_of_unmatched (unmatched rule (List.mem_cons_self ..))]
    exact ih fun other member => unmatched other (List.mem_cons_of_mem _ member)

theorem run_of_first {before : List RuleDoc} (free : state.chosen = none)
    (unmatched : ∀ rule ∈ before, matchesRule env evt rule = false)
    (matching : matchesRule env evt rule = true) (after : List RuleDoc) :
    run (RouteState.step env (env.buildContext evt)) state (before ++ rule :: after) =
      { state.step env (env.buildContext evt) rule with
        matchedRuleIds := state.matchedRuleIds ++ [rule.id] ++
          (after.filter (matchesRule env evt)).map (·.id) } := by
  have enriched := step_of_first state matching free
  obtain ⟨_, _, _, _, _, left⟩ := enriched.rest
  -- Once the rule is chosen, those behind it are only recorded.
  have chosen : (state.step env (env.buildContext evt) rule).chosen.isSome := by
    rw [left]
    rfl
  rw [run_append, run_of_unmatched unmatched, run_cons, run_of_chosen chosen]
  -- The step itself has put its own rule on the list.
  rw [left]
  rfl

end Steps

structure SlipOf (rule : RuleDoc) (slip : List RoutingStep) : Prop where
  steps : rule.routing.slip ≠ [] →
    List.Forall₂ (fun ref step => step.id = ref.id ∧ step.nextTopic = some ref.nextTopic ∧
      step.attributes = ref.attributes ∧ step.status = .pending) rule.routing.slip slip
  /-- One step that is already done, where the rule has none. -/
  terminal : rule.routing.slip = [] → slip = [{ id := "router", v := some "2", status := .ok }]

theorem slipOf_selectedSlip (rule : RuleDoc) : SlipOf rule (selectedSlip rule) := by
  constructor
  · intro filled
    obtain ⟨first, rest, slip⟩ := List.exists_cons_of_ne_nil filled
    -- A slip with a step is normalized step by step.
    have same : selectedSlip rule = normalizeSlip rule.routing.slip := by
      rw [selectedSlip, slip]
      rfl
    rw [same, normalizeSlip, List.forall₂_map_right_iff, List.forall₂_same]
    exact fun ref _ => ⟨rfl, rfl, rfl, rfl⟩
  · intro bare
    rw [selectedSlip, bare]
    rfl

/-- What a result says about the first rule that matches, or about there being none. -/
def Decides (first : Option RuleDoc) (result : RouteResult World) : Prop :=
  match first with
  | some rule => SlipOf rule result.slip ∧
    result.decision =
      { matched := true, ruleId := some rule.id, priority := some rule.priority,
        selectedTopic := selectedTopic rule }
  | none => result.slip = defaultSlip ∧
    result.decision = { matched := false, selectedTopic := INTERNAL_ROUTER_DLQ_V1 }

structure FirstMatchWins (env : RouterEnv World) (evt : Event) (rules : List RuleDoc)
    (result : RouteResult World) : Prop where
  decides : Decides (rules.find? (matchesRule env evt)) result
  matchedRuleIds : result.matchedRuleIds = (rules.filter (matchesRule env evt)).map (·.id)
  /-- The event carries the slip, and what it has behind it. -/
  routing : ∃ stage, result.evtOut.routing =
    some { stage, slip := result.slip, history := evt.history }
  annotations : evt.annotations.getD [] <+: result.evtOut.annotations.getD []
  candidates : evt.candidates.getD [] <+: result.evtOut.candidates.getD []
  untouched : result.evt = evt

structure SameButMatches (left right : RouteResult World) : Prop where
  slip : left.slip = right.slip
  decision : left.decision = right.decision
  evtOut : { left.evtOut with metadata := .undefined } =
    { right.evtOut with metadata := .undefined }
  metadata : ∀ key, key ≠ "matchedRuleIds" →
    left.evtOut.metadata.get key = right.evtOut.metadata.get key
  world : left.world = right.world

theorem history_routable (evt : Event) : evt.routable.history = evt.history := by
  cases routed : evt.routing <;> simp [Event.routable, Event.history, routed]

section Results

variable {env : RouterEnv World} {evt : Event} {rules : List RuleDoc} (world : World)

theorem route_of_unmatched (unmatched : ∀ rule ∈ rules, matchesRule env evt rule = false) :
    FirstMatchWins env evt rules (route env evt rules world) := by
  have absent : rules.find? (matchesRule env evt) = none := by
    rw [List.find?_eq_none]
    exact fun rule member => by rw [unmatched rule member]; exact Bool.false_ne_true
  have nobody : rules.filter (matchesRule env evt) = [] := by
    rw [List.filter_eq_nil_iff]
    exact fun rule member => by rw [unmatched rule member]; exact Bool.false_ne_true
  -- No rule moves the state, and the defaults are read off at the end.
  have left : route env evt rules world = (RouteState.begin evt world).result := by
    rw [route, run_of_unmatched unmatched]
  rw [left]
  constructor
  · rw [absent]
    exact ⟨rfl, rfl⟩
  · rw [nobody]
    rfl
  · refine ⟨evt.routable.routing.map (·.stage) |>.getD "initial", ?_⟩
    simp only [RouteState.result, RouteState.begin, history_routable]
  · exact List.prefix_refl _
  · exact List.prefix_refl _
  · rfl

variable {before after : List RuleDoc} {rule : RuleDoc}

theorem route_eq (unmatched : ∀ rule ∈ before, matchesRule env evt rule = false)
    (matching : matchesRule env evt rule = true) :
    route env evt (before ++ rule :: after) world =
      RouteState.result
        { (RouteState.begin evt world).step env (env.buildContext evt) rule with
          matchedRuleIds := rule.id :: (after.filter (matchesRule env evt)).map (·.id) } := by
  rw [route, run_of_first rfl unmatched matching]
  rfl

theorem route_of_first (unmatched : ∀ rule ∈ before, matchesRule env evt rule = false)
    (matching : matchesRule env evt rule = true) :
    FirstMatchWins env evt (before ++ rule :: after)
      (route env evt (before ++ rule :: after) world) := by
  have first : (before ++ rule :: after).find? (matchesRule env evt) = some rule := by
    rw [List.find?_eq_some_iff_append]
    exact ⟨matching, before, after, rfl, fun other member => by simp [unmatched other member]⟩
  have others : (before ++ rule :: after).filter (matchesRule env evt) =
      rule :: after.filter (matchesRule env evt) := by
    -- None of the earlier rules is among the matches.
    have none_before : before.filter (matchesRule env evt) = [] := by
      rw [List.filter_eq_nil_iff]
      exact fun other member => by rw [unmatched other member]; exact Bool.false_ne_true
    rw [List.filter_append, none_before, List.nil_append, List.filter_cons_of_pos matching]
  -- What the rule decides is read off the state after its own step.
  have enriched := step_of_first (RouteState.begin evt world) matching rfl
  rw [route_eq world unmatched matching]
  obtain ⟨⟨message, annotations, candidates, egress, later, left⟩, grown, more⟩ := enriched
  constructor
  · rw [first, left]
    exact ⟨slipOf_selectedSlip rule, rfl⟩
  · rw [others]
    rfl
  · refine ⟨rule.routing.stage, ?_⟩
    rw [left, ← history_routable evt]
    rfl
  · exact grown
  · exact more
  · rw [left]
    rfl

theorem route_after (unmatched : ∀ rule ∈ before, matchesRule env evt rule = false)
    (matching : matchesRule env evt rule = true) (other : List RuleDoc) :
    SameButMatches (route env evt (before ++ rule :: after) world)
      (route env evt (before ++ rule :: other) world) := by
  rw [route_eq world unmatched matching, route_eq world unmatched matching]
  refine ⟨rfl, rfl, rfl, fun key apart => ?_, rfl⟩
  -- Only the record of the matches tells the two runs apart.
  simp only [RouteState.result, Value.get_extend]
  have skipped : (key == "matchedRuleIds") = false := by simpa using apart
  simp [skipped, List.lookup_cons]

end Results

end FirstMatch

/-- An engine whose conditions are words, and whose templates must not open a tag. -/
def wordEnv : RouterEnv Unit where
  buildContext _ := .obj [("now", .str "t0")]
  evaluate logic _ :=
    if logic = "yes" then .ok true
    else if logic = "no" then .ok false
    else .error "not a condition"
  render template _ := if template = "unclosed" then .error "unclosed tag" else .ok template
  now world := (0, world)
  random world := (⟨0, le_refl 0, zero_lt_one⟩, world)
  randomText _ := "00000"

def labelRule (id logic label : String) : RuleDoc where
  id := id
  enabled := true
  priority := .finite 1
  logic := logic
  routing := {
    stage := "analysis", slip := [{ id := "llm-bot", nextTopic := "internal.llmbot.v1" }] }
  enrichments := some { annotations := some [.obj [("label", .str label)]] }

end BitBrat
