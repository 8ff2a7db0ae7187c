import BitBrat.Machine.Returns
import BitBrat.Machine.Run
import BitBrat.Types.Event

/-! Routing rules. -/

namespace BitBrat

open Js

structure RoutingStepRef where
  id : String
  v : Option String := none
  nextTopic : String
  maxAttempts : Option Int := none
  attributes : Option AttributeMap := none

structure RuleRouting (Step : Type) where
  stage : String
  slip : List Step
  deriving DecidableEq

structure RuleEnrichments (Target : Type) where
  message : Option String := none
  annotations : Option (List Value) := none
  candidates : Option (List Value) := none
  randomCandidate : Bool := false
  egress : Option Target := none
  deriving DecidableEq

/--
A routing rule.

Its steps and its egress are records of the types given, which a loader has not looked into.
-/
structure RuleRecord (Step Target : Type) where
  id : String
  enabled : Bool
  priority : Number
  description : Option String := none
  logic : String
  routing : RuleRouting Step
  enrichments : Option (RuleEnrichments Target) := none
  metadata : Value := .undefined
  deriving DecidableEq

abbrev RuleDoc := RuleRecord RoutingStepRef Egress

/-! The router engine: one loop that selects a rule, enriches the event, and survives exceptions. -/

open Js Machine

/-- The memory of the candidates that were last used, outside the process. -/
structure StateStore (World : Type) where
  getLastCandidateId : String → String → World → Except String (Option String) × World
  updateLastCandidateId : String → String → Value → World → Except String Unit × World

structure RouterEnv (World : Type) where
  buildContext : Event → Value
  /-- Whether a condition holds in a context; it may throw. -/
  evaluate : String → Value → Except String Bool
  render : String → Value → Except String String
  now : World → Nat × World
  random : World → { fraction : ℚ // 0 ≤ fraction ∧ fraction < 1 } × World
  randomText : ℚ → String
  stateStore : Option (StateStore World) := none

/-- What is decided about an event, apart from the list of matches. -/
structure DecisionMeta where
  matched : Bool
  ruleId : Option String := none
  priority : Option Number := none
  selectedTopic : String
  deriving DecidableEq

/-- The variables of the loop, the event that was handed in, and the world. -/
structure RouteState (World : Type) where
  evt : Event
  evtOut : Event
  chosen : Option (List RoutingStep) := none
  decision : Option DecisionMeta := none
  matchedRuleIds : List String := []
  world : World

def normalizeSlip (refs : List RoutingStepRef) : List RoutingStep :=
  refs.map fun ref =>
    { id := ref.id, v := some (ref.v.getD "2"), status := .pending, attempt := some 0,
      maxAttempts := some (ref.maxAttempts.getD 3), nextTopic := some ref.nextTopic,
      attributes := ref.attributes }

def defaultSlip : List RoutingStep :=
  [{ id := "router", v := some "2", status := .pending, attempt := some 0, maxAttempts := some 3,
     nextTopic := some INTERNAL_ROUTER_DLQ_V1 }]

/-- The slip that a rule selects: an empty one ends the routing. -/
def selectedSlip (rule : RuleDoc) : List RoutingStep :=
  match normalizeSlip rule.routing.slip with
  | [] => [{ id := "router", v := some "2", status := .ok }]
  | slip => slip

def selectedTopic (rule : RuleDoc) : String :=
  match normalizeSlip rule.routing.slip with
  | [] => INTERNAL_EGRESS_V1
  | first :: _ => textOr first.nextTopic INTERNAL_ROUTER_DLQ_V1

def Event.history (event : Event) : List RoutingStep :=
  match event.routing with
  | some routing => routing.history
  | none => []

def Event.routable (event : Event) : Event :=
  { event with
    routing := some (event.routing.getD { stage := "initial", slip := [], history := [] }) }

section Engine

variable {World : Type}

abbrev RouteM (World α : Type) := Program String (RouteState World) α

def askWorld {α : Type} (ask : World → α × World) : RouteM World α :=
  ofState fun state =>
    let asked := ask state.world
    (.ok asked.1, { state with world := asked.2 })

/-- Call the store of used candidates, which may throw. -/
def callStore {α : Type} (call : World → Except String α × World) : RouteM World α :=
  ofState fun state =>
    let called := call state.world
    (called.1, { state with world := called.2 })

def assignOut (change : Event → Event) : RouteM World Unit :=
  modify fun state => { state with evtOut := change state.evtOut }

/-- An identifier of what a rule adds, made of the time and of chance. -/
def freshId (env : RouterEnv World) (rule : RuleDoc) (sort : String) : RouteM World Value := do
  let now ← askWorld env.now
  let fraction ← askWorld env.random
  pure (.str ("rule-" ++ rule.id ++ "-" ++ sort ++ "-" ++ toString now ++ "-" ++
    env.randomText fraction.val))

/-- The identifier that a record brings, or a fresh one. -/
def idOf (env : RouterEnv World) (rule : RuleDoc) (given : Value) (sort : String) :
    RouteM World Value :=
  if (given.get "id").truthy then pure (given.get "id") else freshId env rule sort

/-- A field filled from the context, where it is there. -/
def renderField (env : RouterEnv World) (field context : Value) : RouteM World Value :=
  if field.truthy then do
    let text ← ofExcept (env.render field.toText context)
    pure (.str text)
  else pure .undefined

/-- A rule's annotation record, with its defaults and its texts filled in. -/
def interpolateAnn (env : RouterEnv World) (rule : RuleDoc) (ctx interpCtx : Value)
    (given : Value) : RouteM World Value := do
  let id ← idOf env rule given "ann"
  let label ← renderField env (given.get "label") interpCtx
  let value ← renderField env (given.get "value") interpCtx
  -- What the rule gives comes before the defaults.
  pure (given.extend
    [("id", id),
     ("kind", (given.get "kind").or (.str "custom")),
     ("source", (given.get "source").or (.str ("rule:" ++ rule.id))),
     ("createdAt", (given.get "createdAt").or (ctx.get "now")),
     ("label", label),
     ("value", value)])

/-- A candidate of a rule, with its defaults and its texts filled in. -/
def interpolateCandidate (env : RouterEnv World) (rule : RuleDoc) (ctx interpCtx : Value)
    (candidate : Value) : RouteM World Value := do
  let id ← idOf env rule candidate "cand"
  let text ← renderField env (candidate.get "text") interpCtx
  let reason ← renderField env (candidate.get "reason") interpCtx
  -- What the candidate names itself takes precedence over the defaults.
  pure (candidate.extend
    [("id", id),
     ("kind", (candidate.get "kind").or (.str "text")),
     ("source", (candidate.get "source").or (.str ("rule:" ++ rule.id))),
     ("createdAt", (candidate.get "createdAt").or (ctx.get "now")),
     ("status", (candidate.get "status").or (.str "proposed")),
     ("priority", match candidate.get "priority" with
       | .num priority => .num priority
       | _ => .num (.finite 10)),
     ("text", text),
     ("reason", reason)])

def enrichMessage (env : RouterEnv World) (rule : RuleDoc) (interpCtx : Value)
    (enrich : RuleEnrichments Egress) : RouteM World Unit :=
  match enrich.message.bind nonEmpty with
  | some template => do
    let now ← askWorld env.now
    let text ← ofExcept (env.render template interpCtx)
    -- A message of the event is replaced.
    assignOut fun evtOut =>
      { evtOut with
        message := some
          { id := "rule-" ++ rule.id ++ "-" ++ toString now, role := "assistant",
            text := some text } }
  | none => pure ()

def enrichAnnotations (env : RouterEnv World) (rule : RuleDoc) (ctx interpCtx : Value)
    (enrich : RuleEnrichments Egress) : RouteM World Unit :=
  match enrich.annotations with
  | none | some [] => pure ()
  | some raw => do
    let added ← raw.mapM (interpolateAnn env rule ctx interpCtx)
    assignOut fun evtOut =>
      { evtOut with annotations := some (evtOut.annotations.getD [] ++ added) }

def addCandidates (added : List Value) : RouteM World Unit :=
  assignOut fun evtOut =>
    { evtOut with candidates := some (evtOut.candidates.getD [] ++ added) }

/-- One of the candidates, other than the one that was used last where there is another. -/
def pickCandidate (candidates : List Value) (lastId : Option String) (fraction : ℚ) : Value :=
  let last := match lastId with
    | some id => .str id
    | none => .undefined
  let eligible := candidates.filter fun candidate => candidate.get "id" ≠ last
  let pool := if eligible.length > 0 then eligible else candidates
  (pool[(fraction * pool.length).floor.toNat]?).getD .undefined

/-- Add the candidates of a rule, or one of them by chance. -/
def enrichCandidates (env : RouterEnv World) (rule : RuleDoc) (ctx interpCtx : Value)
    (enrich : RuleEnrichments Egress) : RouteM World Unit :=
  match enrich.candidates with
  | none | some [] => pure ()
  | some raw => do
    let candidates ← raw.mapM (interpolateCandidate env rule ctx interpCtx)
    -- A random candidate is drawn for a known user only, and remembered.
    let state ← get
    match enrich.randomCandidate, env.stateStore, state.evt.externalId.bind nonEmpty with
    | true, some store, some user =>
      let lastId ← callStore (store.getLastCandidateId user rule.id)
      let fraction ← askWorld env.random
      let selected := pickCandidate candidates lastId fraction.val
      addCandidates [selected]
      callStore (store.updateLastCandidateId user rule.id (selected.get "id"))
    | _, _, _ => addCandidates candidates

/-- The destination of an egress, filled in, or that of the event. -/
def egressDestination (env : RouterEnv World) (interpCtx : Value) (egress : Egress)
    (evtOut : Event) : RouteM World String :=
  if egress.destination ≠ "" then ofExcept (env.render egress.destination interpCtx)
  else pure (textOr (evtOut.egress.map (·.destination)) "")

def enrichEgress (env : RouterEnv World) (interpCtx : Value) (enrich : RuleEnrichments Egress) :
    RouteM World Unit :=
  match enrich.egress with
  | none => pure ()
  | some egress => do
    let state ← get
    let destination ← egressDestination env interpCtx egress state.evtOut
    assignOut fun evtOut => { evtOut with egress := some { egress with destination } }

/-- Carry out the enrichments of a rule, in their order. -/
def enrichFrom (env : RouterEnv World) (rule : RuleDoc) (ctx : Value) : RouteM World Unit :=
  match rule.enrichments with
  | none => pure ()
  | some enrich => do
    let interpCtx := rule.metadata.extend ctx.fields
    enrichMessage env rule interpCtx enrich
    enrichAnnotations env rule ctx interpCtx enrich
    enrichCandidates env rule ctx interpCtx enrich
    enrichEgress env interpCtx enrich

/-- Select a rule: its slip, its decision, and the routing of the event that goes out. -/
def selectRule (rule : RuleDoc) (state : RouteState World) : RouteState World :=
  { state with
    chosen := some (selectedSlip rule)
    decision := some
      { matched := true, ruleId := some rule.id, priority := some rule.priority,
        selectedTopic := selectedTopic rule }
    -- The chosen slip replaces whatever routing the event had.
    evtOut := { state.evtOut with
      routing := some
        { stage := rule.routing.stage, slip := selectedSlip rule,
          history := state.evtOut.history } } }

def routeRule (env : RouterEnv World) (ctx : Value) (rule : RuleDoc) : RouteM World Unit := do
  let ok ← ofExcept (env.evaluate rule.logic ctx)
  if ok then
    modify fun state => { state with matchedRuleIds := state.matchedRuleIds ++ [rule.id] }
    let state ← get
    if state.chosen.isNone then
      modify (selectRule rule)
      enrichFrom env rule ctx

/-- The loop goes on from wherever a rule leaves off, also where it throws. -/
def RouteState.step (env : RouterEnv World) (ctx : Value) (state : RouteState World)
    (rule : RuleDoc) : RouteState World := after (routeRule env ctx rule) state

def RouteState.begin (evt : Event) (world : World) : RouteState World :=
  { evt, evtOut := evt.routable, world }

/-- What the engine returns, next to the event that was handed in and the world it leaves. -/
structure RouteResult (World : Type) where
  slip : List RoutingStep
  decision : DecisionMeta
  matchedRuleIds : List String
  evtOut : Event
  evt : Event
  world : World

/-- What is returned after the loop, with the default slip where no rule was chosen. -/
def RouteState.result (state : RouteState World) : RouteResult World :=
  let slip := state.chosen.getD defaultSlip
  let decision := state.decision.getD
    { matched := false, selectedTopic := INTERNAL_ROUTER_DLQ_V1 }
  -- Without a chosen rule the event goes to the dead letters.
  let routing :=
    match state.chosen with
    | some _ => state.evtOut.routing
    | none => some
      { stage := (state.evtOut.routing.map (·.stage)).getD "initial", slip,
        history := state.evtOut.history }
  { slip, decision
    matchedRuleIds := state.matchedRuleIds
    evtOut := { state.evtOut with
      routing
      metadata := state.evtOut.metadata.extend
        [("matchedRuleIds", .arr (state.matchedRuleIds.map .str)),
         ("chosenRuleId", match decision.ruleId.bind nonEmpty with
           | some id => .str id
           | none => .null)] }
    evt := state.evt
    world := state.world }

def route (env : RouterEnv World) (evt : Event) (rules : List RuleDoc) (world : World) :
    RouteResult World :=
  (run (RouteState.step env (env.buildContext evt)) (.begin evt world) rules).result

end Engine

end BitBrat
