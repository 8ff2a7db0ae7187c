import BitBrat.Js.Value

/-! The internal event envelope, its routing slip, and the topics it travels on. -/

namespace BitBrat

open Js

inductive RoutingStatus where
  | pending
  | ok
  | error
  | skip
  deriving DecidableEq

structure StepError where
  code : String
  message : Option String := none
  retryable : Option Bool := none
  deriving DecidableEq

abbrev AttributeMap := OrderedMap String String

structure RoutingStep where
  id : String
  v : Option String := none
  status : RoutingStatus
  attempt : Option Int := none
  maxAttempts : Option Int := none
  nextTopic : Option String := none
  attributes : Option AttributeMap := none
  startedAt : Option String := none
  endedAt : Option String := none
  error : Option (Option StepError) := none
  notes : Option String := none

structure Routing where
  stage : String
  slip : List RoutingStep
  history : List RoutingStep

structure Ingress where
  ingressAt : String
  source : String
  connector : String
  channel : Option String := none

structure Egress where
  destination : String
  type : Option String := none
  connector : String
  channel : Option String := none
  metadata : Value := .undefined

structure Message where
  id : String
  role : String
  text : Option String := none

structure Event where
  correlationId : String
  traceId : Option String := none
  type : String
  ingress : Option Ingress := none
  externalId : Option String := none
  egress : Option Egress := none
  message : Option Message := none
  annotations : Option (List Value) := none
  candidates : Option (List Value) := none
  routing : Option Routing := none
  metadata : Value := .undefined
  replyTo : Value := .undefined
  /-- The properties that only pass through: payload, errors, and the platform's own record. -/
  rest : Value := .undefined

def textOr (text : Option String) (fallback : String) : String :=
  match text with
  | some found => if found = "" then fallback else found
  | none => fallback

def nonEmpty (text : String) : Option String := if text = "" then none else some text

def optionalText : Option String → Value
  | some text => .str text
  | none => .undefined

def textList (texts : List String) : Value := .arr (texts.map .str)

/-- The steps of the event's slip, when it has one. -/
def Event.slip (event : Event) : List RoutingStep :=
  match event.routing with
  | some routing => routing.slip
  | none => []

def Event.setStep (event : Event) (index : Nat) (step : RoutingStep) : Event :=
  { event with
    routing := event.routing.map fun routing =>
      { routing with slip := routing.slip.set index step } }

def Event.statuses (event : Event) : List RoutingStatus := event.slip.map (·.status)

@[simp] theorem Event.slip_setStep (event : Event) (index : Nat) (step : RoutingStep) :
    (event.setStep index step).slip = event.slip.set index step := by
  -- Without a routing block there is no step to replace.
  cases routed : event.routing <;> simp [setStep, slip, routed]

@[simp] theorem Event.statuses_setStep (event : Event) (index : Nat) (step : RoutingStep) :
    (event.setStep index step).statuses = event.statuses.set index step.status := by
  simp [statuses, List.map_set]

@[simp] theorem Event.egress_setStep (event : Event) (index : Nat) (step : RoutingStep) :
    (event.setStep index step).egress = event.egress := rfl

def INTERNAL_INGRESS_V1 : String := "internal.ingress.v1"

def INTERNAL_EGRESS_V1 : String := "internal.egress.v1"

def INTERNAL_PERSISTENCE_SNAPSHOT_V1 : String := "internal.persistence.snapshot.v1"

def INTERNAL_ROUTER_DLQ_V1 : String := "internal.router.dlq.v1"

/-! Proposals to change the state under a key, the state itself, and the log of the proposals. -/

inductive MutationOp where
  | set
  | delete
  | increment
  | push
  deriving DecidableEq

structure MutationProposal where
  id : String
  op : MutationOp
  key : String
  value : Value
  actor : String
  reason : String
  expectedVersion : Option Number := none
  ts : String
  ttl : Option Number := none
  metadata : Option (List (String × Value)) := none
  deriving DecidableEq

structure StateSnapshot where
  value : Value
  updatedAt : String
  updatedBy : String
  version : Nat
  ttl : Option Number
  metadata : Value
  deriving DecidableEq

inductive MutationStatus where
  | accepted
  | rejected
  deriving DecidableEq

structure MutationLogEntry extends MutationProposal where
  committedAt : String
  status : MutationStatus
  error : Option String
  resultingVersion : Option Nat
  deriving DecidableEq

end BitBrat
