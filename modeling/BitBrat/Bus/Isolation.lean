import BitBrat.Js.Text
import BitBrat.Bus.Delivery

/-! Services behind one shared server: when a skipped message was really processed before. -/

namespace BitBrat

open Js Machine

structure Subscriber where
  serviceName : String
  service : Service

/-- The idempotency check that a subscriber makes of a delivery, when it makes one. -/
def Subscriber.check (subscriber : Subscriber) (delivery : Delivery) :
    Option (String × IdempotencyConfig) :=
  let options := delivery.subscription.idempotency
  let enabled := subscriber.service.redisIdempotencyEnabled ∨ options.any (·.enabled)
  delivery.payload.bind fun parsed =>
    let correlationId := parsed.get "correlationId"
    if enabled ∧ subscriber.service.hasRedis ∧ correlationId.truthy then
      -- The name of the service is the source, until the merged configuration is spread over it.
      let config := mergeIdempotencyConfig (extractIdempotencyHints parsed) options
        subscriber.service.redisIdempotencyDefaultTtlSeconds
        { topic := delivery.subscription.destination, correlationId := correlationId.toText
          source := some subscriber.serviceName }
      some (config.key (options.bind (·.customKeyFn)), config)
    else none

/-- The position of the step that a message was dispatched to, if it is on its way to one. -/
def slipStep (parsed : Value) : Option Nat :=
  match (parsed.get "routing").get "slip" with
  | .arr steps => steps.findIdx? fun step => step.get "status" = .str "PENDING"
  | _ => none

/-- Two deliveries of the same dispatch: of one topic, one correlation id and one step. -/
structure SameDispatch (first second : Delivery) : Prop where
  topic : first.subscription.destination = second.subscription.destination
  correlationId : first.payload.map (·.get "correlationId") =
    second.payload.map (·.get "correlationId")
  step : first.payload.bind slipStep = second.payload.bind slipStep

structure Receipt where
  subscriber : Subscriber
  delivery : Delivery
  skipped : Bool

structure Fleet where
  redis : RedisStore
  log : List Receipt

/-- Services that have just started, with an empty shared server. -/
def Fleet.fresh : Fleet := { redis := .empty, log := [] }

/-- A delivery that reaches a service, at a time and with its client in some state. -/
structure Arrival where
  subscriber : Subscriber
  delivery : Delivery
  now : Int
  health : RedisHealth

/-- The server after the check of an arrival, and whether the service skips it. -/
def Fleet.consult (fleet : Fleet) (arrival : Arrival) : RedisStore × Bool :=
  match arrival.subscriber.check arrival.delivery with
  | none => (fleet.redis, false)
  | some (key, config) => checkIdempotency arrival.health arrival.now key config fleet.redis

/-- A service receives a delivery, unless its payload does not parse. -/
def Fleet.receive (fleet : Fleet) (arrival : Arrival) : Fleet :=
  if arrival.delivery.payload.isNone then fleet
  else
    let consulted := fleet.consult arrival
    { redis := consulted.1
      log := fleet.log ++ [⟨arrival.subscriber, arrival.delivery, consulted.2⟩] }

structure Receipt.Matches (receipt : Receipt) (arrival : Arrival) : Prop where
  service : receipt.subscriber.serviceName = arrival.subscriber.serviceName
  dispatch : SameDispatch receipt.delivery arrival.delivery

/-- An arrival is isolated from everything that any service received before. -/
structure Isolated (fleet : Fleet) (arrival : Arrival) : Prop where
  /-- It is skipped only if the same service already processed the same dispatch. -/
  justified : (fleet.consult arrival).2 = true →
    ∃ receipt ∈ fleet.log, receipt.skipped = false ∧ receipt.Matches arrival
  /-- It shares its key only with the same dispatch to the same service. -/
  apart : ∀ receipt ∈ fleet.log, ∀ key config other,
    receipt.subscriber.check receipt.delivery = some (key, config) →
      arrival.subscriber.check arrival.delivery = some (key, other) → receipt.Matches arrival

/--
What identifies a delivery, where it is checked: the fields between dots and colons.

They come from the topic without its environment, the correlation id, and the source that the
message itself names. A subscription may derive its own text instead.
-/
def Subscriber.keyFields (subscriber : Subscriber) (delivery : Delivery) :
    Option (List (List Char)) :=
  let options := delivery.subscription.idempotency
  (subscriber.check delivery).map fun (_, config) =>
    match options.bind (·.customKeyFn) with
    -- A derived key is split wherever it holds a colon.
    | some derive => (derive config).toList.splitOn ':'
    | none =>
      -- The parts of a generated key may hold colons of their own.
      ("bitbrat" :: "idempotency" :: normalizeTopic config.topic :: config.correlationId ::
        (config.source.bind nonEmpty).toList).flatMap (·.toList.splitOn ':')

/-- No earlier delivery has the same fields, unless it is of the same dispatch and service. -/
def Unshared (fleet : Fleet) (arrival : Arrival) : Prop :=
  ∀ receipt ∈ fleet.log, ∀ fields,
    receipt.subscriber.keyFields receipt.delivery = some fields →
      arrival.subscriber.keyFields arrival.delivery = some fields → receipt.Matches arrival

theorem splitOn_generateIdempotencyKey (config : IdempotencyConfig) :
    (generateIdempotencyKey config).toList.splitOn ':' =
      ("bitbrat" :: "idempotency" :: normalizeTopic config.topic :: config.correlationId ::
        (config.source.bind nonEmpty).toList).flatMap (·.toList.splitOn ':') := by
  have separator : ":".toList = [':'] := rfl
  -- A joined text splits into the fields of what was joined, one after the other.
  rw [generateIdempotencyKey, String.toList_intercalate, separator,
    splitOn_intercalate_segments ':' (by simp), List.flatMap_map]
  rfl

theorem key_of_check {subscriber : Subscriber} {delivery : Delivery} {key : String}
    {config : IdempotencyConfig} (checked : subscriber.check delivery = some (key, config)) :
    key = config.key (delivery.subscription.idempotency.bind (·.customKeyFn)) := by
  -- A check that comes to nothing has no key.
  obtain ⟨parsed, -, found⟩ := Option.bind_eq_some_iff.mp checked
  simp only at found
  split at found
  · cases found
    rfl
  · cases found

theorem keyFields_eq_splitOn (subscriber : Subscriber) (delivery : Delivery) :
    subscriber.keyFields delivery =
      (subscriber.check delivery).map fun checked => checked.1.toList.splitOn ':' := by
  unfold Subscriber.keyFields
  cases checked : subscriber.check delivery with
  | none => rfl
  | some found =>
    obtain ⟨key, config⟩ := found
    simp only [Option.map_some, key_of_check checked, IdempotencyConfig.key]
    cases delivery.subscription.idempotency.bind (·.customKeyFn) with
    -- A generated key is joined by colons, which splitting takes apart again.
    | none => rw [splitOn_generateIdempotencyKey]
    | some derive => rfl

theorem unshared_iff_apart (fleet : Fleet) (arrival : Arrival) :
    Unshared fleet arrival ↔ ∀ receipt ∈ fleet.log, ∀ key config other,
      receipt.subscriber.check receipt.delivery = some (key, config) →
        arrival.subscriber.check arrival.delivery = some (key, other) →
          receipt.Matches arrival := by
  constructor
  · intro unshared receipt member key config other earlier later
    refine unshared receipt member (key.toList.splitOn ':') ?_ ?_
    · -- Equal keys have equal fields.
      rw [keyFields_eq_splitOn, earlier, Option.map_some]
    · rw [keyFields_eq_splitOn, later, Option.map_some]
  · intro apart receipt member fields earlier later
    rw [keyFields_eq_splitOn, Option.map_eq_some_iff] at earlier later
    obtain ⟨⟨key, config⟩, earlierChecked, rfl⟩ := earlier
    obtain ⟨⟨otherKey, other⟩, laterChecked, same⟩ := later
    -- Keys with the same fields are the same.
    have keys : otherKey = key := String.toList_injective (splitOn_injective ':' same)
    subst keys
    exact apart receipt member otherKey config other earlierChecked laterChecked

/-- Every key that the shared server holds was stored for a delivery that was not skipped. -/
def Fleet.Accounted (fleet : Fleet) : Prop :=
  ∀ key, (fleet.redis.get? key).isSome → ∃ receipt ∈ fleet.log, receipt.skipped = false ∧
    ∃ config, receipt.subscriber.check receipt.delivery = some (key, config)

private theorem accounted_fresh : Fleet.fresh.Accounted := by
  intro key held
  simp [Fleet.fresh] at held

theorem Fleet.Accounted.receive {fleet : Fleet} (accounted : fleet.Accounted) (arrival : Arrival) :
    (fleet.receive arrival).Accounted := by
  unfold Fleet.receive
  split
  case isTrue => exact accounted
  case isFalse =>
    intro other held
    -- What was held before is accounted for by a receipt that is still there.
    have before (kept : (fleet.redis.get? other).isSome) :
        ∃ receipt ∈ fleet.log ++ [⟨arrival.subscriber, arrival.delivery,
          (fleet.consult arrival).2⟩], receipt.skipped = false ∧
          ∃ config, receipt.subscriber.check receipt.delivery = some (other, config) := by
      obtain ⟨receipt, member, found⟩ := accounted other kept
      exact ⟨receipt, List.mem_append_left _ member, found⟩
    simp only [Fleet.consult] at held before ⊢
    cases checked : arrival.subscriber.check arrival.delivery with
    | none =>
      simp only [checked] at held before ⊢
      -- Without a check, no key is stored.
      exact before held
    | some found =>
      obtain ⟨key, config⟩ := found
      simp only [checked] at held before ⊢
      rcases checkIdempotency_get? held with kept | ⟨rfl, passed⟩
      · exact before kept
      · -- The key was stored for the arrival, which was let through.
        exact ⟨_, List.mem_append_right _ (List.mem_singleton_self _), passed, config, checked⟩

theorem isolated_iff_unshared {fleet : Fleet} (accounted : fleet.Accounted)
    (arrival : Arrival) : Isolated fleet arrival ↔ Unshared fleet arrival := by
  rw [unshared_iff_apart]
  refine ⟨Isolated.apart, fun apart => ⟨fun skipped => ?_, apart⟩⟩
  unfold Fleet.consult at skipped
  cases checked : arrival.subscriber.check arrival.delivery with
  -- A service without a check skips nothing.
  | none => simp [checked] at skipped
  | some found =>
    obtain ⟨key, config⟩ := found
    simp only [checked, checkIdempotency_duplicate, Bool.and_eq_true] at skipped
    have held : (fleet.redis.get? key).isSome := by
      unfold RedisStore.holds at skipped
      cases present : fleet.redis.get? key with
      | none => simp [present] at skipped
      | some expiry => rfl
    -- The key was stored for a delivery that the key identifies.
    obtain ⟨receipt, member, passed, stored, earlier⟩ := accounted key held
    exact ⟨receipt, member, passed, apart receipt member key stored config earlier checked⟩

/--
The services are isolated exactly along the runs in which no two deliveries share their fields
unless they are of the same dispatch and service.
-/
theorem isolated_runs_iff (arrivals : List Arrival) :
    Along Fleet.receive Isolated .fresh arrivals ↔
      Along Fleet.receive Unshared .fresh arrivals :=
  along_congr Fleet.Accounted (fun _ arrival accounted _ => accounted.receive arrival)
    (fun _ arrival accounted => isolated_iff_unshared accounted arrival) accounted_fresh arrivals

def ingressDelivery : Delivery where
  subscription := { destination := "internal.ingress.v1", idempotency := some { enabled := true } }
  headers := .empty
  seq := some 1
  info := none
  payload := some (.obj [("correlationId", .str "c-1"), ("type", .str "chat.message.v1")])

def ingressArrival (serviceName : String) : Arrival where
  subscriber := { serviceName, service := { hasRedis := true } }
  delivery := ingressDelivery
  now := 0
  health := .ready

/-- The second of two services skips a message that only the first has received. -/
theorem otherService_skips :
    ¬ ∀ arrivals, Along Fleet.receive Isolated .fresh arrivals := by
  intro isolated
  obtain ⟨-, second, -⟩ := isolated [ingressArrival "auth", ingressArrival "persistence"]
  obtain ⟨receipt, member, -, same⟩ := second.justified (by decide +kernel)
  -- The persistence service skips what only the auth service has handled.
  have first : receipt.subscriber.serviceName = "auth" := by
    rw [List.mem_singleton.mp (member : receipt ∈ [_])]
    rfl
  exact absurd (first.symm.trans same.service) (by decide)

end BitBrat
