import BitBrat.Bus.Dedupe
import BitBrat.Machine.Run

/-! Distributed idempotency: the key of a message, and the atomic check-and-set behind it. -/

namespace BitBrat

open Js

structure IdempotencyConfig where
  topic : String
  correlationId : String
  source : Option String := none
  ttlSeconds : Option Number := none

structure SubscriptionIdempotencyConfig where
  enabled : Bool := false
  ttlSeconds : Option Number := none
  customKeyFn : Option (IdempotencyConfig → String) := none

structure IdempotencyHints where
  ttlSeconds : Option Number := none
  source : Option String := none

def environmentPrefixes : List String := ["local.", "dev.", "staging.", "prod."]

/-- The topic without its environment, with colons for dots. -/
def normalizeTopic (topic : String) : String :=
  let stripped :=
    match environmentPrefixes.find? fun lead => lead.toList.isPrefixOf topic.toList with
    | some lead => topic.toList.drop lead.length
    | none => topic.toList
  String.ofList (stripped.map fun char => if char = '.' then ':' else char)

/-- The default key: topic, correlation id, and the source when there is one. -/
def generateIdempotencyKey (config : IdempotencyConfig) : String :=
  let segments := ["bitbrat", "idempotency", normalizeTopic config.topic, config.correlationId]
  ":".intercalate (segments ++ (config.source.bind nonEmpty).toList)

/-- The hints in a message payload, where they are well formed. -/
def extractIdempotencyHints (data : Value) : IdempotencyHints :=
  let hints := data.get "idempotency"
  { ttlSeconds :=
      match hints.get "ttlSeconds" with
      | .num seconds => if (Number.finite 0).lt seconds then some seconds else none
      | _ => none
    source :=
      match hints.get "source" with
      | .str source => nonEmpty source
      | _ => none }

/-- The configuration after a message's hints and the subscription's options are spread over it. -/
def mergeIdempotencyConfig (hints : IdempotencyHints)
    (subscription : Option SubscriptionIdempotencyConfig) (bitDefaultTtl : Option Number)
    (base : IdempotencyConfig) : IdempotencyConfig :=
  let subscribed := subscription.bind (·.ttlSeconds)
  { base with
    ttlSeconds := some (((hints.ttlSeconds <|> subscribed) <|> bitDefaultTtl).getD (.finite 300))
    -- The source is spread too, so that without a hint it is cleared.
    source := hints.source }

/-- The key in use: the subscription's own derivation, or the default one. -/
def IdempotencyConfig.key (config : IdempotencyConfig)
    (customKeyFn : Option (IdempotencyConfig → String)) : String :=
  match customKeyFn with
  | some derive => derive config
  | none => generateIdempotencyKey config

/-- The keys held by the shared server, each with the time at which it expires. -/
abbrev RedisStore := OrderedMap String Int

inductive RedisHealth where
  | notReady
  | ready
  | failing
  deriving DecidableEq

inductive RedisReply where
  | ok
  | null
  | error
  deriving DecidableEq

def RedisStore.holds (store : RedisStore) (now : Int) (key : String) : Bool :=
  match store.get? key with
  | some expiry => now < expiry
  | none => false

def wholeSeconds (ttlSeconds : Number) : Option Int :=
  match ttlSeconds with
  | .finite seconds =>
    -- The server takes positive whole numbers whose milliseconds fit its own integers.
    if seconds.den = 1 ∧ 0 < seconds.num ∧ seconds.num ≤ 9223372036854775 then some seconds.num
    else none
  | _ => none

def RedisStore.setIfAbsent (store : RedisStore) (now : Int) (key : String) (ttlSeconds : Number) :
    RedisStore × RedisReply :=
  match wholeSeconds ttlSeconds with
  | none => (store, .error)
  | some seconds =>
    if store.holds now key then (store, .null)
    else (store.set key (now + seconds * 1000), .ok)

/-- Check a message, letting it through whenever the server cannot be asked. -/
def checkIdempotency (health : RedisHealth) (now : Int) (key : String)
    (config : IdempotencyConfig) (store : RedisStore) : RedisStore × Bool :=
  match health with
  | .notReady => (store, false)
  | .failing => (store, false)
  | .ready =>
    match store.setIfAbsent now key (config.ttlSeconds.getD (.finite 300)) with
    | (after, .null) => (after, true)
    | (after, _) => (after, false)

def canAnswer (health : RedisHealth) (config : IdempotencyConfig) : Bool :=
  health = .ready ∧ (wholeSeconds (config.ttlSeconds.getD (.finite 300))).isSome

theorem checkIdempotency_duplicate (health : RedisHealth) (now : Int) (key : String)
    (config : IdempotencyConfig) (store : RedisStore) :
    (checkIdempotency health now key config store).2 =
      (canAnswer health config && store.holds now key) := by
  -- A Redis that is not ready, or fails, lets the message through.
  cases health with
  | notReady | failing => simp [checkIdempotency, canAnswer]
  | ready =>
    cases accepted : wholeSeconds (config.ttlSeconds.getD (.finite 300)) with
    | none => simp [checkIdempotency, canAnswer, RedisStore.setIfAbsent, accepted]
    | some seconds =>
      by_cases held : store.holds now key <;>
        simp [checkIdempotency, canAnswer, RedisStore.setIfAbsent, accepted, held]

variable {health : RedisHealth} {now : Int}

theorem checkIdempotency_get? {key other : String} {config : IdempotencyConfig}
    {store : RedisStore}
    (held : ((checkIdempotency health now key config store).1.get? other).isSome) :
    (store.get? other).isSome ∨
      (other = key ∧ (checkIdempotency health now key config store).2 = false) := by
  cases health with
  | notReady | failing => exact .inl held
  | ready =>
    cases accepted : wholeSeconds (config.ttlSeconds.getD (.finite 300)) with
    | none =>
      left
      simpa [checkIdempotency, RedisStore.setIfAbsent, accepted] using held
    | some seconds =>
      -- A key that is there stays, and one that is not is set.
      by_cases present : store.holds now key
      · left
        simpa [checkIdempotency, RedisStore.setIfAbsent, accepted, present] using held
      · simp only [checkIdempotency, RedisStore.setIfAbsent, accepted, present,
          Bool.false_eq_true, ↓reduceIte, OrderedMap.get?_set] at held ⊢
        by_cases same : other = key
        · exact .inr ⟨same, by simp⟩
        · exact .inl (by simpa [same] using held)

/-! Deliveries on their way to a handler, through the driver's dedupe and the idempotency check. -/

structure Service where
  redisIdempotencyEnabled : Bool := false
  redisIdempotencyDefaultTtlSeconds : Option Number := none
  hasRedis : Bool := false

structure Subscription where
  destination : String
  idempotency : Option SubscriptionIdempotencyConfig := none

structure DeliveryInfo where
  redelivered : Bool
  deliveryCount : Nat
  streamSequence : Nat

structure Delivery where
  subscription : Subscription
  headers : AttributeMap
  seq : Option Nat
  info : Option DeliveryInfo
  /-- The payload as it parses, or nothing where parsing throws. -/
  payload : Option Value

/-- The attributes that the handler sees: the headers, and how often the message was delivered. -/
def withDeliveryInfo (headers : AttributeMap) (info : Option DeliveryInfo) : AttributeMap :=
  match info with
  | none => headers
  | some info =>
    let count := if info.deliveryCount = 0 then 1 else info.deliveryCount
    ((headers.set "Nats-Msg-Redelivered" (if info.redelivered then "true" else "false")).set
      "Nats-Delivery-Count" (toString count)).set
      "Nats-Stream-Sequence" (toString info.streamSequence)

def Delivery.dedupeKey (delivery : Delivery) : String :=
  let seq := delivery.seq <|> delivery.info.map (·.streamSequence)
  buildDedupeKey (withDeliveryInfo delivery.headers delivery.info) (seq.map toString)

/-- The idempotency check that the service makes of a delivery, when it makes one. -/
def Delivery.idempotency (service : Service) (delivery : Delivery) :
    Option (String × IdempotencyConfig) :=
  let options := delivery.subscription.idempotency
  let enabled := service.redisIdempotencyEnabled ∨ options.any (·.enabled)
  delivery.payload.bind fun parsed =>
    let correlationId := parsed.get "correlationId"
    -- A message without a correlation is never checked.
    if enabled ∧ service.hasRedis ∧ correlationId.truthy then
      let config := mergeIdempotencyConfig (extractIdempotencyHints parsed) options
        service.redisIdempotencyDefaultTtlSeconds
        { topic := delivery.subscription.destination, correlationId := correlationId.toText }
      some (config.key (options.bind (·.customKeyFn)), config)
    else none

inductive Layer where
  | driver
  | redis
  deriving DecidableEq

def Layer.key (service : Service) (layer : Layer) (delivery : Delivery) : Option String :=
  match layer with
  | driver => nonEmpty delivery.dedupeKey
  | redis => (delivery.idempotency service).map Prod.fst

inductive Fate where
  | running
  | handled
  | failed
  | unreadable
  | dropped (layer : Layer)
  deriving DecidableEq

def Fate.handed : Fate → Bool
  | running | handled | failed => true
  | unreadable | dropped _ => false

inductive HandlerResult where
  | returned
  | nacked
  | threw

def HandlerResult.fate : HandlerResult → Fate
  | returned => .handled
  | nacked => .failed
  | threw => .failed

structure Entry where
  delivery : Delivery
  fate : Fate

/-- One process: its two memories of keys, and its deliveries so far, oldest first. -/
structure Consumer where
  dedupe : DedupeStore
  redis : RedisStore
  log : List Entry

/-- A process that has just started, with an empty shared server. -/
def Consumer.fresh : Consumer := { dedupe := .empty, redis := .empty, log := [] }

/-- What reaches a consumer: another delivery, or the end of a handler that is running. -/
inductive BusEvent where
  | arrive (delivery : Delivery) (now : Int) (health : RedisHealth)
  | finish (index : Nat) (result : HandlerResult)

def Consumer.dedupe? (env : DedupeEnv) (consumer : Consumer) (delivery : Delivery) (now : Int) :
    DedupeStore × Bool :=
  if isDedupeDisabled env then (consumer.dedupe, false)
  else dedupeShouldDrop env delivery.dedupeKey now consumer.dedupe

def Consumer.receive (env : DedupeEnv) (service : Service) (consumer : Consumer)
    (delivery : Delivery) (now : Int) (health : RedisHealth) : Consumer × Fate :=
  let seen := consumer.dedupe? env delivery now
  let consumer := { consumer with dedupe := seen.1 }
  if seen.2 then (consumer, .dropped .driver)
  else if delivery.payload.isNone then (consumer, .unreadable)
  else
    match delivery.idempotency service with
    | none => (consumer, .running)
    | some (key, config) =>
      -- The key is stored before the handler runs, and stays whatever the handler does.
      let checked := checkIdempotency health now key config consumer.redis
      ({ consumer with redis := checked.1 }, if checked.2 then .dropped .redis else .running)

def Entry.finish (result : HandlerResult) (entry : Entry) : Entry :=
  if entry.fate = .running then { entry with fate := result.fate } else entry

def Consumer.step (env : DedupeEnv) (service : Service) (consumer : Consumer) :
    BusEvent → Consumer
  | .arrive delivery now health =>
    let received := consumer.receive env service delivery now health
    { received.1 with log := consumer.log ++ [{ delivery, fate := received.2 }] }
  | .finish index result => { consumer with log := consumer.log.modify index (·.finish result) }

/-- What became of the last delivery under a key that was passed to the handler. -/
def lastHanded (service : Service) (log : List Entry) (layer : Layer) (key : String) :
    Option Fate :=
  let handed := log.filter fun entry =>
    entry.fate.handed ∧ layer.key service entry.delivery = some key
  handed.getLast?.map (·.fate)

/-- No retry of this delivery is lost, and it is only dropped in favour of one that counts. -/
structure NoRetryLost (env : DedupeEnv) (service : Service) (consumer : Consumer)
    (delivery : Delivery) (now : Int) (health : RedisHealth) : Prop where
  /-- After a failure under its key, no layer drops the delivery. -/
  retried : ∀ layer key, layer.key service delivery = some key →
    lastHanded service consumer.log layer key = some .failed →
    (consumer.receive env service delivery now health).2 ≠ .dropped layer
  /-- A layer drops it only if the handler has, or has handled, one with the same key. -/
  justified : ∀ layer, (consumer.receive env service delivery now health).2 = .dropped layer →
    ∃ entry ∈ consumer.log, ∃ key, layer.key service delivery = some key ∧
      layer.key service entry.delivery = some key ∧
      (entry.fate = .handled ∨ entry.fate = .running)

def Consumer.driverHolds (env : DedupeEnv) (consumer : Consumer) (delivery : Delivery)
    (now : Int) : Bool :=
  ¬ isDedupeDisabled env ∧ delivery.dedupeKey ≠ "" ∧
    consumer.dedupe.holds env now delivery.dedupeKey

def Consumer.redisHolds (service : Service) (consumer : Consumer) (delivery : Delivery)
    (now : Int) (health : RedisHealth) : Bool :=
  match delivery.idempotency service with
  | none => false
  | some (key, config) => canAnswer health config ∧ consumer.redis.holds now key

structure MemorySound (env : DedupeEnv) (service : Service) (consumer : Consumer)
    (delivery : Delivery) (now : Int) (health : RedisHealth) : Prop where
  driver : consumer.driverHolds env delivery now →
    ∃ fate, lastHanded service consumer.log .driver delivery.dedupeKey = some fate ∧
      fate ≠ .failed
  redis : ¬ consumer.driverHolds env delivery now →
    consumer.redisHolds service delivery now health →
    ∀ key, Layer.redis.key service delivery = some key →
      lastHanded service consumer.log .redis key ≠ some .failed

/-- A condition on deliveries, as a condition on steps. -/
def OnArrival (holds : Consumer → Delivery → Int → RedisHealth → Prop) (consumer : Consumer) :
    BusEvent → Prop
  | .arrive delivery now health => holds consumer delivery now health
  | .finish _ _ => True

def Consumer.Accounted (service : Service) (consumer : Consumer) : Prop :=
  ∀ key, (consumer.redis.get? key).isSome → ∃ entry ∈ consumer.log,
    entry.fate.handed ∧ Layer.redis.key service entry.delivery = some key

theorem dedupe?_eq_driverHolds (env : DedupeEnv) (consumer : Consumer) (delivery : Delivery)
    (now : Int) :
    (consumer.dedupe? env delivery now).2 = consumer.driverHolds env delivery now := by
  -- The driver is asked only when it is enabled and the delivery has a key.
  by_cases disabled : isDedupeDisabled env
  · simp [Consumer.dedupe?, Consumer.driverHolds, disabled]
  · by_cases identified : delivery.dedupeKey = ""
    · simp [Consumer.dedupe?, Consumer.driverHolds, disabled, identified, dedupeShouldDrop]
    · simp [Consumer.dedupe?, Consumer.driverHolds, disabled, identified,
        dedupeShouldDrop_eq_holds]

theorem receive_fate (env : DedupeEnv) (service : Service) (consumer : Consumer)
    (delivery : Delivery) (now : Int) (health : RedisHealth) :
    (consumer.receive env service delivery now health).2 =
      if consumer.driverHolds env delivery now then .dropped .driver
      else if delivery.payload.isNone then .unreadable
      else if consumer.redisHolds service delivery now health then .dropped .redis
      else .running := by
  -- The driver is asked first, then the payload is parsed, then Redis is asked.
  simp only [Consumer.receive, dedupe?_eq_driverHolds]
  split
  · rfl
  · split
    · rfl
    · cases checked : delivery.idempotency service with
      | none => simp [Consumer.redisHolds, checked]
      | some pair =>
        obtain ⟨key, config⟩ := pair
        simp [Consumer.redisHolds, checked, checkIdempotency_duplicate]

theorem dropped_driver_iff (env : DedupeEnv) (service : Service) (consumer : Consumer)
    (delivery : Delivery) (now : Int) (health : RedisHealth) :
    (consumer.receive env service delivery now health).2 = .dropped .driver ↔
      consumer.driverHolds env delivery now := by
  rw [receive_fate]
  split
  · simp_all
  · split
    · simp_all
    · split <;> simp_all

theorem dropped_redis_iff (env : DedupeEnv) (service : Service) (consumer : Consumer)
    (delivery : Delivery) (now : Int) (health : RedisHealth) :
    (consumer.receive env service delivery now health).2 = .dropped .redis ↔
      ¬ consumer.driverHolds env delivery now ∧
        consumer.redisHolds service delivery now health := by
  -- A payload that does not parse is never checked.
  have readable : consumer.redisHolds service delivery now health →
      delivery.payload.isNone = false := by
    intro held
    cases parsed : delivery.payload with
    | none => simp [Consumer.redisHolds, Delivery.idempotency, parsed] at held
    | some payload => rfl
  rw [receive_fate]
  split
  · simp_all
  · split
    · simp_all
    · split <;> simp_all

variable {service : Service} {delivery : Delivery}

theorem driver_key_iff {key : String} : Layer.driver.key service delivery = some key ↔
      delivery.dedupeKey ≠ "" ∧ delivery.dedupeKey = key := by
  simp only [Layer.key, nonEmpty]
  split <;> simp_all

variable {env : DedupeEnv} {consumer : Consumer}

theorem receive_redis {key : String}
    (held : ((consumer.receive env service delivery now health).1.redis.get? key).isSome) :
    (consumer.redis.get? key).isSome ∨
      ((consumer.receive env service delivery now health).2 = .running ∧
        Layer.redis.key service delivery = some key) := by
  simp only [Consumer.receive] at held ⊢
  by_cases dropped : (consumer.dedupe? env delivery now).2
  · -- The driver drops before Redis is asked.
    rw [if_pos dropped] at held
    exact .inl held
  · rw [if_neg dropped] at held ⊢
    by_cases unreadable : delivery.payload.isNone
    · rw [if_pos unreadable] at held
      exact .inl held
    · rw [if_neg unreadable] at held ⊢
      cases checked : delivery.idempotency service with
      | none =>
        simp only [checked] at held
        exact .inl held
      | some pair =>
        simp only [checked] at held
        -- The check adds its own key alone, and only where the handler runs.
        rcases checkIdempotency_get? held with before | ⟨same, fresh⟩
        · exact .inl before
        · right
          simp [fresh, Layer.key, checked, same]

theorem finish_kept (result : HandlerResult) (entry : Entry) :
    (entry.finish result).delivery = entry.delivery ∧
      (entry.finish result).fate.handed = entry.fate.handed := by
  unfold Entry.finish
  split
  · rename_i running
    cases result <;> simp [HandlerResult.fate, Fate.handed, running]
  · exact ⟨rfl, rfl⟩

theorem accounted_step (accounted : consumer.Accounted service) (event : BusEvent) :
    (consumer.step env service event).Accounted service := by
  intro key held
  cases event with
  | arrive delivery now health =>
    -- A stored key is an older one, or that of the delivery that now runs.
    rcases receive_redis held with before | ⟨running, own⟩
    · obtain ⟨entry, member, known⟩ := accounted key before
      exact ⟨entry, List.mem_append_left _ member, known⟩
    · refine ⟨_, List.mem_append_right _ (List.mem_singleton_self _), ?_, own⟩
      simp only [running, Fate.handed]
  | finish index result =>
    obtain ⟨entry, member, handed, known⟩ := accounted key held
    obtain ⟨position, within, found⟩ := List.getElem_of_mem member
    -- The entry stays at its position, finished or not.
    have inside : position < (consumer.log.modify index (·.finish result)).length := by
      simpa using within
    refine ⟨(consumer.log.modify index (·.finish result))[position], List.getElem_mem inside, ?_⟩
    rw [List.getElem_modify, found]
    split
    · rw [(finish_kept result entry).2, (finish_kept result entry).1]
      exact ⟨handed, known⟩
    · exact ⟨handed, known⟩

variable {log : List Entry} {layer : Layer}

theorem exists_of_lastHanded {key : String} {fate : Fate}
    (last : lastHanded service log layer key = some fate) :
    ∃ entry ∈ log, layer.key service entry.delivery = some key ∧ entry.fate = fate ∧
      fate.handed := by
  obtain ⟨entry, found, same⟩ := Option.map_eq_some_iff.mp last
  have member := List.mem_of_getLast? found
  simp only [List.mem_filter, decide_eq_true_eq] at member
  exact ⟨entry, member.1, member.2.2, same, same ▸ member.2.1⟩

theorem lastHanded_of_mem {key : String} {entry : Entry} (member : entry ∈ log)
    (handed : entry.fate.handed) (known : layer.key service entry.delivery = some key) :
    ∃ fate, lastHanded service log layer key = some fate := by
  simp only [lastHanded]
  -- The filtered list contains the entry, so it has a last element.
  cases last : (log.filter fun entry =>
      entry.fate.handed ∧ layer.key service entry.delivery = some key).getLast? with
  | none =>
    have kept : entry ∈ log.filter fun entry =>
        entry.fate.handed ∧ layer.key service entry.delivery = some key := by
      simp [member, handed, known]
    rw [List.getLast?_eq_none_iff.mp last] at kept
    cases kept
  | some found => exact ⟨found.fate, rfl⟩

theorem exists_of_redisHolds (accounted : consumer.Accounted service)
    (held : consumer.redisHolds service delivery now health) :
    ∃ key fate, Layer.redis.key service delivery = some key ∧
      lastHanded service consumer.log .redis key = some fate := by
  unfold Consumer.redisHolds at held
  cases checked : delivery.idempotency service with
  | none => simp [checked] at held
  | some pair =>
    obtain ⟨key, config⟩ := pair
    simp only [checked, decide_eq_true_eq] at held
    -- A key that holds is stored, and every stored key was handed on.
    have stored : (consumer.redis.get? key).isSome := by
      have fresh := held.2
      unfold RedisStore.holds at fresh
      cases found : consumer.redis.get? key with
      | none => simp [found] at fresh
      | some expiry => rfl
    obtain ⟨entry, member, handed, known⟩ := accounted key stored
    obtain ⟨fate, last⟩ := lastHanded_of_mem member handed known
    exact ⟨key, fate, by simp [Layer.key, checked], last⟩

theorem counts_of_lastHanded {key : String} {fate : Fate}
    (own : layer.key service delivery = some key)
    (last : lastHanded service log layer key = some fate) (alive : fate ≠ .failed) :
    ∃ entry ∈ log, ∃ key, layer.key service delivery = some key ∧
      layer.key service entry.delivery = some key ∧
      (entry.fate = .handled ∨ entry.fate = .running) := by
  obtain ⟨entry, member, known, same, handed⟩ := exists_of_lastHanded last
  refine ⟨entry, member, key, own, known, ?_⟩
  rw [same]
  -- Only a handler that failed does not count.
  cases fate with
  | handled => exact .inl rfl
  | running => exact .inr rfl
  | failed => exact absurd rfl alive
  | unreadable | dropped => cases handed

theorem noRetryLost_iff (accounted : consumer.Accounted service) (delivery : Delivery)
    (now : Int) (health : RedisHealth) : NoRetryLost env service consumer delivery now health ↔
      MemorySound env service consumer delivery now health := by
  have driver := dropped_driver_iff env service consumer delivery now health
  have redis := dropped_redis_iff env service consumer delivery now health
  constructor
  · intro safe
    constructor
    · intro held
      -- The driver drops the delivery, so an earlier one under its key counts.
      obtain ⟨entry, member, key, own, known, counts⟩ := safe.justified .driver (driver.mpr held)
      have handed : entry.fate.handed := by
        rcases counts with handled | running
        · rw [handled]; rfl
        · rw [running]; rfl
      obtain ⟨last, found⟩ := lastHanded_of_mem member handed known
      rw [(driver_key_iff.mp own).2]
      refine ⟨last, found, ?_⟩
      rintro rfl
      exact safe.retried .driver key own found (driver.mpr held)
    · -- After a failure, Redis must let the delivery through.
      intro passed held key own failed
      exact safe.retried .redis key own failed (redis.mpr ⟨passed, held⟩)
  · intro sound
    constructor
    · -- A layer that drops after a failure would be unsound.
      intro layer key own failed dropped
      cases layer with
      | driver =>
        obtain ⟨last, found, alive⟩ := sound.driver (driver.mp dropped)
        rw [(driver_key_iff.mp own).2, failed] at found
        exact alive (Option.some.inj found).symm
      | redis =>
        obtain ⟨passed, held⟩ := redis.mp dropped
        exact sound.redis passed held key own failed
    · intro layer dropped
      cases layer with
      | driver =>
        obtain ⟨last, found, alive⟩ := sound.driver (driver.mp dropped)
        have identified : delivery.dedupeKey ≠ "" := by
          have held := driver.mp dropped
          simp only [Consumer.driverHolds, decide_eq_true_eq] at held
          exact held.2.1
        exact counts_of_lastHanded (driver_key_iff.mpr ⟨identified, rfl⟩) found alive
      | redis =>
        obtain ⟨passed, held⟩ := redis.mp dropped
        obtain ⟨key, last, own, found⟩ := exists_of_redisHolds accounted held
        refine counts_of_lastHanded own found ?_
        rintro rfl
        exact sound.redis passed held key own found

/-- Along any run, no retry is lost exactly when every delivery meets a sound memory. -/
theorem noRetryLost_iff_memorySound (env : DedupeEnv) (service : Service)
    (events : List BusEvent) :
    Machine.Along (Consumer.step env service) (OnArrival (NoRetryLost env service))
        Consumer.fresh events ↔
      Machine.Along (Consumer.step env service) (OnArrival (MemorySound env service))
        Consumer.fresh events := by
  refine Machine.along_congr (Consumer.Accounted service) ?_ ?_ ?_ events
  · intro consumer event accounted _
    exact accounted_step accounted event
  · intro consumer event accounted
    cases event with
    | arrive delivery now health => exact noRetryLost_iff accounted delivery now health
    | finish index result => exact Iff.rfl
  · -- A fresh process holds no keys.
    intro key held
    cases held

def chatDelivery (redelivered : Bool) : Delivery :=
  { subscription := { destination := "internal.llmbot.v1" }
    headers := .empty
    seq := some 4
    info := some
      { redelivered, deliveryCount := if redelivered then 2 else 1, streamSequence := 4 }
    payload := some (.obj [("correlationId", .str "c-1")]) }

/-- Its handler asks for redelivery, and the redelivery a second later is dropped. -/
theorem chatDelivery_lost :
    ¬ Machine.Along (Consumer.step {} {}) (OnArrival (NoRetryLost {} {})) Consumer.fresh
      [.arrive (chatDelivery false) 1700000000000 .ready, .finish 0 .nacked,
       .arrive (chatDelivery true) 1700000001000 .ready] := by
  intro safe
  have last := safe.2.2.1.retried .driver "id:4" (by decide +kernel) (by decide +kernel)
  exact last (by decide +kernel)

end BitBrat
