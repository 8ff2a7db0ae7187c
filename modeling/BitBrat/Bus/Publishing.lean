import BitBrat.Bus.Attributes
import BitBrat.Bus.Delivery
import BitBrat.Routing.Next

/-! What the platform publishes, and the keys under which receivers know the messages. -/

namespace BitBrat

open Js

def snapshotAttributes (event : Event) : AttributeMap :=
  (OrderedMap.empty.set "correlationId" event.correlationId).set
    "type" INTERNAL_PERSISTENCE_SNAPSHOT_V1

inductive PlatformPublish where
  | dispatch (server : Server) (event : Event) (step : RoutingStep)
  | egress (server : Server) (event : Event)
  | snapshot (event : Event)
  | ingress (event : Event)

def PlatformPublish.attributes : PlatformPublish → AttributeMap
  | dispatch server event step => buildRoutingAttributes server event (some step)
  | egress server event => buildRoutingAttributes server event none
  | snapshot event => snapshotAttributes event
  | ingress event => busAttrsFromEvent event

def PlatformPublish.stepAttributes : PlatformPublish → List (String × String)
  | dispatch _ _ step => (step.attributes.map (·.entries)).getD []
  | _ => []

def identifyingNames : List String := idempotencyKeyNames ++ correlationIdNames

/-- The slip itself brings along no explicit key and no correlation id, in any spelling. -/
def PlatformPublish.Plain (publish : PlatformPublish) : Prop :=
  ∀ entry ∈ publish.stepAttributes, toLowerCamelCase entry.1 ∈ identifyingNames → entry.2 = ""

/-- A broker: how it carries the values of attributes, and the id it gives to each message. -/
structure Broker where
  headerValue : String → String
  messageId : Nat → String
  headerValue_empty : headerValue "" = ""
  distinct : Function.Injective messageId

/-- The stream driver: values are trimmed, and messages are numbered from one. -/
def jetStream : Broker where
  headerValue := trimText
  messageId position := toString (position + 1)
  headerValue_empty := rfl
  distinct first second same := by
    have numbers := toString_nat_injective same
    omega

def Broker.deliveredKey (broker : Broker) (position : Nat) (publish : PlatformPublish)
    (info : Option DeliveryInfo) : String :=
  let headers := (normalizeAttributes publish.attributes).mapValues broker.headerValue
  buildDedupeKey (withDeliveryInfo headers info) (some (broker.messageId position))

def platformNames : List String :=
  ["correlationId", "type", "source", "traceparent", "replyTo", "idempotencyKey", "traceId",
    "channel"]

private theorem platformNames_not_identifying :
    ∀ name ∈ platformNames, toLowerCamelCase name ∉ identifyingNames := by
  decide +kernel

/-- Every attribute has a platform name, unless the slip brought it along. -/
def FromPlatform (brought : List (String × String)) (attributes : AttributeMap) : Prop :=
  ∀ name value, attributes.get? name = some value →
    name ∈ platformNames ∨ (name, value) ∈ brought

theorem fromPlatform_empty (brought : List (String × String)) :
    FromPlatform brought OrderedMap.empty := by
  intro name value found
  cases found

variable {brought : List (String × String)} {name : String}

theorem FromPlatform.set {attributes : AttributeMap} (accounted : FromPlatform brought attributes)
    (platform : name ∈ platformNames) (text : String) :
    FromPlatform brought (attributes.set name text) := by
  intro written value found
  rw [OrderedMap.get?_set] at found
  -- The written name is one of the platform, and the others read as before.
  split at found
  · rename_i here
    exact .inl (here ▸ platform)
  · exact accounted written value found

private theorem FromPlatform.reserve {attributes : AttributeMap}
    (accounted : FromPlatform brought attributes) (server : Server) (event : Event) :
    FromPlatform brought (reserveAttributes server event attributes) :=
  ((accounted.set (by decide) _).set (by decide) _).set (by decide) _

private theorem FromPlatform.bring {attributes : AttributeMap}
    (accounted : FromPlatform brought attributes) : FromPlatform brought
      (brought.foldl (fun built entry => built.set entry.1 entry.2) attributes) := by
  intro name value found
  -- What is read was there before, or is one of the brought entries.
  rcases get?_foldl_set id found with before | ⟨entry, member, named, same⟩
  · exact accounted name value before
  · right
    simpa [← named, ← same] using member

/-- Writing a text under a platform name, when it is there, keeps the attributes accounted for. -/
theorem FromPlatform.write {attributes : AttributeMap}
    (accounted : FromPlatform brought attributes) (platform : name ∈ platformNames)
    (text : Option String) :
    FromPlatform brought (busAttrsFromEvent.write attributes name text) := by
  unfold busAttrsFromEvent.write
  split
  · exact accounted.set platform _
  · exact accounted

theorem fromPlatform_routing (server : Server) (event : Event) (step : Option RoutingStep) :
    FromPlatform (((step.bind (·.attributes)).map (·.entries)).getD [])
      (buildRoutingAttributes server event step) := by
  -- What is written before the step's own attributes has platform names.
  have base (brought : List (String × String)) :=
    (fromPlatform_empty brought).reserve server event
  unfold buildRoutingAttributes
  cases event.traceId.bind nonEmpty <;> cases event.replyTo.truthy <;>
    cases step.bind (·.attributes)
  all_goals simp only [Bool.false_eq_true, ↓reduceIte, Option.map_none, Option.map_some,
    Option.getD_none, Option.getD_some]
  · exact base _
  · exact (base _).bring.reserve server event
  · exact (base _).set (by decide) _
  · exact ((base _).set (by decide) _).bring.reserve server event
  · exact (base _).set (by decide) _
  · exact ((base _).set (by decide) _).bring.reserve server event
  · exact ((base _).set (by decide) _).set (by decide) _
  · exact (((base _).set (by decide) _).set (by decide) _).bring.reserve server event

theorem fromPlatform_bus (event : Event) : FromPlatform [] (busAttrsFromEvent event) := by
  have typed := (fromPlatform_empty []).set (show "type" ∈ platformNames by decide) event.type
  unfold busAttrsFromEvent
  refine ((FromPlatform.write ?_ (by decide) _).write (by decide) _).write (by decide) _
  split
  · exact typed
  · exact (typed.set (by decide) _).set (by decide) _

theorem fromPlatform_attributes (publish : PlatformPublish) :
    FromPlatform publish.stepAttributes publish.attributes := by
  cases publish with
  | dispatch server event step => exact fromPlatform_routing server event (some step)
  | egress server event => exact fromPlatform_routing server event none
  | snapshot event =>
    exact ((fromPlatform_empty []).set (by decide) _).set (by decide) _
  | ingress event => exact fromPlatform_bus event

theorem get?_withDeliveryInfo {headers : AttributeMap} {info : Option DeliveryInfo}
    (identifying : name ∈ identifyingNames) :
    (withDeliveryInfo headers info).get? name = headers.get? name := by
  cases info with
  | none => rfl
  | some info =>
    -- The names that the delivery adds identify nothing.
    have apart : ∀ other ∈ identifyingNames, other ≠ "Nats-Msg-Redelivered" ∧
        other ≠ "Nats-Delivery-Count" ∧ other ≠ "Nats-Stream-Sequence" := by decide
    obtain ⟨redelivered, count, sequence⟩ := apart name identifying
    simp only [withDeliveryInfo]
    rw [OrderedMap.get?_set_of_ne _ sequence, OrderedMap.get?_set_of_ne _ count,
      OrderedMap.get?_set_of_ne _ redelivered]

theorem identifying_empty {broker : Broker} {publish : PlatformPublish}
    (plain : publish.Plain) {info : Option DeliveryInfo} {value : String}
    (identifying : name ∈ identifyingNames)
    (found : (withDeliveryInfo ((normalizeAttributes publish.attributes).mapValues
      broker.headerValue) info).get? name = some value) : value = "" := by
  rw [get?_withDeliveryInfo identifying, OrderedMap.get?_mapValues] at found
  obtain ⟨sent, normalized, carried⟩ := Option.map_eq_some_iff.mp found
  obtain ⟨written, spelled, held⟩ := exists_of_get?_normalizeAttributes normalized
  -- A platform name normalizes to something else, so the slip brought this one along.
  rcases fromPlatform_attributes publish written sent held with platform | brought
  · exact absurd (spelled ▸ identifying) (platformNames_not_identifying written platform)
  · have empty : sent = "" := plain (written, sent) brought (spelled ▸ identifying)
    rw [← carried, empty, broker.headerValue_empty]

theorem deliveredKey_of_plain {broker : Broker} {publish : PlatformPublish}
    (plain : publish.Plain) (position : Nat) (info : Option DeliveryInfo) :
    broker.deliveredKey position publish info =
      match nonEmpty (broker.messageId position) with
      | some id => "id:" ++ id
      | none => "" := by
  -- A plain publish carries neither a key nor a correlation of its own.
  have no_key : pick (withDeliveryInfo ((normalizeAttributes publish.attributes).mapValues
      broker.headerValue) info) idempotencyKeyNames = none :=
    pick_eq_none fun name member value found =>
      identifying_empty plain (List.mem_append_left _ member) found
  have no_correlation : pick (withDeliveryInfo ((normalizeAttributes publish.attributes).mapValues
      broker.headerValue) info) correlationIdNames = none :=
    pick_eq_none fun name member value found =>
      identifying_empty plain (List.mem_append_right _ member) found
  cases named : nonEmpty (broker.messageId position) <;>
    simp only [Broker.deliveredKey, buildDedupeKey, no_key, no_correlation, Option.bind_some, named]

theorem deliveredKey_ne (broker : Broker) {first second : PlatformPublish}
    (firstPlain : first.Plain) (secondPlain : second.Plain) {before after : Nat}
    (apart : before ≠ after) (info again : Option DeliveryInfo) :
    broker.deliveredKey after second again ≠ broker.deliveredKey before first info := by
  rw [deliveredKey_of_plain firstPlain, deliveredKey_of_plain secondPlain]
  -- The broker gives every message an identifier of its own.
  have ids : broker.messageId after ≠ broker.messageId before := fun same =>
    apart (broker.distinct same).symm
  unfold nonEmpty
  split_ifs with none_after none_before
  · exact absurd (none_after.trans none_before.symm) ids
  · simp
  · simp
  · simpa using ids

/--
Two messages of the platform whose slip steps bring along no key have different keys.

So the first is never the reason why the second is dropped.
-/
theorem dedupe_keeps_dispatches (broker : Broker) (first second : PlatformPublish)
    (firstPlain : first.Plain) (secondPlain : second.Plain) (before after : Nat)
    (apart : before ≠ after) (info again : Option DeliveryInfo) :
    broker.deliveredKey before first info ≠ broker.deliveredKey after second again ∧
    ∀ (env : DedupeEnv) (store : DedupeStore) (now later : Int),
      store.map.get? (broker.deliveredKey after second again) = none →
      (dedupeShouldDrop env (broker.deliveredKey after second again) later
        (dedupeShouldDrop env (broker.deliveredKey before first info) now store).1).2 = false := by
  have differ := deliveredKey_ne broker firstPlain secondPlain apart info again
  refine ⟨differ.symm, fun env store now later absent => ?_⟩
  apply dedupeShouldDrop_of_absent
  -- The first message can only have added its own key.
  cases found : (dedupeShouldDrop env (broker.deliveredKey before first info) now store).1.map.get?
      (broker.deliveredKey after second again) with
  | none => rfl
  | some seen =>
    rw [get?_of_dedupeShouldDrop differ found] at absent
    cases absent

def stepWith (id topic : String) (attributes : Option AttributeMap) : RoutingStep :=
  { id, status := .pending, nextTopic := some topic, attributes }

def routedEvent : Event := { correlationId := "c-1", type := "chat.message.v1" }

/-- The dispatch of one step and the snapshot that follows it have different keys. -/
theorem dedupe_keeps_dispatch_and_snapshot :
    jetStream.deliveredKey 0
        (.dispatch { serviceName := "event-router" } routedEvent
          (stepWith "llm-bot" "internal.llmbot.v1" none)) none ≠
      jetStream.deliveredKey 1 (.snapshot routedEvent) none ∧
    (dedupeShouldDrop {} (jetStream.deliveredKey 1 (.snapshot routedEvent) none) 1700000001000
      (dedupeShouldDrop {}
        (jetStream.deliveredKey 0
          (.dispatch { serviceName := "event-router" } routedEvent
            (stepWith "llm-bot" "internal.llmbot.v1" none)) none)
        1700000000000 .empty).1).2 = false :=
  have separate := dedupe_keeps_dispatches jetStream
    (.dispatch { serviceName := "event-router" } routedEvent
      (stepWith "llm-bot" "internal.llmbot.v1" none)) (.snapshot routedEvent)
    (fun _ member => absurd member List.not_mem_nil)
    (fun _ member => absurd member List.not_mem_nil) 0 1 (by decide) none none
  ⟨separate.1, separate.2 {} .empty 1700000000000 1700000001000 rfl⟩

/-- Two steps that bring along the same explicit key are taken for one message. -/
theorem explicitKey_shared :
    let keyed : Option AttributeMap := some (OrderedMap.empty.set "idempotency-key" "k")
    let server : Server := { serviceName := "event-router" }
    let first := jetStream.deliveredKey 0
      (.dispatch server routedEvent (stepWith "auth" "internal.auth.v1" keyed)) none
    let second := jetStream.deliveredKey 1
      (.dispatch server routedEvent (stepWith "llm-bot" "internal.llmbot.v1" keyed)) none
    first = second ∧
      (dedupeShouldDrop {} second 1700000001000
        (dedupeShouldDrop {} first 1700000000000 .empty).1).2 = true := by
  decide +kernel

end BitBrat
