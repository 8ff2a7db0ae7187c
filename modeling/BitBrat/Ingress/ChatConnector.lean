import BitBrat.Ingress.ChatClients
import BitBrat.Machine.DeliveryLog

/-! A chat connector over time: deliveries, publications that end, cache clearings, and tokens. -/

namespace BitBrat

open Js Machine

/-- The channel of a message, and its identifier or timestamp in it. -/
abbrev MessageKey := Option String × String

/-- A client of a chat platform, as far as its messages are concerned. -/
structure ChatConnector (ε μ : Type) where
  /-- What is done with a message, given the identifiers that count as processed. -/
  handle : List String → ε → List String × Handling μ
  /-- A message is one of a user, and passes the filters. -/
  passes : ε → Bool
  identity : ε → Option MessageKey
  receives : Handling μ → Bool
  usesTokenStore : Bool
  /-- A message that is not known is marked and published. -/
  handle_new : ∀ processed message key, passes message = true → identity message = some key →
    key.2 ∉ processed →
      ∃ request, handle processed message = (addProcessed processed key.2, .publish request)
  handle_known : ∀ processed message key, passes message = true → identity message = some key →
    key.2 ∈ processed → handle processed message = (processed, .deduplicated)
  handle_stopped : ∀ processed message request, passes message = false →
    (handle processed message).2 ≠ .publish request

structure ConnectorCounters where
  received : Nat := 0
  published : Nat := 0
  filtered : Nat := 0
  failed : Nat := 0
  deduplicated : Nat := 0

structure ConnectorState where
  now : Int := 0
  listening : Bool := true
  currentToken : String
  processed : List String := []
  counters : ConnectorCounters := {}
  log : DeliveryLog (Option MessageKey) := {}

inductive ConnectorInput (ε : Type) where
  | wait (ms : Nat)
  | deliver (message : ε)
  | settle (index : Nat) (success : Bool)
  | tick
  | pollToken (stored : Option String)

namespace ChatConnector

variable {ε μ : Type} (connector : ChatConnector ε μ)

def countHandling (counters : ConnectorCounters) (handling : Handling μ) : ConnectorCounters :=
  let counted :=
    if connector.receives handling then { counters with received := counters.received + 1 }
    else counters
  match handling with
  | .filtered => { counted with filtered := counted.filtered + 1 }
  | .deduplicated => { counted with deduplicated := counted.deduplicated + 1 }
  | _ => counted

/-- A message arrives, whether or not anything listens. -/
def arrive (state : ConnectorState) (message : ε) : ConnectorState :=
  if connector.passes message then
    { state with log := state.log.arrive (connector.identity message) state.now }
  else state

def deliver (state : ConnectorState) (message : ε) : ConnectorState :=
  let arrived := connector.arrive state message
  if state.listening then
    let (processed, handling) := connector.handle state.processed message
    let handled := { arrived with
      processed := processed
      counters := connector.countHandling state.counters handling }
    match handling with
    | .publish _ => { handled with log := handled.log.attempt (connector.identity message) }
    | _ => handled
  else arrived

def settle (state : ConnectorState) (index : Nat) (success : Bool) : ConnectorState :=
  let counters := state.counters
  if state.log.attempts[index]?.any (·.2 = .pending) then
    if success then
      { state with
        counters := { counters with published := counters.published + 1 }
        log := state.log.settle index .done }
    else
      { state with
        counters := { counters with failed := counters.failed + 1 }
        log := state.log.settle index .failed }
  else state

def reconnect (state : ConnectorState) (newToken : String) : ConnectorState :=
  -- No handler is registered on the new client.
  { state with listening := false, currentToken := newToken }

/-- The token that is stored is taken, if it is another one. -/
def pollToken (state : ConnectorState) (stored : Option String) : ConnectorState :=
  let next := String.ofList (trimBlanks (stored.getD "").toList)
  if connector.usesTokenStore && next ≠ "" && state.currentToken ≠ "" &&
      next ≠ state.currentToken then
    reconnect state next
  else state

def step (state : ConnectorState) : ConnectorInput ε → ConnectorState
  | .wait ms => { state with now := state.now + ms }
  | .deliver message => connector.deliver state message
  | .settle index success => settle state index success
  | .tick => { state with processed := [] }
  | .pollToken stored => connector.pollToken state stored

end ChatConnector

def SlackIngressClient.identity (envelope : SlackEnvelope) : Option MessageKey :=
  envelope.event.bind fun event => (messageTs event).map fun ts => (event.channel, ts)

def SlackIngressClient.passes (client : SlackIngressClient) (envelope : SlackEnvelope) : Bool :=
  envelope.type = "events_api" && envelope.event.any fun event => !client.isBotMessage event

def SlackIngressClient.connector (client : SlackIngressClient) :
    ChatConnector SlackEnvelope SlackEventMeta where
  handle := client.onSlackEvent
  passes := client.passes
  identity := SlackIngressClient.identity
  receives handling := match handling with
    | .ignored => false
    | _ => true
  usesTokenStore := false
  handle_new := by
    rintro processed ⟨type, event, teamId, stamp⟩ ⟨channel, ts⟩ passes named fresh
    cases event with
    | none => cases named
    | some event =>
      obtain ⟨known, stamped, same⟩ := Option.map_eq_some_iff.mp named
      cases same
      simp only [SlackIngressClient.passes, Bool.and_eq_true, decide_eq_true_eq, Option.any_some,
        Bool.not_eq_true'] at passes
      refine ⟨client.envelopeRequest event teamId stamp, ?_⟩
      simp [onSlackEvent, handleMessage, passes.1, passes.2, stamped, fresh]
  handle_known := by
    rintro processed ⟨type, event, teamId, stamp⟩ ⟨channel, ts⟩ passes named known
    cases event with
    | none => cases named
    | some event =>
      obtain ⟨known, stamped, same⟩ := Option.map_eq_some_iff.mp named
      cases same
      simp only [SlackIngressClient.passes, Bool.and_eq_true, decide_eq_true_eq, Option.any_some,
        Bool.not_eq_true'] at passes
      simp_all [onSlackEvent, handleMessage]
  handle_stopped := by
    rintro processed ⟨type, event, teamId, stamp⟩ request stopped
    cases event with
    | none => simp [onSlackEvent]
    | some event =>
      by_cases events : type = "events_api"
      · have bot : client.isBotMessage event = true := by
          simpa [SlackIngressClient.passes, events] using stopped
        simp [onSlackEvent, handleMessage, events, bot]
      · simp [onSlackEvent, events]

def DiscordIngressClient.identity (message : DiscordMessage) : Option MessageKey :=
  (nonEmpty message.id).map fun id => (some message.channelId, id)

def DiscordIngressClient.passes (client : DiscordIngressClient) (message : DiscordMessage) : Bool :=
  !client.disableIngress && client.accepts message && (client.envelopeRequest message).isSome

def DiscordIngressClient.connector (client : DiscordIngressClient) :
    ChatConnector DiscordMessage DiscordMessageMeta where
  handle := client.onMessageCreate
  passes := client.passes
  identity := DiscordIngressClient.identity
  receives handling := match handling with
    | .publish _ => true
    | _ => false
  usesTokenStore := client.useTokenStore
  handle_new := by
    rintro processed message key passes named fresh
    obtain ⟨id, present, same⟩ := Option.map_eq_some_iff.mp named
    cases same
    simp only [DiscordIngressClient.passes, Bool.and_eq_true, Bool.not_eq_true'] at passes
    obtain ⟨⟨enabled, accepted⟩, built⟩ := passes
    obtain ⟨request, asked⟩ := Option.isSome_iff_exists.mp built
    exact ⟨request, by simp_all [onMessageCreate, handleNew]⟩
  handle_known := by
    rintro processed message key passes named known
    obtain ⟨id, present, same⟩ := Option.map_eq_some_iff.mp named
    cases same
    simp only [DiscordIngressClient.passes, Bool.and_eq_true, Bool.not_eq_true'] at passes
    obtain ⟨⟨enabled, accepted⟩, -⟩ := passes
    simp_all [onMessageCreate]
  handle_stopped := by
    intro processed message request stopped
    simp only [DiscordIngressClient.passes, Bool.and_eq_false_iff, Bool.not_eq_false'] at stopped
    have rejected (absent : (client.envelopeRequest message).isSome = false) :
        client.handleNew message = .rejected := by
      simp_all [handleNew]
    unfold onMessageCreate
    split
    · simp
    · split
      · simp
      · rename_i enabled accepted
        have absent : (client.envelopeRequest message).isSome = false := by
          simp_all
        rw [rejected absent]
        split
        · split <;> simp
        · simp

end BitBrat
