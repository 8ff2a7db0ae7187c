import BitBrat.Ingress.ChatConnector
import BitBrat.Machine.Run

/-! Each message of a user is published once: what that takes, in every run of a connector. -/

namespace BitBrat

open Js Machine

def duplicateWindowMs : Int := 60000

namespace ChatConnector

variable {ε μ : Type} (connector : ChatConnector ε μ)

structure DeliveryLaw (state : ConnectorState) (input : ConnectorInput ε) : Prop where
  /-- A message that is delivered has been published then, or is about to be. -/
  handled : ∀ message, input = .deliver message → connector.passes message = true →
    ∀ key ∈ connector.identity message,
      1 ≤ (connector.step state input).log.live (some key)
  /-- While its duplicates may arrive, it is so once only. -/
  once : ∀ message, input = .deliver message → connector.passes message = true →
    ∀ key ∈ connector.identity message,
      (∀ first ∈ (connector.step state input).log.firstArrival (some key),
        state.now ≤ first + duplicateWindowMs) →
      (connector.step state input).log.live (some key) ≤ 1
  /-- A message whose duplicates have arrived in time is published exactly once when all attempts at
  it have ended well. -/
  exactly : ∀ key : MessageKey,
    ((connector.step state input).log.firstArrival (some key)).isSome = true →
    (connector.step state input).log.Within duplicateWindowMs (some key) →
    (connector.step state input).log.count (some key) .pending = 0 →
    (connector.step state input).log.count (some key) .failed = 0 →
      (connector.step state input).log.count (some key) .done = 1

/-- A message meets a client that would publish it while no attempt at it lives, and one that would
not while one does and its duplicates may arrive. -/
def DeliveryInPlace (state : ConnectorState) : ConnectorInput ε → Prop
  | .deliver message => connector.passes message = true → ∀ key ∈ connector.identity message,
      (state.log.live (some key) = 0 → state.listening = true ∧ key.2 ∉ state.processed) ∧
      (state.log.live (some key) ≠ 0 →
        (∀ first ∈ state.log.firstArrival (some key), state.now ≤ first + duplicateWindowMs) →
        ¬ (state.listening = true ∧ key.2 ∉ state.processed))
  | _ => True

instance (state : ConnectorState) (input : ConnectorInput ε) :
    Decidable (connector.DeliveryInPlace state input) :=
  match input with
  | .deliver message => inferInstanceAs (Decidable (connector.passes message = true →
      ∀ key ∈ connector.identity message,
        (state.log.live (some key) = 0 → state.listening = true ∧ key.2 ∉ state.processed) ∧
        (state.log.live (some key) ≠ 0 →
          (∀ first ∈ state.log.firstArrival (some key), state.now ≤ first + duplicateWindowMs) →
          ¬ (state.listening = true ∧ key.2 ∉ state.processed))))
  | .wait _ => inferInstanceAs (Decidable True)
  | .settle _ _ => inferInstanceAs (Decidable True)
  | .tick => inferInstanceAs (Decidable True)
  | .pollToken _ => inferInstanceAs (Decidable True)

structure DeliveryHolds (state : ConnectorState) : Prop where
  past : ∀ arrival ∈ state.log.arrivals, arrival.2 ≤ state.now
  /-- A message whose duplicates arrive in time is not published twice. -/
  single : ∀ key : MessageKey, state.log.Within duplicateWindowMs (some key) →
    state.log.live (some key) ≤ 1
  /-- A message that has arrived is published, or about to be, if no attempt at it has failed. -/
  present : ∀ key : MessageKey, (state.log.firstArrival (some key)).isSome = true →
    state.log.count (some key) .failed = 0 → 1 ≤ state.log.live (some key)

variable {connector} {state : ConnectorState}

theorem log_deliver {message : ε} {key : MessageKey}
    (passes : connector.passes message = true) (named : connector.identity message = some key) :
    (connector.deliver state message).log =
      if state.listening = true ∧ key.2 ∉ state.processed then
        (state.log.arrive (some key) state.now).attempt (some key)
      else state.log.arrive (some key) state.now := by
  unfold deliver arrive
  rw [if_pos passes, named]
  by_cases listening : state.listening = true
  · rw [if_pos listening]
    by_cases known : key.2 ∈ state.processed
    · rw [connector.handle_known _ _ _ passes named known, if_neg (by simp [known])]
    · obtain ⟨request, handled⟩ := connector.handle_new _ _ _ passes named known
      rw [handled, if_pos ⟨listening, known⟩]
  · rw [if_neg listening, if_neg (by simp [listening])]

theorem log_deliver_stopped {message : ε} (stopped : connector.passes message = false) :
    (connector.deliver state message).log = state.log := by
  have arrived : connector.arrive state message = state := if_neg (by simp [stopped])
  unfold deliver
  rw [arrived]
  split
  · have unpublished := connector.handle_stopped state.processed message
    dsimp only
    split
    · rename_i request same
      exact absurd same (unpublished request stopped)
    · rfl
  · rfl

theorem log_deliver_or {message : ε} (passes : connector.passes message = true) :
    (connector.deliver state message).log =
        state.log.arrive (connector.identity message) state.now ∨
      (connector.deliver state message).log =
        (state.log.arrive (connector.identity message) state.now).attempt
          (connector.identity message) := by
  unfold deliver arrive
  rw [if_pos passes]
  split
  · dsimp only
    split
    · exact .inr rfl
    · exact .inl rfl
  · exact .inl rfl

theorem now_deliver (message : ε) : (connector.deliver state message).now = state.now := by
  have arrived : (connector.arrive state message).now = state.now := by
    unfold arrive
    split <;> rfl
  unfold deliver
  split
  · dsimp only
    split <;> exact arrived
  · exact arrived

theorem log_settle (index : Nat) (success : Bool) :
    ∃ ended, ended ≠ AttemptStatus.pending ∧
      ((settle state index success).log = state.log.settle index ended ∨
        (settle state index success).log = state.log) ∧
      (settle state index success).now = state.now := by
  unfold settle
  split
  · split
    · exact ⟨.done, by decide, .inl rfl, rfl⟩
    · exact ⟨.failed, by decide, .inl rfl, rfl⟩
  · exact ⟨.done, by decide, .inr rfl, rfl⟩

namespace DeliveryHolds

theorem of_log (holds : DeliveryHolds state) {after : ConnectorState}
    (log : after.log = state.log) (later : state.now ≤ after.now) : DeliveryHolds after where
  past := by
    rw [log]
    exact fun arrival member => (holds.past arrival member).trans later
  single := by
    rw [log]
    exact holds.single
  present := by
    rw [log]
    exact holds.present

theorem settled (holds : DeliveryHolds state) {after : ConnectorState} {index : Nat}
    {ended : AttemptStatus} (settled : ended ≠ .pending)
    (log : after.log = state.log.settle index ended) (now : after.now = state.now) :
    DeliveryHolds after where
  past := by
    rw [log, now, DeliveryLog.arrivals_settle]
    exact holds.past
  single := by
    intro key within
    rw [log] at within ⊢
    have before : state.log.Within duplicateWindowMs (some key) := by
      intro first found arrival member
      unfold DeliveryLog.Within DeliveryLog.firstArrival at within
      rw [DeliveryLog.arrivals_settle] at within
      exact within first found arrival member
    exact (state.log.live_settle_le index settled (some key)).trans (holds.single key before)
  present := by
    intro key arrived none
    rw [log] at arrived none ⊢
    have before : (state.log.firstArrival (some key)).isSome = true := by
      unfold DeliveryLog.firstArrival at arrived ⊢
      rwa [DeliveryLog.arrivals_settle] at arrived
    have unfailed := state.log.count_failed_settle_le index ended (some key)
    rw [state.log.live_settle_of_not_failed index settled none]
    exact holds.present key before (by omega)

theorem within_of_now (holds : DeliveryHolds state) {key : Option MessageKey}
    (inTime : ∀ first ∈ state.log.firstArrival key, state.now ≤ first + duplicateWindowMs) :
    state.log.Within duplicateWindowMs key :=
  fun first found arrival member _ => (holds.past arrival member).trans (inTime first found)

theorem now_of_within {key : Option MessageKey}
    (within : (state.log.arrive key state.now).Within duplicateWindowMs key) :
    ∀ first ∈ state.log.firstArrival key, state.now ≤ first + duplicateWindowMs := by
  intro first found
  refine within first ?_ (key, state.now) ?_ rfl
  · rw [DeliveryLog.firstArrival_arrive, Option.mem_def.mp found]
    rfl
  · exact List.mem_append_right _ (List.mem_singleton_self _)

theorem live_deliver (holds : DeliveryHolds state) {message : ε} {key : MessageKey}
    (passes : connector.passes message = true) (named : connector.identity message = some key)
    (inPlace : connector.DeliveryInPlace state (.deliver message)) :
    1 ≤ (connector.deliver state message).log.live (some key) ∧
      ((∀ first ∈ state.log.firstArrival (some key), state.now ≤ first + duplicateWindowMs) →
        (connector.deliver state message).log.live (some key) ≤ 1) := by
  obtain ⟨fresh, known⟩ := inPlace passes key named
  rw [log_deliver passes named]
  by_cases alive : state.log.live (some key) = 0
  · rw [if_pos (fresh alive), DeliveryLog.live_attempt, DeliveryLog.live_arrive, alive]
    simp
  · constructor
    · split
      · rw [DeliveryLog.live_attempt]
        simp
      · rw [DeliveryLog.live_arrive]
        omega
    · intro inTime
      rw [if_neg (known alive inTime), DeliveryLog.live_arrive]
      exact holds.single key (holds.within_of_now inTime)

theorem deliver (holds : DeliveryHolds state) {message : ε}
    (inPlace : connector.DeliveryInPlace state (.deliver message)) :
    DeliveryHolds (connector.deliver state message) := by
  cases passes : connector.passes message with
  | false => exact holds.of_log (log_deliver_stopped passes) (now_deliver message).ge
  | true =>
    have arrivals : (connector.deliver state message).log.arrivals =
        (state.log.arrive (connector.identity message) state.now).arrivals := by
      rcases log_deliver_or passes with same | same
      · rw [same]
      · rw [same, DeliveryLog.arrivals_attempt]
    have first (key : Option MessageKey) :
        (connector.deliver state message).log.firstArrival key =
          (state.log.arrive (connector.identity message) state.now).firstArrival key := by
      unfold DeliveryLog.firstArrival
      rw [arrivals]
    have within {key : Option MessageKey}
        (after : (connector.deliver state message).log.Within duplicateWindowMs key) :
        (state.log.arrive (connector.identity message) state.now).Within duplicateWindowMs key := by
      intro start found arrival member
      exact after start ((first key).symm ▸ found) arrival (arrivals.symm ▸ member)
    -- The attempts at any other message are as they were.
    have others {key : MessageKey} (other : connector.identity message ≠ some key)
        (status : AttemptStatus) :
        (connector.deliver state message).log.count (some key) status =
          state.log.count (some key) status := by
      rcases log_deliver_or passes with same | same
      · rw [same, DeliveryLog.count_arrive]
      · rw [same, DeliveryLog.count_attempt, DeliveryLog.count_arrive,
          if_neg fun here => other here.1.symm]
        rfl
    constructor
    · intro arrival member
      rw [arrivals] at member
      rw [now_deliver]
      rcases List.mem_append.mp member with before | last
      · exact holds.past arrival before
      · rw [List.mem_singleton.mp last]
    · intro key after
      by_cases here : connector.identity message = some key
      · have inTime := within after
        rw [here] at inTime
        exact (holds.live_deliver passes here inPlace).2 (now_of_within inTime)
      · unfold DeliveryLog.live
        rw [others here, others here]
        exact holds.single key (within after).of_arrive
    · intro key arrived unfailed
      by_cases here : connector.identity message = some key
      · exact (holds.live_deliver passes here inPlace).1
      · rw [first, DeliveryLog.firstArrival_arrive, if_neg here, Option.or_none] at arrived
        rw [others here] at unfailed
        unfold DeliveryLog.live
        rw [others here, others here]
        exact holds.present key arrived unfailed

theorem step (holds : DeliveryHolds state) {input : ConnectorInput ε}
    (inPlace : connector.DeliveryInPlace state input) :
    DeliveryHolds (connector.step state input) := by
  cases input with
  | wait ms => exact holds.of_log rfl (by simp [ChatConnector.step])
  | deliver message => exact holds.deliver inPlace
  | settle index success =>
    obtain ⟨ended, settled, log | log, now⟩ := @log_settle state index success
    · exact holds.settled settled log now
    · exact holds.of_log log now.ge
  | tick => exact holds.of_log rfl le_rfl
  | pollToken stored =>
    have same : (connector.pollToken state stored).log = state.log ∧
        (connector.pollToken state stored).now = state.now := by
      unfold pollToken
      dsimp only
      split <;> exact ⟨rfl, rfl⟩
    exact holds.of_log same.1 same.2.ge

theorem start (token : String) : DeliveryHolds { currentToken := token } where
  past _ member := absurd member List.not_mem_nil
  single _ _ := Nat.zero_le 1
  present _ arrived _ := by cases arrived

end DeliveryHolds

theorem deliveryLaw_iff (holds : DeliveryHolds state) (input : ConnectorInput ε) :
    connector.DeliveryLaw state input ↔ connector.DeliveryInPlace state input := by
  constructor
  · intro law
    cases input with
    | deliver message =>
      intro passes key named
      have named : connector.identity message = some key := named
      have handled := law.handled message rfl passes key named
      have once := law.once message rfl passes key named
      change 1 ≤ (connector.deliver state message).log.live (some key) at handled
      change _ → (connector.deliver state message).log.live (some key) ≤ 1 at once
      constructor
      · intro dead
        by_contra unfit
        rw [log_deliver passes named, if_neg unfit, DeliveryLog.live_arrive, dead] at handled
        omega
      · intro alive inTime fit
        have repeated := once ?_
        · rw [log_deliver passes named, if_pos fit, DeliveryLog.live_attempt,
            DeliveryLog.live_arrive] at repeated
          simp at repeated
          omega
        · intro first found
          change first ∈ (connector.deliver state message).log.firstArrival (some key) at found
          rw [log_deliver passes named, if_pos fit, DeliveryLog.firstArrival_attempt,
            DeliveryLog.firstArrival_arrive] at found
          cases before : state.log.firstArrival (some key) with
          | some earlier =>
            rw [before] at found
            cases Option.mem_def.mp found
            exact inTime _ before
          | none =>
            rw [before] at found
            have now : state.now = first := by simpa using found
            unfold duplicateWindowMs
            omega
    | wait ms => trivial
    | settle index success => trivial
    | tick => trivial
    | pollToken stored => trivial
  · intro inPlace
    have after := holds.step inPlace
    constructor
    · rintro message rfl passes key named
      exact (holds.live_deliver passes named inPlace).1
    · rintro message rfl passes key named inTime
      refine (holds.live_deliver passes named inPlace).2 fun first found => inTime first ?_
      have arrivedFirst : (connector.deliver state message).log.firstArrival (some key) =
          some first := by
        rw [log_deliver passes named]
        split
        · rw [DeliveryLog.firstArrival_attempt, DeliveryLog.firstArrival_arrive,
            Option.mem_def.mp found]
          rfl
        · rw [DeliveryLog.firstArrival_arrive, Option.mem_def.mp found]
          rfl
      exact arrivedFirst
    · intro key arrived within unsettled unfailed
      have single := after.single key within
      have present := after.present key arrived unfailed
      unfold DeliveryLog.live at single present
      omega

theorem along_deliveryLaw_iff (connector : ChatConnector ε μ) (token : String)
    (inputs : List (ConnectorInput ε)) :
    Along connector.step connector.DeliveryLaw { currentToken := token } inputs ↔
      Along connector.step connector.DeliveryInPlace { currentToken := token } inputs :=
  along_congr DeliveryHolds (fun _ _ holds inPlace => holds.step inPlace)
    (fun _ input holds => deliveryLaw_iff holds input) (.start token) inputs

end ChatConnector

/-- Both connectors publish each message of a user once, in every run, just if every delivery is in
place. -/
theorem connectors_deliver_once (slack : SlackIngressClient) (discord : DiscordIngressClient)
    (token : String) :
    (∀ inputs, Along slack.connector.step slack.connector.DeliveryLaw
        { currentToken := token } inputs ↔
      Along slack.connector.step slack.connector.DeliveryInPlace
        { currentToken := token } inputs) ∧
    (∀ inputs, Along discord.connector.step discord.connector.DeliveryLaw
        { currentToken := token } inputs ↔
      Along discord.connector.step discord.connector.DeliveryInPlace
        { currentToken := token } inputs) :=
  ⟨slack.connector.along_deliveryLaw_iff token, discord.connector.along_deliveryLaw_iff token⟩

/-- A client for Slack, and one for Discord that takes its token from the store. -/
def exampleSlack : SlackIngressClient where
  botUserId := "U0BOT"
  debugAuthorizedUsers := []
  egressDestinationTopic := none

def exampleDiscord : DiscordIngressClient where
  guildId := "g-1"
  channels := ["c-1"]
  debugAuthorizedUsers := []
  egressDestinationTopic := none
  disableIngress := false
  useTokenStore := true

def slackMessage (channel ts : String) : ConnectorInput SlackEnvelope :=
  .deliver
    { type := "events_api"
      event := some { type := "message", user := some "U1", channel, text := some "Hi", ts }
      stamp := { uuid := "u-1", nowIso := "2026-01-01T00:00:00.000Z" } }

def discordMessage (id : String) : ConnectorInput DiscordMessage :=
  .deliver
    { id, channelId := "c-1", guild := some { id := "g-1", ownerId := "o-1" }
      content := some "Hi", authorId := "a-1", authorName := "ann"
      stamp := { uuid := "u-1", nowIso := "2026-01-01T00:00:00.000Z" } }

/-- A message is taken for one of another channel, one is not published again after it failed, one
is published twice around a clearing of the cache, and one is not handled after a rotation. -/
theorem not_connectors_deliver_once :
    ¬ Along exampleSlack.connector.step exampleSlack.connector.DeliveryLaw
        { currentToken := "t-1" }
        [slackMessage "C1" "1.5", slackMessage "C2" "1.5"] ∧
    ¬ Along exampleSlack.connector.step exampleSlack.connector.DeliveryLaw
        { currentToken := "t-1" }
        [slackMessage "C1" "1.5", .settle 0 false, slackMessage "C1" "1.5"] ∧
    ¬ Along exampleSlack.connector.step exampleSlack.connector.DeliveryLaw
        { currentToken := "t-1" }
        [.wait 59000, slackMessage "C1" "1.5", .settle 0 true, .wait 1000, .tick, .wait 1000,
          slackMessage "C1" "1.5"] ∧
    ¬ Along exampleDiscord.connector.step exampleDiscord.connector.DeliveryLaw
        { currentToken := "t-1" } [.pollToken (some "t-2"), discordMessage "m-1"] := by
  refine ⟨?_, ?_, ?_, ?_⟩
  all_goals
    rw [ChatConnector.along_deliveryLaw_iff]
    decide +kernel

end BitBrat
