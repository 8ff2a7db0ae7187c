import Mathlib.Data.List.Chain
import BitBrat.Machine.Run
import BitBrat.Feedback.FeedbackMiddleware

/-! The law of progress feedback over whole call histories, and the calls that break it. -/

namespace BitBrat

open Js Machine

/-- What the messages of one operation keep to, in the order in which they are sent. -/
structure FeedbackLaw (updateIntervalMs : Number) (messages : List FeedbackMessage) : Prop where
  timeoutOnce : (messages.filter (·.stage = .timeout)).length ≤ 1
  silentAfter : messages.Pairwise fun earlier _ => earlier.stage ≠ .timeout
  spaced : (messages.filter (·.stage ≠ .timeout)).IsChain fun earlier later =>
    atLeast (.finite (later.sentAt - earlier.sentAt : Int)) updateIntervalMs
  acknowledgedOnce : (messages.filter (·.stage = .initial)).length ≤ 1
  acknowledgedFirst : ∀ before message after, messages = before ++ message :: after →
    message.stage = .update → ∃ acknowledgement ∈ before, acknowledgement.stage = .initial

def FeedbackMiddleware.messages (middleware : FeedbackMiddleware) (correlationId : String) :
    List FeedbackMessage :=
  middleware.sent.filter (·.correlationId = correlationId)

def FeedbackMiddleware.Lawful (config : FeedbackMiddlewareConfig)
    (middleware : FeedbackMiddleware) : Prop :=
  ∀ correlationId, FeedbackLaw config.updateIntervalMs (middleware.messages correlationId)

def FeedbackCall.decidedAt (call : FeedbackCall) (clock : Int) : Int :=
  clock + call.untilTracked + call.untilElapsed + call.untilDecided

/-- A call that is watched does not come a whole interval after a timeout message. -/
def Calm (env : FeedbackEnv) (config : FeedbackMiddlewareConfig)
    (middleware : FeedbackMiddleware) (call : FeedbackCall) : Prop :=
  config.enabled = true → (extractOperationContext env call.event).isSome →
    ∀ state lastProgressAt,
      middleware.operationTracking.get? call.event.correlationId = some state →
      state.stage = .timeout → state.lastProgressAt = some lastProgressAt →
        atLeast (.finite (call.decidedAt middleware.clock - lastProgressAt : Int))
          config.updateIntervalMs = false

def Tracks (clock : Int) (messages : List FeedbackMessage) : Option OperationState → Prop
  | none => messages = []
  | some state =>
    match state.lastProgressAt with
    | none => state.stage = .initial ∧ messages = []
    | some lastProgressAt =>
      -- The record is of the last message, and every message came before it.
      lastProgressAt ≤ clock ∧
      (∃ last, messages.getLast? = some last ∧ last.stage = state.stage) ∧
      ∀ message ∈ messages, message.sentAt ≤ lastProgressAt ∧ message.stage ≠ .completion

def FeedbackMiddleware.Tracking (middleware : FeedbackMiddleware) : Prop :=
  ∀ correlationId, Tracks middleware.clock (middleware.messages correlationId)
    (middleware.operationTracking.get? correlationId)

section

variable {messages : List FeedbackMessage} {message : FeedbackMessage} {interval : Number}

theorem atLeast_mono {shorter longer : Int} (ordered : shorter ≤ longer)
    (enough : atLeast (.finite shorter) interval = true) :
    atLeast (.finite longer) interval = true := by
  -- Only a finite interval is ever compared by its value.
  cases interval with
  | finite value =>
    simp only [atLeast, Number.lt, Bool.and_eq_true, Bool.not_eq_true', decide_eq_false_iff_not,
      not_lt] at enough ⊢
    have cast : (shorter : ℚ) ≤ longer := by exact_mod_cast ordered
    exact ⟨by simp, le_trans enough.2 cast⟩
  | infinity negative => simpa [atLeast, Number.lt] using enough
  | nan => simp [atLeast] at enough

private theorem FeedbackLaw.no_timeout_before (law : FeedbackLaw interval (messages ++ [message])) :
    ∀ earlier ∈ messages, earlier.stage ≠ .timeout := by
  intro earlier member
  exact (List.pairwise_append.mp law.silentAfter).2.2 earlier member message
    (List.mem_singleton_self message)

theorem FeedbackLaw.acknowledged (law : FeedbackLaw interval messages)
    (begun : messages ≠ []) (ongoing : ∀ earlier ∈ messages,
      earlier.stage ≠ .timeout ∧ earlier.stage ≠ .completion) :
    ∃ acknowledgement ∈ messages, acknowledgement.stage = .initial := by
  obtain ⟨first, rest, rfl⟩ := List.exists_cons_of_ne_nil begun
  have among : first ∈ first :: rest := List.mem_cons_self
  cases stage : first.stage with
  | initial => exact ⟨first, among, stage⟩
  | update =>
    -- An update has an acknowledgement before it, so that it is not the first message.
    obtain ⟨_, impossible, _⟩ := law.acknowledgedFirst [] first rest rfl stage
    cases impossible
  | timeout => exact absurd stage (ongoing first among).1
  | completion => exact absurd stage (ongoing first among).2

theorem FeedbackLaw.append (law : FeedbackLaw interval messages)
    (ongoing : ∀ earlier ∈ messages, earlier.stage ≠ .timeout)
    (distant : message.stage ≠ .timeout → ∀ earlier ∈ messages,
      atLeast (.finite (message.sentAt - earlier.sentAt : Int)) interval = true)
    (opening : message.stage = .initial → messages = [])
    (acknowledged : message.stage = .update →
      ∃ acknowledgement ∈ messages, acknowledgement.stage = .initial) :
    FeedbackLaw interval (messages ++ [message]) where
  timeoutOnce := by
    have none_before : messages.filter (·.stage = .timeout) = [] := by
      -- None of the earlier messages is the timeout message.
      simpa [List.filter_eq_nil_iff] using ongoing
    rw [List.filter_append, none_before, List.nil_append]
    exact List.length_filter_le _ [message]
  silentAfter := by
    refine List.pairwise_append.mpr ⟨law.silentAfter, List.pairwise_singleton _ _, ?_⟩
    exact fun earlier member _ _ => ongoing earlier member
  spaced := by
    rw [List.filter_append, List.isChain_append]
    refine ⟨law.spaced, ?_, ?_⟩
    · -- A single message has no distance to keep.
      by_cases timeout : message.stage = .timeout <;> simp [timeout]
    · intro earlier last later first
      have among := List.mem_of_mem_filter (List.mem_of_mem_getLast? last)
      by_cases timeout : message.stage = .timeout
      · -- A timeout message is left out of the spacing.
        simp [timeout] at first
      · have same : message = later := by simpa [timeout] using first
        subst same
        exact distant timeout earlier among
  acknowledgedOnce := by
    by_cases initial : message.stage = .initial
    · -- An acknowledgement is the first message, and so the only one.
      rw [opening initial]
      exact List.length_filter_le _ [message]
    · simpa [List.filter_append, initial] using law.acknowledgedOnce
  acknowledgedFirst := by
    intro before found after split update
    rcases List.append_eq_append_iff.mp split with ⟨middle, rfl, rest⟩ | ⟨middle, same, rest⟩
    · -- The update is the message that was appended.
      cases middle with
      | nil =>
        cases rest
        simpa using acknowledged update
      | cons head tail => simp at rest
    · cases middle with
      -- Nothing stands between, so this is the appended message again.
      | nil =>
        cases rest
        simp only [List.append_nil] at same
        rw [← same]
        exact acknowledged update
      -- The update stands among the earlier messages.
      | cons head tail =>
        obtain ⟨rfl, -⟩ := List.cons.inj rest
        exact law.acknowledgedFirst before _ tail same update

end

section

/-- The state that a call works with: the tracked one, or that of a new operation. -/
inductive Current (middleware : FeedbackMiddleware) (correlationId : String) :
    OperationState → Prop
  | tracked {state : OperationState} :
    middleware.operationTracking.get? correlationId = some state →
      Current middleware correlationId state
  | fresh (startedAt : Option Int) :
    middleware.operationTracking.get? correlationId = none →
      Current middleware correlationId { startedAt, stage := .initial }

theorem getOrCreateState_spec (env : FeedbackEnv) (middleware : FeedbackMiddleware)
    (call : FeedbackCall) (operationContext : Value) (now : Int) :
    let found := getOrCreateState env middleware.operationTracking call.event operationContext now
    Current middleware call.event.correlationId found.1 ∧
      ∀ correlationId, found.2.get? correlationId =
        if correlationId = call.event.correlationId then some found.1
        else middleware.operationTracking.get? correlationId := by
  unfold getOrCreateState
  cases tracked : middleware.operationTracking.get? call.event.correlationId with
  | none => exact ⟨.fresh _ tracked, fun correlationId => OrderedMap.get?_set _ _ _ _⟩
  -- A tracked operation keeps its state, which is stored already.
  | some existing =>
    refine ⟨.tracked tracked, fun correlationId => ?_⟩
    by_cases same : correlationId = call.event.correlationId
    · simp [same, tracked]
    · simp [same]

/-- What a call does: nothing, track an operation, or send the message that is due. -/
inductive Effect (env : FeedbackEnv) (config : FeedbackMiddlewareConfig)
    (middleware : FeedbackMiddleware) (call : FeedbackCall) (after : FeedbackMiddleware) : Prop
  | idle (unwatched : config.enabled = false ∨ extractOperationContext env call.event = none)
      (sent : after.sent = middleware.sent)
      (tracking : after.operationTracking = middleware.operationTracking)
  | waiting (state : OperationState) (elapsedMs : Number)
      (current : Current middleware call.event.correlationId state)
      (undecided : determineStage config state elapsedMs (call.decidedAt middleware.clock) = none)
      (sent : after.sent = middleware.sent)
      (tracking : ∀ correlationId, after.operationTracking.get? correlationId =
        if correlationId = call.event.correlationId then some state
        else middleware.operationTracking.get? correlationId)
  | sending (state : OperationState) (elapsedMs : Number) (stage : ProgressStage)
      (watched : config.enabled = true ∧ (extractOperationContext env call.event).isSome)
      (current : Current middleware call.event.correlationId state)
      (decided : determineStage config state elapsedMs (call.decidedAt middleware.clock) =
        some stage)
      (sent : after.sent = middleware.sent ++
        [{ correlationId := call.event.correlationId, stage, elapsedMs
           sentAt := call.decidedAt middleware.clock + call.untilSent }])
      (tracking : ∀ correlationId, after.operationTracking.get? correlationId =
        if correlationId = call.event.correlationId then
          some { state with stage, lastProgressAt := some after.clock }
        else middleware.operationTracking.get? correlationId)

theorem beforeNext_effect (env : FeedbackEnv) (config : FeedbackMiddlewareConfig)
    (middleware : FeedbackMiddleware) (call : FeedbackCall) :
    Effect env config middleware call (middleware.beforeNext env config call) := by
  -- A call that is not for an operation ends before it looks at any state.
  by_cases enabled : config.enabled
  · cases described : extractOperationContext env call.event with
    | none =>
      refine .idle (.inr described) ?_ ?_ <;>
        simp [FeedbackMiddleware.beforeNext, enabled, described]
    | some operationContext =>
      obtain ⟨current, others⟩ := getOrCreateState_spec env middleware call operationContext
        (middleware.clock + call.untilTracked)
      simp only [FeedbackMiddleware.beforeNext, enabled, not_true_eq_false, if_false, described]
      split
      · -- The stage stays, and no message is due.
        rename_i undecided
        exact .waiting _ _ current undecided rfl others
      · -- The message is sent and then recorded, under its own operation alone.
        rename_i stage decided
        refine .sending _ _ stage ⟨enabled, by simp [described]⟩ current decided rfl ?_
        intro correlationId
        rw [OrderedMap.get?_set]
        split
        · rfl
        · rename_i other
          rw [others, if_neg other]
  · refine .idle (.inl (by simpa using enabled)) ?_ ?_ <;>
      simp [FeedbackMiddleware.beforeNext, enabled]

theorem clock_beforeNext (env : FeedbackEnv) (config : FeedbackMiddlewareConfig)
    (middleware : FeedbackMiddleware) (call : FeedbackCall) :
    (middleware.beforeNext env config call).clock = call.decidedAt middleware.clock +
      call.untilSent + call.untilRecorded := by
  unfold FeedbackMiddleware.beforeNext
  simp only [FeedbackCall.decidedAt]
  repeat' split
  all_goals rfl

variable {env : FeedbackEnv} {config : FeedbackMiddlewareConfig}
variable {middleware after : FeedbackMiddleware} {call : FeedbackCall}

variable {state : OperationState} {elapsedMs : Number} {now : Int}

theorem determineStage_cases {stage : ProgressStage}
    (decided : determineStage config state elapsedMs now = some stage) :
    (stage = .timeout ∧ state.stage ≠ .timeout) ∨
    (stage = .update ∧ ∃ lastProgressAt, state.lastProgressAt = some lastProgressAt ∧
      atLeast (.finite (now - lastProgressAt : Int)) config.updateIntervalMs = true) ∨
    (stage = .initial ∧ state.lastProgressAt = none) := by
  -- The three stages stand in the order in which they are tried.
  unfold determineStage at decided
  split at decided
  · -- A late operation times out, unless it has.
    rename_i late
    cases decided
    exact .inl ⟨rfl, late.2⟩
  · split at decided
    · -- After some message, only an update can be due.
      rename_i lastProgressAt recorded
      split at decided
      · rename_i due
        cases decided
        exact .inr (.inl ⟨rfl, lastProgressAt, recorded, due⟩)
      · cases decided
    · -- Before any message, the acknowledgement is due.
      rename_i unrecorded
      split at decided
      · cases decided
        exact .inr (.inr ⟨rfl, unrecorded⟩)
      · cases decided

theorem not_atLeast_of_undecided
    (undecided : determineStage config state elapsedMs now = none)
    (timeout : state.stage = .timeout) {lastProgressAt : Int}
    (recorded : state.lastProgressAt = some lastProgressAt) :
    atLeast (.finite (now - lastProgressAt : Int)) config.updateIntervalMs = false := by
  -- The timeout branch is closed, and the update branch was not taken.
  simpa [determineStage, timeout, recorded] using undecided

theorem messages_sending {correlationId : String} {message : FeedbackMessage}
    (sent : after.sent = middleware.sent ++ [message]) :
    after.messages correlationId =
      if correlationId = message.correlationId then middleware.messages correlationId ++ [message]
      else middleware.messages correlationId := by
  rw [FeedbackMiddleware.messages, sent, List.filter_append]
  -- The message belongs to one operation.
  by_cases same : message.correlationId = correlationId
  · simp [same, FeedbackMiddleware.messages]
  · simp [same, Ne.symm same, FeedbackMiddleware.messages]

variable {clock : Int}

theorem Tracks.later {later : Int} {messages : List FeedbackMessage}
    {state : Option OperationState} (tracks : Tracks clock messages state)
    (ordered : clock ≤ later) : Tracks later messages state := by
  -- The clock bounds the record from above, and nothing else.
  cases state with
  | none => exact tracks
  | some state =>
    unfold Tracks at tracks ⊢
    cases recorded : state.lastProgressAt with
    | none => simpa [recorded] using tracks
    | some lastProgressAt =>
      simp only [recorded] at tracks ⊢
      exact ⟨le_trans tracks.1 ordered, tracks.2⟩

theorem Tracks.bound {messages : List FeedbackMessage}
    (tracks : Tracks clock messages (some state)) :
    ∀ message ∈ messages, message.sentAt ≤ clock ∧ message.stage ≠ .completion := by
  intro message member
  unfold Tracks at tracks
  -- Before anything was recorded, no message was sent.
  cases recorded : state.lastProgressAt with
  | none =>
    simp only [recorded] at tracks
    simp [tracks.2] at member
  | some lastProgressAt =>
    simp only [recorded] at tracks
    obtain ⟨sent, kind⟩ := tracks.2.2 message member
    exact ⟨le_trans sent tracks.1, kind⟩

theorem Current.tracks {correlationId : String} {state : OperationState}
    (current : Current middleware correlationId state) (tracking : middleware.Tracking) :
    Tracks middleware.clock (middleware.messages correlationId) (some state) := by
  have tracks := tracking correlationId
  cases current with
  -- A tracked operation is the one that the invariant speaks of.
  | tracked found => rwa [found] at tracks
  | fresh startedAt absent =>
    -- A new operation has no messages.
    rw [absent] at tracks
    exact ⟨rfl, tracks⟩

theorem FeedbackMiddleware.Tracking.beforeNext (tracking : middleware.Tracking)
    (env : FeedbackEnv) (config : FeedbackMiddlewareConfig) (call : FeedbackCall) :
    (middleware.beforeNext env config call).Tracking := by
  have clock := clock_beforeNext env config middleware call
  -- Time only passes during a call.
  have forward : middleware.clock ≤ (middleware.beforeNext env config call).clock := by
    rw [clock, FeedbackCall.decidedAt]
    omega
  intro correlationId
  have before := (tracking correlationId).later forward
  cases beforeNext_effect env config middleware call with
  | idle _ sent kept =>
    rw [kept, FeedbackMiddleware.messages, sent]
    exact before
  | waiting state elapsedMs current _ sent kept =>
    rw [kept, FeedbackMiddleware.messages, sent]
    split
    · -- The call tracks its own operation, as it was or as a new one.
      rename_i same
      rw [same]
      exact (current.tracks tracking).later forward
    · exact before
  | sending state elapsedMs stage _ current decided sent kept =>
    rw [kept, messages_sending sent]
    split
    · -- The record is of the message that was just sent, at the time the clock now shows.
      refine ⟨le_refl _, ⟨_, List.getLast?_concat, rfl⟩, ?_⟩
      intro message member
      rw [clock]
      rcases List.mem_append.mp member with earlier | latest
      · -- An earlier message was sent before the call.
        rename_i same
        simp only at same
        subst same
        obtain ⟨past, kind⟩ := (current.tracks tracking).bound message earlier
        refine ⟨?_, kind⟩
        rw [FeedbackCall.decidedAt]
        omega
      · rw [List.mem_singleton.mp latest]
        refine ⟨by simp, ?_⟩
        -- No message announces a completion.
        rcases determineStage_cases decided with ⟨rfl, -⟩ | ⟨rfl, -⟩ | ⟨rfl, -⟩ <;> simp
    · exact before

private theorem FeedbackLaw.ongoing {messages : List FeedbackMessage} {interval : Number}
    (law : FeedbackLaw interval messages) {last : FeedbackMessage}
    (latest : messages.getLast? = some last) (running : last.stage ≠ .timeout) :
    ∀ message ∈ messages, message.stage ≠ .timeout := by
  obtain ⟨before, rfl⟩ := List.getLast?_eq_some_iff.mp latest
  intro message member
  -- A timeout message comes last if it comes at all.
  rcases List.mem_append.mp member with earlier | final
  · exact law.no_timeout_before message earlier
  · rwa [List.mem_singleton.mp final]

private theorem FeedbackLaw.append_due {messages : List FeedbackMessage} {stage : ProgressStage}
    (law : FeedbackLaw config.updateIntervalMs messages)
    (tracks : Tracks clock messages (some state))
    (decided : determineStage config state elapsedMs now = some stage)
    (calm : ∀ lastProgressAt, state.stage = .timeout → state.lastProgressAt = some lastProgressAt →
      atLeast (.finite (now - lastProgressAt : Int)) config.updateIntervalMs = false)
    (message : FeedbackMessage) (staged : message.stage = stage) (after : now ≤ message.sentAt) :
    FeedbackLaw config.updateIntervalMs (messages ++ [message]) := by
  cases recorded : state.lastProgressAt with
  | none =>
    -- The first message follows nothing, and is no update.
    have empty : messages = [] := by
      simp only [Tracks, recorded] at tracks
      exact tracks.2
    subst empty
    have opens : message.stage ≠ .update := by
      rw [staged]
      rcases determineStage_cases decided with ⟨rfl, -⟩ | ⟨rfl, last, found, -⟩ | ⟨rfl, -⟩
      · simp
      · rw [recorded] at found
        cases found
      · simp
    exact law.append (by simp) (by simp) (fun _ => rfl) (fun update => absurd update opens)
  | some lastProgressAt =>
    simp only [Tracks, recorded] at tracks
    obtain ⟨-, ⟨last, latest, kind⟩, bounds⟩ := tracks
    -- A timed out operation has nothing due in a calm call.
    have running : state.stage ≠ .timeout := fun timeout => by
      rcases determineStage_cases decided with ⟨-, apart⟩ | ⟨-, other, found, due⟩ | ⟨-, absent⟩
      · exact apart timeout
      · rw [calm other timeout found] at due
        cases due
      · rw [recorded] at absent
        cases absent
    have ongoing := law.ongoing latest (kind ▸ running)
    refine law.append ongoing ?_ ?_ ?_
    · -- The distance to the last record is one to every message before it.
      intro progress earlier member
      rcases determineStage_cases decided with ⟨rfl, -⟩ | ⟨-, other, found, due⟩ | ⟨-, absent⟩
      · exact absurd staged progress
      · rw [recorded] at found
        cases found
        have past := (bounds earlier member).1
        exact atLeast_mono (by omega) due
      · rw [recorded] at absent
        cases absent
    · -- An acknowledgement is never due once something was recorded.
      intro initial
      rcases determineStage_cases decided with ⟨rfl, -⟩ | ⟨rfl, -⟩ | ⟨-, absent⟩
      · rw [staged] at initial
        cases initial
      · rw [staged] at initial
        cases initial
      · rw [recorded] at absent
        cases absent
    · -- An update follows the acknowledgement that opened the operation.
      intro _
      refine law.acknowledged (fun empty => ?_) fun earlier member =>
        ⟨ongoing earlier member, (bounds earlier member).2⟩
      rw [empty] at latest
      cases latest

theorem lawful_beforeNext_iff (lawful : middleware.Lawful config)
    (tracking : middleware.Tracking) (call : FeedbackCall) :
    (middleware.beforeNext env config call).Lawful config ↔ Calm env config middleware call := by
  cases beforeNext_effect env config middleware call with
  -- A call that is not watched sends nothing and has no condition.
  | idle unwatched sent _ =>
    refine iff_of_true (fun correlationId => ?_) fun enabled described => ?_
    · rw [FeedbackMiddleware.messages, sent]
      exact lawful correlationId
    · rcases unwatched with disabled | absent
      · rw [disabled] at enabled
        cases enabled
      · simp [absent] at described
  -- A call that sends nothing is calm, since the middleware found nothing due.
  | waiting state elapsedMs current undecided sent _ =>
    refine iff_of_true (fun correlationId => ?_) ?_
    · rw [FeedbackMiddleware.messages, sent]
      exact lawful correlationId
    · intro _ _ found lastProgressAt tracked timeout recorded
      have same : found = state := by
        cases current with
        | tracked known => exact Option.some.inj (tracked.symm.trans known)
        | fresh _ absent =>
          rw [absent] at tracked
          cases tracked
      subst same
      exact not_atLeast_of_undecided undecided timeout recorded
  | sending state elapsedMs stage watched current decided sent _ =>
    have tracks := current.tracks tracking
    -- A message after the timeout message breaks the law, and only that does.
    constructor
    · intro after enabled described found lastProgressAt tracked timeout recorded
      have law := after call.event.correlationId
      rw [messages_sending sent, if_pos rfl] at law
      -- The last message before this one was the timeout message.
      have past := tracking call.event.correlationId
      rw [tracked] at past
      simp only [Tracks, recorded] at past
      obtain ⟨-, ⟨last, latest, kind⟩, -⟩ := past
      exact absurd (kind.trans timeout)
        (law.no_timeout_before last (List.mem_of_mem_getLast? latest))
    · intro calm correlationId
      rw [messages_sending sent]
      split
      · rename_i same
        simp only at same
        subst same
        refine (lawful _).append_due tracks decided ?_ _ rfl (by simp)
        intro lastProgressAt timeout recorded
        cases current with
        | tracked known =>
          exact calm watched.1 watched.2 state lastProgressAt known timeout recorded
        -- A new operation has recorded nothing.
        | fresh startedAt absent => cases recorded
      · -- The messages of another operation are the ones before.
        exact lawful correlationId

theorem lawful_started (config : FeedbackMiddlewareConfig) (clock : Int) :
    (FeedbackMiddleware.started clock).Lawful config ∧
      (FeedbackMiddleware.started clock).Tracking := by
  -- Nothing was sent yet.
  refine ⟨fun correlationId => ?_, fun correlationId => ?_⟩
  · exact ⟨by simp [FeedbackMiddleware.messages, FeedbackMiddleware.started], by
      simp [FeedbackMiddleware.messages, FeedbackMiddleware.started], by
      simp [FeedbackMiddleware.messages, FeedbackMiddleware.started], by
      simp [FeedbackMiddleware.messages, FeedbackMiddleware.started], by
      simp [FeedbackMiddleware.messages, FeedbackMiddleware.started]⟩
  · simp [FeedbackMiddleware.messages, FeedbackMiddleware.started, Tracks]

/--
The messages keep to the law exactly along the runs of calm calls. -/
theorem feedback_lawful_iff (env : FeedbackEnv) (config : FeedbackMiddlewareConfig) (clock : Int)
    (calls : List FeedbackCall) :
    Along (FeedbackMiddleware.beforeNext env config)
        (fun middleware call => (middleware.beforeNext env config call).Lawful config)
        (.started clock) calls ↔
      Along (FeedbackMiddleware.beforeNext env config) (Calm env config) (.started clock) calls :=
  -- The invariant is the law together with what the records say of the messages.
  along_congr (fun middleware => middleware.Lawful config ∧ middleware.Tracking)
    (fun _ call kept calm =>
      ⟨(lawful_beforeNext_iff kept.1 kept.2 call).mpr calm, kept.2.beforeNext env config call⟩)
    (fun _ call kept => lawful_beforeNext_iff kept.1 kept.2 call)
    (lawful_started config clock) calls

end

def callAfter (ms : Nat) : FeedbackCall where
  event :=
    { correlationId := "c", type := "chat.message.v1"
      annotations := some [.obj [("kind", .str "operation_context"),
        ("value", .obj [("operation", .str "tool_call")])]] }
  untilTracked := ms
  untilElapsed := 0
  untilDecided := 0
  untilSent := 0
  untilRecorded := 0

/-- An operation is updated five seconds after its timeout message. -/
theorem timeout_updated :
    ¬ ∀ env config clock calls, Along (FeedbackMiddleware.beforeNext env config)
      (fun middleware call => (middleware.beforeNext env config call).Lawful config)
      (.started clock) calls := by
  intro lawful
  obtain ⟨-, -, after, -⟩ := lawful ⟨fun _ => none, fun _ => none⟩ {} 0
    [callAfter 0, callAfter 30000, callAfter 5000]
  -- The third call comes five seconds after the timeout message.
  have silent := (after "c").silentAfter
  revert silent
  decide +kernel

end BitBrat
