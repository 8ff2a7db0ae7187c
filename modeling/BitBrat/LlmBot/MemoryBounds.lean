import BitBrat.LlmBot.InstanceMemory
import BitBrat.Machine.MostRecent
import BitBrat.Machine.Run

/-! What the memory returns: the latest turns that fit, of one conversation, while they live. -/

namespace BitBrat

open Js Machine

section

variable (limits : MemoryLimits)

def fitsLimits (turns : List ChatMessage) : Bool :=
  decide (approxChars turns ≤ limits.maxCharsPerKey) &&
    decide ((turns.length : ℚ≥0) ≤ limits.maxMessagesPerKey)

def historyTurns (history : List (Nat × List ChatMessage)) : List ChatMessage :=
  history.flatMap (·.2)

variable (state : MemoryState)

/-- What is owed to those who read, and to the other conversations. -/
structure ConversationMemoryLaw (input : MemoryInput) : Prop where
  /-- A read returns the longest suffix of what was appended that fits. -/
  reads : ∀ key, input = .read key →
    IsLongestSuffix (fitsLimits limits) (historyTurns ((memoryStep limits state input).history key))
      (InstanceMemoryStore.read limits state.now key state.map).2
  /-- No more keys than allowed are there after an append. -/
  bounded : ∀ index pending, input = .runAppend index → state.pending[index]? = some pending →
    state.ready pending = true →
      ((memoryStep limits state input).map.size : ℚ≥0) ≤ limits.maxKeys

/-- A call runs after the calls before it, not onto turns that have expired, and can be cut. -/
def AppendInPlace : MemoryInput → Prop
  | .runAppend index =>
    ∀ pending ∈ state.pending[index]?, state.ready pending = true →
      (∀ earlier ∈ state.history pending.key, earlier.1 < pending.call) ∧
      (∀ entry, state.map.get? pending.key = some entry → entry.turns ≠ [] →
        entry.expired limits state.now = false) ∧
      (1 ≤ limits.maxMessagesPerKey ∨ trimChars limits
        (((state.map.get? pending.key).map (·.turns)).getD [] ++ pending.newTurns) = [])
  | _ => True

structure MemoryAgrees : Prop where
  known : ∀ key entry, state.map.get? key = some entry → entry.expired limits state.now = false →
    entry.turns = longestSuffix (fitsLimits limits) (historyTurns (state.history key))
  expired : ∀ key entry, state.map.get? key = some entry → entry.expired limits state.now = true →
    state.history key = []
  absent : ∀ key, state.map.get? key = none → state.history key = []

end

section

variable {limits : MemoryLimits} {state : MemoryState}

@[simp] theorem approxChars_nil : approxChars [] = 0 := rfl

@[simp] theorem approxChars_append (first second : List ChatMessage) :
    approxChars (first ++ second) = approxChars first + approxChars second := by
  simp [approxChars]

theorem fitsLimits_nil (limits : MemoryLimits) : fitsLimits limits [] = true := by
  simp [fitsLimits]

theorem fitsLimits_of_append (before after : List ChatMessage)
    (fits : fitsLimits limits (before ++ after) = true) : fitsLimits limits before = true := by
  simp only [fitsLimits, approxChars_append, List.length_append, Nat.cast_add, Bool.and_eq_true,
    decide_eq_true_eq] at fits ⊢
  exact ⟨le_of_add_le_left fits.1, le_of_add_le_left fits.2⟩

theorem trimChars_eq (turns : List ChatMessage) :
    trimChars limits turns =
      longestSuffix (fun kept => decide ((approxChars kept : ℚ≥0) ≤ limits.maxCharsPerKey))
        turns := by
  induction turns with
  | nil => rfl
  | cons turn rest ih =>
    rw [trimChars, longestSuffix, ih]
    -- The code asks whether there are too many, and the test whether there are not.
    by_cases many : limits.maxCharsPerKey < approxChars (turn :: rest)
    · rw [if_pos many, if_neg (by simpa using many)]
    · rw [if_neg many, if_pos (by simpa using many)]

theorem trimTurns_eq {turns : List ChatMessage}
    (cut : 1 ≤ limits.maxMessagesPerKey ∨ trimChars limits turns = []) :
    trimTurns limits turns = longestSuffix (fitsLimits limits) turns := by
  have both : longestSuffix (fitsLimits limits) turns =
      longestSuffix (fun kept => decide ((kept.length : ℚ≥0) ≤ limits.maxMessagesPerKey))
        (trimChars limits turns) := by
    rw [trimChars_eq, longestSuffix_longestSuffix]
    · rfl
    · intro before after fits
      simp only [approxChars_append, Nat.cast_add, decide_eq_true_eq] at fits ⊢
      exact le_of_add_le_right fits
  rw [both, trimTurns]
  by_cases many : limits.maxMessagesPerKey < (trimChars limits turns).length
  · rcases cut with positive | empty
    · -- The number of turns that are kept is at least one, so that the slice is one from the end.
      have some_kept : ⌊limits.maxMessagesPerKey⌋₊ ≠ 0 :=
        (Nat.floor_pos.mpr positive).ne'
      have whole : (fun kept : List ChatMessage =>
          decide ((kept.length : ℚ≥0) ≤ limits.maxMessagesPerKey)) =
          fun kept => decide (kept.length ≤ ⌊limits.maxMessagesPerKey⌋₊) := by
        funext kept
        rw [decide_eq_decide]
        exact (Nat.le_floor_iff zero_le).symm
      simp only [if_pos many, sliceFromEnd, if_neg some_kept, whole, longestSuffix_length]
    · simp [empty]
  · simp only [if_neg many]
    exact (longestSuffix_eq_self (by simpa using many)).symm

variable {entry : MemoryEntry} {now : Int}

theorem unexpired_of_later {ms : Nat} (later : entry.expired limits (now + ms) = false) :
    entry.expired limits now = false := by
  simp only [MemoryEntry.expired, decide_eq_false_iff_not, not_lt] at later ⊢
  refine le_trans (Int.cast_le.mpr ?_) later
  omega

variable {map : MemoryMap} {key : String}

theorem get?_of_evictExpiredAndExcess
    (found : (evictExpiredAndExcess limits now map).get? key = some entry) :
    map.get? key = some entry ∧ entry.expired limits now = false := by
  have unexpired : (map.filter fun entry => !entry.2.expired limits now).get? key = some entry := by
    unfold evictExpiredAndExcess at found
    simp only at found
    split at found
    · exact OrderedMap.get?_of_filter found
    · exact found
  refine ⟨OrderedMap.get?_of_filter unexpired, ?_⟩
  simpa using (List.mem_filter.mp (mem_of_lookup unexpired)).2

theorem get?_of_read {other : String}
    (found : (InstanceMemoryStore.read limits now key map).1.get? other = some entry) :
    map.get? other = some entry := by
  unfold InstanceMemoryStore.read at found
  simp only at found
  split at found
  · exact (get?_of_evictExpiredAndExcess found).1
  · split at found
    · rw [OrderedMap.get?_erase] at found
      split at found
      · cases found
      · exact (get?_of_evictExpiredAndExcess found).1
    · exact (get?_of_evictExpiredAndExcess found).1

theorem size_filter_not_mem_le {entries : List (String × MemoryEntry)}
    (perm : entries.Perm map.entries) (count : Nat) :
    (map.filter fun entry => entry.1 ∉ (entries.take count).map Prod.fst).size ≤
      map.size - count := by
  have same : (map.filter fun entry => entry.1 ∉ (entries.take count).map Prod.fst).size =
      (entries.filter fun entry => entry.1 ∉ (entries.take count).map Prod.fst).length :=
    (perm.symm.filter _).length_eq
  have dropped : ((entries.take count).filter fun entry =>
      entry.1 ∉ (entries.take count).map Prod.fst) = [] := by
    refine List.filter_eq_nil_iff.mpr fun entry member => ?_
    have named : entry.1 ∈ (entries.take count).map Prod.fst := List.mem_map_of_mem member
    simp only [named, not_true_eq_false, decide_false, Bool.false_eq_true, not_false_eq_true]
  rw [same]
  calc (entries.filter fun entry => entry.1 ∉ (entries.take count).map Prod.fst).length
      = ((entries.take count ++ entries.drop count).filter fun entry =>
          entry.1 ∉ (entries.take count).map Prod.fst).length := by rw [List.take_append_drop]
    _ = ((entries.drop count).filter fun entry =>
          entry.1 ∉ (entries.take count).map Prod.fst).length := by
        rw [List.filter_append, dropped, List.nil_append]
    _ ≤ (entries.drop count).length := List.length_filter_le _ _
    _ = map.size - count := by rw [List.length_drop, perm.length_eq]; rfl

theorem size_evictExpiredAndExcess (limits : MemoryLimits) (now : Int) (map : MemoryMap) :
    ((evictExpiredAndExcess limits now map).size : ℚ≥0) ≤ limits.maxKeys := by
  unfold evictExpiredAndExcess
  simp only
  split
  case isFalse few => exact not_lt.mp few
  case isTrue =>
    generalize map.filter (fun entry => !entry.2.expired limits now) = kept
    refine le_trans (Nat.cast_le.mpr (size_filter_not_mem_le (List.mergeSort_perm _ _) _)) ?_
    -- Rounding up the number of keys that are too many drops at least as many.
    have enough : (kept.size : ℚ) - limits.maxKeys ≤ ⌈(kept.size : ℚ) - limits.maxKeys⌉₊ :=
      Nat.le_ceil _
    rw [← NNRat.coe_le_coe, NNRat.coe_natCast]
    generalize ⌈(kept.size : ℚ) - limits.maxKeys⌉₊ = dropped at enough
    rcases Nat.le_total kept.size dropped with all | part
    · simp [Nat.sub_eq_zero_of_le all]
    · rw [Nat.cast_sub part]
      linarith

theorem insertCall_of_last {call : Nat × List ChatMessage}
    {history : List (Nat × List ChatMessage)} (last : ∀ earlier ∈ history, earlier.1 < call.1) :
    insertCall call history = history ++ [call] := by
  induction history with
  | nil => rfl
  | cons other rest ih =>
    have after : ¬ call.1 < other.1 := by
      have := last other List.mem_cons_self
      omega
    rw [insertCall, if_neg after,
      ih fun earlier member => last earlier (List.mem_cons_of_mem _ member)]
    rfl

theorem keepHistory_of_get? (found : map.get? key = some entry)
    (history : String → List (Nat × List ChatMessage)) :
    keepHistory map history key = history key := by
  simp [keepHistory, found]

theorem keepHistory_of_none (gone : map.get? key = none)
    (history : String → List (Nat × List ChatMessage)) : keepHistory map history key = [] := by
  simp [keepHistory, gone]

namespace MemoryAgrees

theorem prior_eq (agree : MemoryAgrees limits state) {key : String}
    (fresh : ∀ entry, state.map.get? key = some entry → entry.turns ≠ [] →
      entry.expired limits state.now = false) :
    ((state.map.get? key).map (·.turns)).getD [] =
      longestSuffix (fitsLimits limits) (historyTurns (state.history key)) := by
  cases found : state.map.get? key with
  | none =>
    rw [agree.absent key found]
    rfl
  | some entry =>
    cases over_time : entry.expired limits state.now with
    | false => exact agree.known key entry found over_time
    | true =>
      -- What has expired is empty here, as nothing is owed of it.
      rw [agree.expired key entry found over_time]
      by_contra turns
      have kept := fresh entry found turns
      rw [over_time] at kept
      cases kept

theorem evict (agree : MemoryAgrees limits state) {map : MemoryMap}
    (kept : ∀ key entry, map.get? key = some entry → state.map.get? key = some entry) :
    MemoryAgrees limits (state.evicted map) := by
  have history : ∀ key entry, map.get? key = some entry →
      (state.evicted map).history key = state.history key :=
    fun key entry found => keepHistory_of_get? found _
  constructor
  · intro key entry found fresh
    rw [history key entry found]
    exact agree.known key entry (kept key entry found) fresh
  · intro key entry found over_time
    rw [history key entry found]
    exact agree.expired key entry (kept key entry found) over_time
  · intro key gone
    exact keepHistory_of_none gone _

theorem runAppend (agree : MemoryAgrees limits state) {index : Nat} {pending : PendingAppend}
    (found : state.pending[index]? = some pending) (ready : state.ready pending = true)
    (inPlace : AppendInPlace limits state (.runAppend index)) :
    MemoryAgrees limits (state.runAppend limits index pending) := by
  obtain ⟨last, fresh, cut⟩ := inPlace pending found ready
  -- What is there is what fits of the calls before, and is cut together with the new turns.
  have merged : trimTurns limits
      (((state.map.get? pending.key).map (·.turns)).getD [] ++ pending.newTurns) =
      longestSuffix (fitsLimits limits) (historyTurns
        (insertCall (pending.call, pending.newTurns) (state.history pending.key))) := by
    rw [trimTurns_eq cut, agree.prior_eq fresh, longestSuffix_append fitsLimits_of_append,
      insertCall_of_last last]
    simp [historyTurns]
  constructor
  · intro key entry stored _
    have evicted := (get?_of_evictExpiredAndExcess stored).1
    have kept : (state.runAppend limits index pending).history key =
        recordCall pending state.history key := keepHistory_of_get? stored _
    rw [kept, recordCall]
    rw [OrderedMap.get?_set] at evicted
    split
    case isTrue same =>
      rw [if_pos same] at evicted
      rw [← Option.some.inj evicted, same, merged]
    case isFalse other =>
      rw [if_neg other] at evicted
      exact agree.known key entry evicted (get?_of_evictExpiredAndExcess stored).2
  · intro key entry stored over_time
    -- Nothing that has expired survives the eviction.
    have unexpired := (get?_of_evictExpiredAndExcess stored).2
    rw [show (state.runAppend limits index pending).now = state.now from rfl] at over_time
    rw [over_time] at unexpired
    cases unexpired
  · exact fun key gone => keepHistory_of_none gone (recordCall pending state.history)

theorem step (agree : MemoryAgrees limits state) {input : MemoryInput}
    (inPlace : AppendInPlace limits state input) :
    MemoryAgrees limits (memoryStep limits state input) := by
  cases input with
  | append key newTurns => exact ⟨agree.known, agree.expired, agree.absent⟩
  | runAppend index =>
    simp only [memoryStep]
    split
    case h_1 pending found =>
      split
      case isTrue ready => exact agree.runAppend found ready inPlace
      case isFalse => exact agree
    case h_2 => exact agree
  | releaseAppend index =>
    simp only [memoryStep]
    split
    · split
      · exact ⟨agree.known, agree.expired, agree.absent⟩
      · exact agree
    · exact agree
  | read key => exact agree.evict fun other entry stored => get?_of_read stored
  | reset key =>
    refine agree.evict fun other entry stored => ?_
    rw [OrderedMap.get?_erase] at stored
    split at stored
    · cases stored
    · exact stored
  | advance ms =>
    have history : ∀ key, (memoryStep limits state (.advance ms)).history key =
        if (state.map.get? key).any (·.expired limits (state.now + ms)) then []
        else state.history key := fun _ => rfl
    constructor
    · intro key entry stored fresh
      have stored : state.map.get? key = some entry := stored
      have fresh : entry.expired limits (state.now + ms) = false := fresh
      -- Had the entry expired before, it would have expired now.
      simp only [history, stored, Option.any_some, fresh, Bool.false_eq_true, if_false]
      exact agree.known key entry stored (unexpired_of_later fresh)
    · intro key entry stored over_time
      have stored : state.map.get? key = some entry := stored
      have over_time : entry.expired limits (state.now + ms) = true := over_time
      simp only [history, stored, Option.any_some, over_time, if_true]
    · intro key gone
      have gone : state.map.get? key = none := gone
      simp only [history, gone, Option.any_none, Bool.false_eq_true, if_false]
      exact agree.absent key gone

theorem read (agree : MemoryAgrees limits state) (key : String) :
    IsLongestSuffix (fitsLimits limits)
      (historyTurns ((memoryStep limits state (.read key)).history key))
      (InstanceMemoryStore.read limits state.now key state.map).2 := by
  have nothing : IsLongestSuffix (fitsLimits limits) [] [] :=
    isLongestSuffix (fitsLimits_nil limits) []
  simp only [memoryStep, MemoryState.evicted, InstanceMemoryStore.read]
  split
  case h_1 gone =>
    rw [keepHistory_of_none gone]
    exact nothing
  case h_2 entry found =>
    obtain ⟨stored, fresh⟩ := get?_of_evictExpiredAndExcess found
    rw [if_neg (Bool.eq_false_iff.mp fresh), keepHistory_of_get? found,
      agree.known key entry stored fresh]
    exact isLongestSuffix (fitsLimits_nil limits) _

theorem law (agree : MemoryAgrees limits state) (input : MemoryInput) :
    ConversationMemoryLaw limits state input where
  reads := by
    rintro key rfl
    exact agree.read key
  bounded := by
    rintro index pending rfl found ready
    simp only [memoryStep, found, ready, if_true]
    exact size_evictExpiredAndExcess limits state.now _

theorem initial (limits : MemoryLimits) (now : Int) : MemoryAgrees limits { now } := by
  constructor <;> simp

end MemoryAgrees

end

def ConversationEvent.channelName (event : ConversationEvent) : Option String :=
  event.channel.bind nonEmpty

/-- The user of an event: one that is known, or an account, or nobody. -/
def ConversationEvent.user (event : ConversationEvent) : Option (String ⊕ String) :=
  match event.identity.userId.bind nonEmpty, event.identity.externalId.bind nonEmpty with
  | some userId, _ => some (.inl userId)
  | none, some externalId => some (.inr externalId)
  | none, none => none

structure SameConversation (left right : ConversationEvent) : Prop where
  platform : left.identity.platform = right.identity.platform
  channel : left.channelName = right.channelName
  user : left.user = right.user

def channelText (event : ConversationEvent) : String := textOr event.channel "default"

def userText (event : ConversationEvent) : String :=
  textOr event.identity.userId (textOr event.identity.externalId "anon")

/-- The channel of one event goes on with a colon, and with the beginning of the other's user. -/
def ColonShifted (left right : ConversationEvent) : Prop :=
  ∃ middle, channelText right = channelText left ++ ":" ++ middle ∧
    userText left = middle ++ ":" ++ userText right

/-- The texts of two events are the same only on one platform, and for names of the same kind. -/
structure KeysApart (left right : ConversationEvent) : Prop where
  platform : channelText left = channelText right → userText left = userText right →
    left.identity.platform = right.identity.platform
  channel : channelText left = channelText right → userText left = userText right →
    left.channelName.isSome = right.channelName.isSome
  user : channelText left = channelText right → userText left = userText right →
    left.user.map Sum.isLeft = right.user.map Sum.isLeft
  shifted : ¬ ColonShifted left right
  backward : ¬ ColonShifted right left

theorem channelText_eq (event : ConversationEvent) :
    channelText event = event.channelName.getD "default" := by
  unfold channelText ConversationEvent.channelName textOr nonEmpty
  cases event.channel with
  | none => rfl
  | some name => by_cases empty : name = "" <;> simp [empty]

theorem userText_eq (event : ConversationEvent) :
    userText event = (event.user.map (Sum.elim id id)).getD "anon" := by
  unfold userText ConversationEvent.user textOr nonEmpty
  -- An identifier that is empty counts as one that is absent.
  cases event.identity.userId with
  | some userId =>
    by_cases empty : userId = ""
    · cases event.identity.externalId with
      | none => simp [empty]
      | some externalId => by_cases other : externalId = "" <;> simp [empty, other]
    · simp [empty]
  | none =>
    cases event.identity.externalId with
    | none => rfl
    | some externalId => by_cases other : externalId = "" <;> simp [other]

private theorem ColonShifted.channelText_ne {left right : ConversationEvent}
    (shifted : ColonShifted left right) : channelText left ≠ channelText right := by
  obtain ⟨middle, longer, -⟩ := shifted
  intro same
  have lengths := congrArg String.length (same.trans longer)
  simp only [String.length_append] at lengths
  have colon : ":".length = 1 := rfl
  omega

theorem sameConversation_iff (left right : ConversationEvent) :
    (memoryKeyFor left = memoryKeyFor right → SameConversation left right) ↔
      KeysApart left right := by
  have key : ∀ event, memoryKeyFor event = channelText event ++ ":" ++ userText event :=
    fun _ => rfl
  constructor
  · intro same
    have agree : channelText left = channelText right → userText left = userText right →
        SameConversation left right := by
      intro channel user
      exact same (by rw [key, key, channel, user])
    refine ⟨fun channel user => (agree channel user).platform,
      fun channel user => by rw [(agree channel user).channel],
      fun channel user => by rw [(agree channel user).user], ?_, ?_⟩
    · intro shifted
      have apart := shifted.channelText_ne
      obtain ⟨middle, channel, user⟩ := shifted
      have conversation := same (by rw [key, key, channel, user]; simp only [String.append_assoc])
      exact apart (by rw [channelText_eq, channelText_eq, conversation.channel])
    · intro shifted
      have apart := shifted.channelText_ne
      obtain ⟨middle, channel, user⟩ := shifted
      have conversation := same (by rw [key, key, channel, user]; simp only [String.append_assoc])
      exact apart (by rw [channelText_eq, channelText_eq, conversation.channel])
  · intro apart same
    rw [key, key] at same
    rcases colon_join_cases same with ⟨channel, user⟩ | ⟨middle, channel, user⟩ |
      ⟨middle, channel, user⟩
    · refine ⟨apart.platform channel user, ?_, ?_⟩
      · have kind := apart.channel channel user
        rw [channelText_eq, channelText_eq] at channel
        cases here : left.channelName <;> cases there : right.channelName <;> simp_all
      · have kind := apart.user channel user
        rw [userText_eq, userText_eq] at user
        rcases here : left.user with _ | (_ | _) <;> rcases there : right.user with _ | (_ | _) <;>
          simp_all
    · exact absurd ⟨middle, channel, user⟩ apart.shifted
    · exact absurd ⟨middle, channel, user⟩ apart.backward

/-- In a run with appends in place, every read and every append gives what is owed. -/
theorem memory_isolated_and_bounded (limits : MemoryLimits) (now : Int) (inputs : List MemoryInput)
    (left right : ConversationEvent) :
    (Along (memoryStep limits) (AppendInPlace limits) { now } inputs →
      Along (memoryStep limits) (ConversationMemoryLaw limits) { now } inputs) ∧
    ((memoryKeyFor left = memoryKeyFor right → SameConversation left right) ↔
      KeysApart left right) := by
  constructor
  · intro inPlace
    exact along_of_invariant (MemoryAgrees limits) (fun _ _ agree placed => agree.step placed)
      (fun _ input agree _ => agree.law input) (MemoryAgrees.initial limits now) inPlace
  · exact sameConversation_iff left right

def userTurn (content : String) : ChatMessage where
  role := .user
  content
  createdAt := "2026-01-01T00:00:00.000Z"

def smallLimits : MemoryLimits where
  maxKeys := 10
  maxMessagesPerKey := 2
  maxCharsPerKey := 100
  ttlMs := 1000

def orderedAppends : List MemoryInput := [
  .append "c:u" [userTurn "one"], .append "c:u" [userTurn "two", userTurn "three"],
  .runAppend 0, .releaseAppend 0, .runAppend 0, .releaseAppend 0, .read "c:u"]

theorem orderedAppends_owed :
    Along (memoryStep smallLimits) (ConversationMemoryLaw smallLimits) { now := 0 } orderedAppends ∧
      ((memoryKeyFor { identity := { userId := some "u" } } =
          memoryKeyFor { identity := { userId := some "v" } } →
        SameConversation { identity := { userId := some "u" } }
          { identity := { userId := some "v" } }) ↔
        KeysApart { identity := { userId := some "u" } }
          { identity := { userId := some "v" } }) := by
  obtain ⟨owed, apart⟩ := memory_isolated_and_bounded smallLimits 0 orderedAppends
    { identity := { userId := some "u" } } { identity := { userId := some "v" } }
  refine ⟨owed ⟨trivial, trivial, ?_, trivial, ?_, trivial, trivial, trivial⟩, apart⟩
  · -- The first call finds nothing.
    rintro pending ⟨⟩ -
    exact ⟨by decide +kernel, by rintro entry ⟨⟩, .inl (by decide +kernel)⟩
  · -- The second call finds the turn of the first.
    rintro pending ⟨⟩ -
    refine ⟨by decide +kernel, ?_, .inl (by decide +kernel)⟩
    rintro entry found -
    rw [← Option.some.inj found]
    decide +kernel

def revivingAppends : List MemoryInput := [
  .append "c:u" [userTurn "one"], .runAppend 0, .releaseAppend 0, .advance 1001,
  .append "c:u" [userTurn "two"], .runAppend 0, .releaseAppend 0, .read "c:u"]

/-- Turns that have expired are read again after an append. -/
theorem not_memory_isolated_and_bounded :
    ¬ ∀ (limits : MemoryLimits) (now : Int) (inputs : List MemoryInput)
      (left right : ConversationEvent),
      Along (memoryStep limits) (ConversationMemoryLaw limits) { now } inputs ∧
        (memoryKeyFor left = memoryKeyFor right → SameConversation left right) := by
  intro holds
  obtain ⟨⟨-, -, -, -, -, -, -, law, -⟩, -⟩ := holds smallLimits 0 revivingAppends
    { identity := {} } { identity := {} }
  exact absurd (law.reads "c:u" rfl).suffix (by decide +kernel)

end BitBrat
