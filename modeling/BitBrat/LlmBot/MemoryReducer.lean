import BitBrat.Js.Arithmetic
import BitBrat.Js.NumberText
import BitBrat.Machine.MostRecent

/-! The reducer of the bot: what of a history and of new turns is sent to the model. -/

namespace BitBrat

open Js Machine

inductive Processor.ChatRole where
  | system
  | user
  | assistant
  | tool
  deriving DecidableEq

structure Processor.ChatMessage where
  role : Processor.ChatRole
  content : String
  createdAt : String
  deriving DecidableEq

structure ReducerLimits where
  maxMessages : Number
  maxChars : Number

structure ReducerResult where
  messages : List Processor.ChatMessage
  trimmedByChars : Nat
  trimmedByCount : Number
  deriving DecidableEq

def contentLength (turn : Processor.ChatMessage) : Nat := (codeUnits turn.content).length

def totalChars (turns : List Processor.ChatMessage) : Nat := (turns.map contentLength).sum

section

variable (existing incoming : List Processor.ChatMessage) (limits : ReducerLimits)

def hasLeadingSystem : Bool := existing.head?.any (·.role = .system)

/-- Drop the oldest turns while they and the system message are too long. -/
def dropOldest (maxChars : Number) (systemChars : Nat) :
    List Processor.ChatMessage → Nat → List Processor.ChatMessage × Nat
  | [], trimmed => ([], trimmed)
  | dropped :: rest, trimmed =>
    if (Number.finite 0).lt maxChars &&
        maxChars.lt (.finite ((systemChars + totalChars (dropped :: rest) : Nat) : ℚ)) then
      dropOldest maxChars systemChars rest (trimmed + contentLength dropped)
    else (dropped :: rest, trimmed)

/-- Leave out of a history, and of what is new, what is too long or too much. -/
def applyMemoryReducer : ReducerResult :=
  let systemMsg := if hasLeadingSystem existing then existing.take 1 else []
  let history := if hasLeadingSystem existing then existing.drop 1 else existing
  let maxChars := Number.max (.finite 0) (limits.maxChars.orElse (.finite 0))
  let (work, trimmedByChars) :=
    dropOldest maxChars (totalChars systemMsg) (history ++ incoming) 0
  let maxMessages := Number.max (.finite 1) (limits.maxMessages.orElse (.finite 1))
  let allowedHistoryCount :=
    if hasLeadingSystem existing then Number.max (.finite 0) (maxMessages.sub (.finite 1))
    else maxMessages
  if allowedHistoryCount.lt (.finite work.length) then
    { messages := systemMsg ++ sliceFrom work allowedHistoryCount.neg
      trimmedByChars
      trimmedByCount := (Number.finite work.length).sub allowedHistoryCount }
  else { messages := systemMsg ++ work, trimmedByChars, trimmedByCount := .finite 0 }

def pinnedMessages : List Processor.ChatMessage := (existing.take 1).filter (·.role = .system)

def trimmableTurns : List Processor.ChatMessage :=
  existing.drop (pinnedMessages existing).length ++ incoming

/-- The number of messages that may be sent: at least one, whatever is asked for. -/
def messageLimit : Number := Number.max (.finite 1) (limits.maxMessages.orElse (.finite 1))

/-- Turns fit beside the pinned message: a positive limit of characters is not exceeded. -/
def fitsChars (kept : List Processor.ChatMessage) : Bool :=
  kept.isEmpty || !((Number.finite 0).lt limits.maxChars &&
    limits.maxChars.lt (.finite (totalChars (pinnedMessages existing ++ kept))))

/-- Turns fit beside the pinned message: there are no more messages than may be sent. -/
def fitsCount (kept : List Processor.ChatMessage) : Bool :=
  kept.isEmpty || Number.le (.finite (pinnedMessages existing ++ kept).length) (messageLimit limits)

/-- The turns are split into those that are too long, those that are too many, and those kept. -/
structure Reduces (result : ReducerResult)
    (byChars byCount kept : List Processor.ChatMessage) : Prop where
  turns : trimmableTurns existing incoming = byChars ++ byCount ++ kept
  messages : result.messages = pinnedMessages existing ++ kept
  longest : IsLongestSuffix (fun some => fitsChars existing limits some &&
    fitsCount existing limits some) (trimmableTurns existing incoming) kept
  chars : IsLongestSuffix (fitsChars existing limits) (trimmableTurns existing incoming)
    (byCount ++ kept)
  trimmedByChars : result.trimmedByChars = totalChars byChars
  trimmedByCount : result.trimmedByCount = .finite byCount.length

/-- What is sent is the pinned message and the longest end of the turns that fits. -/
def ReducerLaw (result : ReducerResult) : Prop :=
  ∃ byChars byCount kept, Reduces existing incoming limits result byChars byCount kept

/-- The limit of messages has room for whole turns, or nothing is left out for their number. -/
def CutsWholeTurns : Prop :=
  (∃ count : Nat, messageLimit limits = .finite count ∧
    (pinnedMessages existing).length < count) ∨
  ∀ kept, kept <:+ trimmableTurns existing incoming → fitsChars existing limits kept = true →
    fitsCount existing limits kept = true

end

section

variable {existing incoming : List Processor.ChatMessage} {limits : ReducerLimits}

@[simp] theorem totalChars_append (first second : List Processor.ChatMessage) :
    totalChars (first ++ second) = totalChars first + totalChars second := by
  simp [totalChars]

theorem pinnedMessages_eq (existing : List Processor.ChatMessage) :
    pinnedMessages existing = if hasLeadingSystem existing then existing.take 1 else [] := by
  cases existing with
  | nil => rfl
  | cons first rest =>
    by_cases pinned : first.role = .system <;> simp [pinnedMessages, hasLeadingSystem, pinned]

theorem length_pinnedMessages (existing : List Processor.ChatMessage) :
    (pinnedMessages existing).length = if hasLeadingSystem existing then 1 else 0 := by
  cases existing with
  | nil => rfl
  | cons first rest =>
    by_cases pinned : first.role = .system <;> simp [pinnedMessages, hasLeadingSystem, pinned]

theorem history_eq (existing : List Processor.ChatMessage) :
    (if hasLeadingSystem existing then existing.drop 1 else existing) =
      existing.drop (pinnedMessages existing).length := by
  rw [length_pinnedMessages]
  split <;> rfl

theorem messageLimit_cases (limits : ReducerLimits) :
    (∃ limit : ℚ, 1 ≤ limit ∧ messageLimit limits = .finite limit) ∨
      messageLimit limits = .infinity false := by
  unfold messageLimit
  cases limits.maxMessages with
  | finite value =>
    rw [Number.orElse_finite]
    split
    · exact Or.inl ⟨1, le_refl 1, by simp⟩
    · exact Or.inl ⟨max 1 value, le_max_left _ _, by simp⟩
  | infinity negative =>
    cases negative
    · exact Or.inr (by simp [Number.orElse, Number.truthy, Number.max, Number.lt])
    · exact Or.inl ⟨1, le_refl 1, by simp [Number.orElse, Number.truthy, Number.max, Number.lt]⟩
  | nan => exact Or.inl ⟨1, le_refl 1, by simp [Number.orElse, Number.truthy]⟩

theorem exceeds_maxChars (maxChars : Number) (total : ℚ) :
    ((Number.finite 0).lt (Number.max (.finite 0) (maxChars.orElse (.finite 0))) &&
      (Number.max (.finite 0) (maxChars.orElse (.finite 0))).lt (.finite total)) =
      ((Number.finite 0).lt maxChars && maxChars.lt (.finite total)) := by
  cases maxChars with
  | finite value =>
    rw [Number.orElse_finite]
    rcases lt_or_ge 0 value with positive | negative
    · simp [positive, positive.ne', positive.le]
    · have zero : Number.max (.finite 0) (if value = 0 then .finite 0 else .finite value) =
          .finite 0 := by
        split <;> simp [negative]
      simp [zero, negative]
  | infinity negative =>
    cases negative <;> simp [Number.orElse, Number.truthy, Number.max, Number.lt]
  | nan => simp [Number.orElse, Number.truthy, Number.lt]

theorem exists_dropOldest (turns : List Processor.ChatMessage) (trimmed : Nat) :
    ∃ dropped, turns = dropped ++ longestSuffix (fitsChars existing limits) turns ∧
      dropOldest (Number.max (.finite 0) (limits.maxChars.orElse (.finite 0)))
        (totalChars (pinnedMessages existing)) turns trimmed =
        (longestSuffix (fitsChars existing limits) turns, trimmed + totalChars dropped) := by
  induction turns generalizing trimmed with
  | nil => exact ⟨[], rfl, rfl⟩
  | cons turn rest ih =>
    have test : fitsChars existing limits (turn :: rest) =
        !((Number.finite 0).lt limits.maxChars && limits.maxChars.lt (.finite
          ((totalChars (pinnedMessages existing) + totalChars (turn :: rest) : Nat)))) := by
      rw [fitsChars, List.isEmpty_cons, Bool.false_or, totalChars_append]
    unfold dropOldest
    rw [exceeds_maxChars]
    by_cases fits : fitsChars existing limits (turn :: rest) = true
    · rw [longestSuffix_eq_self fits]
      rw [test, Bool.not_eq_true'] at fits
      rw [if_neg (by rw [fits]; exact Bool.false_ne_true)]
      exact ⟨[], rfl, by simp [totalChars]⟩
    · obtain ⟨dropped, split, result⟩ := ih (trimmed + contentLength turn)
      rw [longestSuffix, if_neg fits]
      rw [test, Bool.not_eq_true', Bool.not_eq_false] at fits
      rw [if_pos fits, result]
      refine ⟨turn :: dropped, by rw [List.cons_append, ← split], ?_⟩
      simp [totalChars, Nat.add_assoc]

theorem allowedHistoryCount_eq {limit : ℚ} (least : 1 ≤ limit)
    (known : messageLimit limits = .finite limit) :
    (if hasLeadingSystem existing then
      Number.max (.finite 0) ((messageLimit limits).sub (.finite 1)) else messageLimit limits) =
      .finite (limit - (pinnedMessages existing).length) := by
  rw [length_pinnedMessages, known]
  by_cases pinned : hasLeadingSystem existing = true
  · simp [pinned, least]
  · simp [pinned]

theorem exists_applyMemoryReducer (existing incoming : List Processor.ChatMessage)
    (limits : ReducerLimits) :
    ∃ dropped, trimmableTurns existing incoming =
        dropped ++ longestSuffix (fitsChars existing limits) (trimmableTurns existing incoming) ∧
      applyMemoryReducer existing incoming limits =
        let work := longestSuffix (fitsChars existing limits) (trimmableTurns existing incoming)
        let allowed := if hasLeadingSystem existing then
          Number.max (.finite 0) ((messageLimit limits).sub (.finite 1)) else messageLimit limits
        if allowed.lt (.finite work.length) then
          { messages := pinnedMessages existing ++ sliceFrom work allowed.neg
            trimmedByChars := totalChars dropped
            trimmedByCount := (Number.finite work.length).sub allowed }
        else
          { messages := pinnedMessages existing ++ work
            trimmedByChars := totalChars dropped
            trimmedByCount := .finite 0 } := by
  obtain ⟨dropped, split, result⟩ :=
    @exists_dropOldest existing limits (trimmableTurns existing incoming) 0
  refine ⟨dropped, split, ?_⟩
  unfold trimmableTurns at result ⊢
  unfold applyMemoryReducer
  rw [← pinnedMessages_eq, history_eq]
  simp only [result, Nat.zero_add]
  rfl

theorem fitsCount_of_suffix {kept more : List Processor.ChatMessage} (ends : kept <:+ more)
    (fits : fitsCount existing limits more = true) : fitsCount existing limits kept = true := by
  obtain ⟨before, rfl⟩ := ends
  simp only [fitsCount, Bool.or_eq_true, List.isEmpty_iff, List.append_eq_nil_iff] at fits ⊢
  rcases fits with empty | fits
  · exact Or.inl empty.2
  · rcases messageLimit_cases limits with ⟨limit, _, known⟩ | known
    · rw [known, Number.le_finite, decide_eq_true_eq] at fits ⊢
      refine Or.inr (le_trans ?_ fits)
      simp only [List.length_append]
      exact_mod_cast (by omega : (pinnedMessages existing).length + kept.length ≤
        (pinnedMessages existing).length + (before.length + kept.length))
    · exact Or.inr (by rw [known]; rfl)

theorem fitsChars_of_append (before after : List Processor.ChatMessage)
    (fits : fitsChars existing limits (before ++ after) = true) :
    fitsChars existing limits after = true := by
  simp only [fitsChars, Bool.or_eq_true, List.isEmpty_iff, List.append_eq_nil_iff,
    Bool.not_eq_true', Bool.and_eq_false_iff, totalChars_append] at fits ⊢
  rcases fits with empty | unlimited | fits
  · exact Or.inl empty.2
  · exact Or.inr (Or.inl unlimited)
  · refine Or.inr (Or.inr ?_)
    cases known : limits.maxChars with
    | finite limit =>
      rw [known, Number.lt_finite, decide_eq_false_iff_not, not_lt] at fits
      rw [Number.lt_finite, decide_eq_false_iff_not, not_lt]
      refine le_trans ?_ fits
      exact_mod_cast (by omega : totalChars (pinnedMessages existing) + totalChars after ≤
        totalChars (pinnedMessages existing) + (totalChars before + totalChars after))
    | infinity negative =>
      rw [known] at fits
      exact fits
    | nan => rfl

theorem longestSuffix_fits (turns : List Processor.ChatMessage) :
    IsLongestSuffix (fun some => fitsChars existing limits some && fitsCount existing limits some)
      turns (longestSuffix (fitsCount existing limits)
        (longestSuffix (fitsChars existing limits) turns)) := by
  rw [longestSuffix_longestSuffix fitsChars_of_append]
  exact isLongestSuffix rfl turns

theorem fitsCount_iff {limit : ℚ} (least : 1 ≤ limit)
    (known : messageLimit limits = .finite limit) (kept : List Processor.ChatMessage) :
    fitsCount existing limits kept = true ↔
      ¬ limit - (pinnedMessages existing).length < kept.length := by
  have one : ((pinnedMessages existing).length : ℚ) ≤ 1 := by
    rw [length_pinnedMessages]
    split <;> simp
  simp only [fitsCount, known, Number.le_finite, Bool.or_eq_true, List.isEmpty_iff,
    decide_eq_true_eq, List.length_append, Nat.cast_add, not_lt]
  constructor
  · rintro (rfl | fits)
    · simp only [List.length_nil, Nat.cast_zero]
      linarith
    · linarith
  · intro fits
    exact Or.inr (by linarith)

/-- What the code cuts is the longest end that fits exactly if it cuts whole turns. -/
theorem applyMemoryReducer_iff (existing incoming : List Processor.ChatMessage)
    (limits : ReducerLimits) :
    ReducerLaw existing incoming limits (applyMemoryReducer existing incoming limits) ↔
      CutsWholeTurns existing incoming limits := by
  obtain ⟨dropped, split, result⟩ := exists_applyMemoryReducer existing incoming limits
  have chars := @isLongestSuffix _ (fitsChars existing limits) rfl
    (trimmableTurns existing incoming)
  have longest := @longestSuffix_fits existing limits (trimmableTurns existing incoming)
  generalize longestSuffix (fitsChars existing limits) (trimmableTurns existing incoming) =
    work at split result chars longest
  simp only at result
  by_cases fits : fitsCount existing limits work = true
  · -- Nothing is cut for its number.
    have whole : (if hasLeadingSystem existing then
        Number.max (.finite 0) ((messageLimit limits).sub (.finite 1))
        else messageLimit limits).lt (.finite work.length) = false := by
      rcases messageLimit_cases limits with ⟨limit, least, known⟩ | known
      · rw [allowedHistoryCount_eq least known, Number.lt_finite, decide_eq_false_iff_not]
        exact (fitsCount_iff least known work).mp fits
      · rw [known]
        split <;> rfl
    rw [whole, if_neg Bool.false_ne_true] at result
    rw [longestSuffix_eq_self fits] at longest
    refine ⟨fun _ => Or.inr ?_, fun _ => ⟨dropped, [], work, ?_⟩⟩
    · intro kept ends fit
      exact fitsCount_of_suffix (chars.longest kept ends fit) fits
    · rw [result]
      exact ⟨by rw [List.append_nil, ← split], rfl, longest, chars, rfl, rfl⟩
  · rcases messageLimit_cases limits with ⟨limit, least, known⟩ | unlimited
    · have cut : limit - (pinnedMessages existing).length < work.length := by
        rw [fitsCount_iff least known, not_not] at fits
        exact fits
      rw [allowedHistoryCount_eq least known, Number.lt_finite, decide_eq_true cut, if_pos rfl,
        Number.neg_finite, Number.sub_finite] at result
      constructor
      · rintro ⟨byChars, byCount, kept, law⟩
        have parts : byCount ++ kept = work := law.chars.unique chars
        -- The number of turns that are left out is whole, and so is the limit.
        have count : limit = ((pinnedMessages existing).length + kept.length : ℕ) := by
          have trimmed := law.trimmedByCount
          rw [result, ← parts, List.length_append] at trimmed
          have trimmed := Number.finite.inj trimmed
          push_cast at trimmed ⊢
          linarith
        refine Or.inl ⟨(pinnedMessages existing).length + kept.length, by rw [known, count], ?_⟩
        by_contra none_kept
        have empty : kept = [] := List.eq_nil_of_length_eq_zero (by omega)
        subst empty
        -- A slice from zero on cuts nothing.
        have messages := law.messages
        rw [result, count] at messages
        simp only [List.length_nil, Nat.add_zero, sub_self] at messages
        have nothing := List.append_cancel_left messages
        have all := sliceFrom_neg_natCast work 0
        rw [if_pos rfl, Nat.cast_zero] at all
        rw [all] at nothing
        exact fits (by rw [nothing]; rfl)
      · rintro (⟨count, whole, room⟩ | none_cut)
        · obtain rfl : limit = count := Number.finite.inj (known.symm.trans whole)
          have left : (count : ℚ) - (pinnedMessages existing).length =
              ((count - (pinnedMessages existing).length : ℕ) : ℚ) := by
            rw [Nat.cast_sub room.le]
          have test : fitsCount existing limits =
              fun kept => decide (kept.length ≤ count - (pinnedMessages existing).length) := by
            funext kept
            rw [← Bool.coe_iff_coe, fitsCount_iff least known, left, not_lt, Nat.cast_le,
              decide_eq_true_eq]
          have kept_turns : longestSuffix (fitsCount existing limits) work =
              work.drop (work.length - (count - (pinnedMessages existing).length)) := by
            rw [test, longestSuffix_length]
          rw [kept_turns] at longest
          rw [left, Nat.cast_lt] at cut
          rw [left, sliceFrom_neg_natCast, if_neg (by omega)] at result
          -- The code leaves out the turns before the last ones.
          have parts := List.take_append_drop
            (work.length - (count - (pinnedMessages existing).length)) work
          refine ⟨dropped, work.take (work.length - (count - (pinnedMessages existing).length)),
            work.drop (work.length - (count - (pinnedMessages existing).length)), ?_⟩
          rw [result]
          refine ⟨?_, rfl, longest, ?_, rfl, ?_⟩
          · rw [List.append_assoc, parts, ← split]
          · rw [parts]
            exact chars
          · rw [List.length_take, Nat.min_eq_left (Nat.sub_le _ _), Nat.cast_sub cut.le]
        · exact absurd (none_cut work chars.suffix chars.passes) fits
    · exact absurd (by simp [fitsCount, unlimited, Number.le, Number.lt]) fits

end

def pinnedHistory : List Processor.ChatMessage := [
  { role := .system, content := "Be kind.", createdAt := "2024-01-01T00:00:00.000Z" },
  { role := .user, content := "Hello", createdAt := "2024-01-01T00:00:01.000Z" }]

/-- Where only the pinned message may be sent, every turn is sent with it. -/
theorem not_memoryReduced :
    ¬ ∀ (existing incoming : List Processor.ChatMessage) (limits : ReducerLimits),
      ReducerLaw existing incoming limits (applyMemoryReducer existing incoming limits) := by
  intro all
  obtain ⟨byChars, byCount, kept, law⟩ :=
    all pinnedHistory [] { maxMessages := .finite 1, maxChars := .finite 0 }
  have sent : (applyMemoryReducer pinnedHistory []
      { maxMessages := .finite 1, maxChars := .finite 0 }).messages =
      pinnedMessages pinnedHistory ++ pinnedHistory.drop 1 := by decide +kernel
  obtain rfl : kept = pinnedHistory.drop 1 :=
    List.append_cancel_left (law.messages.symm.trans sent)
  exact absurd law.longest.passes (by decide +kernel)

end BitBrat
