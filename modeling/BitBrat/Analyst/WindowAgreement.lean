import BitBrat.Analyst.Engine
import BitBrat.Machine.Run

/-! When the events that are summarized for a window are the events of the window. -/

namespace BitBrat

open Js Machine

inductive AnalystInput where
  | setObserver (id : String) (observer : AnalyzedObserver)
  /-- An event comes in and is stored, unless it is there. -/
  | persist (persisted : PersistedEvent)
  | write (collectionName id : String) (document : Value)
  | close (events : List Event) (observerId requestId : String) (answers : AnalysisAnswers)

/-- The documents whose lines are summarized, unless an earlier summary is returned. -/
def SummarizeOutcome.rows : SummarizeOutcome → Option (List AnalystRow)
  | .skipped _ => none
  | .noEvents => some []
  | .summarized rows _ => some rows

def SummarizeOutcome.ran (observerId : String) : SummarizeOutcome → Bool
  | .summarized _ (some _) => observerId ≠ ""
  | _ => false

def analystStep (env : AnalystEnv) (state : AnalystState) : AnalystInput → AnalystState
  | .setObserver id observer => { state with observers := state.observers.set id observer }
  | .persist persisted =>
    if (state.events.get? persisted.event.correlationId).isSome then state
    else { state with events := state.events.set persisted.event.correlationId persisted }
  | .write collectionName id document =>
    if collectionName = EVENTS_COLLECTION then state
    else { state with others := state.others.set (collectionName, id) document }
  | .close events observerId requestId answers =>
    match state.observers.get? observerId,
      handleWindowClose env state events observerId requestId answers with
    | some observer, some (outcome, runs) =>
      { state with
        runs
        closes := state.closes ++ [{
          observerId
          closedAt := answers.closedAt
          windowMinutes := observer.windowMinutes
          ran := outcome.ran observerId }] }
    | _, _ => state

section

variable (env : AnalystEnv) (state : AnalystState)

def eventRow (entry : String × PersistedEvent) : AnalystRow where
  id := entry.1
  document := entry.2.document
  event := some entry.2

def chatEventType : String := streamEventType env "chat"

def isRecentChat (minutes : Nat) (queriedAt : Int) (persisted : PersistedEvent) : Bool :=
  env.notBefore persisted.ingressAt (toISOString (queriedAt - minutesMs minutes)) ∧
    persisted.event.type = chatEventType env

/-- Only events of the window are summarized, and all of its messages of the last minutes. -/
structure SummarizesWindow (observer : AnalyzedObserver) (queriedAt : Int)
    (rows : List AnalystRow) : Prop where
  sound : ∀ row ∈ rows, ∀ persisted, row.event = some persisted →
    matchesObserver persisted.event observer.toStreamObserver = true
  complete : ∀ entry ∈ state.events.entries,
    matchesObserver entry.2.event observer.toStreamObserver = true →
      isRecentChat env observer.windowMinutes queriedAt entry.2 = true → eventRow entry ∈ rows

def ClosedBefore (observerId : String) (observer : AnalyzedObserver) (closedAt : Int) : Prop :=
  ∃ earlier ∈ state.closes, earlier.observerId = observerId ∧ earlier.closedAt = closedAt ∧
    earlier.windowMinutes = observer.windowMinutes

/-- What is owed to a window when it closes: its own summary, unless that was made before. -/
def WindowAnalysisLaw : AnalystInput → Prop
  | .close events observerId requestId answers =>
    ∀ observer outcome runs, state.observers.get? observerId = some observer →
      handleWindowClose env state events observerId requestId answers = some (outcome, runs) →
        match outcome.rows with
        | none => ClosedBefore state observerId observer answers.closedAt
        | some rows => SummarizesWindow env state observer answers.queriedAt rows
  | _ => True

def RanInStretch (observerId : String) (observer : AnalyzedObserver) (closedAt : Int) : Prop :=
  ∃ earlier ∈ state.closes, earlier.ran = true ∧ earlier.observerId = observerId ∧
    windowStartMs earlier.windowMinutes earlier.closedAt =
      windowStartMs observer.windowMinutes closedAt

/-- The settings of an observer that the engine finds, which it does not without an identifier. -/
def foundObserver (observerId : String) (observer : AnalyzedObserver) : Option AnalyzedObserver :=
  (nonEmpty observerId).map fun _ => observer

/-- The query has conditions that no stored event meets, or is for other documents. -/
def missesEvents (observerId : String) (observer : AnalyzedObserver) : Bool :=
  textOr ((foundObserver observerId observer).bind (·.collection)) EVENTS_COLLECTION ≠
      EVENTS_COLLECTION ∨
    ((foundObserver observerId observer).bind (·.filterEntries)).getD [] ≠ []

def recentChat (minutes : Nat) (queriedAt : Int) : List AnalystRow :=
  ((state.events.entries.filter fun entry => isRecentChat env minutes queriedAt entry.2).map
    eventRow).mergeSort fun left right =>
      env.textLe (right.document.get "ingressAt").toText (left.document.get "ingressAt").toText

def recentTokens (minutes : Nat) (queriedAt : Int) (builtAt : String) : Nat :=
  ((recentChat env state minutes queriedAt).map fun row =>
    lineTokens env builtAt row.document).sum

/-- The query finds the messages of the window, as far as there are any. -/
def QueryAgrees (observerId : String) (observer : AnalyzedObserver) (answers : AnalysisAnswers) :
    Prop :=
  if missesEvents observerId observer then
    ∀ entry ∈ state.events.entries,
      matchesObserver entry.2.event observer.toStreamObserver = true →
        isRecentChat env observer.windowMinutes answers.queriedAt entry.2 = false
  else if observerId ≠ "" then
    recentTokens env state observer.windowMinutes answers.queriedAt answers.builtAt ≤
      BUFFER_MAX_TOKENS
  else
    -- Without its observer, the engine does not know of the filters.
    ∀ entry ∈ state.events.entries,
      isRecentChat env observer.windowMinutes answers.queriedAt entry.2 = true →
        (matchesObserver entry.2.event observer.toStreamObserver = true ↔
          eventRow entry ∈ takeFitting (fun row => lineTokens env answers.builtAt row.document)
            BUFFER_MAX_TOKENS (recentChat env state observer.windowMinutes answers.queriedAt))

/-- The window is analysed afresh over the messages that it is about, or was before. -/
def AnalysisInPlace : AnalystInput → Prop
  | .close events observerId _ answers =>
    ∀ observer, state.observers.get? observerId = some observer → events ≠ [] →
      (RanInStretch state observerId observer answers.closedAt →
        ClosedBefore state observerId observer answers.closedAt) ∧
      (¬ RanInStretch state observerId observer answers.closedAt →
        QueryAgrees env state observerId observer answers)
  | _ => True

end

private theorem AnalyzedObserver.windowMinutes_pos (observer : AnalyzedObserver) :
    0 < observer.windowMinutes := by
  have size : 0 < durationOr (observer.window.map (·.sizeMs)) 300000 :=
    durationOr_pos _ (by decide)
  have positive : (0 : ℚ) < (durationOr (observer.window.map (·.sizeMs)) 300000 : ℚ≥0) / 60000 :=
    div_pos (NNRat.coe_pos.mpr size) (by decide)
  -- Rounding up does not go below what is rounded.
  have rounded : (0 : ℚ) < ((durationOr (observer.window.map (·.sizeMs)) 300000 : ℚ≥0) /
      60000 : ℚ).ceil := lt_of_lt_of_le positive Rat.le_ceil
  have whole := Rat.intCast_pos.mp rounded
  unfold AnalyzedObserver.windowMinutes
  omega

@[simp] theorem minutesOr_windowMinutes (observer : AnalyzedObserver) (fallback : Nat) :
    minutesOr (some observer.windowMinutes) fallback = observer.windowMinutes := by
  simp [minutesOr, observer.windowMinutes_pos.ne']

theorem textOr_ne_empty (text : Option String) {fallback : String} (named : fallback ≠ "") :
    textOr text fallback ≠ "" := by
  cases text with
  | none => exact named
  | some found =>
    simp only [textOr]
    split
    · exact named
    · assumption

section

variable {env : AnalystEnv} {state : AnalystState} {observerId : String}
  {observer : AnalyzedObserver}

theorem passes_document (persisted : PersistedEvent) (minutes : Nat) (queriedAt : Int) :
    ((queryFilters {
        collectionName := EVENTS_COLLECTION
        timeField := "ingressAt"
        startTime := toISOString (queriedAt - minutesMs minutes)
        eventType := some (chatEventType env)
        filters := none }).all (passesFilter env persisted.document)) =
      isRecentChat env minutes queriedAt persisted := by
  have named : chatEventType env ≠ "" := textOr_ne_empty _ (by decide)
  have time : persisted.document.get "ingressAt" = .str persisted.ingressAt := rfl
  have type : persisted.document.get "eventType" = .str persisted.event.type := rfl
  simp [queryFilters, nonEmpty, named, passesFilter, time, type, isRecentChat, Value.toText,
    env.equals_str]

theorem get_filterEntry (persisted : PersistedEvent) {entries : List (String × Value)}
    (set : observer.filterEntries = some entries) {entry : String × Value}
    (member : entry ∈ entries) : persisted.document.get entry.1 = .undefined := by
  obtain ⟨filters, -, rfl⟩ := Option.map_eq_some_iff.mp set
  simp only [List.mem_append, Option.mem_toList, Option.map_eq_some_iff] at member
  rcases member with ((⟨_, -, rfl⟩ | ⟨_, -, rfl⟩) | ⟨_, -, rfl⟩) | ⟨_, -, rfl⟩ <;> rfl

theorem matchesObserver_of_no_entries (event : Event)
    (none_set : observer.filterEntries.getD [] = []) :
    matchesObserver event observer.toStreamObserver = true := by
  unfold matchesObserver
  cases set : observer.source.bind (·.filters) with
  | none => rfl
  | some filters =>
    simp only [AnalyzedObserver.filterEntries, set, Option.map_some, Option.getD_some,
      List.append_eq_nil_iff, Option.toList_eq_nil_iff, Option.map_eq_none_iff] at none_set
    simp [none_set, admits]

theorem bind_get?_eq_foundObserver
    (found : state.observers.get? observerId = some observer) :
    (nonEmpty observerId).bind state.observers.get? = foundObserver observerId observer := by
  unfold nonEmpty foundObserver nonEmpty
  split
  · rfl
  · exact found

theorem stored_of_mem_queryEvents {options : EventQueryOptions} {row : AnalystRow}
    (member : row ∈ DocumentStoreStreamAnalystStore.queryEvents env state options) :
    ∃ stored ∈ state.rows options.collectionName, stored.event = row.event ∧
      ∀ filter ∈ queryFilters options, passesFilter env stored.document filter = true := by
  unfold DocumentStoreStreamAnalystStore.queryEvents at member
  simp only at member
  split at member
  case isTrue logs =>
    -- The shape that a log of a prompt is given does not change what it was stored for.
    obtain ⟨stored, listed, rfl⟩ := List.mem_map.mp member
    obtain ⟨listed, passes⟩ := List.mem_filter.mp (List.mem_mergeSort.mp listed)
    exact ⟨stored, listed, rfl, List.all_eq_true.mp passes⟩
  case isFalse others =>
    obtain ⟨listed, passes⟩ := List.mem_filter.mp (List.mem_mergeSort.mp member)
    exact ⟨row, listed, rfl, List.all_eq_true.mp passes⟩

theorem event_eq_none_of_mem_rows {collectionName : String}
    (other : collectionName ≠ EVENTS_COLLECTION) {row : AnalystRow}
    (listed : row ∈ state.rows collectionName) : row.event = none := by
  unfold AnalystState.rows at listed
  rw [if_neg other] at listed
  obtain ⟨entry, -, rfl⟩ := List.mem_map.mp listed
  rfl

theorem rows_events : state.rows EVENTS_COLLECTION = state.events.entries.map eventRow :=
  if_pos rfl

theorem event_eq_none_of_missesEvents (misses : missesEvents observerId observer = true)
    {requestId : String} {queriedAt : Int} {row : AnalystRow}
    (member : row ∈ queryEvents env state (observer.request observerId requestId)
      (foundObserver observerId observer) queriedAt) : row.event = none := by
  obtain ⟨stored, listed, same, passes⟩ := stored_of_mem_queryEvents member
  rw [← same]
  unfold missesEvents at misses
  by_cases events :
    textOr ((foundObserver observerId observer).bind (·.collection)) EVENTS_COLLECTION =
      EVENTS_COLLECTION
  case neg => exact event_eq_none_of_mem_rows events listed
  case pos =>
    -- The query is for events, so that it has a condition of the observer, which none meets.
    simp only [events, ne_eq, not_true_eq_false, false_or, decide_eq_true_eq] at misses
    simp only [events, rows_events, List.mem_map] at listed
    obtain ⟨⟨id, persisted⟩, -, rfl⟩ := listed
    cases set : (foundObserver observerId observer).bind (·.filterEntries) with
    | none => simp [set] at misses
    | some entries =>
      rw [set, Option.getD_some] at misses
      obtain ⟨entry, listed⟩ := List.exists_mem_of_ne_nil _ misses
      have passed := passes { field := entry.1, operator := .equal, value := entry.2 }
        (List.mem_append_right _ (List.mem_map.mpr ⟨entry, by simpa [set] using listed, rfl⟩))
      obtain ⟨_, found, set⟩ := Option.bind_eq_some_iff.mp set
      obtain ⟨_, -, rfl⟩ := Option.map_eq_some_iff.mp found
      have absent : (eventRow (id, persisted)).document.get entry.1 = .undefined :=
        get_filterEntry persisted set listed
      simp [passesFilter, absent] at passed

theorem queryEvents_eq_recentChat (finds : missesEvents observerId observer = false)
    (requestId : String) (queriedAt : Int) :
    queryEvents env state (observer.request observerId requestId)
        (foundObserver observerId observer) queriedAt =
      recentChat env state observer.windowMinutes queriedAt := by
  unfold missesEvents at finds
  simp only [ne_eq, decide_eq_false_iff_not, not_or, not_not] at finds
  obtain ⟨collection, unset⟩ := finds
  have conditions : queryFilters {
        collectionName := EVENTS_COLLECTION
        timeField := "ingressAt"
        startTime := toISOString (queriedAt - minutesMs observer.windowMinutes)
        eventType := some (chatEventType env)
        filters := ((foundObserver observerId observer).bind (·.filterEntries)).or none } =
      queryFilters {
        collectionName := EVENTS_COLLECTION
        timeField := "ingressAt"
        startTime := toISOString (queriedAt - minutesMs observer.windowMinutes)
        eventType := some (chatEventType env)
        filters := none } := by
    simp only [queryFilters, Option.or_none, unset, Option.getD_none]
  have logs : EVENTS_COLLECTION ≠ "prompt_logs" := by decide
  have type : (((observer.request observerId requestId).streamType.bind nonEmpty).map
      (streamEventType env)) = some (chatEventType env) := rfl
  unfold queryEvents DocumentStoreStreamAnalystStore.queryEvents recentChat
  have minutes : minutesOr (observer.request observerId requestId).windowMinutes 10 =
      observer.windowMinutes := minutesOr_windowMinutes observer 10
  simp only [collection, logs, if_false, type, rows_events, minutes]
  congr 1
  rw [List.filter_map]
  congr 1
  refine List.filter_congr fun entry _ => ?_
  exact (congrArg (fun all => all.all (passesFilter env entry.2.document)) conditions).trans
    (passes_document entry.2 _ _)

theorem eventRow_injective : Function.Injective eventRow := by
  rintro ⟨id, persisted⟩ ⟨otherId, other⟩ same
  unfold eventRow at same
  simp only [AnalystRow.mk.injEq, Option.some.injEq] at same
  exact Prod.ext same.1 same.2.2

theorem nodup_recentChat (minutes : Nat) (queriedAt : Int) :
    (recentChat env state minutes queriedAt).Nodup := by
  unfold recentChat
  rw [(List.mergeSort_perm _ _).nodup_iff]
  exact (state.events.distinct.of_map.filter _).map eventRow_injective

theorem mem_recentChat {minutes : Nat} {queriedAt : Int} {row : AnalystRow} :
    row ∈ recentChat env state minutes queriedAt ↔
      ∃ entry ∈ state.events.entries,
        isRecentChat env minutes queriedAt entry.2 = true ∧ eventRow entry = row := by
  simp [recentChat, and_assoc]

theorem summarizesWindow_recentChat_iff (cost : AnalystRow → Nat) (queriedAt : Int) :
    SummarizesWindow env state observer queriedAt (takeFitting cost BUFFER_MAX_TOKENS
        (recentChat env state observer.windowMinutes queriedAt)) ↔
      ∀ entry ∈ state.events.entries,
        isRecentChat env observer.windowMinutes queriedAt entry.2 = true →
          (matchesObserver entry.2.event observer.toStreamObserver = true ↔
            eventRow entry ∈ takeFitting cost BUFFER_MAX_TOKENS
              (recentChat env state observer.windowMinutes queriedAt)) := by
  constructor
  · intro summarizes entry stored recent
    exact ⟨fun matching => summarizes.complete entry stored matching recent,
      fun member => summarizes.sound _ member _ rfl⟩
  · intro agrees
    refine ⟨fun row member persisted event => ?_, fun entry stored matching recent =>
      (agrees entry stored recent).mp matching⟩
    obtain ⟨entry, stored, recent, rfl⟩ :=
      mem_recentChat.mp ((takeFitting_initial _ _ _).subset member)
    cases event
    exact (agrees entry stored recent).mpr member

theorem recentChat_fits_iff (queriedAt : Int) (builtAt : String) :
    (∀ entry ∈ state.events.entries,
      isRecentChat env observer.windowMinutes queriedAt entry.2 = true →
        eventRow entry ∈ takeFitting (fun row => lineTokens env builtAt row.document)
          BUFFER_MAX_TOKENS (recentChat env state observer.windowMinutes queriedAt)) ↔
      recentTokens env state observer.windowMinutes queriedAt builtAt ≤ BUFFER_MAX_TOKENS := by
  rw [recentTokens, ← subset_takeFitting_iff _ (nodup_recentChat _ _)]
  simp only [mem_recentChat]
  constructor
  · rintro fits row ⟨entry, stored, recent, rfl⟩
    exact fits entry stored recent
  · intro fits entry stored recent
    exact fits _ ⟨entry, stored, recent, rfl⟩

theorem summarizesWindow_iff (requestId : String) (answers : AnalysisAnswers) :
    SummarizesWindow env state observer answers.queriedAt
        (takeFitting (fun row => lineTokens env answers.builtAt row.document) BUFFER_MAX_TOKENS
          (queryEvents env state (observer.request observerId requestId)
            (foundObserver observerId observer) answers.queriedAt)) ↔
      QueryAgrees env state observerId observer answers := by
  unfold QueryAgrees
  split
  case isTrue misses =>
    have unstored : ∀ row ∈ takeFitting (fun row => lineTokens env answers.builtAt row.document)
        BUFFER_MAX_TOKENS (queryEvents env state (observer.request observerId requestId)
          (foundObserver observerId observer) answers.queriedAt), row.event = none :=
      fun row member => event_eq_none_of_missesEvents misses
        ((takeFitting_initial _ _ _).subset member)
    constructor
    · intro summarizes entry stored matching
      by_contra recent
      -- The message would be among documents that were stored for no event.
      have none_stored := unstored _
        (summarizes.complete entry stored matching (Bool.eq_true_of_not_eq_false recent))
      cases none_stored
    · intro unmatched
      refine ⟨fun row member persisted event => ?_, fun entry stored matching recent => ?_⟩
      · rw [unstored row member] at event
        cases event
      · rw [unmatched entry stored matching] at recent
        cases recent
  case isFalse finds =>
    have finds := Bool.eq_false_of_not_eq_true finds
    rw [queryEvents_eq_recentChat finds, summarizesWindow_recentChat_iff]
    split
    case isFalse unnamed => exact Iff.rfl
    case isTrue named =>
      -- The observer has no filters, so that every message is one of its window.
      rw [← recentChat_fits_iff]
      have matching : ∀ event, matchesObserver event observer.toStreamObserver = true := by
        unfold missesEvents foundObserver nonEmpty at finds
        simp only [named, if_false, Option.map_some, Option.bind_some, ne_eq,
          decide_eq_false_iff_not, not_or, not_not] at finds
        exact fun event => matchesObserver_of_no_entries event finds.2
      simp only [matching, true_iff]

theorem handleWindowClose_eq (found : state.observers.get? observerId = some observer)
    {events : List Event} (nonempty : events ≠ []) (requestId : String)
    (answers : AnalysisAnswers) :
    handleWindowClose env state events observerId requestId answers =
      some (summarize env state (observer.request observerId requestId) answers) := by
  have filled : events.isEmpty = false := by simpa using nonempty
  simp [handleWindowClose, found, filled]

variable (env) in
theorem summarize_of_stored (named : observerId ≠ "") (requestId : String)
    {answers : AnalysisAnswers} {run : SummarizationRun}
    (stored : state.runs.get? (idempotencyKey observerId observer.windowMinutes answers.closedAt) =
      some run) :
    (summarize env state (observer.request observerId requestId) answers).1.rows = none ∧
      (summarize env state (observer.request observerId requestId) answers).1.ran observerId =
        false ∧
      (summarize env state (observer.request observerId requestId) answers).2 = state.runs := by
  have requested : (observer.request observerId requestId).observerId.bind nonEmpty =
      some observerId := if_neg named
  have minutes : minutesOr (observer.request observerId requestId).windowMinutes 10 =
      observer.windowMinutes := minutesOr_windowMinutes observer 10
  simp only [summarize, requested, minutes, Option.getD_some, storedRun, stored]
  exact ⟨rfl, rfl, trivial⟩

theorem summarize_of_fresh (found : state.observers.get? observerId = some observer)
    {requestId : String} {answers : AnalysisAnswers}
    (fresh : observerId ≠ "" →
      state.runs.get? (idempotencyKey observerId observer.windowMinutes answers.closedAt) = none) :
    (summarize env state (observer.request observerId requestId) answers).1.rows =
        some (takeFitting (fun row => lineTokens env answers.builtAt row.document)
          BUFFER_MAX_TOKENS (queryEvents env state (observer.request observerId requestId)
            (foundObserver observerId observer) answers.queriedAt)) ∧
      ∀ key, ((summarize env state (observer.request observerId requestId) answers).2.get?
          key).isSome ↔
        (state.runs.get? key).isSome ∨
          ((summarize env state (observer.request observerId requestId) answers).1.ran
            observerId = true ∧
            key = idempotencyKey observerId observer.windowMinutes answers.closedAt) := by
  have minutes : minutesOr (observer.request observerId requestId).windowMinutes 10 =
      observer.windowMinutes := minutesOr_windowMinutes observer 10
  have requested : (observer.request observerId requestId).observerId.bind nonEmpty =
      nonEmpty observerId := rfl
  have unstored : storedRun state (nonEmpty observerId) (idempotencyKey
      ((nonEmpty observerId).getD "manual") observer.windowMinutes answers.closedAt) = none := by
    unfold nonEmpty
    split
    case isTrue unnamed => rfl
    case isFalse named => exact fresh named
  unfold summarize
  simp only [requested, minutes, unstored, bind_get?_eq_foundObserver found]
  split
  case isTrue nothing =>
    rw [nothing]
    exact ⟨rfl, by simp [SummarizeOutcome.ran]⟩
  case isFalse =>
    refine ⟨?_, ?_⟩
    · split <;> rfl
    · intro key
      cases summary : answers.summary with
      | none => simp [SummarizeOutcome.ran]
      | some text =>
        by_cases named : observerId = ""
        · simp [named, nonEmpty, SummarizeOutcome.ran]
        · -- The run is stored under the key, over whatever was there.
          simp only [nonEmpty, named, if_false, Option.getD_some, SummarizeOutcome.ran,
            OrderedMap.get?_set]
          by_cases same : key = idempotencyKey observerId observer.windowMinutes answers.closedAt
          · simp [same, named]
          · simp [same]

variable (env) in
theorem summarize_runs (found : state.observers.get? observerId = some observer)
    (requestId : String) (answers : AnalysisAnswers) (key : String) :
    ((summarize env state (observer.request observerId requestId) answers).2.get? key).isSome ↔
      (state.runs.get? key).isSome ∨
        ((summarize env state (observer.request observerId requestId) answers).1.ran
          observerId = true ∧
          key = idempotencyKey observerId observer.windowMinutes answers.closedAt) := by
  by_cases named : observerId = ""
  · exact (summarize_of_fresh found fun other => absurd named other).2 key
  · cases stored : state.runs.get?
        (idempotencyKey observerId observer.windowMinutes answers.closedAt) with
    | none => exact (summarize_of_fresh found fun _ => stored).2 key
    | some run =>
      obtain ⟨-, ran, kept⟩ :=
        summarize_of_stored env named requestId stored
      simp [ran, kept]

end

theorem idempotencyKey_inj {left right : String} {first second : Nat} {early late : Int} :
    idempotencyKey left first early = idempotencyKey right second late ↔
      left = right ∧ windowStartMs first early = windowStartMs second late := by
  unfold idempotencyKey
  constructor
  · exact colon_toISOString_inj
  · rintro ⟨rfl, same⟩
    rw [same]

structure RunsRecorded (state : AnalystState) : Prop where
  stored : ∀ key, (state.runs.get? key).isSome = true ↔
    ∃ close ∈ state.closes, close.ran = true ∧
      key = idempotencyKey close.observerId close.windowMinutes close.closedAt
  named : ∀ close ∈ state.closes, close.ran = true → close.observerId ≠ ""

section

variable {env : AnalystEnv} {state : AnalystState} {observerId : String}
  {observer : AnalyzedObserver}

private theorem RunsRecorded.isSome_iff (recorded : RunsRecorded state) (closedAt : Int) :
    (state.runs.get? (idempotencyKey observerId observer.windowMinutes closedAt)).isSome = true ↔
      RanInStretch state observerId observer closedAt := by
  rw [recorded.stored]
  unfold RanInStretch
  constructor
  · rintro ⟨close, handled, ran, same⟩
    obtain ⟨id, start⟩ := idempotencyKey_inj.mp same
    exact ⟨close, handled, ran, id.symm, start.symm⟩
  · rintro ⟨close, handled, ran, rfl, start⟩
    exact ⟨close, handled, ran, idempotencyKey_inj.mpr ⟨rfl, start.symm⟩⟩

private theorem SummarizeOutcome.ne_empty_of_ran {outcome : SummarizeOutcome}
    (ran : outcome.ran observerId = true) : observerId ≠ "" := by
  unfold SummarizeOutcome.ran at ran
  split at ran
  · simpa using ran
  · cases ran

theorem RunsRecorded.step (recorded : RunsRecorded state) (input : AnalystInput) :
    RunsRecorded (analystStep env state input) := by
  cases input with
  | setObserver id observer => exact ⟨recorded.stored, recorded.named⟩
  | persist persisted =>
    simp only [analystStep]
    split
    · exact recorded
    · exact ⟨recorded.stored, recorded.named⟩
  | write collectionName id document =>
    simp only [analystStep]
    split
    · exact recorded
    · exact ⟨recorded.stored, recorded.named⟩
  | close events observerId requestId answers =>
    simp only [analystStep]
    split
    case h_2 => exact recorded
    case h_1 observer outcome runs found handled =>
      have nonempty : events ≠ [] := by
        rintro rfl
        simp [handleWindowClose, found] at handled
      rw [handleWindowClose_eq found nonempty, Option.some.injEq] at handled
      have runs_key := summarize_runs env found requestId answers
      rw [handled] at runs_key
      refine ⟨fun key => ?_, fun close member ran => ?_⟩
      · rw [runs_key, recorded.stored]
        simp only [List.mem_append, List.mem_singleton, or_and_right, exists_or, exists_eq_left]
      · rcases List.mem_append.mp member with earlier | last
        · exact recorded.named close earlier ran
        · rw [List.mem_singleton.mp last] at ran ⊢
          exact SummarizeOutcome.ne_empty_of_ran ran

theorem summarize_owed_iff (recorded : RunsRecorded state)
    (found : state.observers.get? observerId = some observer) (requestId : String)
    (answers : AnalysisAnswers) :
    (match (summarize env state (observer.request observerId requestId) answers).1.rows with
      | none => ClosedBefore state observerId observer answers.closedAt
      | some rows => SummarizesWindow env state observer answers.queriedAt rows) ↔
      (RanInStretch state observerId observer answers.closedAt →
        ClosedBefore state observerId observer answers.closedAt) ∧
      (¬ RanInStretch state observerId observer answers.closedAt →
        QueryAgrees env state observerId observer answers) := by
  by_cases ran : RanInStretch state observerId observer answers.closedAt
  · -- The run of the earlier close in the stretch is what is returned.
    obtain ⟨run, stored⟩ := Option.isSome_iff_exists.mp ((recorded.isSome_iff _).mpr ran)
    have named : observerId ≠ "" := by
      obtain ⟨close, handled, made, rfl, -⟩ := ran
      exact recorded.named close handled made
    rw [(summarize_of_stored env named requestId stored).1]
    simp only [ran, true_implies, not_true_eq_false, false_implies, and_true]
  · have fresh := fun stored => ran ((recorded.isSome_iff _).mp stored)
    rw [(summarize_of_fresh found fun _ => Option.not_isSome_iff_eq_none.mp fresh).1]
    simp only [ran, false_implies, not_false_eq_true, true_implies, true_and]
    exact summarizesWindow_iff requestId answers

theorem windowAnalysisLaw_iff (recorded : RunsRecorded state) (input : AnalystInput) :
    WindowAnalysisLaw env state input ↔ AnalysisInPlace env state input := by
  cases input with
  | setObserver id observer => exact Iff.rfl
  | persist persisted => exact Iff.rfl
  | write collectionName id document => exact Iff.rfl
  | close events observerId requestId answers =>
    simp only [WindowAnalysisLaw, AnalysisInPlace]
    by_cases nonempty : events = []
    · -- A window without events is not handled.
      subst nonempty
      simp +contextual [handleWindowClose]
    · refine forall_congr' fun observer => ?_
      constructor
      · intro owed found _
        exact (summarize_owed_iff recorded found requestId answers).mp
          (owed _ _ found (handleWindowClose_eq found nonempty requestId answers))
      · intro inPlace outcome runs found handled
        rw [handleWindowClose_eq found nonempty, Option.some.injEq] at handled
        have owed := (summarize_owed_iff recorded found requestId answers).mpr
          (inPlace found nonempty)
        rwa [handled] at owed

end

theorem RunsRecorded.initial : RunsRecorded {} := by
  constructor <;> simp

theorem RunsRecorded.run (env : AnalystEnv) (inputs : List AnalystInput) :
    RunsRecorded (run (analystStep env) {} inputs) := by
  have all : Along (analystStep env) (fun _ _ => True) {} inputs :=
    along_iff_forall.mpr fun _ _ => trivial
  exact run_invariant RunsRecorded (fun _ input recorded _ => recorded.step input)
    RunsRecorded.initial all

/-- In every run, every window is owed nothing more exactly if every analysis is in place. -/
theorem window_analysis_agrees_iff (env : AnalystEnv) (inputs : List AnalystInput) :
    Along (analystStep env) (WindowAnalysisLaw env) {} inputs ↔
      Along (analystStep env) (AnalysisInPlace env) {} inputs := by
  -- The stored runs are those of the handled closes in every state that is reached.
  exact along_congr RunsRecorded (fun state input recorded _ => recorded.step input)
    (fun state input recorded => windowAnalysisLaw_iff recorded input) RunsRecorded.initial inputs

/-- A database that compares texts, and a tokenizer that counts four characters as a token. -/
def textEnv : AnalystEnv where
  notBefore stored start := decide (start ≤ stored)
  textLe earlier later := decide (earlier ≤ later)
  equals
    | .str stored, .str parameter => decide (stored = parameter)
    | _, _ => false
  redactPII := id
  stringify _ := "{}"
  encodedLength text := (text.length + 3) / 4
  equals_str _ _ := rfl

def platformObserver : AnalyzedObserver where
  id := "moderation"
  active := true
  source := some { filters := some { platforms := some ["twitch"] } }

def platformMessage : PersistedEvent where
  event := {
    correlationId := "c-1"
    type := "chat.message.v1"
    ingress := some {
      ingressAt := "2026-01-01T00:04:00.000Z", source := "twitch", connector := "twitch" } }
  nowIso := "2026-01-01T00:04:00.010Z"
  summaries := { initialSnapshotId := "c-1-initial" }

def platformAnswers : AnalysisAnswers where
  closedAt := 1767225900000
  queriedAt := 1767225900005
  builtAt := "2026-01-01T00:05:00.010Z"
  storedAt := "2026-01-01T00:05:02.000Z"
  summary := some "Quiet."

def platformInputs : List AnalystInput :=
  [.setObserver "moderation" platformObserver, .persist platformMessage]

def platformClose : AnalystInput :=
  .close [platformMessage.event] "moderation" "r-1" platformAnswers

/-- The message is not found, as the query asks the database for its filters as properties. -/
theorem not_window_analysis_agrees :
    ¬ ∀ (env : AnalystEnv) (inputs : List AnalystInput),
      Along (analystStep env) (WindowAnalysisLaw env) {} inputs := by
  intro agrees
  obtain ⟨-, -, owed, -⟩ := agrees textEnv (platformInputs ++ [platformClose])
  -- No run is stored, so that the query has to find the messages of the window.
  have recorded : RunsRecorded (run (analystStep textEnv) {} platformInputs) :=
    RunsRecorded.run textEnv platformInputs
  have inPlace := (windowAnalysisLaw_iff recorded _).mp owed platformObserver rfl (by simp)
  have fresh : ¬ RanInStretch (run (analystStep textEnv) {} platformInputs) "moderation"
      platformObserver platformAnswers.closedAt := by
    rintro ⟨earlier, handled, -⟩
    cases handled
  have finds := inPlace.2 fresh
  have misses : missesEvents "moderation" platformObserver = true := by decide
  have recent : isRecentChat textEnv platformObserver.windowMinutes platformAnswers.queriedAt
      platformMessage = true := by decide +kernel
  rw [QueryAgrees, if_pos misses] at finds
  have lost := finds ("c-1", platformMessage) (List.Mem.head _) (by decide)
  exact absurd recent (Bool.eq_false_iff.mp lost)

end BitBrat
