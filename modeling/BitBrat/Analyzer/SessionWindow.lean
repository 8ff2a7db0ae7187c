import BitBrat.Machine.Groups
import BitBrat.Machine.Run
import BitBrat.Types.Observer

/-! Session windows: what they hand to their callback, and the sessions that the events form. -/

namespace BitBrat

open Machine

inductive SessionInput where
  | event (event : Event)
  | elapse (ms : ℚ≥0)
  | settle (succeeds : Bool)

/-- A session window with its buffer, its debounce timer, and what it has handed out. -/
structure SessionWindow where
  arrays : List (List Event)
  accumulator : Nat
  currentBuffer : Nat
  idle : Option ℚ≥0
  pending : Nat
  closed : List (List Event)

/-- The gap that ends a session, one minute by default. -/
def StreamObserver.sessionGapMs (observer : StreamObserver) : ℚ≥0 :=
  durationOr (observer.window.bind (·.sessionGapMs)) 60000

def createSessionWindow : SessionWindow where
  arrays := [[]]
  accumulator := 0
  currentBuffer := 0
  idle := none
  pending := 0
  closed := []

/-- Hand a copy of the accumulated events to the callback, unless there are none. -/
def SessionWindow.close (window : SessionWindow) : SessionWindow :=
  match window.arrays[window.accumulator]? with
  -- No callback is made for an empty window.
  | none | some [] => { window with idle := none }
  | some events =>
    { window with
      idle := none
      pending := window.pending + 1
      closed := window.closed ++ [events] }

def SessionWindow.step (observer : StreamObserver) (window : SessionWindow) :
    SessionInput → SessionWindow
  | .event event =>
    if matchesObserver event observer then
      -- The event is pushed onto the array in place, and the debounce starts anew.
      { window with
        arrays := window.arrays.modify window.accumulator (· ++ [event])
        idle := some 0 }
    else window
  | .elapse ms =>
    match window.idle with
    | none => window
    | some idle =>
      -- The debounce fires once, and then waits for the next event.
      if observer.sessionGapMs ≤ idle + ms then window.close
      else { window with idle := some (idle + ms) }
  | .settle succeeds =>
    if window.pending = 0 then window
    else if succeeds then
      -- The variable gets a new array, of which the scan knows nothing.
      { window with
        arrays := window.arrays ++ [[]]
        currentBuffer := window.arrays.length
        pending := window.pending - 1 }
    -- A callback that fails leaves the variable as it is.
    else { window with pending := window.pending - 1 }

structure Sightings where
  now : ℚ≥0
  events : List (ℚ≥0 × Event)

def Sightings.none : Sightings where
  now := 0
  events := []

def Sightings.step (observer : StreamObserver) (sightings : Sightings) : SessionInput → Sightings
  | .event event =>
    if matchesObserver event observer then
      { sightings with events := sightings.events ++ [(sightings.now, event)] }
    else sightings
  | .elapse ms => { sightings with now := sightings.now + ms }
  | .settle _ => sightings

def withinGap (gap : ℚ≥0) (earlier later : ℚ≥0 × Event) : Bool := later.1 < earlier.1 + gap

def sessionOver (gap now : ℚ≥0) (session : List (ℚ≥0 × Event)) : Bool :=
  session.getLast?.any fun last => last.1 + gap ≤ now

/-- The maximal runs of matching events with gaps below the limit, as far as they are over. -/
def sessions (observer : StreamObserver) (inputs : List SessionInput) : List (List Event) :=
  let seen := run (Sightings.step observer) .none inputs
  let runs := seen.events.splitBy (withinGap observer.sessionGapMs)
  (runs.filter (sessionOver observer.sessionGapMs seen.now)).map (·.map Prod.snd)

/-- The window hands out exactly the sessions, in order. -/
def SessionsPartition (observer : StreamObserver) (inputs : List SessionInput) : Prop :=
  (run (SessionWindow.step observer) createSessionWindow inputs).closed = sessions observer inputs

/-- The sessions that the window has closed, which leave out the one it is waiting for. -/
def closedRuns (gap : ℚ≥0) (window : SessionWindow) (seen : Sightings) :
    List (List (ℚ≥0 × Event)) :=
  match window.idle with
  | none => seen.events.splitBy (withinGap gap)
  | some _ => (seen.events.splitBy (withinGap gap)).dropLast

/-- The window has accumulated whatever it has seen, and hands all of it out each time. -/
structure Follows (gap : ℚ≥0) (window : SessionWindow) (seen : Sightings) : Prop where
  buffered : window.arrays[window.accumulator]? = some (seen.events.map Prod.snd)
  waiting : ∀ idle, window.idle = some idle →
    idle < gap ∧ ∃ last, seen.events.getLast? = some last ∧ last.1 + idle = seen.now
  passed : ∀ session ∈ closedRuns gap window seen, sessionOver gap seen.now session = true
  closed : window.closed = runningConcats [] ((closedRuns gap window seen).map (·.map Prod.snd))

section

variable {observer : StreamObserver} {gap : ℚ≥0} {window : SessionWindow} {seen : Sightings}

theorem sessionOver_mono {now later : ℚ≥0} (order : now ≤ later)
    {session : List (ℚ≥0 × Event)} (ended : sessionOver gap now session = true) :
    sessionOver gap later session = true := by
  simp only [sessionOver, Option.any_eq_true, decide_eq_true_eq] at ended ⊢
  obtain ⟨last, at_end, passed⟩ := ended
  exact ⟨last, at_end, passed.trans order⟩

private theorem Follows.last_over (follows : Follows gap window seen) (at_rest : window.idle = none)
    {last : ℚ≥0 × Event} (ends : seen.events.getLast? = some last) :
    last.1 + gap ≤ seen.now := by
  obtain ⟨groups, group, split, at_end⟩ := splitBy_eq_append (withinGap gap) ends
  -- The last session is among those that are over.
  have ended := follows.passed group (by simp [closedRuns, at_rest, split])
  simpa [sessionOver, at_end] using ended

private theorem Follows.closedRuns_event (follows : Follows gap window seen) (event : Event)
    {after : SessionWindow} (waits : after.idle = some 0) :
    closedRuns gap after { seen with events := seen.events ++ [(seen.now, event)] } =
      closedRuns gap window seen := by
  simp only [closedRuns, waits]
  cases ends : seen.events.getLast? with
  | none =>
    -- The first event of all starts the first session.
    rw [List.getLast?_eq_none_iff] at ends
    have alone : ([] ++ [(seen.now, event)]).splitBy (withinGap gap) = [[(seen.now, event)]] := rfl
    rw [ends, alone]
    cases window.idle <;> rfl
  | some last =>
    cases at_window : window.idle with
    | none =>
      -- Behind the gap a new session starts, and the last one stays closed.
      have far : withinGap gap last (seen.now, event) = false := by
        simpa [withinGap] using follows.last_over at_window ends
      rw [splitBy_append_far ends far, List.dropLast_concat]
    | some idle =>
      -- Within the gap the open session goes on.
      obtain ⟨within, other, other_ends, at_now⟩ := follows.waiting idle at_window
      rw [ends] at other_ends
      cases other_ends
      have close : withinGap gap last (seen.now, event) = true := by
        simp only [withinGap, decide_eq_true_eq, ← at_now]
        exact add_lt_add_right within last.1
      obtain ⟨groups, group, split, -, grown⟩ := splitBy_append_near ends close
      rw [grown, split, List.dropLast_concat, List.dropLast_concat]

theorem Follows.event (follows : Follows gap window seen) (positive : 0 < gap) (event : Event) :
    Follows gap
      { window with
        arrays := window.arrays.modify window.accumulator (· ++ [event])
        idle := some 0 }
      { seen with events := seen.events ++ [(seen.now, event)] } where
  buffered := by
    rw [List.getElem?_modify_eq, follows.buffered]
    simp
  waiting idle waits := by
    cases waits
    exact ⟨positive, (seen.now, event), by simp, by simp⟩
  passed := by
    rw [follows.closedRuns_event event rfl]
    exact follows.passed
  closed := by
    rw [follows.closedRuns_event event rfl]
    exact follows.closed

theorem Follows.later (follows : Follows gap window seen) (ms : ℚ≥0)
    (waiting : ∀ idle, window.idle = some idle → idle + ms < gap) :
    Follows gap { window with idle := window.idle.map (· + ms) }
      { seen with now := seen.now + ms } := by
  -- Time moves neither an event nor a closed session.
  have same : closedRuns gap { window with idle := window.idle.map (· + ms) }
      { seen with now := seen.now + ms } = closedRuns gap window seen := by
    simp only [closedRuns]
    cases window.idle <;> rfl
  refine ⟨follows.buffered, ?_, ?_, ?_⟩
  · intro waited waits
    obtain ⟨idle, at_window, rfl⟩ := Option.map_eq_some_iff.mp waits
    obtain ⟨-, last, ends, at_now⟩ := follows.waiting idle at_window
    refine ⟨waiting idle at_window, last, ends, ?_⟩
    rw [← at_now, add_assoc]
  · rw [same]
    exact fun session is_closed => sessionOver_mono le_self_add (follows.passed session is_closed)
  · rw [same]
    exact follows.closed

private theorem Follows.fire (follows : Follows gap window seen) {idle ms : ℚ≥0}
    (at_window : window.idle = some idle) (fires : gap ≤ idle + ms) :
    Follows gap window.close { seen with now := seen.now + ms } := by
  -- The session waited for is the last of all, and is over now.
  obtain ⟨-, last, ends, at_now⟩ := follows.waiting idle at_window
  obtain ⟨groups, group, split, at_end⟩ := splitBy_eq_append (withinGap gap) ends
  have whole : seen.events = (groups ++ [group]).flatten := by
    rw [← split, List.flatten_splitBy]
  have before : window.closed = runningConcats [] (groups.map (·.map Prod.snd)) := by
    have closed := follows.closed
    simpa only [closedRuns, at_window, split, List.dropLast_concat] using closed
  -- There is at least the last event to hand out.
  have stepped : window.close =
      { window with
        idle := none
        pending := window.pending + 1
        closed := window.closed ++ [seen.events.map Prod.snd] } := by
    have some_events : seen.events ≠ [] := by
      rintro none_seen
      simp [none_seen] at ends
    obtain ⟨first, rest, listed⟩ := List.exists_cons_of_ne_nil some_events
    simp only [SessionWindow.close, follows.buffered, listed, List.map_cons]
  rw [stepped]
  constructor
  · exact follows.buffered
  · intro waited waits
    cases waits
  · intro session is_closed
    simp only [closedRuns, split, List.mem_append, List.mem_singleton] at is_closed
    rcases is_closed with earlier | rfl
    · -- The earlier sessions were over before.
      refine sessionOver_mono le_self_add (follows.passed session ?_)
      simpa only [closedRuns, at_window, split, List.dropLast_concat] using earlier
    · -- The gap has passed since the last event.
      simp only [sessionOver, at_end, Option.any_some, decide_eq_true_eq, ← at_now, add_assoc]
      exact add_le_add_right fires last.1
  · simp only [closedRuns, split, List.map_append, List.map_singleton]
    rw [runningConcats_append, ← before, whole, List.map_flatten]
    simp

theorem Follows.elapse (follows : Follows observer.sessionGapMs window seen) (ms : ℚ≥0) :
    Follows observer.sessionGapMs (window.step observer (.elapse ms))
      (seen.step observer (.elapse ms)) := by
  -- Either nothing is waited for, or the debounce fires, or it goes on waiting.
  simp only [SessionWindow.step, Sightings.step]
  cases at_window : window.idle with
  | none =>
    -- Nothing is waited for.
    obtain ⟨arrays, accumulator, currentBuffer, idle, pending, closed⟩ := window
    cases at_window
    exact follows.later ms fun idle waits => by cases waits
  | some idle =>
    by_cases fires : observer.sessionGapMs ≤ idle + ms
    · simp only [if_pos fires]
      exact follows.fire at_window fires
    · -- The debounce goes on waiting.
      simp only [if_neg fires]
      have later := follows.later ms fun other waits => by
        rw [at_window] at waits
        cases waits
        exact not_le.mp fires
      rwa [at_window] at later

theorem Follows.settle (follows : Follows gap window seen) (succeeds : Bool) :
    Follows gap (window.step observer (.settle succeeds))
      (seen.step observer (.settle succeeds)) := by
  simp only [SessionWindow.step, Sightings.step]
  split_ifs
  · exact follows
  · -- The new array stands behind the accumulator, which is in its old place.
    refine ⟨?_, follows.waiting, follows.passed, follows.closed⟩
    rw [List.getElem?_append_left (List.getElem?_eq_some_iff.mp follows.buffered).choose]
    exact follows.buffered
  · exact ⟨follows.buffered, follows.waiting, follows.passed, follows.closed⟩

end

private theorem StreamObserver.sessionGapMs_pos (observer : StreamObserver) :
    0 < observer.sessionGapMs :=
  durationOr_pos _ (by decide +kernel)

theorem follows_run (observer : StreamObserver) (inputs : List SessionInput) :
    Follows observer.sessionGapMs
      (run (SessionWindow.step observer) createSessionWindow inputs)
      (run (Sightings.step observer) .none inputs) := by
  -- Each input keeps the window and the sightings together.
  have step (window : SessionWindow) (seen : Sightings) (input : SessionInput)
      (follows : Follows observer.sessionGapMs window seen) :
      Follows observer.sessionGapMs (window.step observer input) (seen.step observer input) := by
    cases input with
    | event event =>
      by_cases admitted : matchesObserver event observer
      · simp only [SessionWindow.step, Sightings.step, if_pos admitted]
        exact follows.event observer.sessionGapMs_pos event
      · simp only [SessionWindow.step, Sightings.step, if_neg admitted]
        exact follows
    | elapse ms => exact follows.elapse ms
    | settle succeeds => exact follows.settle succeeds
  -- Nothing has been seen, and nothing has been closed.
  have initial : Follows observer.sessionGapMs createSessionWindow .none := by
    refine ⟨rfl, ?_, ?_, rfl⟩
    · intro idle waits
      cases waits
    · intro session is_closed
      cases is_closed
  have always : Along (SessionWindow.step observer) (fun _ _ => True) createSessionWindow inputs :=
    along_iff_forall.mpr fun _ _ => trivial
  -- The window and the sightings go through the same inputs together.
  exact run_simulation (fun window seen input follows _ => step window seen input follows) initial
    always

private theorem Follows.sessions_eq {gap : ℚ≥0} {window : SessionWindow} {seen : Sightings}
    (follows : Follows gap window seen) :
    (seen.events.splitBy (withinGap gap)).filter (sessionOver gap seen.now) =
      closedRuns gap window seen := by
  have ended := follows.passed
  simp only [closedRuns] at ended ⊢
  cases at_window : window.idle with
  | none =>
    simp only [at_window] at ended
    exact List.filter_eq_self.mpr ended
  | some idle =>
    -- The session that the window is waiting for is not over.
    obtain ⟨within, last, ends, at_now⟩ := follows.waiting idle at_window
    obtain ⟨groups, group, split, at_end⟩ := splitBy_eq_append (withinGap gap) ends
    have goes_on : sessionOver gap seen.now group = false := by
      simp only [sessionOver, at_end, Option.any_some, decide_eq_false_iff_not, not_le, ← at_now]
      exact add_lt_add_right within last.1
    simp only [at_window, split, List.dropLast_concat] at ended ⊢
    rw [List.filter_append, List.filter_eq_self.mpr ended]
    simp [goes_on]

/--
A session window hands out the sessions exactly as long as at most one of them is over.

The array that its scan accumulates is never emptied.
-/
theorem sessionsPartition_iff (observer : StreamObserver) (inputs : List SessionInput) :
    SessionsPartition observer inputs ↔ (sessions observer inputs).length ≤ 1 := by
  -- The window hands out the running concatenations of the sessions that are over.
  have follows := follows_run observer inputs
  have same : sessions observer inputs = (closedRuns observer.sessionGapMs
      (run (SessionWindow.step observer) createSessionWindow inputs)
      (run (Sightings.step observer) .none inputs)).map (·.map Prod.snd) := by
    rw [sessions, follows.sessions_eq]
  rw [SessionsPartition, follows.closed, ← same]
  refine runningConcats_eq_self_iff ?_
  -- No session is empty.
  simp only [sessions, List.mem_map, List.mem_filter, List.map_eq_nil_iff, not_exists, not_and]
  rintro session ⟨is_run, -⟩ rfl
  exact List.nil_notMem_splitBy _ _ is_run

def sessionObserver : StreamObserver where
  id := "observer-1"
  active := true
  source := some { topics := some ["internal.contextualization.v1"] }
  window := some { type := .session, sizeMs := (300000 : ℕ), sessionGapMs := some (1000 : ℕ) }

def streamEvent (correlationId : String) : Event where
  correlationId
  type := "chat.message.v1"

/-- The second session is handed out with the events of the first one. -/
theorem sessions_run_on :
    ¬ ∀ (observer : StreamObserver) (inputs : List SessionInput),
      SessionsPartition observer inputs := by
  intro partition
  have law := partition sessionObserver
    [.event (streamEvent "e-1"), .elapse 1000, .settle true, .event (streamEvent "e-2"),
      .elapse 1000]
  -- Two sessions of one event each are over.
  have short := (sessionsPartition_iff _ _).mp law
  revert short
  decide +kernel

end BitBrat
