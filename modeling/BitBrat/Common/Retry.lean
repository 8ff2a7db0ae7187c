import BitBrat.Js.NumberText
import BitBrat.Js.Arithmetic

/-! Calls that are retried after growing delays, and the schedule of such delays. -/

namespace BitBrat

open Js

def minNumber (left right : Number) : Number :=
  if left = .nan ∨ right = .nan then .nan else if right.lt left then right else left

def overflow (value : ℚ) : Number := if value < 2 ^ 1024 then .finite value else .infinity false

def doubled (base : Number) (times : Nat) : Number :=
  match base with
  | .finite base => overflow (base * 2 ^ times)
  | other => other

structure RetryOptions (ε : Type) where
  attempts : Option Number := none
  baseDelayMs : Option Number := none
  maxDelayMs : Option Number := none
  jitter : Option Bool := none
  shouldRetry : Option (ε → Nat → Bool) := none

/-- A call that is retried: its options, what the function does call by call, and the numbers that
are drawn for the delays. -/
structure Retry (ε τ : Type) where
  opts : RetryOptions ε
  fn : Nat → Except ε τ
  random : Nat → ℚ

def retryAsyncOptions {ε : Type} (attempts baseDelayMs maxDelayMs jitterMs : Option Number)
    (shouldRetry : Option (ε → Nat → Bool)) : RetryOptions ε :=
  { attempts, baseDelayMs, maxDelayMs, jitter := some (jitterMs ≠ some (.finite 0)), shouldRetry }

/-- What is seen of a retried call: calls of the function, and timers. -/
inductive RetryEvent where
  | call
  | sleep (ms : ℤ)
  deriving DecidableEq

/-- A retried call on its way: the loop, what has happened, and how it was settled. -/
structure RetryRun (ε τ : Type) where
  i : Nat := 0
  lastErr : Option ε := none
  events : List RetryEvent := []
  settled : Option (Except (Option ε) τ) := none

namespace Retry

variable {ε τ : Type} (retry : Retry ε τ)

def attempts : Number := Number.max (.finite 1) (retry.opts.attempts.getD (.finite 5))

def base : Number := Number.max (.finite 1) (retry.opts.baseDelayMs.getD (.finite 250))

def cap : Number := Number.max retry.base (retry.opts.maxDelayMs.getD (.finite 5000))

/-- Whether an error is one that the options refuse to retry after. -/
def refuses (error : ε) (attempt : Nat) : Bool :=
  retry.opts.shouldRetry.any fun shouldRetry => !shouldRetry error attempt

def delay (i : Nat) : Number :=
  let delay := minNumber retry.cap (doubled retry.base i)
  if retry.opts.jitter ≠ some false then
    let jittered := match delay with
      | .finite delay => (overflow (delay * (1 / 2 + retry.random i))).floor
      | other => other
    minNumber retry.cap jittered
  else delay

def sleepMs : Number → ℤ
  | .finite ms => max 1 ⌈ms⌉
  | _ => 1

def step (run : RetryRun ε τ) : RetryRun ε τ :=
  if run.settled.isSome then run
  else if (Number.finite run.i).lt retry.attempts then
    let events := run.events ++ [.call]
    match retry.fn run.i with
    | .ok value => { run with events, settled := some (.ok value) }
    | .error error =>
      if retry.refuses error (run.i + 1) || .finite run.i = retry.attempts.sub (.finite 1) then
        { run with lastErr := some error, events, settled := some (.error (some error)) }
      else
        { i := run.i + 1, lastErr := some error
          events := events ++ [.sleep (sleepMs (retry.delay run.i))], settled := none }
  else { run with settled := some (.error run.lastErr) }

def withBackoff : Nat → RetryRun ε τ
  | 0 => {}
  | rounds + 1 => retry.step (withBackoff rounds)

end Retry

/-- Calls and timers in turn, from a call on. -/
def InTurn : List RetryEvent → Prop
  | [] => True
  | [event] => event = .call
  | .call :: .sleep _ :: rest => InTurn rest
  | _ => False

/-- What a retried call promises after some rounds. -/
structure RetryLaw {ε τ : Type} (retry : Retry ε τ) (rounds : Nat) (run : RetryRun ε τ) :
    Prop where
  called : 0 < rounds → .call ∈ run.events
  bounded : retry.attempts.lt (.finite (run.events.count .call)) = false
  resolved : ∀ value, run.settled = some (.ok value) → ∃ k, run.events.count .call = k + 1 ∧
    retry.fn k = .ok value ∧ ∀ j < k, ∃ error, retry.fn j = .error error
  stopped : ∀ j error, retry.fn j = .error error → retry.refuses error (j + 1) = true →
    run.events.count .call ≤ j + 1
  rejected : ∀ reason, run.settled = some (.error reason) → ∃ k error,
    run.events.count .call = k + 1 ∧ retry.fn k = .error error ∧ reason = some error
  inTurn : InTurn run.events
  between : run.settled.isSome → ∀ ms, run.events.getLast? ≠ some (.sleep ms)
  capped : ∀ ms, .sleep ms ∈ run.events → 1 ≤ ms ∧
    ∀ cap, retry.cap = .finite cap → ms ≤ ⌈cap⌉

/-- A call after which the loop ends whatever its bound. -/
def Retry.Ends {ε τ : Type} (retry : Retry ε τ) (k : Nat) : Prop :=
  ∀ error, retry.fn k = .error error → retry.refuses error (k + 1) = true

/-- The number of attempts is whole or infinite, or the loop ends before it counts. -/
def Retry.CountsWhole {ε τ : Type} (retry : Retry ε τ) : Prop :=
  retry.attempts ≠ .nan ∧ ∀ bound, retry.attempts = .finite bound →
    (∃ calls : Nat, bound = calls) ∨ ∃ k : Nat, (k + 1 : ℚ) ≤ bound ∧ retry.Ends k

namespace Retry

variable {ε τ : Type} {retry : Retry ε τ}

/-- The loop goes on after a call. -/
def Retried (retry : Retry ε τ) (k : Nat) : Prop :=
  (Number.finite k).lt retry.attempts = true ∧ ∃ error, retry.fn k = .error error ∧
    retry.refuses error (k + 1) = false ∧ .finite (k : ℚ) ≠ retry.attempts.sub (.finite 1)

/-- The calls before a round, and the timers after them. -/
def rounds (retry : Retry ε τ) (k : Nat) : List RetryEvent :=
  (List.range k).flatMap fun j => [.call, .sleep (sleepMs (retry.delay j))]

structure Going (retry : Retry ε τ) (k : Nat) (run : RetryRun ε τ) : Prop where
  retried : ∀ j < k, retry.Retried j
  i : run.i = k
  events : run.events = retry.rounds k
  settled : run.settled = none

structure Ended (retry : Retry ε τ) (k : Nat) (run : RetryRun ε τ) : Prop where
  retried : ∀ j < k, retry.Retried j
  allowed : (Number.finite k).lt retry.attempts = true
  events : run.events = retry.rounds k ++ [.call]
  last : ¬ retry.Retried k
  settled : (∃ value, retry.fn k = .ok value ∧ run.settled = some (.ok value)) ∨
    ∃ error, retry.fn k = .error error ∧ run.settled = some (.error (some error))

structure Exhausted (retry : Retry ε τ) (k : Nat) (run : RetryRun ε τ) : Prop where
  retried : ∀ j < k, retry.Retried j
  exhausted : (Number.finite k).lt retry.attempts = false
  events : run.events = retry.rounds k
  settled : run.settled.isSome

theorem rounds_succ (k : Nat) :
    retry.rounds (k + 1) = retry.rounds k ++ [.call, .sleep (sleepMs (retry.delay k))] := by
  simp [rounds, List.range_succ]

theorem count_rounds (k : Nat) : (retry.rounds k).count .call = k := by
  induction k with
  | zero => rfl
  | succ k ih => simp [rounds_succ, ih]

theorem going_step {k : Nat} {run : RetryRun ε τ} (going : Going retry k run) :
    Going retry (k + 1) (retry.step run) ∨ Ended retry k (retry.step run) ∨
      Exhausted retry k (retry.step run) := by
  unfold step
  rw [if_neg (by simp [going.settled]), going.i]
  split
  case isFalse bound =>
    exact .inr (.inr ⟨going.retried, by simpa using bound, going.events, rfl⟩)
  case isTrue allowed =>
    cases outcome : retry.fn k with
    | ok value =>
      exact .inr (.inl ⟨going.retried, allowed, by simp [going.events], by simp [Retried, outcome],
        .inl ⟨value, outcome, rfl⟩⟩)
    | error error =>
      dsimp only
      split
      case isTrue final =>
        refine .inr (.inl ⟨going.retried, allowed, by simp [going.events], ?_,
          .inr ⟨error, outcome, rfl⟩⟩)
        rintro ⟨_, other, same, accepted, more⟩
        cases outcome.symm.trans same
        simp [accepted, more] at final
      case isFalse again =>
        simp only [Bool.or_eq_true, decide_eq_true_eq, not_or, Bool.not_eq_true] at again
        refine .inl ⟨?_, rfl, by simp [rounds_succ, going.events], rfl⟩
        intro j below
        rcases Nat.lt_succ_iff_lt_or_eq.mp below with earlier | rfl
        · exact going.retried j earlier
        · exact ⟨allowed, error, outcome, again⟩

theorem step_of_settled {run : RetryRun ε τ} (settled : run.settled.isSome) :
    retry.step run = run := if_pos settled

theorem withBackoff_cases (n : Nat) : Going retry n (retry.withBackoff n) ∨
    ∃ k < n, Ended retry k (retry.withBackoff n) ∨ Exhausted retry k (retry.withBackoff n) := by
  induction n with
  | zero => exact .inl ⟨by simp, rfl, rfl, rfl⟩
  | succ n ih =>
    rw [withBackoff]
    rcases ih with going | ⟨k, below, ended | exhausted⟩
    · rcases going_step going with going | done
      · exact .inl going
      · exact .inr ⟨n, n.lt_succ_self, done⟩
    · have settled : (retry.withBackoff n).settled.isSome := by
        rcases ended.settled with ⟨_, _, settled⟩ | ⟨_, _, settled⟩ <;> simp [settled]
      rw [step_of_settled settled]
      exact .inr ⟨k, below.trans n.lt_succ_self, .inl ended⟩
    · rw [step_of_settled exhausted.settled]
      exact .inr ⟨k, below.trans n.lt_succ_self, .inr exhausted⟩

@[simp] theorem minNumber_finite (left right : ℚ) :
    minNumber (.finite left) (.finite right) = .finite (min left right) := by
  rcases lt_or_ge right left with below | above
  · simp [minNumber, below, below.le]
  · simp [minNumber, above, above.not_gt]

@[simp] private theorem minNumber_infinity_finite (right : ℚ) :
    minNumber (.infinity false) (.finite right) = .finite right := rfl

@[simp] private theorem minNumber_finite_infinity (left : ℚ) :
    minNumber (.finite left) (.infinity false) = .finite left := rfl

@[simp] private theorem minNumber_infinity :
    minNumber (.infinity false) (.infinity false) = .infinity false := rfl

theorem max_finite_cases (least : ℚ) (number : Number) :
    Number.max (.finite least) number = .nan ∨
      Number.max (.finite least) number = .infinity false ∨
      ∃ value, least ≤ value ∧ Number.max (.finite least) number = .finite value := by
  cases number with
  | finite value => exact .inr (.inr ⟨_, le_max_left least value, Number.max_finite least value⟩)
  | infinity negative =>
    cases negative
    · exact .inr (.inl (by simp [Number.max, Number.lt]))
    · exact .inr (.inr ⟨least, le_rfl, by simp [Number.max, Number.lt]⟩)
  | nan => exact .inl (by simp [Number.max])

/-- The first delay and the cap are at least one, where they are numbers at all. -/
theorem base_cap_cases {base cap : Number} (first second : Number)
    (base_eq : base = Number.max (.finite 1) first) (cap_eq : cap = Number.max base second) :
    cap = .nan ∨ (base = .infinity false ∧ cap = .infinity false) ∨
      ∃ least, 1 ≤ least ∧ base = .finite least ∧
        (cap = .infinity false ∨ ∃ greatest, least ≤ greatest ∧ cap = .finite greatest) := by
  rcases max_finite_cases 1 first with nan | infinite | ⟨least, above, finite⟩
  · rw [nan] at base_eq
    exact .inl (by simp [cap_eq, base_eq, Number.max])
  · rw [infinite] at base_eq
    cases second with
    | infinity negative => cases negative <;> simp [cap_eq, base_eq, Number.max, Number.lt]
    | _ => simp [cap_eq, base_eq, Number.max, Number.lt]
  · rw [finite] at base_eq
    rw [base_eq] at cap_eq
    rcases max_finite_cases least second with nan | others
    · exact .inl (cap_eq.trans nan)
    · exact .inr (.inr ⟨least, above, base_eq, cap_eq ▸ others⟩)

theorem cap_cases {base cap : Number} (first second : Number)
    (base_eq : base = Number.max (.finite 1) first) (cap_eq : cap = Number.max base second) :
    cap = .nan ∨ cap = .infinity false ∨ ∃ greatest, 1 ≤ greatest ∧ cap = .finite greatest := by
  rcases base_cap_cases first second base_eq cap_eq with nan | ⟨_, infinite⟩ |
    ⟨least, above, _, infinite | ⟨greatest, order, finite⟩⟩
  · exact .inl nan
  · exact .inr (.inl infinite)
  · exact .inr (.inl infinite)
  · exact .inr (.inr ⟨greatest, above.trans order, finite⟩)

theorem one_le_cap {cap : ℚ} (finite : retry.cap = .finite cap) : 1 ≤ cap := by
  rcases @cap_cases retry.base retry.cap _ _ rfl rfl with nan | infinite | ⟨_, least, greatest⟩
  · cases nan.symm.trans finite
  · cases infinite.symm.trans finite
  · cases greatest.symm.trans finite
    exact least

theorem sleepMs_delay (i : Nat) : 1 ≤ sleepMs (retry.delay i) ∧
    ∀ cap, retry.cap = .finite cap → sleepMs (retry.delay i) ≤ ⌈cap⌉ := by
  refine ⟨?_, fun cap finite => ?_⟩
  · cases retry.delay i <;> simp [sleepMs]
  · have least : (1 : ℤ) ≤ ⌈cap⌉ := by
      have above := (one_le_cap finite).trans (Int.le_ceil cap)
      exact_mod_cast above
    -- Either way the delay is the lesser of the cap and another number.
    have lesser (number : Number) : sleepMs (minNumber (.finite cap) number) ≤ ⌈cap⌉ := by
      unfold minNumber
      split
      · exact least
      · split
        · rename_i below
          cases number with
          | finite value =>
            exact max_le least (Int.ceil_le_ceil (of_decide_eq_true below).le)
          | _ => exact least
        · exact max_le least le_rfl
    unfold delay
    rw [finite]
    dsimp only
    split
    · exact lesser _
    · exact lesser _

theorem one_le_of_attempts {bound : ℚ} (finite : retry.attempts = .finite bound) :
    1 ≤ bound := by
  rcases max_finite_cases 1 (retry.opts.attempts.getD (.finite 5)) with
    nan | infinite | ⟨value, least, value_eq⟩
  · cases nan.symm.trans finite
  · cases infinite.symm.trans finite
  · cases value_eq.symm.trans finite
    exact least

theorem succ_le_bound (whole : retry.CountsWhole) {k : Nat}
    (retried : ∀ j < k, retry.Retried j) {bound : ℚ} (finite : retry.attempts = .finite bound) :
    (k + 1 : ℚ) ≤ bound := by
  rcases whole.2 bound finite with ⟨calls, rfl⟩ | ⟨e, within, ends⟩
  · have some_call : k < calls := by
      cases k with
      | zero => exact_mod_cast zero_lt_one.trans_le (one_le_of_attempts finite)
      | succ j =>
        obtain ⟨below, _, _, _, more⟩ := retried j j.lt_succ_self
        rw [finite, Number.lt_finite, decide_eq_true_eq] at below
        rw [finite, Number.sub_finite] at more
        have before : j < calls := by exact_mod_cast below
        have other : j + 1 ≠ calls := by
          rintro rfl
          exact more (by simp)
        omega
    exact_mod_cast some_call
  · have later : k ≤ e := by
      by_contra earlier
      obtain ⟨_, error, failed, accepted, _⟩ := retried e (by omega)
      rw [ends error failed] at accepted
      cases accepted
    have above : (k : ℚ) ≤ e := by exact_mod_cast later
    linarith

theorem inTurn_append {tail : List RetryEvent} (turn : InTurn tail) (k : Nat) :
    InTurn (retry.rounds k ++ tail) := by
  have general : ∀ places : List Nat, InTurn ((places.flatMap fun j =>
      [.call, .sleep (sleepMs (retry.delay j))]) ++ tail) := by
    intro places
    induction places with
    | nil => exact turn
    | cons place rest ih => exact ih
  exact general (List.range k)

theorem capped_rounds {k : Nat} {ms : ℤ} (slept : .sleep ms ∈ retry.rounds k) :
    1 ≤ ms ∧ ∀ cap, retry.cap = .finite cap → ms ≤ ⌈cap⌉ := by
  obtain ⟨j, _, here⟩ := List.mem_flatMap.mp slept
  obtain rfl : ms = sleepMs (retry.delay j) := by simpa using here
  exact sleepMs_delay j

theorem retryLaw_of_countsWhole (whole : retry.CountsWhole) (n : Nat) :
    RetryLaw retry n (retry.withBackoff n) := by
  have within {k : Nat} (retried : ∀ j < k, retry.Retried j) {calls : Nat} (few : calls ≤ k + 1) :
      retry.attempts.lt (.finite calls) = false := by
    cases attempts_eq : retry.attempts with
    | finite bound =>
      have room := succ_le_bound whole retried attempts_eq
      have few' : (calls : ℚ) ≤ k + 1 := by exact_mod_cast few
      simpa using few'.trans room
    | infinity negative =>
      rcases max_finite_cases 1 (retry.opts.attempts.getD (.finite 5)) with
        nan | infinite | ⟨_, _, finite⟩
      · cases nan.symm.trans attempts_eq
      · cases infinite.symm.trans attempts_eq
        rfl
      · cases finite.symm.trans attempts_eq
    | nan => exact absurd attempts_eq whole.1
  rcases @withBackoff_cases _ _ retry n with going | ⟨k, _, ended | exhausted⟩
  · have count : (retry.withBackoff n).events.count .call = n := by
      rw [going.events, count_rounds]
    refine ⟨fun some_round => ?_, ?_, ?_, ?_, ?_, ?_, ?_, ?_⟩
    · exact List.count_pos_iff.mp (by rw [count]; exact some_round)
    · rw [count]
      exact within going.retried (Nat.le_succ n)
    · simp [going.settled]
    · intro j error failed refused
      rw [count]
      by_contra more
      obtain ⟨_, other, same, accepted, _⟩ := going.retried j (by omega)
      cases failed.symm.trans same
      rw [refused] at accepted
      cases accepted
    · simp [going.settled]
    · simpa [going.events] using @inTurn_append _ _ retry [] trivial n
    · simp [going.settled]
    · exact fun ms slept => capped_rounds (going.events ▸ slept)
  · have count : (retry.withBackoff n).events.count .call = k + 1 := by
      simp [ended.events, count_rounds]
    refine ⟨fun _ => by simp [ended.events], count ▸ within ended.retried le_rfl, ?_, ?_, ?_, ?_,
      by simp [ended.events], ?_⟩
    · intro value resolved
      refine ⟨k, count, ?_, fun j below => ?_⟩
      · rcases ended.settled with ⟨other, outcome, settled⟩ | ⟨_, _, settled⟩
        · cases settled.symm.trans resolved
          exact outcome
        · cases settled.symm.trans resolved
      · obtain ⟨_, error, failed, _⟩ := ended.retried j below
        exact ⟨error, failed⟩
    · intro j error failed refused
      rw [count]
      by_contra more
      obtain ⟨_, other, same, accepted, _⟩ := ended.retried j (by omega)
      cases failed.symm.trans same
      rw [refused] at accepted
      cases accepted
    · intro reason rejected
      rcases ended.settled with ⟨_, _, settled⟩ | ⟨error, outcome, settled⟩
      · cases settled.symm.trans rejected
      · cases settled.symm.trans rejected
        exact ⟨k, error, count, outcome, rfl⟩
    · exact ended.events ▸ @inTurn_append _ _ retry [.call] rfl k
    · intro ms slept
      rw [ended.events] at slept
      exact capped_rounds (by simpa using slept)
  · -- With room for another call the bound does not end the loop.
    have room : (Number.finite k).lt retry.attempts = true := by
      cases attempts_eq : retry.attempts with
      | finite bound =>
        have above := succ_le_bound whole exhausted.retried attempts_eq
        simp only [Number.lt_finite, decide_eq_true_eq]
        linarith
      | infinity negative =>
        have no_room := within exhausted.retried (Nat.zero_le _)
        rw [attempts_eq] at no_room
        cases negative
        · rfl
        · cases no_room
      | nan => exact absurd attempts_eq whole.1
    rw [exhausted.exhausted] at room
    cases room

theorem retryLaw_iff :
    (∀ n, RetryLaw retry n (retry.withBackoff n)) ↔ retry.CountsWhole := by
  refine ⟨fun law => ⟨fun nan => ?_, fun bound finite => ?_⟩, retryLaw_of_countsWhole⟩
  · have called := (law 1).called one_pos
    simp [withBackoff, step, nan, Number.lt] at called
  · by_contra broken
    obtain ⟨uncounted, unended⟩ := not_or.mp broken
    -- Every call within the bound is retried, and one more is made.
    have retried : ∀ j < ⌊bound⌋₊, retry.Retried j := by
      intro j below
      have within : (j + 1 : ℚ) ≤ bound := by
        have floored : ((j + 1 : ℕ) : ℚ) ≤ bound := (Nat.le_floor_iff' (by omega)).mp below
        exact_mod_cast floored
      have goes_on : ¬ retry.Ends j := fun ends => unended ⟨j, within, ends⟩
      unfold Ends at goes_on
      push Not at goes_on
      obtain ⟨error, failed, accepted⟩ := goes_on
      refine ⟨?_, error, failed, by simpa using accepted, ?_⟩
      · rw [finite, Number.lt_finite, decide_eq_true_eq]
        linarith
      · rw [finite, Number.sub_finite]
        rintro same
        have whole : bound = ((j + 1 : ℕ) : ℚ) := by
          push_cast
          linarith [Number.finite.inj same]
        exact uncounted ⟨_, whole⟩
    have made : ⌊bound⌋₊ + 1 ≤ (retry.withBackoff (⌊bound⌋₊ + 1)).events.count .call := by
      rcases @withBackoff_cases _ _ retry (⌊bound⌋₊ + 1) with
        going | ⟨k, below, ended | exhausted⟩
      · rw [going.events, count_rounds]
      · have last : k = ⌊bound⌋₊ := by
          by_contra other
          exact ended.last (retried k (by omega))
        simp [ended.events, count_rounds, last]
      · by_cases last : k = ⌊bound⌋₊
        · have reached := exhausted.exhausted
          rw [finite, Number.lt_finite, decide_eq_false_iff_not, not_lt] at reached
          have floored := Nat.floor_le (zero_le_one.trans (one_le_of_attempts finite))
          exact absurd ⟨k, le_antisymm reached (last ▸ floored)⟩ uncounted
        · have more := (retried k (by omega)).1
          rw [exhausted.exhausted] at more
          cases more
    have bounded := (law (⌊bound⌋₊ + 1)).bounded
    rw [finite, Number.lt_finite, decide_eq_false_iff_not, not_lt] at bounded
    have beyond := (Nat.le_floor_iff' (by omega)).mpr bounded
    omega

end Retry

/-- The arguments of a schedule, and the numbers that are drawn for it. -/
structure BackoffArgs where
  attempts : Number
  baseDelayMs : Number := .finite 250
  maxDelayMs : Number := .finite 5000
  jitterRatio : Number := .finite (1 / 2)
  random : Nat → ℚ

namespace BackoffArgs

variable (args : BackoffArgs)

def count : Number := Number.max (.finite 0) args.attempts.floor

def base : Number := Number.max (.finite 1) args.baseDelayMs.floor

def cap : Number := Number.max args.base args.maxDelayMs.floor

def jr : Number := Number.max (.finite 0) (minNumber (.finite 1) args.jitterRatio)

def ideal (i : Nat) : Number := minNumber args.cap (doubled args.base i)

def entry (i : Nat) : Number :=
  if args.jr = .finite 0 then args.ideal i
  else
    match args.ideal i, args.jr with
    | .finite ideal, .finite jr =>
      let jitter := ideal * jr
      let val := (overflow (ideal + (args.random i * 2 * jitter - jitter))).floor
      Number.max (.finite 1) (minNumber args.cap val)
    -- Infinite jitter is subtracted from itself.
    | _, _ => .nan

def computeBackoffSchedule : Option (List Number) :=
  match args.count with
  | .finite count => some ((List.range ⌊count⌋.toNat).map args.entry)
  | .infinity _ => none
  | .nan => some []

/-- Every entry lies between one and the cap, and they are ordered where there is no jitter. -/
def Lawful : Prop :=
  ∀ entries ∈ args.computeBackoffSchedule,
    (∀ delay ∈ entries, Number.le (.finite 1) delay ∧ Number.le delay args.cap) ∧
      (args.jr = .finite 0 → entries.Pairwise fun earlier later => Number.le earlier later)

/-- No option is not-a-number where it counts, and no delay with jitter is infinite. -/
def Regular (i : Nat) : Prop :=
  args.cap ≠ .nan ∧ (args.jr = .finite 0 ∨ (args.jr ≠ .nan ∧ ((∃ cap, args.cap = .finite cap) ∨
    ∃ base, args.base = .finite base ∧ base * 2 ^ i < 2 ^ 1024)))

variable {args}

theorem ideal_cases (number : args.cap ≠ .nan) (i : Nat) :
    (∃ delay, 1 ≤ delay ∧ args.ideal i = .finite delay ∧ Number.le (.finite delay) args.cap ∧
      ((∃ cap, args.cap = .finite cap) ∨
        ∃ base, args.base = .finite base ∧ base * 2 ^ i < 2 ^ 1024)) ∨
    (args.ideal i = .infinity false ∧ args.cap = .infinity false ∧
      ∀ base, args.base = .finite base → ¬ base * 2 ^ i < 2 ^ 1024) := by
  unfold ideal
  rcases @Retry.base_cap_cases args.base args.cap _ _ rfl rfl with
    nan | ⟨infinite, cap_eq⟩ | ⟨base, least, base_eq, cap_cases⟩
  · exact absurd nan number
  · exact .inr ⟨by rw [infinite, cap_eq]; rfl, cap_eq, by simp [infinite]⟩
  · have grown : 1 ≤ base * 2 ^ i := one_le_mul_of_one_le_of_one_le least (one_le_pow₀ one_le_two)
    rw [base_eq]
    rcases cap_cases with infinite | ⟨cap, above, cap_eq⟩
    · rw [infinite]
      by_cases small : base * 2 ^ i < 2 ^ 1024
      · exact .inl ⟨_, grown, by simp [doubled, overflow, small], rfl, .inr ⟨base, rfl, small⟩⟩
      · exact .inr ⟨by simp [doubled, overflow, small], rfl, by simpa using small⟩
    · rw [cap_eq]
      have bounded : 1 ≤ cap := least.trans above
      by_cases small : base * 2 ^ i < 2 ^ 1024
      · exact .inl ⟨min cap (base * 2 ^ i), le_min bounded grown,
          by simp [doubled, overflow, small], by simp, .inl ⟨cap, rfl⟩⟩
      · exact .inl ⟨cap, bounded, by simp [doubled, overflow, small], by simp, .inl ⟨cap, rfl⟩⟩

theorem jr_cases : args.jr = .nan ∨ ∃ jr, args.jr = .finite jr := by
  unfold jr
  cases args.jitterRatio with
  | finite ratio => exact .inr ⟨_, by rw [Retry.minNumber_finite, Number.max_finite]⟩
  | infinity negative =>
    cases negative
    · exact .inr ⟨_, by rw [Retry.minNumber_finite_infinity, Number.max_finite]⟩
    · exact .inr ⟨0, by simp [minNumber, Number.max, Number.lt]⟩
  | nan => exact .inl (by simp [minNumber, Number.max])

theorem clamped (number : args.cap ≠ .nan) (value : ℚ) :
    Number.le (.finite 1)
        (Number.max (.finite 1) (minNumber args.cap (overflow value).floor)) ∧
      Number.le (Number.max (.finite 1) (minNumber args.cap (overflow value).floor))
        args.cap := by
  have value_cases : (∃ floored, (overflow value).floor = .finite floored) ∨
      (overflow value).floor = .infinity false := by
    unfold overflow
    split
    · exact .inl ⟨_, rfl⟩
    · exact .inr rfl
  rcases (@Retry.cap_cases args.base args.cap _ _ rfl rfl).resolve_left number with
    infinite | ⟨cap, least, cap_eq⟩
  · rcases value_cases with ⟨floored, value_eq⟩ | value_eq
    · simp [infinite, value_eq, Number.le, Number.lt]
    · simp [infinite, value_eq, Number.max, Number.le, Number.lt]
  · rcases value_cases with ⟨floored, value_eq⟩ | value_eq <;> simp [cap_eq, value_eq, least]

theorem entry_between_iff (i : Nat) :
    (Number.le (.finite 1) (args.entry i) ∧ Number.le (args.entry i) args.cap) ↔
      args.Regular i := by
  by_cases number : args.cap = .nan
  · simp [Regular, number, Number.le]
  unfold entry Regular
  rw [and_iff_right number]
  rcases ideal_cases number i with ⟨delay, least, delay_eq, below, finite⟩ |
    ⟨infinite, cap_eq, large⟩
  · by_cases still : args.jr = .finite 0
    · exact iff_of_true ⟨by simp [still, delay_eq, least], by simpa [still, delay_eq] using below⟩
        (.inl still)
    · rcases @jr_cases args with nan | ⟨jr, jr_eq⟩
      · simp [nan, delay_eq, Number.le]
      · rw [if_neg still, delay_eq, jr_eq]
        exact iff_of_true (clamped number _) (.inr ⟨by simp, finite⟩)
  · by_cases still : args.jr = .finite 0
    · exact iff_of_true (by simp [still, infinite, cap_eq, Number.le, Number.lt]) (.inl still)
    · refine iff_of_false (by simp [still, infinite, Number.le]) ?_
      rintro (zero | ⟨_, ⟨cap, finite⟩ | ⟨base, base_eq, small⟩⟩)
      · exact still zero
      · cases cap_eq.symm.trans finite
      · exact large base base_eq small

theorem ideal_mono (number : args.cap ≠ .nan) {i j : Nat} (order : i ≤ j) :
    Number.le (args.ideal i) (args.ideal j) := by
  unfold ideal
  rcases @Retry.base_cap_cases args.base args.cap _ _ rfl rfl with
    nan | ⟨infinite, cap_eq⟩ | ⟨base, least, base_eq, cap_cases⟩
  · exact absurd nan number
  · rw [infinite, cap_eq]
    rfl
  · have grows : base * 2 ^ i ≤ base * 2 ^ j :=
      mul_le_mul_of_nonneg_left (pow_le_pow_right₀ one_le_two order) (zero_le_one.trans least)
    rw [base_eq]
    simp only [doubled, overflow]
    -- Where the later product is small enough, the earlier one is.
    by_cases early : base * 2 ^ i < 2 ^ 1024
    · by_cases late : base * 2 ^ j < 2 ^ 1024
      · rcases cap_cases with infinite | ⟨cap, _, cap_eq⟩
        · simp [*]
        · rw [cap_eq, if_pos early, if_pos late]
          simp [grows]
      · rcases cap_cases with infinite | ⟨cap, _, cap_eq⟩ <;> simp [*, Number.le, Number.lt]
    · have late : ¬ base * 2 ^ j < 2 ^ 1024 := fun small => early (grows.trans_lt small)
      rcases cap_cases with infinite | ⟨cap, _, cap_eq⟩ <;> simp [*, Number.le, Number.lt]

theorem lawful_iff : args.Lawful ↔
    ∀ bound, args.count = .finite bound → ∀ i : Nat, i < ⌊bound⌋.toNat → args.Regular i := by
  unfold Lawful computeBackoffSchedule
  cases count_eq : args.count with
  | finite count =>
    simp only [Option.mem_def, Option.some.injEq, forall_eq', List.mem_map, List.mem_range,
      Number.finite.injEq]
    constructor
    · intro law i below
      exact (entry_between_iff i).mp (law.1 _ ⟨i, below, rfl⟩)
    · intro regular
      refine ⟨?_, fun still => List.pairwise_map.mpr ?_⟩
      · rintro _ ⟨i, below, rfl⟩
        exact (entry_between_iff i).mpr (regular i below)
      · refine List.pairwise_lt_range.imp_of_mem fun {i j} first _ order => ?_
        have number := (regular i (List.mem_range.mp first)).1
        simpa [entry, still] using ideal_mono number order.le
  | infinity negative => simp
  | nan => simp

end BackoffArgs

end BitBrat
