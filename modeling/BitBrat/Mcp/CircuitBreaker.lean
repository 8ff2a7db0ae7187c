import BitBrat.Machine.Run

/-! Calls to one server behind a circuit breaker, in between each other's starts and ends. -/

namespace BitBrat

/-- The options of the calls to a server, where a zero has been replaced by the default. -/
structure ProxyInvokerOptions where
  failureThreshold : Nat := 2
  resetTimeoutMs : Nat := 120000
  positive : 0 < failureThreshold := by decide

inductive CircuitStatus where
  | closed
  | open
  | halfOpen
  deriving DecidableEq

structure CircuitState where
  state : CircuitStatus := .closed
  consecutiveFailures : Nat := 0
  lastFailureAt : Option Nat := none
  deriving DecidableEq

inductive UpstreamOutcome where
  | result
  | toolError
  | transportFailure
  | upstreamTimeout
  | callerAbort
  deriving DecidableEq

/-- Only a result that is not an error is a success. -/
def UpstreamOutcome.succeeded (outcome : UpstreamOutcome) : Bool := outcome = .result

structure UpstreamCall where
  started : Nat
  probe : Bool
  deriving DecidableEq

/-- The breaker of a server and its calls, with what has happened so far. -/
structure ProxyInvoker where
  circuit : CircuitState := {}
  clock : Nat
  calls : List UpstreamCall := []
  inputs : Nat := 0
  completed : List UpstreamOutcome := []
  reached : List CircuitStatus := []
  openedBy : Nat := 0
  closings : List (Nat × Nat) := []

inductive InvokerInput where
  | elapse (duration : Nat)
  | call
  | complete (index : Nat) (outcome : UpstreamOutcome)
  deriving DecidableEq

namespace CircuitState

def elapsed (resetTimeoutMs : Nat) (circuit : CircuitState) (now : Nat) : Bool :=
  now - circuit.lastFailureAt.getD 0 > resetTimeoutMs

/-- The circuit after the check of a call, if the call is let through. -/
def check (resetTimeoutMs : Nat) (circuit : CircuitState) (now : Nat) : Option CircuitState :=
  if circuit.state = .open then
    if circuit.elapsed resetTimeoutMs now then some { circuit with state := .halfOpen } else none
  -- A circuit that is half open lets every call through.
  else some circuit

def recordFailure (failureThreshold : Nat) (circuit : CircuitState) (now : Nat) : CircuitState :=
  let consecutiveFailures := circuit.consecutiveFailures + 1
  { state := if consecutiveFailures ≥ failureThreshold then .open else circuit.state
    consecutiveFailures
    lastFailureAt := some now }

def recordSuccess (circuit : CircuitState) : CircuitState :=
  { circuit with state := .closed, consecutiveFailures := 0 }

end CircuitState

namespace ProxyInvoker

/-- The first half of a call, up to the request to the server. -/
def call (options : ProxyInvokerOptions) (invoker : ProxyInvoker) : ProxyInvoker :=
  match invoker.circuit.check options.resetTimeoutMs invoker.clock with
  | none => invoker
  | some circuit =>
    { invoker with
      circuit
      calls := invoker.calls ++ [{ started := invoker.inputs, probe := circuit.state ≠ .closed }]
      reached := invoker.reached ++ [circuit.state] }

/-- The second half of a call: what comes back, or that nothing did. -/
def complete (options : ProxyInvokerOptions) (invoker : ProxyInvoker) (index : Nat)
    (outcome : UpstreamOutcome) : ProxyInvoker :=
  match invoker.calls[index]? with
  | none => invoker
  | some call =>
    let invoker := { invoker with
      calls := invoker.calls.eraseIdx index
      completed := outcome :: invoker.completed }
    if outcome.succeeded then
      { invoker with
        circuit := invoker.circuit.recordSuccess
        closings := if invoker.circuit.state = .closed then invoker.closings
          else invoker.closings ++ [(invoker.openedBy, call.started)] }
    else
      let circuit := invoker.circuit.recordFailure options.failureThreshold invoker.clock
      { invoker with
        circuit
        openedBy := if circuit.state = .open ∧ invoker.circuit.state ≠ .open then invoker.inputs
          else invoker.openedBy }

def step (options : ProxyInvokerOptions) (invoker : ProxyInvoker) (input : InvokerInput) :
    ProxyInvoker :=
  let invoker := { invoker with inputs := invoker.inputs + 1 }
  match input with
  | .elapse duration => { invoker with clock := invoker.clock + duration }
  | .call => invoker.call options
  | .complete index outcome => invoker.complete options index outcome

end ProxyInvoker

/-! When a circuit is open, who is let through, and what closes it. -/

open Machine

namespace ProxyInvoker

/-- As many calls as the threshold says have come back, and the last of them all failed. -/
def LastFailed (options : ProxyInvokerOptions) (invoker : ProxyInvoker) : Prop :=
  options.failureThreshold ≤ invoker.completed.length ∧
    ∀ outcome ∈ invoker.completed.take options.failureThreshold, outcome.succeeded = false

def probes (invoker : ProxyInvoker) : List UpstreamCall := invoker.calls.filter (·.probe)

structure BreakerLaw (options : ProxyInvokerOptions) (invoker : ProxyInvoker) : Prop where
  opened : invoker.LastFailed options →
    invoker.circuit.elapsed options.resetTimeoutMs invoker.clock = false →
    invoker.circuit.state = .open
  guarded : .open ∉ invoker.reached
  oneProbe : invoker.probes.length ≤ 1
  /-- What closes the circuit is a call that was started after it had opened. -/
  closed : ∀ closing ∈ invoker.closings, closing.1 < closing.2

/-- No call is made while another one probes the server, and no call that is older than the opening
of the circuit succeeds before the circuit is closed. -/
def ProbesAlone (options : ProxyInvokerOptions) (invoker : ProxyInvoker) : InvokerInput → Prop
  | .call => invoker.circuit.state ≠ .halfOpen ∧
      (invoker.circuit.state = .open →
        invoker.circuit.elapsed options.resetTimeoutMs invoker.clock →
          ∀ call ∈ invoker.calls, call.probe = false)
  | .complete index outcome => outcome.succeeded → invoker.circuit.state ≠ .closed →
      ∀ call ∈ invoker.calls[index]?, invoker.openedBy < call.started
  | .elapse _ => True

/-- The breaker knows how many calls have failed in a row, and when the last one did. -/
structure Counted (options : ProxyInvokerOptions) (invoker : ProxyInvoker) : Prop where
  failures : invoker.circuit.consecutiveFailures =
    (invoker.completed.takeWhile (!·.succeeded)).length
  closed : invoker.circuit.state = .closed ↔
    invoker.circuit.consecutiveFailures < options.failureThreshold
  /-- The circuit is half open from the end of the timeout until some call comes back. -/
  elapsed : invoker.circuit.state = .halfOpen →
    invoker.circuit.elapsed options.resetTimeoutMs invoker.clock
  probing : invoker.circuit.state = .halfOpen → ∃ call ∈ invoker.calls, call.probe
  guarded : .open ∉ invoker.reached

section

variable {options : ProxyInvokerOptions} {invoker : ProxyInvoker}

private theorem LastFailed.le_takeWhile (failed : invoker.LastFailed options) :
    options.failureThreshold ≤ (invoker.completed.takeWhile (!·.succeeded)).length := by
  obtain ⟨enough, all⟩ := failed
  -- The prefix is taken whole, since each of its outcomes is a failure.
  have taken : ∀ outcome ∈ invoker.completed.take options.failureThreshold,
      (!outcome.succeeded) = true := fun outcome member => by rw [all outcome member]; rfl
  rw [← List.take_append_drop options.failureThreshold invoker.completed,
    List.takeWhile_append_of_pos taken, List.length_append, List.length_take]
  omega

theorem Counted.opened (counted : invoker.Counted options) (failed : invoker.LastFailed options)
    (early : invoker.circuit.elapsed options.resetTimeoutMs invoker.clock = false) :
    invoker.circuit.state = .open := by
  have many : ¬ invoker.circuit.consecutiveFailures < options.failureThreshold := by
    rw [counted.failures]
    exact Nat.not_lt.mpr failed.le_takeWhile
  cases status : invoker.circuit.state with
  | closed => exact absurd (counted.closed.mp status) many
  | «open» => rfl
  | halfOpen =>
    rw [counted.elapsed status] at early
    cases early

theorem elapsed_mono {circuit : CircuitState} {resetTimeoutMs now later : Nat}
    (order : now ≤ later) (elapsed : circuit.elapsed resetTimeoutMs now) :
    circuit.elapsed resetTimeoutMs later := by
  unfold CircuitState.elapsed at *
  simp only [gt_iff_lt, decide_eq_true_eq] at *
  omega

theorem check_cases (resetTimeoutMs : Nat) (circuit : CircuitState) (now : Nat) :
    (circuit.state = .open ∧ circuit.elapsed resetTimeoutMs now = false ∧
        circuit.check resetTimeoutMs now = none) ∨
      (circuit.state = .open ∧ circuit.elapsed resetTimeoutMs now = true ∧
        circuit.check resetTimeoutMs now = some { circuit with state := .halfOpen }) ∨
      (circuit.state ≠ .open ∧ circuit.check resetTimeoutMs now = some circuit) := by
  by_cases isOpen : circuit.state = .open
  · cases elapsed : circuit.elapsed resetTimeoutMs now with
    | false => exact .inl ⟨isOpen, rfl, by simp [CircuitState.check, isOpen, elapsed]⟩
    | true => exact .inr (.inl ⟨isOpen, rfl, by simp [CircuitState.check, isOpen, elapsed]⟩)
  · exact .inr (.inr ⟨isOpen, by simp [CircuitState.check, isOpen]⟩)

theorem Counted.call (counted : invoker.Counted options) :
    (invoker.call options).Counted options := by
  unfold ProxyInvoker.call
  rcases check_cases options.resetTimeoutMs invoker.circuit invoker.clock with
    ⟨_, _, refused⟩ | ⟨isOpen, elapsed, probe⟩ | ⟨notOpen, passed⟩
  · rw [refused]
    exact counted
  · -- The circuit was open, and the call probes the server.
    rw [probe]
    refine ⟨counted.failures, ?_, fun _ => elapsed, fun _ => ?_, ?_⟩
    · have open' := counted.closed
      rw [isOpen] at open'
      exact ⟨nofun, fun few => nomatch open'.mpr few⟩
    · exact ⟨_, List.mem_append_right _ (List.mem_singleton_self _), rfl⟩
    · intro member
      rcases List.mem_append.mp member with earlier | last
      · exact counted.guarded earlier
      · cases List.mem_singleton.mp last
  · -- The circuit stays as it is, which is not open.
    rw [passed]
    refine ⟨counted.failures, counted.closed, counted.elapsed, fun half => ?_, ?_⟩
    · obtain ⟨call, member, probe⟩ := counted.probing half
      exact ⟨call, List.mem_append_left _ member, probe⟩
    · intro member
      rcases List.mem_append.mp member with earlier | last
      · exact counted.guarded earlier
      · exact notOpen (List.mem_singleton.mp last).symm

theorem Counted.complete (counted : invoker.Counted options) (index : Nat)
    (outcome : UpstreamOutcome) : (invoker.complete options index outcome).Counted options := by
  unfold ProxyInvoker.complete
  split
  · exact counted
  · cases succeeded : outcome.succeeded with
    | true =>
      -- A success starts the count again, below the threshold.
      refine ⟨?_, ⟨fun _ => options.positive, fun _ => rfl⟩, nofun, nofun, counted.guarded⟩
      simp [CircuitState.recordSuccess, succeeded]
    | false =>
      have counts : invoker.circuit.consecutiveFailures + 1 =
          ((outcome :: invoker.completed).takeWhile (!·.succeeded)).length := by
        rw [List.takeWhile_cons_of_pos (by rw [succeeded]; rfl), List.length_cons,
          counted.failures]
      -- One more failure opens the circuit, or leaves a closed one closed.
      by_cases many : options.failureThreshold ≤ invoker.circuit.consecutiveFailures + 1
      · simp only [Bool.false_eq_true, ↓reduceIte, CircuitState.recordFailure, ge_iff_le, many]
        exact ⟨counts, ⟨nofun, fun few => absurd many (Nat.not_le.mpr few)⟩, nofun, nofun,
          counted.guarded⟩
      · have closed : invoker.circuit.state = .closed := counted.closed.mpr (by omega)
        simp only [Bool.false_eq_true, ↓reduceIte, CircuitState.recordFailure, ge_iff_le, many,
          closed]
        exact ⟨counts, ⟨fun _ => Nat.not_le.mp many, fun _ => rfl⟩, nofun, nofun, counted.guarded⟩

theorem Counted.step (counted : invoker.Counted options) (input : InvokerInput) :
    (step options invoker input).Counted options := by
  have next : Counted options { invoker with inputs := invoker.inputs + 1 } :=
    ⟨counted.failures, counted.closed, counted.elapsed, counted.probing, counted.guarded⟩
  cases input with
  | elapse duration =>
    refine ⟨counted.failures, counted.closed, fun half => ?_, counted.probing, counted.guarded⟩
    exact elapsed_mono (Nat.le_add_right _ _) (counted.elapsed half)
  | call => exact next.call
  | complete index outcome => exact next.complete index outcome

theorem Counted.law_iff (counted : invoker.Counted options) :
    invoker.BreakerLaw options ↔
      invoker.probes.length ≤ 1 ∧ ∀ closing ∈ invoker.closings, closing.1 < closing.2 :=
  ⟨fun law => ⟨law.oneProbe, law.closed⟩,
    fun law => ⟨counted.opened, counted.guarded, law.1, law.2⟩⟩

theorem law_call_iff (counted : invoker.Counted options)
    (law : invoker.BreakerLaw options) :
    invoker.ProbesAlone options .call ↔ (invoker.call options).BreakerLaw options := by
  rw [counted.call.law_iff]
  unfold ProxyInvoker.call ProbesAlone
  rcases check_cases options.resetTimeoutMs invoker.circuit invoker.clock with
    ⟨isOpen, early, refused⟩ | ⟨isOpen, elapsed, probe⟩ | ⟨notOpen, passed⟩
  · -- The call is refused, and nothing changes.
    rw [refused, isOpen, early]
    exact ⟨fun _ => ⟨law.oneProbe, law.closed⟩, fun _ => ⟨nofun, nofun⟩⟩
  · -- The call probes the server, which is to be the only one to do so.
    rw [probe, isOpen, elapsed]
    have alone : (∀ call ∈ invoker.calls, call.probe = false) ↔ invoker.probes = [] := by
      simp [probes]
    simp only [ne_eq, reduceCtorEq, not_false_eq_true, forall_const, true_and, alone, probes,
      List.filter_append, List.length_append, decide_true, List.filter_cons_of_pos,
      List.filter_nil, List.length_singleton]
    constructor
    · intro none
      refine ⟨?_, law.closed⟩
      rw [none]
      decide
    · intro after
      exact List.length_eq_zero_iff.mp (by omega)
  · rw [passed]
    cases status : invoker.circuit.state with
    | closed =>
      -- Through a closed circuit, a call is no probe.
      refine ⟨fun _ => ⟨?_, law.closed⟩, fun _ => ⟨nofun, nofun⟩⟩
      have same : invoker.probes.length ≤ 1 := law.oneProbe
      simpa [probes, status] using same
    | «open» => exact absurd status notOpen
    | halfOpen =>
      -- Through a half open circuit, it is one more probe.
      refine ⟨fun alone => absurd rfl alone.1, fun after => ?_⟩
      obtain ⟨call, member, probing⟩ := counted.probing status
      have there : 0 < invoker.probes.length :=
        List.length_pos_of_mem (List.mem_filter.mpr ⟨member, probing⟩)
      have two : ((invoker.calls ++
          [(⟨invoker.inputs, decide (invoker.circuit.state ≠ .closed)⟩ : UpstreamCall)]).filter
            (·.probe)).length ≤ 1 := after.1
      rw [status, List.filter_append, List.length_append] at two
      change invoker.probes.length + 1 ≤ 1 at two
      omega

theorem law_complete_iff (counted : invoker.Counted options)
    (law : invoker.BreakerLaw options) (index : Nat) (outcome : UpstreamOutcome) :
    invoker.ProbesAlone options (.complete index outcome) ↔
      (invoker.complete options index outcome).BreakerLaw options := by
  rw [(counted.complete index outcome).law_iff]
  unfold ProxyInvoker.complete ProbesAlone
  cases found : invoker.calls[index]? with
  | none =>
    refine ⟨fun _ => ⟨law.oneProbe, law.closed⟩, fun _ _ _ call member => ?_⟩
    exact absurd member (found ▸ Option.not_mem_none call)
  | some call =>
    -- There are no more probes than before.
    have probes : ((invoker.calls.eraseIdx index).filter (·.probe)).length ≤ 1 :=
      Nat.le_trans ((List.eraseIdx_sublist ..).filter _).length_le law.oneProbe
    cases succeeded : outcome.succeeded with
    | false =>
      refine ⟨fun _ => ⟨probes, law.closed⟩, fun _ success => ?_⟩
      rw [succeeded] at success
      cases success
    | true =>
      by_cases closed : invoker.circuit.state = .closed
      · simp only [closed, ↓reduceIte]
        exact ⟨fun _ => ⟨probes, law.closed⟩, fun _ _ differs => absurd rfl differs⟩
      · -- The circuit is closed by this call.
        simp only [closed, ↓reduceIte, List.mem_append, List.mem_singleton]
        constructor
        · intro newer
          refine ⟨probes, fun closing member => ?_⟩
          rcases member with earlier | last
          · exact law.closed closing earlier
          · rw [last]
            exact newer succeeded closed call found
        · intro after _ _ other same
          rw [found, Option.mem_some_iff] at same
          rw [← same]
          exact after.2 (invoker.openedBy, call.started) (.inr rfl)

theorem law_step_iff (counted : invoker.Counted options) (law : invoker.BreakerLaw options)
    (input : InvokerInput) :
    invoker.ProbesAlone options input ↔ (step options invoker input).BreakerLaw options := by
  have next : Counted options { invoker with inputs := invoker.inputs + 1 } :=
    ⟨counted.failures, counted.closed, counted.elapsed, counted.probing, counted.guarded⟩
  have lawful : BreakerLaw options { invoker with inputs := invoker.inputs + 1 } :=
    ⟨law.opened, law.guarded, law.oneProbe, law.closed⟩
  cases input with
  | elapse duration =>
    have after := counted.step (.elapse duration)
    exact ⟨fun _ => after.law_iff.mpr ⟨law.oneProbe, law.closed⟩, fun _ => trivial⟩
  | call => exact law_call_iff next lawful
  | complete index outcome => exact law_complete_iff next lawful index outcome

theorem counted_start (options : ProxyInvokerOptions) (clock : Nat) :
    Counted options { clock } where
  failures := rfl
  closed := ⟨fun _ => options.positive, fun _ => rfl⟩
  elapsed := nofun
  probing := nofun
  guarded := nofun

/-- The law of the breaker holds after every input exactly when each input leaves the probes
alone. -/
theorem breakerLaw_iff (options : ProxyInvokerOptions) (clock : Nat) (inputs : List InvokerInput) :
    Along (step options) (fun invoker input => (step options invoker input).BreakerLaw options)
        { clock } inputs ↔
      Along (step options) (ProbesAlone options) { clock } inputs := by
  -- As long as the law holds, each input keeps it exactly when it leaves the probes alone.
  refine (along_congr (fun invoker : ProxyInvoker =>
      invoker.Counted options ∧ invoker.BreakerLaw options)
    (fun _ input holds law => ⟨holds.1.step input, law⟩)
    (fun _ input holds => law_step_iff holds.1 holds.2 input) ?_ inputs).symm
  have counted := counted_start options clock
  exact ⟨counted, counted.law_iff.mpr ⟨Nat.zero_le 1, nofun⟩⟩

/-- Two calls probe the server at the same time once the circuit is half open. -/
theorem two_probes :
    let inputs : List InvokerInput := [.call, .call, .complete 0 .transportFailure,
      .complete 0 .transportFailure, .elapse 120001, .call, .call]
    (run (step {}) { clock := 0 } inputs).probes.length = 2 ∧
      ¬ Along (step {}) (fun invoker input => (step {} invoker input).BreakerLaw {}) { clock := 0 }
        inputs := by
  refine ⟨by decide, fun along => ?_⟩
  obtain ⟨_, _, _, _, _, _, law, _⟩ := along
  exact absurd law.oneProbe (by decide)

end

end ProxyInvoker

end BitBrat
