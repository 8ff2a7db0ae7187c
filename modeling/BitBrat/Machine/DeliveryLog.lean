import Mathlib.Data.List.Basic
import Mathlib.Data.List.Count
import Mathlib.Tactic.Linarith

/-! Logs of events, the oldest first: what has to come before an event, and what must not. -/

namespace Machine

section

variable {ε : Type}

/-- Each event of a log is permitted after the events before it. -/
def Guarded (permitted : List ε → ε → Prop) (log : List ε) : Prop :=
  ∀ before event after, log = before ++ event :: after → permitted before event

variable {permitted : List ε → ε → Prop} {log more : List ε}

@[simp] theorem Guarded.nil : Guarded permitted [] := by
  intro before event after same
  simp at same

theorem guarded_concat {event : ε} :
    Guarded permitted (log ++ [event]) ↔ Guarded permitted log ∧ permitted log event := by
  constructor
  · intro guarded
    refine ⟨?_, guarded log event [] rfl⟩
    rintro before earlier after rfl
    exact guarded before earlier (after ++ [event]) (by simp)
  · rintro ⟨guarded, last⟩ before other after same
    -- The event that is asked about is the last one, or one of those before it.
    rcases List.eq_nil_or_concat after with rfl | ⟨front, final, rfl⟩
    · obtain ⟨rfl, rfl⟩ : log = before ∧ event = other := by
        simpa using List.append_inj' same rfl
      exact last
    · have split : log ++ [event] = (before ++ other :: front) ++ [final] := by simp [same]
      exact guarded before other front (List.append_inj' split rfl).1

end

/-! Arrivals of messages and attempts to pass them on: how often each is passed on. -/

inductive AttemptStatus where
  | pending | done | failed
  deriving DecidableEq

/-- The arrivals by the names and times of the messages, and the attempts, the oldest first. -/
structure DeliveryLog (κ : Type) where
  arrivals : List (κ × Int) := []
  attempts : List (κ × AttemptStatus) := []

namespace DeliveryLog

variable {κ : Type}

def arrive (log : DeliveryLog κ) (key : κ) (now : Int) : DeliveryLog κ :=
  { log with arrivals := log.arrivals ++ [(key, now)] }

def attempt (log : DeliveryLog κ) (key : κ) : DeliveryLog κ :=
  { log with attempts := log.attempts ++ [(key, .pending)] }

def settle (log : DeliveryLog κ) (index : Nat) (status : AttemptStatus) : DeliveryLog κ :=
  match log.attempts[index]? with
  | some (key, .pending) => { log with attempts := log.attempts.set index (key, status) }
  | _ => log

variable [DecidableEq κ]

def count (log : DeliveryLog κ) (key : κ) (status : AttemptStatus) : Nat :=
  log.attempts.count (key, status)

def live (log : DeliveryLog κ) (key : κ) : Nat := log.count key .pending + log.count key .done

def firstArrival (log : DeliveryLog κ) (key : κ) : Option Int :=
  (log.arrivals.find? fun arrival => arrival.1 = key).map Prod.snd

/-- All arrivals of a message are within a time of the first. -/
def Within (log : DeliveryLog κ) (window : Int) (key : κ) : Prop :=
  ∀ first ∈ log.firstArrival key, ∀ arrival ∈ log.arrivals, arrival.1 = key →
    arrival.2 ≤ first + window

@[simp] theorem live_arrive (log : DeliveryLog κ) (key other : κ) (now : Int) :
    (log.arrive key now).live other = log.live other := rfl

@[simp] theorem count_arrive (log : DeliveryLog κ) (key other : κ) (now : Int)
    (status : AttemptStatus) : (log.arrive key now).count other status = log.count other status :=
  rfl

@[simp] theorem firstArrival_attempt (log : DeliveryLog κ) (key other : κ) :
    (log.attempt key).firstArrival other = log.firstArrival other := rfl

omit [DecidableEq κ] in
@[simp] theorem arrivals_attempt (log : DeliveryLog κ) (key : κ) :
    (log.attempt key).arrivals = log.arrivals := rfl

omit [DecidableEq κ] in
@[simp] theorem arrivals_settle (log : DeliveryLog κ) (index : Nat) (status : AttemptStatus) :
    (log.settle index status).arrivals = log.arrivals := by
  unfold settle
  split <;> rfl

theorem count_attempt (log : DeliveryLog κ) (key other : κ) (status : AttemptStatus) :
    (log.attempt key).count other status =
      log.count other status + if other = key ∧ status = .pending then 1 else 0 := by
  unfold count attempt
  rw [List.count_append, List.count_singleton]
  congr 1
  by_cases same : other = key ∧ status = .pending
  · simp [same]
  · rw [if_neg same, if_neg]
    intro equal
    simp only [beq_iff_eq, Prod.mk.injEq] at equal
    exact same ⟨equal.1.symm, equal.2.symm⟩

theorem live_attempt (log : DeliveryLog κ) (key other : κ) :
    (log.attempt key).live other = log.live other + if other = key then 1 else 0 := by
  unfold live
  rw [count_attempt, count_attempt]
  by_cases same : other = key
  · simp [same]
    omega
  · simp [same]

theorem count_settle (log : DeliveryLog κ) (index : Nat) (ended : AttemptStatus) :
    log.settle index ended = log ∨
      ∃ key, 1 ≤ log.count key .pending ∧ ∀ other status,
        (log.settle index ended).count other status =
          log.count other status - (if key = other ∧ .pending = status then 1 else 0) +
            if key = other ∧ ended = status then 1 else 0 := by
  unfold settle
  split
  · rename_i key found
    obtain ⟨bound, item⟩ := List.getElem?_eq_some_iff.mp found
    refine .inr ⟨key, List.count_pos_iff.mpr (List.mem_of_getElem? found), ?_⟩
    intro other status
    unfold count
    rw [List.count_set bound, item]
    simp only [beq_iff_eq, Prod.mk.injEq]
  · exact .inl rfl

theorem live_settle_le (log : DeliveryLog κ) (index : Nat) {ended : AttemptStatus}
    (settled : ended ≠ .pending) (other : κ) :
    (log.settle index ended).live other ≤ log.live other := by
  rcases count_settle log index ended with same | ⟨key, pending, counts⟩
  · rw [same]
  · unfold live
    rw [counts, counts]
    by_cases here : key = other
    · subst here
      cases ended with
      | pending => exact absurd rfl settled
      | done => simp; omega
      | failed => simp
    · simp [here]

theorem count_failed_settle_le (log : DeliveryLog κ) (index : Nat) (ended : AttemptStatus)
    (other : κ) :
    log.count other .failed ≤ (log.settle index ended).count other .failed := by
  rcases count_settle log index ended with same | ⟨key, -, counts⟩
  · rw [same]
  · rw [counts]
    simp

/-- Where no attempt at a message has failed, the end of an attempt leaves as many as there were. -/
theorem live_settle_of_not_failed (log : DeliveryLog κ) (index : Nat) {ended : AttemptStatus}
    (settled : ended ≠ .pending) {other : κ}
    (none : (log.settle index ended).count other .failed = 0) :
    (log.settle index ended).live other = log.live other := by
  rcases count_settle log index ended with same | ⟨key, pending, counts⟩
  · rw [same]
  · rw [counts] at none
    unfold live
    rw [counts, counts]
    by_cases here : key = other
    · subst here
      cases ended with
      | pending => exact absurd rfl settled
      | done => simp; omega
      | failed => simp at none
    · simp [here]

theorem firstArrival_arrive (log : DeliveryLog κ) (key other : κ) (now : Int) :
    (log.arrive key now).firstArrival other =
      (log.firstArrival other).or (if key = other then some now else none) := by
  unfold firstArrival arrive
  rw [List.find?_append, Option.map_or]
  by_cases same : key = other
  · simp [same]
  · simp [same]

theorem Within.of_arrive {log : DeliveryLog κ} {window now : Int} {key other : κ}
    (within : (log.arrive key now).Within window other) : log.Within window other := by
  intro first found arrival member same
  refine within first ?_ arrival (List.mem_append_left _ member) same
  rw [firstArrival_arrive, Option.mem_def.mp found]
  rfl

end DeliveryLog

end Machine
