import BitBrat.Js.Sort
import BitBrat.Machine.Run

/-! The keys that the router has seen, which it forgets after a time. -/

namespace BitBrat

open Js Machine

abbrev SeenMap := OrderedMap String Int

def sweep (ttlMs : Number) (now : Int) (seen : SeenMap) : SeenMap :=
  if seen.size < 1000 then seen
  else seen.filter fun entry => !ttlMs.lt (.finite (now - entry.2 : Int))

def markIfSeen (ttlMs : Number) (key : String) (now : Int) (seen : SeenMap) : SeenMap × Bool :=
  let swept := sweep ttlMs now seen
  if (swept.get? key).isSome then (swept, true) else (swept.set key now, false)

/-- The process: its marks, its clock, and every mark that was ever made. -/
structure SeenState where
  clock : Int
  seen : SeenMap := .empty
  marks : List (String × Int) := []

structure MarkCall where
  key : String
  delay : Nat

def SeenState.timeOf (state : SeenState) (call : MarkCall) : Int := state.clock + call.delay

def SeenState.answer (ttlMs : Number) (state : SeenState) (call : MarkCall) : Bool :=
  (markIfSeen ttlMs call.key (state.timeOf call) state.seen).2

def SeenState.step (ttlMs : Number) (state : SeenState) (call : MarkCall) : SeenState :=
  let now := state.timeOf call
  let (seen, already) := markIfSeen ttlMs call.key now state.seen
  { clock := now, seen,
    marks := if already then state.marks else state.marks ++ [(call.key, now)] }

def SeenState.MarkedWithin (ttlMs : Number) (state : SeenState) (call : MarkCall) : Prop :=
  ∃ mark ∈ state.marks, mark.1 = call.key ∧
    (Number.finite (state.timeOf call - mark.2 : Int)).lt ttlMs = true

def SeenLaw (ttlMs : Number) (state : SeenState) (call : MarkCall) : Prop :=
  state.answer ttlMs call = true ↔ state.MarkedWithin ttlMs call

/-- A key that is still there was marked less than the time ago, or is swept now. -/
def SweptInTime (ttlMs : Number) (state : SeenState) (call : MarkCall) : Prop :=
  ∀ markedAt ∈ state.seen.get? call.key,
    let age := Number.finite (state.timeOf call - markedAt : Int)
    age.lt ttlMs = true ∨ (1000 ≤ state.seen.size ∧ ttlMs.lt age = true)

structure SeenHolds (ttlMs : Number) (state : SeenState) : Prop where
  past : ∀ mark ∈ state.marks, mark.2 ≤ state.clock
  last : ∀ key markedAt, state.seen.get? key = some markedAt →
    (key, markedAt) ∈ state.marks ∧ ∀ mark ∈ state.marks, mark.1 = key → mark.2 ≤ markedAt
  expired : ∀ mark ∈ state.marks, state.seen.get? mark.1 = none →
    ttlMs.lt (.finite (state.clock - mark.2 : Int)) = true

section

variable {ttlMs : Number} {state : SeenState}

theorem SeenHolds.start (clock : Int) : SeenHolds ttlMs { clock } where
  past := by simp
  last := by simp
  expired := by simp

theorem get?_sweep (now : Int) (seen : SeenMap) (key : String) :
    (sweep ttlMs now seen).get? key = (seen.get? key).filter fun markedAt =>
      decide (seen.size < 1000) || !ttlMs.lt (.finite (now - markedAt : Int)) := by
  unfold sweep
  split
  case isTrue few => cases seen.get? key <;> simp [few, Option.filter]
  case isFalse many =>
    rw [OrderedMap.get?_filter]
    simp [many]

theorem lt_age_of_le {earlier later : Int} (ordered : earlier ≤ later)
    (expired : ttlMs.lt (.finite (earlier : Int)) = true) :
    ttlMs.lt (.finite (later : Int)) = true := by
  rcases ordered.eq_or_lt with rfl | below
  · exact expired
  · apply Number.lt_trans expired
    simpa [Number.lt] using below

theorem age_lt_of_le {earlier later : Int} (ordered : earlier ≤ later)
    (young : (Number.finite (later : Int)).lt ttlMs = true) :
    (Number.finite (earlier : Int)).lt ttlMs = true := by
  rcases ordered.eq_or_lt with rfl | below
  · exact young
  · exact Number.lt_trans (by simpa [Number.lt] using below) young

theorem answer_eq (call : MarkCall) : state.answer ttlMs call =
    ((sweep ttlMs (state.timeOf call) state.seen).get? call.key).isSome := by
  unfold SeenState.answer markIfSeen
  dsimp only
  split
  case isTrue left => rw [left]
  case isFalse gone => simpa using gone

theorem step_eq (call : MarkCall) : state.step ttlMs call =
    let swept := sweep ttlMs (state.timeOf call) state.seen
    if (swept.get? call.key).isSome then
      { clock := state.timeOf call, seen := swept, marks := state.marks }
    else
      { clock := state.timeOf call, seen := swept.set call.key (state.timeOf call),
        marks := state.marks ++ [(call.key, state.timeOf call)] } := by
  unfold SeenState.step markIfSeen
  dsimp only
  split <;> rfl

theorem SeenHolds.step (holds : SeenHolds ttlMs state) (call : MarkCall) :
    SeenHolds ttlMs (state.step ttlMs call) := by
  have forward : state.clock ≤ state.timeOf call := by
    unfold SeenState.timeOf
    omega
  -- The sweep comes first, and what it removes has expired.
  have swept : SeenHolds ttlMs
      ⟨state.timeOf call, sweep ttlMs (state.timeOf call) state.seen, state.marks⟩ := by
    refine ⟨fun mark member => (holds.past mark member).trans forward, ?_, ?_⟩
    · intro key markedAt found
      rw [get?_sweep, Option.filter_eq_some_iff] at found
      exact holds.last key markedAt found.1
    · intro mark member gone
      show ttlMs.lt (.finite (state.timeOf call - mark.2 : Int)) = true
      rw [get?_sweep, Option.filter_eq_none_iff] at gone
      cases found : state.seen.get? mark.1 with
      | none =>
        have before := holds.expired mark member found
        exact lt_age_of_le (by omega) before
      | some markedAt =>
        have removed := gone markedAt found
        simp only [Bool.or_eq_true, decide_eq_true_eq, Bool.not_eq_true', not_or,
          Bool.not_eq_false] at removed
        have latest := (holds.last mark.1 markedAt found).2 mark member rfl
        exact lt_age_of_le (by omega) removed.2
  rw [step_eq]
  dsimp only
  split
  · exact swept
  · rename_i gone
    refine ⟨?_, ?_, ?_⟩
    · intro mark member
      rcases List.mem_append.mp member with earlier | new
      · exact swept.past mark earlier
      · rw [List.mem_singleton.mp new]
    · intro key markedAt found
      rw [OrderedMap.get?_set] at found
      split at found
      · rename_i same
        cases found
        refine ⟨List.mem_append_right _ (by simp [same]), ?_⟩
        intro mark member named
        rcases List.mem_append.mp member with earlier | new
        · exact swept.past mark earlier
        · rw [List.mem_singleton.mp new]
      · rename_i apart
        obtain ⟨inside, latest⟩ := swept.last key markedAt found
        refine ⟨List.mem_append_left _ inside, ?_⟩
        intro mark member named
        rcases List.mem_append.mp member with earlier | new
        · exact latest mark earlier named
        · rw [List.mem_singleton.mp new] at named
          exact absurd named.symm apart
    · intro mark member gone
      rw [OrderedMap.get?_set] at gone
      split at gone
      · cases gone
      · rename_i apart
        rcases List.mem_append.mp member with earlier | new
        · exact swept.expired mark earlier gone
        · rw [List.mem_singleton.mp new] at apart
          exact absurd rfl apart

theorem seenLaw_iff (holds : SeenHolds ttlMs state) (call : MarkCall) :
    SeenLaw ttlMs state call ↔ SweptInTime ttlMs state call := by
  have forward : state.clock ≤ state.timeOf call := by
    unfold SeenState.timeOf
    omega
  unfold SeenLaw SweptInTime SeenState.MarkedWithin
  rw [answer_eq, get?_sweep]
  cases found : state.seen.get? call.key with
  | none =>
    -- All marks of a key that is gone have expired.
    have unmarked : ¬ ∃ mark ∈ state.marks, mark.1 = call.key ∧
        (Number.finite (state.timeOf call - mark.2 : Int)).lt ttlMs = true := by
      rintro ⟨mark, member, named, young⟩
      have expired := holds.expired mark member (named ▸ found)
      have later := lt_age_of_le (by omega : state.clock - mark.2 ≤ state.timeOf call - mark.2)
        expired
      have loop := Number.lt_trans later young
      rw [Number.lt_irrefl] at loop
      cases loop
    exact ⟨fun _ => by simp, fun _ => ⟨fun left => by simp at left,
      fun marked => absurd marked unmarked⟩⟩
  | some markedAt =>
    obtain ⟨inside, latest⟩ := holds.last call.key markedAt found
    have within : (∃ mark ∈ state.marks, mark.1 = call.key ∧
        (Number.finite (state.timeOf call - mark.2 : Int)).lt ttlMs = true) ↔
        (Number.finite (state.timeOf call - markedAt : Int)).lt ttlMs = true := by
      constructor
      · rintro ⟨mark, member, named, young⟩
        have earlier := latest mark member named
        exact age_lt_of_le (by omega) young
      · exact fun young => ⟨_, inside, rfl, young⟩
    have left (keep : Int → Bool) : ((some markedAt).filter keep).isSome = keep markedAt := by
      cases kept : keep markedAt <;> simp [kept]
    rw [within, left]
    simp only [Option.mem_def, Option.some.injEq, forall_eq']
    generalize Number.finite ((state.timeOf call - markedAt : Int) : ℚ) = age
    cases young : age.lt ttlMs with
    | true =>
      -- A young key has not expired, and is left.
      have fresh : ttlMs.lt age = false := by
        by_contra expired
        have loop := Number.lt_trans young (Bool.eq_true_of_not_eq_false expired)
        rw [Number.lt_irrefl] at loop
        cases loop
      simp [fresh]
    | false => simp

/-- In a run, every call reports whether its key was marked less than the time ago, exactly when a
key that has expired is never there any more, or is swept at the call. -/
theorem markIfSeen_reports_iff (ttlMs : Number) (clock : Int) (calls : List MarkCall) :
    Along (SeenState.step ttlMs) (SeenLaw ttlMs) { clock } calls ↔
      Along (SeenState.step ttlMs) (SweptInTime ttlMs) { clock } calls :=
  along_congr (SeenHolds ttlMs) (fun _ call holds _ => holds.step call)
    (fun _ call holds => seenLaw_iff holds call) (.start clock) calls

/-- A key that is presented again after the time is still reported. -/
theorem markIfSeen_reports_expired :
    ¬ Along (SeenState.step (.finite 300000)) (SeenLaw (.finite 300000)) { clock := 0 }
      [⟨"c-1|router|0", 0⟩, ⟨"c-1|router|0", 600000⟩] := by
  intro along
  have reported : ∃ mark ∈ [("c-1|router|0", (0 : Int))], mark.1 = "c-1|router|0" ∧
      (Number.finite ((600000 - mark.2 : Int) : ℚ)).lt (.finite 300000) = true :=
    along.2.1.mp (by decide +kernel)
  revert reported
  decide +kernel

end

end BitBrat
