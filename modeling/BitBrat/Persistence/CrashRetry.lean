import BitBrat.Persistence.Serializable

/-! A snapshot message whose processing stops halfway, and that is delivered again. -/

namespace BitBrat

open Js

def Task.stopAfter {correlationId : String} (task : Task correlationId) (calls : Nat)
    (database : Database) : Database :=
  ((fun state : Phase × Database => task.call state.1 state.2)^[calls] (.fetching, database)).2

def snapshotTask (clock : Clock) (message : Value) : Task (snapshotCorrelationId message) :=
  .applySnapshotEvent clock message rfl

/-- What the second delivery leaves when the first one stops after some calls. -/
def redeliver (first again : Clock) (message : Value) (calls : Nat) (database : Database) :
    Database :=
  (snapshotTask again message).perform ((snapshotTask first message).stopAfter calls database)

/-- Both deliveries leave what a single one would have left, at one of the two times. -/
def Recovers (first again : Clock) (message : Value) (calls : Nat) (database : Database) : Prop :=
  Agree (snapshotCorrelationId message) (redeliver first again message calls database)
      ((snapshotTask first message).perform database) ∨
    Agree (snapshotCorrelationId message) (redeliver first again message calls database)
      ((snapshotTask again message).perform database)

/-- The count of a stored aggregate is not infinite, as no number in a stored document is. -/
def CountsFinitely (database : Database) (correlationId : String) : Prop :=
  ∀ aggregate, database.events.get? correlationId = some aggregate → ∀ negative,
    aggregate.get "snapshotCount" ≠ .num (.infinity negative)

def Database.nextNumber (database : Database) (correlationId : String) : Number :=
  match database.events.get? correlationId with
  | some aggregate => nextSequence aggregate
  | none => .finite 1

section Numbers

variable {database : Database} {correlationId : String} {aggregate : Value}

theorem nextSequence_ne_infinity {negative : Bool}
    (countable : ∀ side, aggregate.get "snapshotCount" ≠ .num (.infinity side)) :
    nextSequence aggregate ≠ .infinity negative := by
  unfold nextSequence Value.or
  split
  · rename_i count read
    split at read
    · -- A finite count is followed by a finite number.
      cases count with
      | finite count => simp [Number.add]
      | infinity side => exact absurd read (countable side)
      | nan => simp [Number.add]
    · cases read
      simp [Number.add]
  · simp

theorem nextSequence_ne_count {count : Number}
    (counted : aggregate.get "snapshotCount" = .num count)
    (countable : ∀ side, count ≠ .infinity side) : nextSequence aggregate ≠ count := by
  cases count with
  | infinity side => exact absurd rfl (countable side)
  | nan => simp [nextSequence, counted, Value.or, Value.truthy, Number.truthy, Number.add]
  | finite count =>
    by_cases zero : count = 0
    · subst zero
      simp [nextSequence, counted, Value.or, Value.truthy, Number.truthy, Number.add]
    · simp [nextSequence, counted, Value.or, Value.truthy, Number.truthy, Number.add, zero]

theorem nextNumber_ne_infinity (countable : CountsFinitely database correlationId)
    (negative : Bool) : database.nextNumber correlationId ≠ .infinity negative := by
  unfold Database.nextNumber
  split
  · rename_i aggregate found
    exact nextSequence_ne_infinity (countable aggregate found)
  · simp

theorem nextSequence_aggregateOr (snapshotEvent expireAt : Value) :
    nextSequence (database.aggregateOr correlationId (initialAggregate snapshotEvent expireAt)) =
      database.nextNumber correlationId := by
  unfold Database.aggregateOr Database.nextNumber
  cases database.events.get? correlationId with
  | some aggregate => rfl
  | none =>
    -- The first aggregate counts nothing yet.
    rw [Option.getD_none, nextSequence]
    simp only [initialAggregate, get_strip, Value.get_obj_cons]
    simp [Value.or, Value.truthy, Number.truthy, Number.add]

end Numbers

section Stops

variable {clock : Clock} {message : Value} {plan : Plan} {database : Database}

theorem exists_of_snapshotPlan (planned : snapshotPlan clock message = some plan) :
    ∃ expireAt, plan = .applySnapshotEvent (snapshotKeyOf message)
      (initialAggregate (normalizeSnapshotEvent clock message) expireAt)
      (buildSnapshot (normalizeSnapshotEvent clock message) expireAt) := by
  unfold snapshotPlan at planned
  dsimp only at planned
  -- Only a message that passes the three checks and can be dated becomes a plan.
  split at planned
  · cases planned
  · split at planned
    · cases planned
    · split at planned
      · cases planned
      · split at planned
        · cases planned
        · rename_i expireAt _
          cases planned
          exact ⟨expireAt, by rw [key_normalizeSnapshotEvent]⟩

theorem iterate_call_finished {correlationId : String} (task : Task correlationId)
    (calls : Nat) (database : Database) :
    (fun state : Phase × Database => task.call state.1 state.2)^[calls] (.finished, database) =
      (.finished, database) := by
  refine Function.iterate_fixed ?_ calls
  simp only [Task.call]
  split
  · rename_i plan _
    cases plan <;> rfl
  · rfl

theorem stopAfter_of_seen (planned : snapshotPlan clock message = some plan)
    {entry : (String × String) × Value}
    (seen : database.findSnapshot .documentStore (snapshotCorrelationId message)
      (snapshotKeyOf message) = some entry) (calls : Nat) :
    (snapshotTask clock message).stopAfter calls database = database := by
  obtain ⟨expireAt, rfl⟩ := exists_of_snapshotPlan planned
  match calls with
  | 0 => rfl
  | 1 => simp [Task.stopAfter, Task.call, Task.plan, snapshotTask, planned, Plan.call]
  | calls + 2 =>
    -- The second call finds the key, and ends the operation.
    rw [Task.stopAfter, Function.iterate_succ_apply, Function.iterate_succ_apply]
    have ended : (snapshotTask clock message).call
        ((snapshotTask clock message).call .fetching database).1
        ((snapshotTask clock message).call .fetching database).2 = (.finished, database) := by
      simp [Task.call, Task.plan, snapshotTask, planned, Plan.call, seen]
    rw [ended, iterate_call_finished]

theorem stopAfter_of_lt (planned : snapshotPlan clock message = some plan) {calls : Nat}
    (reading : calls < 3)
    (unseen : database.findSnapshot .documentStore (snapshotCorrelationId message)
      (snapshotKeyOf message) = none) :
    (snapshotTask clock message).stopAfter calls database = database := by
  obtain ⟨expireAt, rfl⟩ := exists_of_snapshotPlan planned
  match calls, reading with
  | 0, _ => rfl
  | 1, _ => simp [Task.stopAfter, Task.call, Task.plan, snapshotTask, planned, Plan.call]
  | 2, _ => simp [Task.stopAfter, Task.call, Task.plan, snapshotTask, planned, Plan.call, unseen]

theorem stopAfter_three (planned : snapshotPlan clock message = some plan)
    (unseen : database.findSnapshot .documentStore (snapshotCorrelationId message)
      (snapshotKeyOf message) = none) :
    (snapshotTask clock message).stopAfter 3 database =
      database.setAggregate (snapshotCorrelationId message)
        (plan.documents (database.events.get? (snapshotCorrelationId message))).1 := by
  obtain ⟨expireAt, rfl⟩ := exists_of_snapshotPlan planned
  simp [Task.stopAfter, Task.call, Task.plan, snapshotTask, planned, Plan.call, unseen]

theorem stopAfter_of_le (planned : snapshotPlan clock message = some plan) {calls : Nat}
    (writing : 4 ≤ calls)
    (unseen : database.findSnapshot .documentStore (snapshotCorrelationId message)
      (snapshotKeyOf message) = none) :
    (snapshotTask clock message).stopAfter calls database =
      (snapshotTask clock message).perform database := by
  obtain ⟨more, rfl⟩ := Nat.exists_eq_add_of_le' writing
  have whole := Task.perform_eq (snapshotTask clock message) database
  have ended : (fun state : Phase × Database =>
      (snapshotTask clock message).call state.1 state.2)^[4] (.fetching, database) =
        (.finished, (snapshotTask clock message).perform database) := by
    obtain ⟨expireAt, rfl⟩ := exists_of_snapshotPlan planned
    simp only [Task.plan, snapshotTask, planned, Option.elim_some, Plan.perform] at whole
    rw [snapshotTask, whole, applySnapshotEvent_of_unseen _ _ unseen]
    simp [Task.call, Task.plan, planned, Plan.call, unseen]
    rfl
  rw [Task.stopAfter, Function.iterate_add_apply, ended, iterate_call_finished]

end Stops

section Redelivery

variable {clock first again : Clock} {message : Value} {plan : Plan} {database : Database}

theorem perform_of_unseen (planned : snapshotPlan clock message = some plan)
    (unseen : database.findSnapshot .documentStore (snapshotCorrelationId message)
      (snapshotKeyOf message) = none) :
    (∃ aggregate, ((snapshotTask clock message).perform database).events.get?
        (snapshotCorrelationId message) = some aggregate ∧
      aggregate.get "snapshotCount" =
        .num (database.nextNumber (snapshotCorrelationId message))) ∧
      ∃ entry, ((snapshotTask clock message).perform database).findSnapshot .documentStore
        (snapshotCorrelationId message) (snapshotKeyOf message) = some entry := by
  have normalized : Normalized (normalizeSnapshotEvent clock message)
      (snapshotCorrelationId message) := normalized_normalizeSnapshotEvent clock rfl
  obtain ⟨expireAt, rfl⟩ := exists_of_snapshotPlan planned
  have whole := Task.perform_eq (snapshotTask clock message) database
  simp only [Task.plan, snapshotTask, planned, Option.elim_some, Plan.perform] at whole
  rw [applySnapshotEvent_of_unseen _ _ unseen] at whole
  rw [snapshotTask, whole]
  constructor
  · refine ⟨_, OrderedMap.get?_set_self _ _ _, ?_⟩
    rw [get_strip, snapshotCount_apply, strip_num, sequenceOf, sequence_buildSnapshot]
    exact congrArg Value.num (nextSequence_aggregateOr _ _)
  · -- The written snapshot belongs to the event and carries the key.
    rw [← Option.isSome_iff_exists, Database.findSnapshot, List.find?_isSome]
    refine ⟨_, mem_of_lookup (OrderedMap.get?_set_self _ _ _), ?_⟩
    rw [decide_eq_true_eq]
    refine ⟨belongs_snapshotDoc _ _ _ _, ?_⟩
    rw [get_snapshotDoc _ _ _ (by decide), key_buildSnapshot, normalized.strip_key,
      normalized.strip_key, key_normalizeSnapshotEvent]

theorem perform_of_seen (planned : snapshotPlan clock message = some plan)
    {entry : (String × String) × Value}
    (seen : database.findSnapshot .documentStore (snapshotCorrelationId message)
      (snapshotKeyOf message) = some entry) :
    (snapshotTask clock message).perform database = database := by
  have whole := Task.perform_eq (snapshotTask clock message) database
  obtain ⟨expireAt, rfl⟩ := exists_of_snapshotPlan planned
  simp only [Task.plan, snapshotTask, planned, Option.elim_some, Plan.perform] at whole
  rw [snapshotTask, whole, applySnapshotEvent_of_seen _ _ seen]

theorem Agree.refl (correlationId : String) (database : Database) :
    Agree correlationId database database := ⟨rfl, .refl _⟩

theorem redeliver_three (planned : snapshotPlan first message = some plan)
    {replanned : Plan} (redelivered : snapshotPlan again message = some replanned)
    (unseen : database.findSnapshot .documentStore (snapshotCorrelationId message)
      (snapshotKeyOf message) = none) :
    ∃ aggregate counted,
      (redeliver first again message 3 database).events.get? (snapshotCorrelationId message) =
        some aggregate ∧
      counted.get "snapshotCount" =
        .num (database.nextNumber (snapshotCorrelationId message)) ∧
      aggregate.get "snapshotCount" = .num (nextSequence counted) := by
  have left := stopAfter_three planned unseen
  unfold redeliver
  rw [left]
  -- The aggregate that was written is counted already, although its snapshot is missing.
  obtain ⟨⟨aggregate, found, number⟩, _⟩ := @perform_of_unseen again message replanned
    (database.setAggregate (snapshotCorrelationId message)
      (plan.documents (database.events.get? (snapshotCorrelationId message))).1)
    redelivered unseen
  refine ⟨aggregate, stripUndefinedDeep
    (plan.documents (database.events.get? (snapshotCorrelationId message))).1, found, ?_, ?_⟩
  · obtain ⟨expireAt, rfl⟩ := exists_of_snapshotPlan planned
    rw [get_strip, Plan.documents, snapshotCount_apply, strip_num, sequenceOf,
      sequence_buildSnapshot]
    exact congrArg Value.num (nextSequence_aggregateOr _ _)
  · rw [number, Database.nextNumber, Database.setAggregate, OrderedMap.get?_set_self]

end Redelivery

/--
A message that is delivered again after a crash is applied exactly once, unless the process
stopped between its two writes and its key was not stored yet.
-/
theorem recovers_iff {first again : Clock} {message : Value} {plan replanned : Plan}
    {database : Database} (calls : Nat)
    (planned : snapshotPlan first message = some plan)
    (redelivered : snapshotPlan again message = some replanned)
    (countable : CountsFinitely database (snapshotCorrelationId message)) :
    Recovers first again message calls database ↔
      (calls = 3 → ∃ entry, database.findSnapshot .documentStore
        (snapshotCorrelationId message) (snapshotKeyOf message) = some entry) := by
  cases stored : database.findSnapshot .documentStore (snapshotCorrelationId message)
      (snapshotKeyOf message) with
  | some entry =>
    refine iff_of_true (Or.inl ?_) fun _ => ⟨entry, rfl⟩
    rw [redeliver, stopAfter_of_seen planned stored, perform_of_seen redelivered stored,
      perform_of_seen planned stored]
    exact .refl _ _
  | none =>
    rcases Nat.lt_trichotomy calls 3 with before | rfl | after
    · -- Nothing was written, and the redelivery is the only processing.
      refine iff_of_true (Or.inr ?_) fun three => by omega
      rw [redeliver, stopAfter_of_lt planned before stored]
      exact .refl _ _
    · refine iff_of_false ?_ fun found => by simpa using found rfl
      obtain ⟨aggregate, counted, found, number, next⟩ :=
        redeliver_three planned redelivered stored
      -- The redelivery counts further than a single processing does.
      have further : nextSequence counted ≠
          database.nextNumber (snapshotCorrelationId message) :=
        nextSequence_ne_count number (nextNumber_ne_infinity countable)
      have differs {clock : Clock} {alone : Plan} (accepted : snapshotPlan clock message =
          some alone) (agree : Agree (snapshotCorrelationId message)
            (redeliver first again message 3 database)
            ((snapshotTask clock message).perform database)) : False := by
        obtain ⟨⟨once, held, single⟩, _⟩ := perform_of_unseen accepted stored
        have same := agree.aggregate
        rw [found, held] at same
        cases same
        exact further (Value.num.inj (next.symm.trans single))
      rintro (agree | agree)
      · exact differs planned agree
      · exact differs redelivered agree
    · -- The first delivery was complete, and the second one finds its key.
      refine iff_of_true (Or.inl ?_) fun three => by omega
      obtain ⟨entry, found⟩ := (perform_of_unseen planned stored).2
      rw [redeliver, stopAfter_of_le planned after stored, perform_of_seen redelivered found]
      exact .refl _ _

theorem exists_plan_updateMessage :
    ∃ plan, snapshotPlan (clockAt 0 "t0") (updateMessage "k-1") = some plan :=
  Option.isSome_iff_exists.mp (by decide +kernel)

/-- Before the writes and after them, a crash is made good by the redelivery. -/
theorem recovers_whole :
    Recovers (clockAt 0 "t0") (clockAt 0 "t0") (updateMessage "k-1") 2 .empty ∧
      Recovers (clockAt 0 "t0") (clockAt 0 "t0") (updateMessage "k-1") 4 .empty := by
  obtain ⟨plan, planned⟩ := exists_plan_updateMessage
  constructor
  · exact (recovers_iff 2 planned planned fun _ found => by cases found).mpr
      fun three => by cases three
  · exact (recovers_iff 4 planned planned fun _ found => by cases found).mpr
      fun three => by cases three

/-- Between the writes, the only snapshot gets the number two, and its aggregate counts two. -/
theorem redelivery_skips_number :
    let after := redeliver (clockAt 0 "t0") (clockAt 0 "t0") (updateMessage "k-1") 3 .empty
    (after.snapshots.entries.map fun entry => entry.2.get "sequence") = [countValue 2] ∧
      (after.events.get? "c-1").map (fun aggregate => aggregate.get "snapshotCount") =
        some (countValue 2) ∧
      ¬ Recovers (clockAt 0 "t0") (clockAt 0 "t0") (updateMessage "k-1") 3 .empty := by
  intro after
  refine ⟨by decide +kernel, by decide +kernel, ?_⟩
  -- A single processing counts one.
  have single : (((snapshotTask (clockAt 0 "t0") (updateMessage "k-1")).perform .empty).events.get?
      (snapshotCorrelationId (updateMessage "k-1"))).map
        (fun aggregate => aggregate.get "snapshotCount") = some (countValue 1) := by
    decide +kernel
  rintro (agree | agree) <;>
  · have same := congrArg (Option.map fun aggregate => aggregate.get "snapshotCount")
      agree.aggregate
    rw [single] at same
    exact absurd same (by decide +kernel)

end BitBrat
