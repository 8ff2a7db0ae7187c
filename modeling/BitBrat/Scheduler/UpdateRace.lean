import BitBrat.Scheduler.Ticks
import BitBrat.Scheduler.UpdateSchedule

/-! A call that updates a schedule while a tick executes it: whose values are left. -/

namespace BitBrat

open Js Machine

/-- The execution of a schedule and a call that updates it, in between each other's steps. -/
structure UpdateRace where
  clock : Int
  schedules : OrderedMap String ScheduleDoc
  execution : Option Execution
  call : ToolCall := .reading

inductive RaceInput where
  | elapse (duration : Nat)
  | publish (succeeds : Bool)
  | tickStore
  | callStore
  deriving DecidableEq

namespace UpdateRace

/-- The tick has found the schedule due, and the call is still to come. -/
def start (clock : Int) (schedules : OrderedMap String ScheduleDoc) (id : String)
    (schedule : ScheduleDoc) : UpdateRace :=
  { clock, schedules
    execution := some { tick := 0, id, schedule, now := clock, phase := .publishing } }

def step (args : ScheduleArgs) (backend : Backend) (calendar : Calendar) (id : String)
    (race : UpdateRace) : RaceInput → UpdateRace
  | .elapse duration => { race with clock := race.clock + duration }
  | .publish succeeds =>
    match race.execution with
    | none => race
    | some execution =>
      if execution.phase ≠ .publishing then race
      else { race with execution := execution.afterPublish calendar race.clock succeeds }
  | .tickStore =>
    match race.execution with
    | none => race
    | some execution =>
      match execution.phase with
      | .waiting | .publishing => race
      | .updating call =>
        let (schedules, execution) := execution.callStore backend race.schedules call
        { race with schedules, execution }
  | .callStore =>
    let (schedules, call) := args.callStore backend calendar race.clock id
      (race.schedules, race.call)
    { race with schedules, call }

def Settled (race : UpdateRace) : Prop := race.execution = none ∧ race.call = .settled

instance (race : UpdateRace) : Decidable race.Settled :=
  inferInstanceAs (Decidable (_ ∧ _))

end UpdateRace

def ScheduleArgs.KeptIn (args : ScheduleArgs) (schedule : ScheduleDoc) : Prop :=
  (∀ enabled, args.enabled = some enabled → schedule.enabled = enabled) ∧
    ∀ spec, args.schedule = some spec → schedule.schedule = spec

def Execution.leavesEnabled (execution : Execution) : Bool :=
  if execution.schedule.schedule.type = .once then false else execution.schedule.enabled

def ToolCall.writes (backend : Backend) : ToolCall → Bool
  | .updating (.update _) => backend = .firestore
  | .updating (.writing _) => true
  | _ => false

def ExecutionPhase.hasRead : ExecutionPhase → Bool
  | .updating (.writing _) => true
  | _ => false

/-- The event has been published, and its schedule is being updated. -/
def ExecutionPhase.updates : ExecutionPhase → Bool
  | .updating _ => true
  | _ => false

def TickYields (args : ScheduleArgs) (backend : Backend) (race : UpdateRace) : RaceInput → Prop
  -- The call does not write another schedule between the tick's read and its write.
  | .callStore => race.call.writes backend = true → ∀ execution ∈ race.execution,
      execution.phase.hasRead = true → ∀ spec ∈ args.schedule, spec = execution.schedule.schedule
  -- After the call, the tick writes only the value of enabled that the caller set.
  | .tickStore => race.call = .settled → ∀ execution ∈ race.execution,
      execution.phase.updates = true → ∀ enabled ∈ args.enabled, enabled = execution.leavesEnabled
  | _ => True

instance : ∀ args backend race input, Decidable (TickYields args backend race input)
  | args, backend, race, .callStore => inferInstanceAs (Decidable
      (race.call.writes backend = true → ∀ execution ∈ race.execution,
        execution.phase.hasRead = true → ∀ spec ∈ args.schedule,
          spec = execution.schedule.schedule))
  | args, _, race, .tickStore => inferInstanceAs (Decidable
      (race.call = .settled → ∀ execution ∈ race.execution,
        execution.phase.updates = true →
          ∀ enabled ∈ args.enabled, enabled = execution.leavesEnabled))
  | _, _, _, .elapse _ => inferInstanceAs (Decidable True)
  | _, _, _, .publish _ => inferInstanceAs (Decidable True)

def Execution.Writes (args : ScheduleArgs) (copy : ScheduleDoc) (settled : Prop)
    (execution : Execution) : Prop :=
  match execution.phase with
  | .waiting | .publishing => True
  | .updating (.update updates) =>
    updates.enabled = some execution.leavesEnabled ∧ updates.schedule = none
  | .updating (.writing merged) =>
    merged.enabled = execution.leavesEnabled ∧ (¬ settled → merged.schedule = copy.schedule) ∧
      (settled → ∀ spec, args.schedule = some spec → merged.schedule = spec)

def ToolCall.Writes (args : ScheduleArgs) : ToolCall → Prop
  | .reading | .settled => True
  | .updating (.update updates) =>
    updates.enabled = args.enabled ∧ updates.schedule = args.schedule
  | .updating (.writing merged) => args.KeptIn merged

/-- Nothing is lost yet: before the call's write the schedule is the one executed, and from then
on it is the caller's. -/
structure NothingLost (args : ScheduleArgs) (id : String) (copy : ScheduleDoc) (race : UpdateRace) :
    Prop where
  stored : ∃ doc, race.schedules.get? id = some doc ∧
    (race.call ≠ .settled → doc.schedule = copy.schedule) ∧
    (race.call = .settled → args.KeptIn doc)
  execution : ∀ execution, race.execution = some execution → execution.id = id ∧
    execution.schedule = copy ∧ execution.Writes args copy (race.call = .settled)
  call : race.call.Writes args

/-- The caller's values are lost, or are going to be. -/
def Lost (args : ScheduleArgs) (id : String) (race : UpdateRace) : Prop :=
  race.call = .settled ∧
    ((race.execution = none ∧ ∃ doc, race.schedules.get? id = some doc ∧ ¬ args.KeptIn doc) ∨
      ∃ execution merged, race.execution = some execution ∧ execution.id = id ∧
        execution.phase = .updating (.writing merged) ∧ ¬ args.KeptIn merged)

section

variable {args : ScheduleArgs} {backend : Backend} {calendar : Calendar} {id : String}
variable {copy : ScheduleDoc} {race : UpdateRace}

theorem Lost.step (lost : Lost args id race) (input : RaceInput) :
    Lost args id (race.step args backend calendar id input) := by
  -- The call has settled, so that only the tick can still write, and it writes what is bad.
  obtain ⟨settled, rest⟩ := lost
  cases input with
  | elapse duration => exact ⟨settled, rest⟩
  | publish succeeds =>
    -- An execution that is about to write has been published before.
    rcases rest with ⟨none, stored⟩ | ⟨execution, merged, some, same, phase, bad⟩
    · simp only [UpdateRace.step, none]
      exact ⟨settled, .inl ⟨none, stored⟩⟩
    · simp only [UpdateRace.step, some, phase, ne_eq, reduceCtorEq, not_false_eq_true, ↓reduceIte]
      exact ⟨settled, .inr ⟨execution, merged, some, same, phase, bad⟩⟩
  | tickStore =>
    rcases rest with ⟨none, stored⟩ | ⟨execution, merged, some, same, phase, bad⟩
    · simp only [UpdateRace.step, none]
      exact ⟨settled, .inl ⟨none, stored⟩⟩
    · simp only [UpdateRace.step, some, phase, Execution.callStore, Backend.callUpdate]
      exact ⟨settled, .inl ⟨rfl, merged, same ▸ OrderedMap.get?_set_self .., bad⟩⟩
  | callStore =>
    simp only [UpdateRace.step, settled, ScheduleArgs.callStore]
    exact ⟨rfl, rest⟩

theorem afterPublish_writes {execution left : Execution} {clock : Int} {succeeds : Bool}
    {settled : Prop} (published : execution.afterPublish calendar clock succeeds = some left) :
    left.id = execution.id ∧ left.schedule = execution.schedule ∧
      left.Writes args copy settled := by
  -- The tick writes its own value of enabled, and names no schedule.
  unfold Execution.afterPublish at published
  split at published
  · cases published
  · rw [← Option.some.inj published]
    exact ⟨rfl, rfl, rfl, rfl⟩

theorem applyUpdates_tick (backend : Backend) (doc : ScheduleDoc)
    {updates : ScheduleUpdates} {enabled : Bool} (named : updates.enabled = some enabled)
    (unnamed : updates.schedule = none) : (backend.applyUpdates doc updates).enabled = enabled ∧
      (backend.applyUpdates doc updates).schedule = doc.schedule := by
  simp [Backend.applyUpdates, named, unnamed]

theorem applyUpdates_call (backend : Backend) (doc : ScheduleDoc)
    {updates : ScheduleUpdates} (enabled : updates.enabled = args.enabled)
    (schedule : updates.schedule = args.schedule) :
    args.KeptIn (backend.applyUpdates doc updates) := by
  constructor
  · intro value named
    simp [Backend.applyUpdates, enabled, named]
  · intro spec named
    simp [Backend.applyUpdates, schedule, named]

theorem NothingLost.publish (holds : NothingLost args id copy race) (succeeds : Bool) :
    NothingLost args id copy (race.step args backend calendar id (.publish succeeds)) := by
  cases present : race.execution with
  | none =>
    simp only [UpdateRace.step, present]
    exact holds
  | some execution =>
    obtain ⟨same, copied, _⟩ := holds.execution execution present
    simp only [UpdateRace.step, present]
    split
    · exact holds
    · refine ⟨holds.stored, fun left published => ?_, holds.call⟩
      obtain ⟨id_eq, copy_eq, writes⟩ := afterPublish_writes published
      exact ⟨id_eq.trans same, copy_eq.trans copied, writes⟩

private theorem NothingLost.tickWrite (holds : NothingLost args id copy race)
    (yields : TickYields args backend race .tickStore) {execution : Execution}
    (present : race.execution = some execution) (updating : execution.phase.updates = true)
    {after : ScheduleDoc} (enabled : after.enabled = execution.leavesEnabled)
    (before : race.call ≠ .settled → after.schedule = copy.schedule)
    (after_call : race.call = .settled → ∀ spec, args.schedule = some spec →
      after.schedule = spec) :
    NothingLost args id copy { race with
      schedules := race.schedules.set id after, execution := none } := by
  refine ⟨⟨after, OrderedMap.get?_set_self .., before, fun settled => ?_⟩,
    fun _ absent => (by cases absent), holds.call⟩
  -- The tick's own value of enabled is the one that the caller set.
  refine ⟨fun value named => enabled.trans ?_, after_call settled⟩
  exact (yields settled execution present updating value named).symm

private theorem NothingLost.tickStore (holds : NothingLost args id copy race)
    (yields : TickYields args backend race .tickStore) :
    NothingLost args id copy (race.step args backend calendar id .tickStore) := by
  -- The tick writes at once, or reads first and writes with its next call.
  cases present : race.execution with
  | none =>
    simp only [UpdateRace.step, present]
    exact holds
  | some execution =>
    obtain ⟨doc, stored, early, late⟩ := holds.stored
    obtain ⟨same, copied, writes⟩ := holds.execution execution present
    unfold Execution.Writes at writes
    simp only [UpdateRace.step, present]
    cases phase : execution.phase with
    | waiting => exact holds
    | publishing => exact holds
    | updating call =>
      have updating : execution.phase.updates = true := by rw [phase]; rfl
      rw [phase] at writes
      cases call with
      | writing merged =>
        simp only [Execution.callStore, Backend.callUpdate, same]
        exact holds.tickWrite yields present updating writes.1 writes.2.1 writes.2.2
      | update updates =>
        -- The tick names no schedule, so what it writes has the stored one.
        obtain ⟨enabled_eq, schedule_eq⟩ := applyUpdates_tick backend doc writes.1 writes.2
        have before : race.call ≠ .settled →
            (backend.applyUpdates doc updates).schedule = copy.schedule :=
          fun unsettled => schedule_eq.trans (early unsettled)
        have after : race.call = .settled → ∀ spec, args.schedule = some spec →
            (backend.applyUpdates doc updates).schedule = spec :=
          fun settled spec named => schedule_eq.trans ((late settled).2 spec named)
        simp only [Execution.callStore, Backend.callUpdate, same, stored]
        cases backend with
        | firestore => exact holds.tickWrite yields present updating enabled_eq before after
        | documentStore =>
          -- The document was read, and is going to be written.
          refine ⟨holds.stored, fun left reading => ?_, holds.call⟩
          cases reading
          exact ⟨rfl, copied, enabled_eq, before, after⟩

private theorem NothingLost.callWrite (holds : NothingLost args id copy race)
    (yields : TickYields args backend race .callStore) (unsettled : race.call ≠ .settled)
    (writes : race.call.writes backend = true) {after : ScheduleDoc} (kept : args.KeptIn after) :
    NothingLost args id copy { race with
      schedules := race.schedules.set id after, call := .settled } := by
  refine ⟨⟨after, OrderedMap.get?_set_self .., fun open_call => absurd rfl open_call,
    fun _ => kept⟩, fun execution present => ?_, trivial⟩
  obtain ⟨same, copied, goes_on⟩ := holds.execution execution present
  refine ⟨same, copied, ?_⟩
  unfold Execution.Writes at goes_on ⊢
  cases phase : execution.phase with
  | waiting => trivial
  | publishing => trivial
  | updating update =>
    rw [phase] at goes_on
    cases update with
    | update updates => exact goes_on
    | writing merged =>
      -- What the tick has read is the schedule that the caller names.
      refine ⟨goes_on.1, fun open_call => absurd rfl open_call, fun _ spec named => ?_⟩
      have same_spec := yields writes execution present (by rw [phase]; rfl) spec named
      rw [goes_on.2.1 unsettled, same_spec, copied]

private theorem NothingLost.goOn (holds : NothingLost args id copy race)
    (unsettled : race.call ≠ .settled) {call : ToolCall} (open_call : call ≠ .settled)
    (writes : call.Writes args) : NothingLost args id copy { race with call } := by
  obtain ⟨doc, stored, early, _⟩ := holds.stored
  refine ⟨⟨doc, stored, fun _ => early unsettled, fun settled => absurd settled open_call⟩,
    fun execution present => ?_, writes⟩
  simpa only [unsettled, open_call] using holds.execution execution present

theorem NothingLost.callStore (holds : NothingLost args id copy race)
    (yields : TickYields args backend race .callStore) :
    NothingLost args id copy (race.step args backend calendar id .callStore) := by
  -- The call reads the schedule, and then writes at once or after a second read.
  obtain ⟨doc, stored, _, _⟩ := holds.stored
  have writes := holds.call
  cases calling : race.call with
  | settled =>
    have unchanged : race.step args backend calendar id .callStore = race := by
      simp only [UpdateRace.step, calling, ScheduleArgs.callStore]
      rw [← calling]
    rw [unchanged]
    exact holds
  | reading =>
    simp only [UpdateRace.step, calling, ScheduleArgs.callStore, stored]
    exact holds.goOn (by simp [calling]) (by simp) ⟨rfl, rfl⟩
  | updating call =>
    have unsettled : race.call ≠ .settled := by simp [calling]
    rw [calling] at writes
    cases call with
    | writing merged =>
      simp only [UpdateRace.step, calling, ScheduleArgs.callStore, Backend.callUpdate]
      exact holds.callWrite yields unsettled (by rw [calling]; rfl) writes
    | update updates =>
      have kept := applyUpdates_call backend doc writes.1 writes.2
      simp only [UpdateRace.step, calling, ScheduleArgs.callStore, Backend.callUpdate, stored]
      cases backend with
      | firestore => exact holds.callWrite yields unsettled (by rw [calling]; rfl) kept
      | documentStore => exact holds.goOn unsettled (by simp) kept

theorem NothingLost.step (holds : NothingLost args id copy race) (input : RaceInput)
    (yields : TickYields args backend race input) :
    NothingLost args id copy (race.step args backend calendar id input) := by
  cases input with
  | elapse duration => exact ⟨holds.stored, holds.execution, holds.call⟩
  | publish succeeds => exact holds.publish succeeds
  | tickStore => exact holds.tickStore yields
  | callStore => exact holds.callStore yields

private theorem NothingLost.lost_tickStore (holds : NothingLost args id copy race)
    (broken : ¬ TickYields args backend race .tickStore) :
    Lost args id (race.step args backend calendar id .tickStore) := by
  -- The call has settled, and the tick has another value of enabled than the caller.
  obtain ⟨doc, stored, _, _⟩ := holds.stored
  simp only [TickYields, not_forall] at broken
  obtain ⟨settled, execution, present, updating, enabled, named, differs⟩ := broken
  obtain ⟨same, copied, writes⟩ := holds.execution execution present
  have present : race.execution = some execution := present
  have bad : ∀ after : ScheduleDoc, after.enabled = execution.leavesEnabled →
      ¬ args.KeptIn after :=
    fun after own kept => differs ((kept.1 enabled named).symm.trans own)
  unfold Execution.Writes at writes
  cases phase : execution.phase with
  | waiting => simp [phase, ExecutionPhase.updates] at updating
  | publishing => simp [phase, ExecutionPhase.updates] at updating
  | updating call =>
    rw [phase] at writes
    simp only [UpdateRace.step, present, phase, Execution.callStore]
    cases call with
    | writing merged =>
      exact ⟨settled, .inl ⟨rfl, merged, same ▸ OrderedMap.get?_set_self ..,
        bad merged writes.1⟩⟩
    | update updates =>
      have own := (applyUpdates_tick backend doc writes.1 writes.2).1
      simp only [Backend.callUpdate, same, stored]
      cases backend with
      | firestore =>
        exact ⟨settled, .inl ⟨rfl, _, OrderedMap.get?_set_self .., bad _ own⟩⟩
      | documentStore =>
        -- It is lost as soon as the tick has read, for its write is still to come.
        exact ⟨settled, .inr ⟨_, _, rfl, rfl, rfl, bad _ own⟩⟩

private theorem NothingLost.lost_callStore (holds : NothingLost args id copy race)
    (broken : ¬ TickYields args backend race .callStore) :
    Lost args id (race.step args backend calendar id .callStore) := by
  -- The tick has read the old schedule, and writes it after the call has.
  obtain ⟨doc, stored, _, _⟩ := holds.stored
  simp only [TickYields, not_forall] at broken
  obtain ⟨writing, execution, present, has_read, spec, named, differs⟩ := broken
  obtain ⟨same, copied, writes⟩ := holds.execution execution present
  have present : race.execution = some execution := present
  have unsettled : race.call ≠ .settled := by
    intro settled
    simp [settled, ToolCall.writes] at writing
  unfold Execution.Writes at writes
  cases phase : execution.phase with
  | waiting => simp [phase, ExecutionPhase.hasRead] at has_read
  | publishing => simp [phase, ExecutionPhase.hasRead] at has_read
  | updating update =>
    rw [phase] at writes
    cases update with
    | update updates => simp [phase, ExecutionPhase.hasRead] at has_read
    | writing merged =>
      -- The tick is going to write the schedule that it has read.
      have bad : ¬ args.KeptIn merged := by
        intro kept
        apply differs
        rw [← kept.2 spec named, writes.2.1 unsettled, copied]
      cases calling : race.call with
      | settled => exact absurd calling unsettled
      | reading => simp [calling, ToolCall.writes] at writing
      | updating call =>
        simp only [UpdateRace.step, calling, ScheduleArgs.callStore]
        cases call with
        | writing after =>
          exact ⟨rfl, .inr ⟨execution, merged, present, same, phase, bad⟩⟩
        | update updates =>
          simp only [Backend.callUpdate, stored]
          cases backend with
          | firestore => exact ⟨rfl, .inr ⟨execution, merged, present, same, phase, bad⟩⟩
          | documentStore => simp [calling, ToolCall.writes] at writing

theorem NothingLost.lost (holds : NothingLost args id copy race) (input : RaceInput)
    (broken : ¬ TickYields args backend race input) :
    Lost args id (race.step args backend calendar id input) := by
  cases input with
  | elapse duration => exact absurd trivial broken
  | publish succeeds => exact absurd trivial broken
  | tickStore => exact holds.lost_tickStore broken
  | callStore => exact holds.lost_callStore broken

end

theorem kept_iff_tickYields {backend : Backend} {calendar : Calendar} {now : Int}
    {schedules : OrderedMap String ScheduleDoc} {id : String} {schedule : ScheduleDoc}
    {args : ScheduleArgs} {inputs : List RaceInput}
    (due : (id, schedule) ∈ getDueSchedules schedules now)
    (settled : (run (UpdateRace.step args backend calendar id)
      (.start now schedules id schedule) inputs).Settled) :
    (∃ after, (run (UpdateRace.step args backend calendar id)
        (.start now schedules id schedule) inputs).schedules.get? id = some after ∧
        args.KeptIn after) ↔
      Along (UpdateRace.step args backend calendar id) (TickYields args backend)
        (.start now schedules id schedule) inputs := by
  -- A race that has settled is either one that lost nothing, or one that lost something.
  have initial : NothingLost args id schedule (.start now schedules id schedule) := by
    refine ⟨⟨schedule, (of_mem_getDueSchedules due).1, fun _ => rfl, fun settled => ?_⟩,
      fun execution present => ?_, trivial⟩
    · cases settled
    · rw [← Option.some.inj present]
      exact ⟨rfl, rfl, trivial⟩
  refine good_iff_along (NothingLost args id schedule) (Lost args id)
    (fun race => ∃ after, race.schedules.get? id = some after ∧ args.KeptIn after)
    (fun _ input holds yields => holds.step input yields)
    (fun _ input holds broken => holds.lost input broken) (fun _ input lost => lost.step input)
    initial ?_ ?_
  · rintro ⟨⟨doc, stored, _, late⟩, _, _⟩
    exact ⟨doc, stored, late settled.2⟩
  · rintro ⟨_, ⟨_, doc, stored, bad⟩ | ⟨execution, _, present, _⟩⟩ ⟨after, found, kept⟩
    · rw [stored] at found
      cases found
      exact bad kept
    · rw [settled.1] at present
      cases present

/-- When a call touches only what it names, and when a tick leaves what it set. -/
theorem updates_kept_iff (backend : Backend) (calendar : Calendar) (args : ScheduleArgs)
    (id : String) (schedules : OrderedMap String ScheduleDoc) :
    (∀ clock, UpdatedRight args calendar clock id schedules
        (args.updateSchedule backend calendar clock id schedules).1 ↔
      ∀ existing, schedules.get? id = some existing →
        UpdateFits args backend calendar clock existing) ∧
    ∀ (now : Int) (schedule : ScheduleDoc) (inputs : List RaceInput),
      (id, schedule) ∈ getDueSchedules schedules now →
      (run (UpdateRace.step args backend calendar id)
        (.start now schedules id schedule) inputs).Settled →
      ((∃ after, (run (UpdateRace.step args backend calendar id)
          (.start now schedules id schedule) inputs).schedules.get? id = some after ∧
          args.KeptIn after) ↔
        Along (UpdateRace.step args backend calendar id) (TickYields args backend)
          (.start now schedules id schedule) inputs) :=
  ⟨fun _ => updatedRight_iff, fun _ _ _ => kept_iff_tickYields⟩

/-- A schedule that is disabled after a tick has advanced it stays disabled. -/
theorem updates_kept_disabled :
    let race := run (UpdateRace.step { enabled := some false } .documentStore minuteCalendar
        "standup")
      (.start 1785110400000 storedSchedules "standup" standup)
      [.callStore, .publish true, .tickStore, .callStore, .tickStore, .callStore]
    ∃ after, race.schedules.get? "standup" = some after ∧
      ScheduleArgs.KeptIn { enabled := some false } after :=
  ((updates_kept_iff .documentStore minuteCalendar { enabled := some false } "standup"
    storedSchedules).2 1785110400000 standup [.callStore, .publish true, .tickStore, .callStore,
      .tickStore, .callStore] (by decide +kernel) (by decide +kernel)).mpr (by decide +kernel)

/-- A new title drops the event, and a tick enables a schedule that was disabled meanwhile. -/
theorem updates_lost :
    (¬ ∀ (backend : Backend) (calendar : Calendar) (args : ScheduleArgs) (id : String)
      (schedules : OrderedMap String ScheduleDoc) (clock : Int),
      UpdatedRight args calendar clock id schedules
        (args.updateSchedule backend calendar clock id schedules).1) ∧
    ¬ ∀ (backend : Backend) (calendar : Calendar) (args : ScheduleArgs) (id : String)
      (schedules : OrderedMap String ScheduleDoc) (now : Int) (schedule : ScheduleDoc)
      (inputs : List RaceInput), (id, schedule) ∈ getDueSchedules schedules now →
      (run (UpdateRace.step args backend calendar id)
        (.start now schedules id schedule) inputs).Settled →
      ∃ after, (run (UpdateRace.step args backend calendar id)
        (.start now schedules id schedule) inputs).schedules.get? id = some after ∧
        args.KeptIn after := by
  constructor
  · intro right
    obtain ⟨updated, found, only, _⟩ := (right .documentStore minuteCalendar
      { title := some "Daily standup" } "standup" storedSchedules 1785110340000).named
      _ rfl
    -- The event was not named, and is not there any more.
    have dropped : ((ScheduleArgs.updateSchedule { title := some "Daily standup" } .documentStore
        minuteCalendar 1785110340000 "standup" storedSchedules).1.get? "standup").map (·.event) =
        some none := by decide +kernel
    rw [found, Option.map_some, only.event] at dropped
    revert dropped
    decide +kernel
  · intro kept
    obtain ⟨after, found, enabled, _⟩ := kept .firestore minuteCalendar { enabled := some false }
      "standup" storedSchedules 1785110400000 standup
      [.publish true, .callStore, .callStore, .tickStore] (by decide +kernel) (by decide +kernel)
    -- The tick has written back what it read before the call.
    have enabled_again : ((run (UpdateRace.step { enabled := some false } .firestore
        minuteCalendar "standup") (.start 1785110400000 storedSchedules "standup" standup)
        [.publish true, .callStore, .callStore, .tickStore]).schedules.get? "standup").map
          (·.enabled) = some true := by decide +kernel
    rw [found, Option.map_some, enabled false rfl] at enabled_again
    cases enabled_again

end BitBrat
