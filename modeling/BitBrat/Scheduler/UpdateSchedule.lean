import BitBrat.Machine.Run
import BitBrat.Scheduler.SchedulerService

/-! The tool that updates a schedule: what it writes, and what a tick leaves of it. -/

namespace BitBrat

open Js Machine

/-- The arguments that the schema of the tool lets through, beside the id. -/
structure ScheduleArgs where
  title : Option String := none
  description : Option String := none
  schedule : Option ScheduleSpec := none
  event : Option Value := none
  topic : Option String := none
  enabled : Option Bool := none

/-- The update that is written for the arguments, where the schedule stored is the given one. -/
def ScheduleArgs.toUpdates (args : ScheduleArgs) (calendar : Calendar) (clock : Int)
    (existing : ScheduleDoc) : ScheduleUpdates where
  title := args.title
  description := args.description
  schedule := args.schedule
  -- The member is there without a value when no event is named.
  event := match args.event with
    | some event => .value event
    | none => .undefined
  topic := args.topic
  enabled := args.enabled
  nextRun :=
    -- A schedule that does not run again sets the member, but to no value.
    let recalculated schedule := match calendar.calculateNextRun schedule clock with
      | some nextRun => Member.value nextRun
      | none => .undefined
    match args.schedule with
    | some schedule => recalculated schedule
    | none =>
      if args.enabled = some true ∧ existing.nextRun = none then recalculated existing.schedule
      else .missing
  updatedAt := clock

inductive ToolCall where
  | reading
  | updating (call : UpdateCall)
  | settled
  deriving DecidableEq

def ScheduleArgs.callStore (args : ScheduleArgs) (backend : Backend) (calendar : Calendar)
    (clock : Int) (id : String) :
    OrderedMap String ScheduleDoc × ToolCall → OrderedMap String ScheduleDoc × ToolCall
  | (schedules, .reading) =>
    match schedules.get? id with
    -- The tool answers that there is no such schedule.
    | none => (schedules, .settled)
    | some existing => (schedules, .updating (.update (args.toUpdates calendar clock existing)))
  | (schedules, .updating call) =>
    match backend.callUpdate schedules id call with
    | (schedules, some left) => (schedules, .updating left)
    | (schedules, none) => (schedules, .settled)
  -- A call that has been answered does nothing more.
  | (schedules, .settled) => (schedules, .settled)

/-- A call of the tool that nothing comes between: it makes at most three database calls. -/
def ScheduleArgs.updateSchedule (args : ScheduleArgs) (backend : Backend) (calendar : Calendar)
    (clock : Int) (id : String) (schedules : OrderedMap String ScheduleDoc) :
    OrderedMap String ScheduleDoc × ToolCall :=
  (args.callStore backend calendar clock id)^[3] (schedules, .reading)

section

variable {backend : Backend} {calendar : Calendar} {clock : Int} {id : String}
variable {schedules : OrderedMap String ScheduleDoc} {args : ScheduleArgs}

theorem updateSchedule_of_none (absent : schedules.get? id = none) :
    args.updateSchedule backend calendar clock id schedules = (schedules, .settled) := by
  simp [ScheduleArgs.updateSchedule, ScheduleArgs.callStore, absent]

theorem updateSchedule_of_some {existing : ScheduleDoc}
    (stored : schedules.get? id = some existing) :
    args.updateSchedule backend calendar clock id schedules =
      (schedules.set id (backend.applyUpdates existing (args.toUpdates calendar clock existing)),
        .settled) := by
  -- The tool reads once, and the update takes one or two calls.
  cases backend with
  | firestore =>
    simp [ScheduleArgs.updateSchedule, ScheduleArgs.callStore, stored, Backend.callUpdate]
  | documentStore =>
    simp [ScheduleArgs.updateSchedule, ScheduleArgs.callStore, stored, Backend.callUpdate]

end

/-- Everything that the arguments name has the caller's value, and everything else its own. -/
structure NamedOnly (args : ScheduleArgs) (existing updated : ScheduleDoc) : Prop where
  title : updated.title = args.title.getD existing.title
  description : updated.description = args.description.or existing.description
  schedule : updated.schedule = args.schedule.getD existing.schedule
  event : updated.event = args.event.or existing.event
  topic : updated.topic = args.topic.or existing.topic
  enabled : updated.enabled = args.enabled.getD existing.enabled
  lastRun : updated.lastRun = existing.lastRun
  createdAt : updated.createdAt = existing.createdAt

structure UpdatedRight (args : ScheduleArgs) (calendar : Calendar) (clock : Int) (id : String)
    (before after : OrderedMap String ScheduleDoc) : Prop where
  others : ∀ other, other ≠ id → after.get? other = before.get? other
  absent : before.get? id = none → after.get? id = none
  named : ∀ existing, before.get? id = some existing → ∃ updated,
    after.get? id = some updated ∧ NamedOnly args existing updated ∧
      updated.nextRun = calendar.calculateNextRun updated.schedule clock

/-- The update names the event if it could be dropped, and the next run comes out right. -/
def UpdateFits (args : ScheduleArgs) (backend : Backend) (calendar : Calendar) (clock : Int)
    (existing : ScheduleDoc) : Prop :=
  (backend = .documentStore → args.event = none → existing.event = none) ∧
    match args.schedule with
    -- A schedule without a next run leaves the stored one where undefined members are ignored.
    | some schedule => backend = .firestore → calendar.calculateNextRun schedule clock = none →
        existing.nextRun = none
    -- Without a new schedule, only a next run that is missing is calculated.
    | none => (args.enabled = some true → existing.nextRun ≠ none) →
        existing.nextRun = calendar.calculateNextRun existing.schedule clock

section

variable {backend : Backend} {calendar : Calendar} {clock : Int} {args : ScheduleArgs}
variable {existing : ScheduleDoc}

theorem event_kept_iff :
    (backend.applyUpdates existing (args.toUpdates calendar clock existing)).event =
        args.event.or existing.event ↔
      (backend = .documentStore → args.event = none → existing.event = none) := by
  -- The databases differ in what an undefined member does to the stored one.
  cases backend with
  | firestore =>
    -- Undefined members are ignored, so that the stored event stays.
    cases named : args.event <;>
      simp [Backend.applyUpdates, ScheduleArgs.toUpdates, named, Backend.applyMember]
  | documentStore =>
    cases named : args.event with
    | none =>
      simp [Backend.applyUpdates, ScheduleArgs.toUpdates, named, Backend.applyMember, eq_comm]
    | some event => simp [Backend.applyUpdates, ScheduleArgs.toUpdates, named, Backend.applyMember]

theorem nextRun_right_iff :
    (backend.applyUpdates existing (args.toUpdates calendar clock existing)).nextRun =
        calendar.calculateNextRun (args.schedule.getD existing.schedule) clock ↔
      (match args.schedule with
        | some schedule => backend = .firestore → calendar.calculateNextRun schedule clock = none →
            existing.nextRun = none
        | none => (args.enabled = some true → existing.nextRun ≠ none) →
            existing.nextRun = calendar.calculateNextRun existing.schedule clock) := by
  -- Either a new schedule is named, or the stored one may be enabled again.
  cases named : args.schedule with
  | some schedule =>
    cases next : calendar.calculateNextRun schedule clock with
    | some nextRun =>
      simp [Backend.applyUpdates, ScheduleArgs.toUpdates, named, next, Backend.applyMember]
    | none =>
      -- The two databases differ in what they keep.
      cases backend with
      | firestore =>
        simp [Backend.applyUpdates, ScheduleArgs.toUpdates, named, next, Backend.applyMember]
      | documentStore =>
        simp [Backend.applyUpdates, ScheduleArgs.toUpdates, named, next, Backend.applyMember]
  | none =>
    by_cases enabling : args.enabled = some true ∧ existing.nextRun = none
    · cases next : calendar.calculateNextRun existing.schedule clock with
      | some nextRun =>
        simp [Backend.applyUpdates, ScheduleArgs.toUpdates, named, next, Backend.applyMember,
          enabling]
      | none =>
        cases backend with
        | firestore =>
          simp [Backend.applyUpdates, ScheduleArgs.toUpdates, named, next, Backend.applyMember,
            enabling]
        | documentStore =>
          simp [Backend.applyUpdates, ScheduleArgs.toUpdates, named, next, Backend.applyMember,
            enabling]
    · -- The stored next run stays as it is.
      have kept : (args.enabled = some true → existing.nextRun ≠ none) := by
        simpa using enabling
      have unchanged :
          (backend.applyUpdates existing (args.toUpdates calendar clock existing)).nextRun =
            existing.nextRun := by
        simp [Backend.applyUpdates, ScheduleArgs.toUpdates, named, Backend.applyMember, enabling]
      rw [unchanged]
      exact ⟨fun right _ => right, fun right => right kept⟩

theorem updatedRight_iff {id : String} {schedules : OrderedMap String ScheduleDoc} :
    UpdatedRight args calendar clock id schedules
        (args.updateSchedule backend calendar clock id schedules).1 ↔
      ∀ existing, schedules.get? id = some existing →
        UpdateFits args backend calendar clock existing := by
  -- The update writes one schedule, and only two of its members can come out wrong.
  cases stored : schedules.get? id with
  | none =>
    rw [updateSchedule_of_none stored]
    constructor
    · rintro _ existing ⟨⟩
    · intro _
      exact ⟨fun _ _ => rfl, fun absent => absent, fun existing found => by simp [stored] at found⟩
  | some existing =>
    rw [updateSchedule_of_some stored]
    constructor
    · rintro ⟨_, _, named⟩ _ ⟨⟩
      obtain ⟨updated, found, only, next⟩ := named existing stored
      rw [OrderedMap.get?_set_self, Option.some.injEq] at found
      subst found
      exact ⟨event_kept_iff.mp only.event, nextRun_right_iff.mp next⟩
    · intro fits
      obtain ⟨event, next⟩ := fits existing rfl
      refine ⟨fun other apart => OrderedMap.get?_set_of_ne _ apart _,
        fun absent => by simp [stored] at absent, ?_⟩
      intro before found
      rw [stored] at found
      cases found
      exact ⟨_, OrderedMap.get?_set_self .., ⟨rfl, rfl, rfl, event_kept_iff.mpr event, rfl, rfl,
        rfl, rfl⟩, nextRun_right_iff.mpr next⟩

end

end BitBrat
