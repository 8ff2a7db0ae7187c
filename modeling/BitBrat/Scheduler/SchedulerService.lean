import BitBrat.Persistence.Repository

/-! Schedule documents, the two repositories that keep them, and when a schedule runs next. -/

namespace BitBrat

open Js

inductive ScheduleType where
  | once
  | cron
  deriving DecidableEq

structure ScheduleSpec where
  type : ScheduleType
  value : String
  deriving DecidableEq

/-- A schedule as it is stored under its id, with times in milliseconds. -/
structure ScheduleDoc where
  title : String
  description : Option String := none
  schedule : ScheduleSpec
  event : Option Value
  topic : Option String := none
  enabled : Bool
  lastRun : Option Int := none
  /-- A next run that is null reads as one that is absent. -/
  nextRun : Option Int := none
  createdAt : Int
  updatedAt : Int
  deriving DecidableEq

/-- A member of an update object, which can be there with no value. -/
inductive Member (α : Type) where
  | missing
  | undefined
  | null
  | value (value : α)
  deriving DecidableEq

/-- What is stored under a member after an update. -/
def Backend.applyMember {α : Type} (backend : Backend) (member : Member α) (stored : Option α) :
    Option α :=
  match member with
  | .missing => stored
  -- The one database ignores undefined properties. In the other they replace the stored member,
  -- and are then left out of the text.
  | .undefined => match backend with
    | firestore => stored
    | documentStore => none
  | .null => none
  | .value written => some written

/-- A partial schedule, with the members that the service writes. -/
structure ScheduleUpdates where
  title : Option String := none
  description : Option String := none
  schedule : Option ScheduleSpec := none
  event : Member Value := .missing
  topic : Option String := none
  enabled : Option Bool := none
  lastRun : Option Int := none
  nextRun : Member Int := .missing
  updatedAt : Int
  deriving DecidableEq

/-- What an update makes of the stored schedule, in either database. -/
def Backend.applyUpdates (backend : Backend) (stored : ScheduleDoc) (updates : ScheduleUpdates) :
    ScheduleDoc :=
  { title := updates.title.getD stored.title
    description := updates.description.or stored.description
    schedule := updates.schedule.getD stored.schedule
    event := backend.applyMember updates.event stored.event
    topic := updates.topic.or stored.topic
    enabled := updates.enabled.getD stored.enabled
    lastRun := updates.lastRun.or stored.lastRun
    nextRun := backend.applyMember updates.nextRun stored.nextRun
    createdAt := stored.createdAt
    updatedAt := updates.updatedAt }

inductive UpdateCall where
  | update (updates : ScheduleUpdates)
  | writing (merged : ScheduleDoc)
  deriving DecidableEq

/-- One database call of an update, and the call that is left to be made. -/
def Backend.callUpdate (backend : Backend) (schedules : OrderedMap String ScheduleDoc)
    (id : String) : UpdateCall → OrderedMap String ScheduleDoc × Option UpdateCall
  | .update updates =>
    match schedules.get? id with
    -- A schedule that is not there makes the update fail.
    | none => (schedules, none)
    | some stored =>
      let merged := backend.applyUpdates stored updates
      match backend with
      | firestore => (schedules.set id merged, none)
      -- The merged document is written back by a call of its own.
      | documentStore => (schedules, some (.writing merged))
  -- Whatever was written in between is overwritten.
  | .writing merged => (schedules.set id merged, none)

/-- The enabled schedules whose next run is at the given time or before it. -/
def getDueSchedules (schedules : OrderedMap String ScheduleDoc) (beforeOrAt : Int) :
    List (String × ScheduleDoc) :=
  schedules.entries.filter fun entry =>
    entry.2.enabled && entry.2.nextRun.any fun nextRun => nextRun ≤ beforeOrAt

/-- How dates and cron expressions are read, where an invalid one is not. -/
structure Calendar where
  date : String → Option Int
  /-- The first occurrence of a cron expression after a time. -/
  cronNext : String → Int → Option Int

/-- When a schedule runs next: a date that has passed and an invalid expression have no next run. -/
def Calendar.calculateNextRun (calendar : Calendar) (schedule : ScheduleSpec) (clock : Int) :
    Option Int :=
  match schedule.type with
  | .once => (calendar.date schedule.value).filter fun date => clock < date
  | .cron => calendar.cronNext schedule.value clock

theorem Calendar.lt_calculateNextRun {calendar : Calendar}
    (ahead : ∀ value time next, calendar.cronNext value time = some next → time < next)
    {schedule : ScheduleSpec} {clock next : Int}
    (calculated : calendar.calculateNextRun schedule clock = some next) : clock < next := by
  unfold calculateNextRun at calculated
  cases kind : schedule.type with
  | once =>
    rw [kind] at calculated
    simpa using (Option.filter_eq_some_iff.mp calculated).2
  | cron =>
    rw [kind] at calculated
    exact ahead _ _ _ calculated

theorem of_mem_getDueSchedules {schedules : OrderedMap String ScheduleDoc} {beforeOrAt : Int}
    {id : String} {doc : ScheduleDoc} (due : (id, doc) ∈ getDueSchedules schedules beforeOrAt) :
    schedules.get? id = some doc ∧ doc.enabled = true ∧
      ∃ nextRun, doc.nextRun = some nextRun ∧ nextRun ≤ beforeOrAt := by
  obtain ⟨member, test⟩ := List.mem_filter.mp due
  simp only [Bool.and_eq_true] at test
  obtain ⟨nextRun, stored, passed⟩ := (Option.any_eq_true ..).mp test.2
  exact ⟨lookup_of_mem schedules.distinct member, test.1, nextRun, stored, by simpa using passed⟩

theorem nodup_getDueSchedules (schedules : OrderedMap String ScheduleDoc) (beforeOrAt : Int) :
    ((getDueSchedules schedules beforeOrAt).map Prod.fst).Nodup :=
  schedules.distinct.sublist (List.filter_sublist.map _)

/-! The ticks of the scheduler: due schedules are published in batches, and then advanced. -/

def DEFAULT_PUBLISH_TOPIC : String := "internal.ingress.v1"

def CONCURRENCY_LIMIT : Nat := 10

inductive ExecutionPhase where
  | waiting
  | publishing
  | updating (call : UpdateCall)
  deriving DecidableEq

structure Execution where
  tick : Nat
  id : String
  schedule : ScheduleDoc
  now : Int
  phase : ExecutionPhase := .waiting
  deriving DecidableEq

structure Publication where
  id : String
  nextRun : Option Int
  type : ScheduleType
  topic : String
  deriving DecidableEq

structure SchedulerSystem where
  clock : Int
  schedules : OrderedMap String ScheduleDoc
  executions : List Execution := []
  nextTick : Nat := 0
  published : List Publication := []

inductive SchedulerInput where
  | elapse (duration : Nat)
  | handleTick (delay : Nat)
  | startBatch (tick : Nat)
  | publish (index : Nat) (succeeds : Bool)
  | callStore (index : Nat)
  deriving DecidableEq

def Execution.publication (execution : Execution) : Publication where
  id := execution.id
  nextRun := execution.schedule.nextRun
  type := execution.schedule.schedule.type
  topic := execution.schedule.topic.getD DEFAULT_PUBLISH_TOPIC

def Execution.advance (execution : Execution) (calendar : Calendar) (clock : Int) :
    ScheduleUpdates where
  lastRun := some execution.now
  nextRun :=
    -- The clock is read again here, after the publish call has come back.
    match calendar.calculateNextRun execution.schedule.schedule clock with
    | some nextRun => .value nextRun
    | none => .null
  enabled := some (if execution.schedule.schedule.type = .once then false
    else execution.schedule.enabled)
  updatedAt := execution.now

def Execution.afterPublish (execution : Execution) (calendar : Calendar) (clock : Int)
    (succeeds : Bool) : Option Execution :=
  -- A schedule that has lost its event fails before it is published.
  if succeeds = false ∨ execution.schedule.event = none then none
  else some { execution with phase := .updating (.update (execution.advance calendar clock)) }

/-- The next database call of an execution, and what is left of it. -/
def Execution.callStore (execution : Execution) (backend : Backend)
    (schedules : OrderedMap String ScheduleDoc) (call : UpdateCall) :
    OrderedMap String ScheduleDoc × Option Execution :=
  let (schedules, left) := backend.callUpdate schedules execution.id call
  (schedules, left.map fun call => { execution with phase := .updating call })

/-- Start the executions of a tick that are waiting, up to a number of them. -/
def startWaiting (tick : Nat) : Nat → List Execution → List Execution
  | 0, executions => executions
  | _ + 1, [] => []
  | left + 1, execution :: rest =>
    if execution.tick = tick ∧ execution.phase = .waiting then
      { execution with phase := .publishing } :: startWaiting tick left rest
    else execution :: startWaiting tick (left + 1) rest

namespace SchedulerSystem

def handleTick (system : SchedulerSystem) (delay : Nat) : SchedulerSystem :=
  -- The time of the tick is read before the query goes out.
  let now := system.clock - delay
  { system with
    executions := system.executions ++ (getDueSchedules system.schedules now).map
      fun (id, schedule) => { tick := system.nextTick, id, schedule, now }
    nextTick := system.nextTick + 1 }

/-- A tick starts its next batch when every execution of the last one has settled. -/
def startBatch (system : SchedulerSystem) (tick : Nat) : SchedulerSystem :=
  -- The next slice is taken only when all of the last one has settled, well or not.
  if ∀ execution ∈ system.executions, execution.tick = tick → execution.phase = .waiting then
    { system with executions := startWaiting tick CONCURRENCY_LIMIT system.executions }
  else system

def publish (calendar : Calendar) (system : SchedulerSystem) (index : Nat) (succeeds : Bool) :
    SchedulerSystem :=
  match system.executions[index]? with
  | none => system
  | some execution =>
    if execution.phase ≠ .publishing then system
    else
      -- A schedule that was not published stays due, and the next tick finds it again.
      let left := execution.afterPublish calendar system.clock succeeds
      { system with
        published := system.published ++ (left.map fun _ => execution.publication).toList
        executions := system.executions.eraseIdx index ++ left.toList }

def callStore (backend : Backend) (system : SchedulerSystem) (index : Nat) : SchedulerSystem :=
  match system.executions[index]? with
  | none => system
  | some execution =>
    match execution.phase with
    | .waiting | .publishing => system
    | .updating call =>
      let (schedules, left) := execution.callStore backend system.schedules call
      { system with schedules, executions := system.executions.eraseIdx index ++ left.toList }

def step (backend : Backend) (calendar : Calendar) (system : SchedulerSystem) :
    SchedulerInput → SchedulerSystem
  | .elapse duration => { system with clock := system.clock + duration }
  | .handleTick delay => system.handleTick delay
  | .startBatch tick => system.startBatch tick
  | .publish index succeeds => system.publish calendar index succeeds
  | .callStore index => system.callStore backend index

end SchedulerSystem

end BitBrat
