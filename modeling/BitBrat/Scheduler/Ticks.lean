import Mathlib.Data.List.Perm.Basic
import BitBrat.Machine.Run
import BitBrat.Scheduler.SchedulerService

/-! Overlapping ticks: how often each occurrence of a schedule is published. -/

namespace BitBrat

open Js Machine

/-- No occurrence is published twice, and no schedule that runs once is. -/
structure PublishedOnce (published : List Publication) : Prop where
  occurrences : (published.map fun publication => (publication.id, publication.nextRun)).Nodup
  onces : ((published.filter (·.type = .once)).map (·.id)).Nodup

def TicksApart (system : SchedulerSystem) : SchedulerInput → Prop
  | .handleTick delay =>
    ∀ entry ∈ getDueSchedules system.schedules (system.clock - delay),
      ∀ execution ∈ system.executions, execution.id ≠ entry.1
  | _ => True

instance : ∀ system input, Decidable (TicksApart system input)
  | system, .handleTick delay => inferInstanceAs (Decidable
      (∀ entry ∈ getDueSchedules system.schedules (system.clock - delay),
        ∀ execution ∈ system.executions, execution.id ≠ entry.1))
  | _, .elapse _ => inferInstanceAs (Decidable True)
  | _, .startBatch _ => inferInstanceAs (Decidable True)
  | _, .publish _ _ => inferInstanceAs (Decidable True)
  | _, .callStore _ => inferInstanceAs (Decidable True)

/-- A schedule that could run again has only occurrences behind it. -/
def Fresh (published : List Publication) (id : String) (schedule : ScheduleDoc) : Prop :=
  schedule.enabled = true → ∀ publication ∈ published, publication.id = id →
    publication.type = .cron ∧
      ∀ next, schedule.nextRun = some next → ∃ run, publication.nextRun = some run ∧ run < next

/-- What an execution holds is what is stored, and what it is going to store is fresh. -/
def Execution.Holds (backend : Backend) (system : SchedulerSystem) (execution : Execution) :
    Prop :=
  system.schedules.get? execution.id = some execution.schedule ∧
    match execution.phase with
    | .waiting | .publishing =>
      execution.schedule.enabled = true ∧
        (∃ run, execution.schedule.nextRun = some run ∧ run ≤ system.clock) ∧
        Fresh system.published execution.id execution.schedule
    | .updating (.update updates) =>
      Fresh system.published execution.id (backend.applyUpdates execution.schedule updates)
    | .updating (.writing merged) => Fresh system.published execution.id merged

/-- Every schedule is held at most once, and one that is not held is fresh. -/
structure HeldOnce (backend : Backend) (system : SchedulerSystem) : Prop where
  law : PublishedOnce system.published
  apart : (system.executions.map (·.id)).Nodup
  held : ∀ execution ∈ system.executions, execution.Holds backend system
  idle : ∀ id schedule, system.schedules.get? id = some schedule →
    id ∉ system.executions.map (·.id) → Fresh system.published id schedule

section

variable {backend : Backend} {calendar : Calendar} {system : SchedulerSystem}

variable {published : List Publication}

theorem Fresh.append {id : String} {schedule : ScheduleDoc} (fresh : Fresh published id schedule)
    {publication : Publication} (apart : publication.id ≠ id) :
    Fresh (published ++ [publication]) id schedule := by
  intro enabled listed member same
  rcases List.mem_append.mp member with before | new
  · exact fresh enabled listed before same
  · rw [List.mem_singleton.mp new] at same
    exact absurd same apart

variable {execution : Execution}

theorem Execution.Holds.congr {after : SchedulerSystem} (holds : execution.Holds backend system)
    (stored : after.schedules.get? execution.id = system.schedules.get? execution.id)
    (later : system.clock ≤ after.clock)
    (fresh : ∀ schedule, Fresh system.published execution.id schedule →
      Fresh after.published execution.id schedule) : execution.Holds backend after := by
  -- What is held depends on the stored schedule, the clock, and what was published for it.
  obtain ⟨copy, sound⟩ := holds
  refine ⟨stored.trans copy, ?_⟩
  cases phase : execution.phase with
  | waiting =>
    rw [phase] at sound
    obtain ⟨enabled, ⟨run, due, passed⟩, before⟩ := sound
    exact ⟨enabled, ⟨run, due, le_trans passed later⟩, fresh _ before⟩
  | publishing =>
    rw [phase] at sound
    obtain ⟨enabled, ⟨run, due, passed⟩, before⟩ := sound
    exact ⟨enabled, ⟨run, due, le_trans passed later⟩, fresh _ before⟩
  | updating call =>
    rw [phase] at sound
    cases call with
    | update updates => exact fresh _ sound
    | writing merged => exact fresh _ sound

variable {index : Nat}

theorem executions_perm (there : system.executions[index]? = some execution) :
    system.executions.Perm (execution :: system.executions.eraseIdx index) := by
  obtain ⟨bound, rfl⟩ := List.getElem?_eq_some_iff.mp there
  exact (List.getElem_cons_eraseIdx_perm bound).symm

theorem HeldOnce.others (held : HeldOnce backend system)
    (there : system.executions[index]? = some execution) : execution.Holds backend system ∧
      ((execution :: system.executions.eraseIdx index).map (·.id)).Nodup ∧
      ∀ other ∈ system.executions.eraseIdx index,
        other.id ≠ execution.id ∧ other.Holds backend system := by
  have perm := executions_perm there
  have apart := (perm.map (·.id)).nodup_iff.mp held.apart
  refine ⟨held.held _ (List.mem_of_getElem? there), apart, fun other member => ⟨?_, ?_⟩⟩
  · rintro same
    rw [List.map_cons, List.nodup_cons] at apart
    exact apart.1 (same ▸ List.mem_map_of_mem member)
  · exact held.held _ (List.mem_of_mem_eraseIdx member)

theorem ids_startWaiting (tick left : Nat) (executions : List Execution) :
    (startWaiting tick left executions).map (·.id) = executions.map (·.id) := by
  fun_induction startWaiting tick left executions <;> simp_all

theorem mem_startWaiting {tick left : Nat} {executions : List Execution}
    (member : execution ∈ startWaiting tick left executions) :
    execution ∈ executions ∨ ∃ before ∈ executions, before.phase = .waiting ∧
      execution = { before with phase := .publishing } := by
  -- The induction follows the list, for any number of executions that can still start.
  induction executions generalizing left with
  | nil => cases left <;> simp [startWaiting] at member
  | cons first rest ih =>
    cases left with
    | zero => exact .inl member
    | succ left =>
      rw [startWaiting] at member
      by_cases waits : first.tick = tick ∧ first.phase = .waiting
      · rw [if_pos waits] at member
        rcases List.mem_cons.mp member with here | later
        · exact .inr ⟨first, by simp, waits.2, here⟩
        · rcases ih later with same | ⟨before, listed, rest⟩
          · exact .inl (List.mem_cons_of_mem _ same)
          · exact .inr ⟨before, List.mem_cons_of_mem _ listed, rest⟩
      · rw [if_neg waits] at member
        rcases List.mem_cons.mp member with here | later
        · exact .inl (here ▸ List.mem_cons_self)
        · rcases ih later with same | ⟨before, listed, rest⟩
          · exact .inl (List.mem_cons_of_mem _ same)
          · exact .inr ⟨before, List.mem_cons_of_mem _ listed, rest⟩

theorem HeldOnce.handleTick (held : HeldOnce backend system) {delay : Nat}
    (free : TicksApart system (.handleTick delay)) :
    HeldOnce backend (system.handleTick delay) := by
  -- The new executions hold what was found, and none of it was held before.
  have ids : (system.handleTick delay).executions.map (·.id) = system.executions.map (·.id) ++
      (getDueSchedules system.schedules (system.clock - delay)).map Prod.fst := by
    simp [SchedulerSystem.handleTick, Function.comp_def]
  refine ⟨held.law, ?_, ?_, ?_⟩
  · -- The schedules found are distinct, and nobody else holds one of them.
    rw [ids]
    refine List.Nodup.append held.apart (nodup_getDueSchedules _ _) ?_
    intro id early found
    obtain ⟨execution, listed, rfl⟩ := List.mem_map.mp early
    obtain ⟨entry, due, same⟩ := List.mem_map.mp found
    exact free entry due execution listed same.symm
  · intro execution member
    rcases List.mem_append.mp member with early | new
    · exact (held.held execution early).congr rfl le_rfl fun _ fresh => fresh
    · -- What the tick finds is stored, is due, and was not held.
      obtain ⟨⟨id, schedule⟩, due, rfl⟩ := List.mem_map.mp new
      obtain ⟨stored, enabled, run, next, passed⟩ := of_mem_getDueSchedules due
      have unheld : id ∉ system.executions.map (·.id) := by
        intro early
        obtain ⟨execution, listed, same⟩ := List.mem_map.mp early
        exact free (id, schedule) due execution listed same
      refine ⟨stored, enabled, ⟨run, next, ?_⟩, held.idle id schedule stored unheld⟩
      change run ≤ system.clock
      omega
  · intro id schedule stored unheld
    rw [ids, List.mem_append, not_or] at unheld
    exact held.idle id schedule stored unheld.1

theorem HeldOnce.startBatch (held : HeldOnce backend system) (tick : Nat) :
    HeldOnce backend (system.startBatch tick) := by
  -- Only the phases of waiting executions change.
  unfold SchedulerSystem.startBatch
  split
  · have ids := ids_startWaiting tick CONCURRENCY_LIMIT system.executions
    refine ⟨held.law, ids ▸ held.apart, ?_, ?_⟩
    · intro execution member
      rcases mem_startWaiting member with same | ⟨before, listed, waits, rfl⟩
      · exact (held.held execution same).congr rfl le_rfl fun _ fresh => fresh
      · -- A waiting execution and a publishing one hold the same.
        have holds := held.held before listed
        unfold Execution.Holds at holds ⊢
        rw [waits] at holds
        exact holds
    · intro id schedule stored unheld
      rw [ids] at unheld
      exact held.idle id schedule stored unheld
  · exact held

theorem PublishedOnce.append (law : PublishedOnce published) {run : Int}
    (enabled : execution.schedule.enabled = true) (due : execution.schedule.nextRun = some run)
    (fresh : Fresh published execution.id execution.schedule) :
    PublishedOnce (published ++ [execution.publication]) := by
  -- A fresh occurrence is later than every one published for the same schedule.
  constructor
  · -- An earlier occurrence of the schedule lies behind this one.
    rw [List.map_append, List.nodup_append']
    refine ⟨law.occurrences, by simp, ?_⟩
    intro occurrence early new
    obtain ⟨publication, listed, rfl⟩ := List.mem_map.mp early
    have same := List.mem_singleton.mp new
    obtain ⟨id_eq, run_eq⟩ := Prod.mk.injEq .. ▸ same
    obtain ⟨before, at_before, behind⟩ := (fresh enabled publication listed id_eq).2 run due
    have equal : some before = some run := by
      rw [← at_before, run_eq, ← due]
      rfl
    cases equal
    exact lt_irrefl _ behind
  · rw [List.filter_append, List.map_append]
    by_cases once : execution.publication.type = .once
    · -- An enabled schedule has only recurring publications.
      have kept : [execution.publication].filter (·.type = .once) = [execution.publication] := by
        simp [once]
      rw [kept, List.nodup_append']
      refine ⟨law.onces, by simp, ?_⟩
      intro id early new
      obtain ⟨publication, listed, rfl⟩ := List.mem_map.mp early
      obtain ⟨listed, once⟩ := List.mem_filter.mp listed
      have same := List.mem_singleton.mp new
      have recurring := (fresh enabled publication listed same).1
      simp [recurring] at once
    · have dropped : [execution.publication].filter (·.type = .once) = [] := by
        simp [once]
      rw [dropped, List.map_nil, List.append_nil]
      exact law.onces

theorem Fresh.advance {run : Int}
    (ahead : ∀ value time next, calendar.cronNext value time = some next → time < next)
    (enabled : execution.schedule.enabled = true) {clock : Int}
    (due : execution.schedule.nextRun = some run) (passed : run ≤ clock)
    (fresh : Fresh published execution.id execution.schedule) :
    Fresh (published ++ [execution.publication]) execution.id
      (backend.applyUpdates execution.schedule (execution.advance calendar clock)) := by
  intro again publication member same
  -- Only a recurring schedule stays enabled.
  have recurring : execution.schedule.schedule.type = .cron := by
    cases kind : execution.schedule.schedule.type with
    | cron => rfl
    | once => simp [Backend.applyUpdates, Execution.advance, kind] at again
  -- Its next run is calculated from the time of the publication.
  have later : ∀ next, (backend.applyUpdates execution.schedule
      (execution.advance calendar clock)).nextRun = some next → run < next := by
    intro next stored
    cases calculated : calendar.calculateNextRun execution.schedule.schedule clock with
    | none =>
      simp [Backend.applyUpdates, Execution.advance, calculated, Backend.applyMember] at stored
    | some date =>
      simp only [Backend.applyUpdates, Execution.advance, calculated, Backend.applyMember,
        Option.some.injEq] at stored
      subst stored
      exact lt_of_le_of_lt passed (Calendar.lt_calculateNextRun ahead calculated)
  rcases List.mem_append.mp member with before | new
  · obtain ⟨kind, behind⟩ := fresh enabled publication before same
    refine ⟨kind, fun next stored => ?_⟩
    obtain ⟨earlier, at_earlier, lt⟩ := behind run due
    exact ⟨earlier, at_earlier, lt.trans (later next stored)⟩
  · rw [List.mem_singleton.mp new]
    exact ⟨recurring, fun next stored => ⟨run, due, later next stored⟩⟩

private theorem HeldOnce.idle_besides (held : HeldOnce backend system)
    (there : system.executions[index]? = some execution) {id : String} {schedule : ScheduleDoc}
    (stored : system.schedules.get? id = some schedule) (apart : id ≠ execution.id)
    (unheld : id ∉ (system.executions.eraseIdx index).map (·.id)) :
    Fresh system.published id schedule := by
  apply held.idle id schedule stored
  intro early
  -- Who holds it is the execution itself or one of the others.
  rcases List.mem_cons.mp (((executions_perm there).map (·.id)).mem_iff.mp early) with own | other
  · exact apart own
  · exact unheld other

theorem HeldOnce.publish (held : HeldOnce backend system)
    (ahead : ∀ value time next, calendar.cronNext value time = some next → time < next)
    (index : Nat) (succeeds : Bool) :
    HeldOnce backend (system.publish calendar index succeeds) := by
  -- The execution goes on with its update after a publication, and is dropped without one.
  unfold SchedulerSystem.publish
  cases there : system.executions[index]? with
  | none => exact held
  | some execution =>
    obtain ⟨holds, apart, others⟩ := held.others there
    simp only
    by_cases publishing : execution.phase = .publishing
    · obtain ⟨stored, sound⟩ := holds
      rw [publishing] at sound
      obtain ⟨enabled, ⟨run, due, passed⟩, fresh⟩ := sound
      rw [if_neg (not_not.mpr publishing)]
      cases left : execution.afterPublish calendar system.clock succeeds with
      | none =>
        -- A schedule that could not be published is as it was.
        rw [Option.map_none, Option.toList_none, List.append_nil, Option.toList_none,
          List.append_nil]
        refine ⟨held.law, (List.nodup_cons.mp apart).2,
          fun other member => (others other member).2, ?_⟩
        intro id schedule listed unheld
        by_cases own : id = execution.id
        · subst own
          rw [stored] at listed
          cases listed
          exact fresh
        · exact held.idle_besides there listed own unheld
      | some published =>
        -- What was published is advanced next.
        have advanced : published = { execution with
            phase := .updating (.update (execution.advance calendar system.clock)) } := by
          unfold Execution.afterPublish at left
          split at left
          · cases left
          · exact (Option.some.inj left).symm
        rw [Option.map_some, Option.toList_some, Option.toList_some]
        refine ⟨held.law.append enabled due fresh, ?_, ?_, ?_⟩
        · -- The same schedules are held as before.
          rw [List.map_append, advanced]
          exact (List.perm_append_comm.nodup_iff.mp apart)
        · intro other member
          rcases List.mem_append.mp member with early | new
          · obtain ⟨distinct, holds⟩ := others other early
            exact holds.congr rfl le_rfl fun _ before => before.append (Ne.symm distinct)
          · rw [List.mem_singleton.mp new, advanced]
            exact ⟨stored, fresh.advance ahead enabled due passed⟩
        · intro id schedule listed unheld
          rw [List.map_append, List.mem_append, not_or, advanced] at unheld
          have apart : id ≠ execution.id := by
            intro own
            exact unheld.2 (by simp [own])
          exact (held.idle_besides there listed apart unheld.1).append (Ne.symm apart)
    · -- A publish call that was not made cannot come back.
      rw [if_pos publishing]
      exact held

theorem HeldOnce.callStore (held : HeldOnce backend system) (index : Nat) :
    HeldOnce backend (system.callStore backend index) := by
  -- The execution is over with its last write, and its schedule is fresh from then on.
  unfold SchedulerSystem.callStore
  cases there : system.executions[index]? with
  | none => exact held
  | some execution =>
    obtain ⟨⟨stored, sound⟩, apart, others⟩ := held.others there
    have perm := (executions_perm there).map (·.id)
    -- A schedule that is not held after the write is fresh, and so is every other one.
    have written : ∀ schedule, Fresh system.published execution.id schedule →
        HeldOnce backend { system with
          schedules := system.schedules.set execution.id schedule
          executions := system.executions.eraseIdx index ++ [] } := by
      intro schedule fresh
      rw [List.append_nil]
      refine ⟨held.law, (List.nodup_cons.mp apart).2, fun other member => ?_, ?_⟩
      · obtain ⟨distinct, holds⟩ := others other member
        exact holds.congr (OrderedMap.get?_set_of_ne _ distinct _) le_rfl fun _ before => before
      · intro id listed found unheld
        rw [OrderedMap.get?_set] at found
        split at found
        · rename_i own
          cases found
          exact own ▸ fresh
        · rename_i own
          exact held.idle_besides there found own unheld
    cases phase : execution.phase with
    | waiting => simpa only [phase] using held
    | publishing => simpa only [phase] using held
    | updating call =>
      rw [phase] at sound
      simp only [phase, Execution.callStore]
      cases call with
      | writing merged => exact written merged sound
      | update updates =>
        -- The one database is done after this call, and the other has a second one to make.
        simp only [Backend.callUpdate, stored]
        cases backend with
        | firestore => exact written _ sound
        | documentStore =>
          -- The schedule has been read, and is still held.
          refine ⟨held.law, ?_, ?_, ?_⟩
          · simp only [Option.map_some, Option.toList_some, List.map_cons, List.map_nil,
              List.map_append]
            exact List.perm_append_comm.nodup_iff.mp apart
          · intro other member
            rcases List.mem_append.mp member with early | new
            · exact (others other early).2.congr rfl le_rfl fun _ before => before
            · simp only [Option.map_some, Option.toList_some, List.mem_singleton] at new
              rw [new]
              exact ⟨stored, sound⟩
          · intro id schedule listed unheld
            simp only [Option.map_some, Option.toList_some, List.map_cons, List.map_nil,
              List.map_append] at unheld
            refine held.idle id schedule listed fun early => unheld ?_
            exact List.perm_append_comm.mem_iff.mp (perm.mem_iff.mp early)

theorem HeldOnce.step (held : HeldOnce backend system)
    (ahead : ∀ value time next, calendar.cronNext value time = some next → time < next)
    (input : SchedulerInput) (free : TicksApart system input) :
    HeldOnce backend (system.step backend calendar input) := by
  cases input with
  | elapse duration =>
    -- An occurrence that was due is still due later.
    refine ⟨held.law, held.apart, fun execution member => ?_, held.idle⟩
    refine (held.held execution member).congr rfl ?_ fun _ fresh => fresh
    change system.clock ≤ system.clock + duration
    omega
  | handleTick delay => exact held.handleTick free
  | startBatch tick => exact held.startBatch tick
  | publish index succeeds => exact held.publish ahead index succeeds
  | callStore index => exact held.callStore index

end

def SchedulerSystem.start (clock : Int) (schedules : OrderedMap String ScheduleDoc) :
    SchedulerSystem :=
  { clock, schedules }

/-- Ticks that find due only what no earlier tick holds publish every occurrence at most once. -/
theorem publishedOnce_of_ticksApart (backend : Backend) (calendar : Calendar)
    (ahead : ∀ value time next, calendar.cronNext value time = some next → time < next)
    (clock : Int) (schedules : OrderedMap String ScheduleDoc) (inputs : List SchedulerInput)
    (free : Along (SchedulerSystem.step backend calendar) TicksApart
      (SchedulerSystem.start clock schedules) inputs) :
    PublishedOnce
      (run (SchedulerSystem.step backend calendar) (.start clock schedules) inputs).published := by
  have initial : HeldOnce backend (.start clock schedules) :=
    ⟨⟨by simp [SchedulerSystem.start], by simp [SchedulerSystem.start]⟩,
      by simp [SchedulerSystem.start], by simp [SchedulerSystem.start],
      fun _ _ _ _ _ publication listed => by simp [SchedulerSystem.start] at listed⟩
  -- The publications are those of executions that held their schedules alone.
  exact (run_invariant (HeldOnce backend)
    (fun _ input held free => held.step ahead input free) initial free).law

/-- A calendar that knows the expression for every minute, and one date. -/
def minuteCalendar : Calendar where
  date text := if text = "2026-07-27T00:00:00Z" then some 1785110400000 else none
  cronNext value time := if value = "* * * * *" then some ((time / 60000 + 1) * 60000) else none

theorem minuteCalendar_ahead (value : String) (time next : Int)
    (found : minuteCalendar.cronNext value time = some next) : time < next := by
  simp only [minuteCalendar] at found
  split at found
  · cases found
    omega
  · cases found

def standup : ScheduleDoc :=
  { title := "Standup", schedule := { type := .cron, value := "* * * * *" }
    event := some (.obj [("type", .str "llm.request.v1")]), enabled := true
    nextRun := some 1785110400000, createdAt := 0, updatedAt := 0 }

/-- A schedule that runs every minute, and one that runs once. -/
def storedSchedules : OrderedMap String ScheduleDoc :=
  (OrderedMap.empty.set "standup" standup).set "reminder"
    { title := "Reminder", schedule := { type := .once, value := "2026-07-27T00:00:00Z" }
      event := some (.obj [("type", .str "llm.request.v1")]), enabled := true
      nextRun := some 1785110400000, createdAt := 0, updatedAt := 0 }

/-- Two ticks one after the other publish three occurrences, and none of them twice. -/
theorem publishedOnce_minutes :
    let published := (run (SchedulerSystem.step .documentStore minuteCalendar)
      (.start 1785110400000 storedSchedules)
      [.handleTick 0, .startBatch 0, .publish 0 true, .publish 0 true, .callStore 0, .callStore 0,
        .callStore 0, .callStore 0, .elapse 60000, .handleTick 5, .elapse 55, .handleTick 50,
        .startBatch 2, .publish 0 true]).published
    PublishedOnce published ∧ published.length = 3 :=
  ⟨publishedOnce_of_ticksApart _ _ minuteCalendar_ahead _ _ _ (by decide +kernel),
    by decide +kernel⟩

/-- Two ticks that overlap publish the same occurrence. -/
theorem overlapping_ticks_publish_twice :
    ¬ ∀ (backend : Backend) (calendar : Calendar),
      (∀ value time next, calendar.cronNext value time = some next → time < next) →
      ∀ (clock : Int) (schedules : OrderedMap String ScheduleDoc) (inputs : List SchedulerInput),
        PublishedOnce (run (SchedulerSystem.step backend calendar) (.start clock schedules)
          inputs).published := by
  intro once
  have law := once .documentStore minuteCalendar minuteCalendar_ahead 1785110400000 storedSchedules
    [.handleTick 0, .handleTick 0, .startBatch 0, .startBatch 1, .publish 0 true, .publish 1 true]
  -- The second tick found due what the first was publishing.
  have occurrences := law.occurrences
  revert occurrences
  decide +kernel

end BitBrat
