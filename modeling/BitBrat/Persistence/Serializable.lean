import BitBrat.Persistence.Plan
import Mathlib.Logic.Function.Basic

/-! Concurrent operations on one event, whose calls to the document store interleave. -/

namespace BitBrat

open Js

/-- The operations that may run at the same time on one event, each with its own clock. -/
inductive Task (correlationId : String) where
  | upsertIngressEvent (clock : Clock) (event : Value)
      (addressed : event.get "correlationId" = .str correlationId)
  | applySnapshotEvent (clock : Clock) (message : Value)
      (addressed : snapshotCorrelationId message = correlationId)

/-- What an operation hands to the repository, unless it throws before it gets there. -/
def Task.plan {correlationId : String} : Task correlationId → Option Plan
  | upsertIngressEvent clock event _ => ingressPlan clock event
  | applySnapshotEvent clock message _ => snapshotPlan clock message

/-- The call that an operation makes next, with what it remembers of the calls before. -/
inductive Phase where
  | fetching
  | querying (fetched : Option Value)
  | updating (fetched : Option Value)
  | storing (snapshot : Value)
  | finished
  deriving DecidableEq

/-- The aggregate and the snapshot that are written, given the aggregate that was read. -/
def Plan.documents (fetched : Option Value) : Plan → Value × Value
  | upsertIngressEvent aggregate snapshot => (aggregate, snapshot)
  | applySnapshotEvent _ initialAggregate buildSnapshot =>
    let aggregate := fetched.getD initialAggregate
    let snapshot := buildSnapshot aggregate
    (applySnapshotToAggregate aggregate snapshot (sequenceOf snapshot), snapshot)

def Database.setAggregate (database : Database) (correlationId : String) (aggregate : Value) :
    Database :=
  { database with events := database.events.set correlationId (stripUndefinedDeep aggregate) }

def Database.setSnapshot (database : Database) (correlationId : String) (snapshot : Value) :
    Database :=
  { database with
    snapshots := database.snapshots.set
      (Backend.documentStore.snapshotKey correlationId (snapshotIdOf snapshot))
      (Backend.documentStore.snapshotDoc correlationId snapshot) }

def Plan.call (correlationId : String) (plan : Plan) (phase : Phase) (database : Database) :
    Phase × Database :=
  -- Every call sees what the calls of the other operations have left.
  match plan, phase with
  | upsertIngressEvent _ _, .fetching =>
    match database.events.get? correlationId with
    | some _ => (.finished, database)
    | none => (.updating none, database)
  | applySnapshotEvent _ _ _, .fetching =>
    (.querying (database.events.get? correlationId), database)
  | applySnapshotEvent idempotencyKey _ _, .querying fetched =>
    match database.findSnapshot .documentStore correlationId idempotencyKey with
    | some _ => (.finished, database)
    | none => (.updating fetched, database)
  | plan, .updating fetched =>
    (.storing (plan.documents fetched).2,
      database.setAggregate correlationId (plan.documents fetched).1)
  | _, .storing snapshot => (.finished, database.setSnapshot correlationId snapshot)
  | _, phase => (phase, database)

/-- One call of an operation, or its end when it throws. -/
def Task.call {correlationId : String} (task : Task correlationId) (phase : Phase)
    (database : Database) : Phase × Database :=
  match task.plan with
  | some plan => plan.call correlationId phase database
  | none => (.finished, database)

def Task.perform {correlationId : String} (task : Task correlationId) (database : Database) :
    Database :=
  database.settle <|
    match task with
    | upsertIngressEvent clock event _ =>
      BitBrat.upsertIngressEvent .documentStore clock event database
    | applySnapshotEvent clock message _ =>
      BitBrat.applySnapshotEvent .documentStore clock message database

structure System (ι : Type) where
  database : Database
  phase : ι → Phase

section Concurrent

variable {correlationId : String} {ι : Type} [DecidableEq ι]

def System.step (tasks : ι → Task correlationId) (system : System ι) (i : ι) : System ι :=
  let called := (tasks i).call (system.phase i) system.database
  { database := called.2, phase := Function.update system.phase i called.1 }

omit [DecidableEq ι] in
def System.begin (start : Database) : System ι := { database := start, phase := fun _ => .fetching }

def serial (tasks : ι → Task correlationId) (start : Database) (order : List ι) : Database :=
  order.foldl (fun database i => (tasks i).perform database) start

/-- An operation that writes its aggregate still finds the one that it read. -/
def Undisturbed (correlationId : String) (system : System ι) (i : ι) : Prop :=
  match system.phase i with
  | .updating fetched => system.database.events.get? correlationId = fetched
  | _ => True

omit [DecidableEq ι] in
instance (system : System ι) (i : ι) : Decidable (Undisturbed correlationId system i) := by
  unfold Undisturbed
  split <;> infer_instance

end Concurrent

structure Agree (correlationId : String) (left right : Database) : Prop where
  aggregate : left.events.get? correlationId = right.events.get? correlationId
  snapshots : left.snapshots.entries.Perm right.snapshots.entries

def Plan.key : Plan → Value
  | upsertIngressEvent _ snapshot => snapshot.get "idempotencyKey"
  | applySnapshotEvent idempotencyKey _ _ => idempotencyKey

/-- The key of a snapshot message is no other operation's key. -/
def Plan.Apart : Plan → Plan → Prop
  | upsertIngressEvent _ _, _ => True
  | applySnapshotEvent idempotencyKey _ _, other => idempotencyKey ≠ other.key

/-- No operation uses the key of another one's snapshot message. -/
def DistinctKeys {correlationId : String} {ι : Type} (tasks : ι → Task correlationId) : Prop :=
  ∀ i j plan other, i ≠ j → (tasks i).plan = some plan → (tasks j).plan = some other →
    plan.Apart other

/-! Undisturbed operations end as if they had run one after the other, as they wrote. -/

section Plans

variable {correlationId : String} {task : Task correlationId} {plan : Plan}

theorem Task.perform_eq (task : Task correlationId) (database : Database) :
    task.perform database = task.plan.elim database fun plan =>
      plan.perform .documentStore correlationId database := by
  cases task with
  | upsertIngressEvent clock event addressed =>
    exact settle_upsertIngressEvent .documentStore database addressed
  | applySnapshotEvent clock message addressed =>
    exact settle_applySnapshotEvent .documentStore database addressed

theorem Task.sound (planned : task.plan = some plan) : plan.Sound correlationId := by
  cases task with
  | upsertIngressEvent clock event addressed => exact sound_ingressPlan addressed planned
  | applySnapshotEvent clock message addressed => exact sound_snapshotPlan addressed planned

/-- A plan has not taken effect, and may still write next to what it fetched. -/
def Plan.Fresh (correlationId : String) (fetched : Option Value) (database : Database) :
    Plan → Prop
  | upsertIngressEvent _ _ => fetched = none
  | applySnapshotEvent idempotencyKey _ _ =>
    database.findSnapshot .documentStore correlationId idempotencyKey = none

/-- What a fresh plan writes, where the aggregate that it fetched is still the stored one. -/
structure Plan.Commits (correlationId : String) (plan : Plan) (database : Database)
    (documents : Value × Value) : Prop where
  next : NextEntry database correlationId documents.1 documents.2
  performed : plan.perform .documentStore correlationId database =
    database.write .documentStore correlationId documents.1 (snapshotIdOf documents.2) documents.2
  signed : stripUndefinedDeep (documents.2.get "idempotencyKey") = plan.key

theorem Plan.commits {fetched : Option Value} {database : Database}
    (sound : plan.Sound correlationId) (ledger : Ledger database correlationId)
    (shelved : Shelved .documentStore database correlationId)
    (fresh : plan.Fresh correlationId fetched database)
    (undisturbed : database.events.get? correlationId = fetched) :
    plan.Commits correlationId database (plan.documents fetched) := by
  cases plan with
  | upsertIngressEvent aggregate snapshot =>
    obtain ⟨clock, event, expireAt, addressed, same⟩ := sound
    obtain ⟨rfl, rfl⟩ := Prod.mk.inj same
    have absent : database.events.get? correlationId = none := undisturbed.trans fresh
    refine ⟨nextEntry_ingress clock addressed (ledger.unstarted absent) expireAt, ?_, ?_⟩
    · simp only [Plan.perform, absent, Plan.documents]
    · simp only [Plan.documents, Plan.key, buildSnapshotDoc, get_strip, Value.get_obj_cons]
      exact strip_strip _
  | applySnapshotEvent idempotencyKey initial build =>
    obtain ⟨snapshotEvent, expireAt, normalized, rfl, rfl, rfl⟩ := sound
    have next := nextEntry_buildSnapshot ledger shelved normalized expireAt fresh
    have written := applySnapshotEvent_of_unseen (initialAggregate snapshotEvent expireAt)
      (buildSnapshot snapshotEvent expireAt) fresh
    -- The aggregate that the serial operation starts from is the one that was fetched.
    have same : database.aggregateOr correlationId (initialAggregate snapshotEvent expireAt) =
        fetched.getD (initialAggregate snapshotEvent expireAt) := by
      rw [Database.aggregateOr, undisturbed]
    rw [same] at next written
    refine ⟨next, written, ?_⟩
    simp only [Plan.documents, Plan.key, key_buildSnapshot, normalized.strip_key]

end Plans

/-- The operation has written its aggregate, or will write nothing any more. -/
def Phase.Taken : Phase → Prop
  | storing _ | finished => True
  | _ => False

section Runs

variable {correlationId : String} {ι : Type} {tasks : ι → Task correlationId} {start : Database}

theorem serial_append (order : List ι) (i : ι) :
    serial tasks start (order ++ [i]) = (tasks i).perform (serial tasks start order) := by
  simp [serial]

def Pending (tasks : ι → Task correlationId) (i : ι) (snapshot : Value) (database : Database) :
    Prop :=
  ∃ plan, (tasks i).plan = some plan ∧
    (Backend.documentStore.snapshotDoc correlationId snapshot).get "idempotencyKey" = plan.key ∧
    database.snapshots.get? (Backend.documentStore.snapshotKey correlationId
      (snapshotIdOf snapshot)) =
        some (Backend.documentStore.snapshotDoc correlationId snapshot)

/-- What has happened so far is what the operations would have done one after the other. -/
structure Linear (tasks : ι → Task correlationId) (start : Database) (system : System ι)
    (order : List ι) : Prop where
  once : order.Nodup
  taken : ∀ i, i ∈ order ↔ (system.phase i).Taken
  ledger : Ledger (serial tasks start order) correlationId
  shelved : Shelved .documentStore (serial tasks start order) correlationId
  events : system.database.events = (serial tasks start order).events
  held : ∀ key doc, system.database.snapshots.get? key = some doc →
    (serial tasks start order).snapshots.get? key = some doc
  /-- The others are still to be stored by the operations that built them. -/
  awaited : ∀ key doc, (serial tasks start order).snapshots.get? key = some doc →
    system.database.snapshots.get? key = some doc ∨
      ∃ i snapshot, system.phase i = .storing snapshot ∧
        key = Backend.documentStore.snapshotKey correlationId (snapshotIdOf snapshot)
  pending : ∀ i snapshot, system.phase i = .storing snapshot →
    Pending tasks i snapshot (serial tasks start order)
  fresh : ∀ i plan fetched, (tasks i).plan = some plan → system.phase i = .updating fetched →
    plan.Fresh correlationId fetched (serial tasks start order)

variable [DecidableEq ι] {system : System ι} {order : List ι} {i : ι}

theorem phase_of_update {j : ι} {phase next : Phase}
    (now : Function.update system.phase i next j = phase) (differs : phase ≠ next) :
    system.phase j = phase := by
  by_cases here : j = i
  · subst here
    exact absurd (by simpa using now.symm) differs
  · simpa [Function.update_of_ne here] using now

theorem storing_of_waiting {j : ι} {snapshot : Value} (waiting : ¬ (system.phase i).Taken)
    (storing : system.phase j = .storing snapshot) (next : Phase) :
    Function.update system.phase i next j = .storing snapshot := by
  have other : j ≠ i := by
    rintro rfl
    exact waiting (by rw [storing]; trivial)
  rw [Function.update_of_ne other, storing]

theorem Linear.wait (linear : Linear tasks start system order) {next : Phase}
    (waiting : ¬ (system.phase i).Taken) (waits : ¬ next.Taken)
    (fresh : ∀ plan fetched, (tasks i).plan = some plan → next = .updating fetched →
      plan.Fresh correlationId fetched (serial tasks start order)) :
    Linear tasks start
      { database := system.database, phase := Function.update system.phase i next } order := by
  refine { linear with taken := fun j => ?_, awaited := ?_, pending := ?_, fresh := ?_ }
  · -- The operation that moves was waiting, and still is.
    by_cases same : j = i
    · subst same
      simp [linear.taken, waiting, waits]
    · simpa [Function.update_of_ne same] using linear.taken j
  · intro key doc found
    rcases linear.awaited key doc found with stored | ⟨j, snapshot, storing, rfl⟩
    · exact .inl stored
    · exact .inr ⟨j, snapshot, storing_of_waiting waiting storing next, rfl⟩
  · intro j snapshot storing
    have differs : Phase.storing snapshot ≠ next := by
      rintro rfl
      exact waits trivial
    exact linear.pending j snapshot (phase_of_update storing differs)
  · intro j plan fetched planned updating
    by_cases same : j = i
    · subst same
      exact fresh plan fetched planned (by simpa using updating)
    · exact linear.fresh j plan fetched planned
        (by simpa [Function.update_of_ne same] using updating)

theorem Linear.settle (linear : Linear tasks start system order)
    (waiting : ¬ (system.phase i).Taken)
    (idle : (tasks i).perform (serial tasks start order) = serial tasks start order) :
    Linear tasks start
      { database := system.database, phase := Function.update system.phase i .finished }
      (order ++ [i]) := by
  -- The operation takes its place behind the others, and changes nothing there.
  have same : serial tasks start (order ++ [i]) = serial tasks start order := by
    rw [serial_append, idle]
  have absent : i ∉ order := fun member => waiting ((linear.taken i).mp member)
  constructor
  · exact linear.once.append (List.nodup_singleton i) (by simpa using absent)
  · intro j
    by_cases here : j = i
    · subst here
      simp [Phase.Taken]
    · simpa [Function.update_of_ne here, here] using linear.taken j
  · rw [same]
    exact linear.ledger
  · rw [same]
    exact linear.shelved
  · rw [same]
    exact linear.events
  · rw [same]
    exact linear.held
  · rw [same]
    intro key doc found
    rcases linear.awaited key doc found with stored | ⟨j, snapshot, storing, rfl⟩
    · exact .inl stored
    · exact .inr ⟨j, snapshot, storing_of_waiting waiting storing _, rfl⟩
  · rw [same]
    exact fun j snapshot storing => linear.pending j snapshot (phase_of_update storing (by simp))
  · rw [same]
    exact fun j plan fetched planned updating =>
      linear.fresh j plan fetched planned (phase_of_update updating (by simp))

theorem Linear.store (linear : Linear tasks start system order) {snapshot : Value}
    (storing : system.phase i = .storing snapshot) :
    Linear tasks start
      { database := system.database.setSnapshot correlationId snapshot
        phase := Function.update system.phase i .finished }
      order := by
  -- The snapshot that was awaited is now stored, where the serial run has it.
  obtain ⟨plan, planned, signed, expected⟩ := linear.pending i snapshot storing
  refine { linear with taken := fun j => ?_, held := ?_, awaited := ?_, pending := ?_, fresh := ?_ }
  · by_cases here : j = i
    · subst here
      simp [linear.taken, storing, Phase.Taken]
    · simpa [Function.update_of_ne here] using linear.taken j
  · intro key doc found
    simp only [Database.setSnapshot, OrderedMap.get?_set] at found
    split at found
    · rename_i here
      rw [here, expected, found]
    · exact linear.held key doc found
  · intro key doc found
    simp only [Database.setSnapshot, OrderedMap.get?_set]
    split
    · rename_i here
      rw [here, expected] at found
      exact .inl found
    · rename_i apart
      rcases linear.awaited key doc found with stored | ⟨j, other, waits, rfl⟩
      · exact .inl stored
      · -- Another operation awaits another snapshot.
        have different : j ≠ i := by
          rintro rfl
          rw [storing] at waits
          cases waits
          exact apart rfl
        exact .inr ⟨j, other, by simpa [Function.update_of_ne different] using waits, rfl⟩
  · exact fun j snapshot storing => linear.pending j snapshot (phase_of_update storing (by simp))
  · exact fun j plan fetched planned updating =>
      linear.fresh j plan fetched planned (phase_of_update updating (by simp))

theorem Linear.commit (linear : Linear tasks start system order) {plan : Plan}
    {fetched : Option Value} (planned : (tasks i).plan = some plan)
    (apart : ∀ j other, j ≠ i → (tasks j).plan = some other → other.Apart plan)
    (updating : system.phase i = .updating fetched)
    (undisturbed : system.database.events.get? correlationId = fetched) :
    Linear tasks start
      { database := system.database.setAggregate correlationId (plan.documents fetched).1
        phase := Function.update system.phase i (.storing (plan.documents fetched).2) }
      (order ++ [i]) := by
  have performed := (tasks i).perform_eq (serial tasks start order)
  have commits := plan.commits ((tasks i).sound planned) linear.ledger linear.shelved
    (linear.fresh i plan fetched planned updating) (linear.events ▸ undisturbed)
  have waiting : ¬ (system.phase i).Taken := by
    rw [updating]
    exact id
  have absent : i ∉ order := fun member => waiting ((linear.taken i).mp member)
  obtain ⟨ledger, shelved⟩ := linear.ledger.write linear.shelved commits.next
  have unused := next_key_unused linear.shelved commits.next
  have entries := write_entries linear.shelved commits.next
  generalize documents_eq : plan.documents fetched = documents at *
  have after : serial tasks start (order ++ [i]) =
      (serial tasks start order).write .documentStore correlationId documents.1
        (snapshotIdOf documents.2) documents.2 := by
    rw [serial_append, performed, planned, Option.elim_some, commits.performed]
  have signed : (Backend.documentStore.snapshotDoc correlationId documents.2).get
      "idempotencyKey" = plan.key := by
    rw [get_snapshotDoc _ _ _ (by decide), commits.signed]
  -- What is read under any other key is what was read before.
  have kept {key : String × String} {doc : Value}
      (found : (serial tasks start order).snapshots.get? key = some doc) :
      (serial tasks start (order ++ [i])).snapshots.get? key = some doc := by
    have other : key ≠ Backend.documentStore.snapshotKey correlationId
        (snapshotIdOf documents.2) := by
      rintro rfl
      exact unused (List.mem_map_of_mem (f := Prod.fst) (mem_of_lookup found))
    rw [after, Database.write, OrderedMap.get?_set_of_ne _ other, found]
  constructor
  · exact linear.once.append (List.nodup_singleton i) (by simpa using absent)
  · intro j
    by_cases here : j = i
    · subst here
      simp [Phase.Taken]
    · simpa [Function.update_of_ne here, here] using linear.taken j
  · rw [after]
    exact ledger
  · rw [after]
    exact shelved
  · rw [after, Database.setAggregate, Database.write, linear.events]
  · exact fun key doc found => kept (linear.held key doc found)
  · intro key doc found
    rw [after, Database.write, OrderedMap.get?_set] at found
    split at found
    · rename_i here
      exact .inr ⟨i, documents.2, Function.update_self .., here⟩
    · rcases linear.awaited key doc found with stored | ⟨j, snapshot, storing, rfl⟩
      · exact .inl stored
      · exact .inr ⟨j, snapshot, storing_of_waiting waiting storing _, rfl⟩
  · intro j snapshot storing
    by_cases here : j = i
    · subst here
      simp only [Function.update_self, Phase.storing.injEq] at storing
      subst storing
      refine ⟨plan, planned, signed, ?_⟩
      rw [after, Database.write, OrderedMap.get?_set_self]
    · obtain ⟨other, others, own, stored⟩ := linear.pending j snapshot
        (by simpa [Function.update_of_ne here] using storing)
      exact ⟨other, others, own, kept stored⟩
  · intro j other held waits updates
    have before := linear.fresh j other held waits (phase_of_update updates (by simp))
    have here : j ≠ i := by
      rintro rfl
      simp at updates
    cases other with
    | upsertIngressEvent aggregate snapshot => exact before
    | applySnapshotEvent idempotencyKey initial build =>
      -- The snapshot that joins the others carries another key.
      have differs : plan.key ≠ idempotencyKey := (apart j _ here waits).symm
      simp only [Plan.Fresh, Database.findSnapshot] at before ⊢
      rw [after, entries, List.find?_append, before]
      simp [signed, differs]

omit [DecidableEq ι] in
private theorem Linear.found_serially (linear : Linear tasks start system order) {key : Value}
    {entry : (String × String) × Value}
    (found : system.database.findSnapshot .documentStore correlationId key = some entry) :
    ∃ hit, (serial tasks start order).findSnapshot .documentStore correlationId key =
      some hit := by
  -- Every snapshot that is stored is stored in the serial run too.
  have member := List.mem_of_find?_eq_some found
  have read := lookup_of_mem system.database.snapshots.distinct member
  have hit := List.find?_some found
  rw [← Option.isSome_iff_exists, Database.findSnapshot, List.find?_isSome]
  exact ⟨entry, mem_of_lookup (linear.held entry.1 entry.2 read), by simpa using hit⟩

omit [DecidableEq ι] in
private theorem Linear.missed_serially (linear : Linear tasks start system order) {key : Value}
    (searching : ∀ snapshot, system.phase i ≠ .storing snapshot)
    (apart : ∀ j other, j ≠ i → (tasks j).plan = some other → key ≠ other.key)
    (missed : system.database.findSnapshot .documentStore correlationId key = none) :
    (serial tasks start order).findSnapshot .documentStore correlationId key = none := by
  rw [Database.findSnapshot, List.find?_eq_none] at missed ⊢
  intro entry member hit
  have held := lookup_of_mem (serial tasks start order).snapshots.distinct member
  rcases linear.awaited entry.1 entry.2 held with stored | ⟨j, snapshot, storing, place⟩
  · exact missed entry (mem_of_lookup stored) hit
  · -- A snapshot that is still to be stored belongs to another operation.
    have other : j ≠ i := by
      rintro rfl
      exact searching snapshot storing
    obtain ⟨plan, planned, signed, expected⟩ := linear.pending j snapshot storing
    rw [← place] at expected
    have same : entry.2 = Backend.documentStore.snapshotDoc correlationId snapshot :=
      Option.some.inj (held.symm.trans expected)
    simp only [decide_eq_true_eq] at hit
    rw [same, signed] at hit
    exact apart j plan other planned hit.2.symm

theorem Linear.stay (linear : Linear tasks start system order)
    (same : (tasks i).call (system.phase i) system.database = (system.phase i, system.database)) :
    ∃ order, Linear tasks start (system.step tasks i) order := by
  refine ⟨order, ?_⟩
  rw [System.step, same, Function.update_eq_self]
  exact linear

private theorem Linear.step_unplanned (linear : Linear tasks start system order)
    (planned : (tasks i).plan = none) :
    ∃ order, Linear tasks start (system.step tasks i) order := by
  have call : (tasks i).call (system.phase i) system.database =
      (.finished, system.database) := by rw [Task.call, planned]
  cases at_phase : system.phase i with
  | finished => exact linear.stay (by rw [call, at_phase])
  | storing snapshot =>
    obtain ⟨plan, other, _⟩ := linear.pending i snapshot at_phase
    rw [planned] at other
    cases other
  | fetching | querying fetched | updating fetched =>
    refine ⟨order ++ [i], ?_⟩
    rw [System.step, call]
    refine linear.settle (by rw [at_phase]; exact id) ?_
    rw [Task.perform_eq, planned, Option.elim_none]

private theorem Linear.fetch (linear : Linear tasks start system order) {plan : Plan}
    (planned : (tasks i).plan = some plan) (at_phase : system.phase i = .fetching) :
    ∃ order, Linear tasks start (system.step tasks i) order := by
  have call : (tasks i).call (system.phase i) system.database =
      plan.call correlationId (system.phase i) system.database := by rw [Task.call, planned]
  have waiting : ¬ (system.phase i).Taken := by
    rw [at_phase]
    exact id
  cases plan with
  | upsertIngressEvent aggregate snapshot =>
    cases found : system.database.events.get? correlationId with
    | some stored =>
      refine ⟨order ++ [i], ?_⟩
      rw [System.step, call, at_phase]
      simp only [Plan.call, found]
      refine linear.settle waiting ?_
      rw [Task.perform_eq, planned, Option.elim_some, Plan.perform, ← linear.events, found]
    | none =>
      refine ⟨order, ?_⟩
      rw [System.step, call, at_phase]
      simp only [Plan.call, found]
      refine linear.wait waiting id fun other held same next => ?_
      rw [planned] at same
      cases same
      cases next
      rfl
  | applySnapshotEvent idempotencyKey initial build =>
    refine ⟨order, ?_⟩
    rw [System.step, call, at_phase]
    exact linear.wait waiting id fun _ _ _ other => by cases other

/-- A search that finds its key settles the operation, and one that misses it goes on to write. -/
theorem Linear.query (linear : Linear tasks start system order) (apart : DistinctKeys tasks)
    {plan : Plan} (planned : (tasks i).plan = some plan) {fetched : Option Value}
    (at_phase : system.phase i = .querying fetched) :
    ∃ order, Linear tasks start (system.step tasks i) order := by
  have call : (tasks i).call (system.phase i) system.database =
      plan.call correlationId (system.phase i) system.database := by rw [Task.call, planned]
  cases plan with
  | upsertIngressEvent aggregate snapshot =>
    -- This operation makes no search.
    exact linear.stay (by rw [call, at_phase]; rfl)
  | applySnapshotEvent idempotencyKey initial build =>
    have waiting : ¬ (system.phase i).Taken := by
      rw [at_phase]
      exact id
    cases searched : system.database.findSnapshot .documentStore correlationId
        idempotencyKey with
    | some entry =>
      obtain ⟨hit, seen⟩ := linear.found_serially searched
      refine ⟨order ++ [i], ?_⟩
      rw [System.step, call, at_phase]
      simp only [Plan.call, searched]
      refine linear.settle waiting ?_
      rw [Task.perform_eq, planned, Option.elim_some, Plan.perform,
        applySnapshotEvent_of_seen _ _ seen]
    | none =>
      have unseen := linear.missed_serially (i := i) (by simp [at_phase])
        (fun j other differs held => apart i j _ other differs.symm planned held) searched
      refine ⟨order, ?_⟩
      rw [System.step, call, at_phase]
      simp only [Plan.call, searched]
      refine linear.wait waiting id fun other held same _ => ?_
      rw [planned] at same
      cases same
      exact unseen

theorem Linear.step (linear : Linear tasks start system order)
    (apart : DistinctKeys tasks)
    (undisturbed : Undisturbed correlationId system i) :
    ∃ order, Linear tasks start (system.step tasks i) order := by
  cases planned : (tasks i).plan with
  | none => exact linear.step_unplanned planned
  | some plan =>
    have call : (tasks i).call (system.phase i) system.database =
        plan.call correlationId (system.phase i) system.database := by rw [Task.call, planned]
    cases at_phase : system.phase i with
    | fetching => exact linear.fetch planned at_phase
    | querying fetched => exact linear.query apart planned at_phase
    | updating fetched =>
      -- The write is where the operation takes its place in the serial order.
      refine ⟨order ++ [i], ?_⟩
      have committed := linear.commit planned
        (fun j other differs waits => apart j i other plan differs waits planned) at_phase
        (by simpa only [Undisturbed, at_phase] using undisturbed)
      rw [System.step, call, at_phase]
      cases plan <;> exact committed
    | storing snapshot =>
      refine ⟨order, ?_⟩
      rw [System.step, call, at_phase]
      cases plan <;> exact linear.store at_phase
    | finished => exact linear.stay (by rw [call, at_phase]; cases plan <;> rfl)

omit [DecidableEq ι] in
theorem Linear.begin (ledger : Ledger start correlationId)
    (shelved : Shelved .documentStore start correlationId) :
    Linear tasks start (System.begin start) [] where
  -- Nothing has happened in either run.
  once := List.nodup_nil
  taken _ := iff_of_false List.not_mem_nil id
  ledger := ledger
  shelved := shelved
  events := rfl
  held _ _ found := found
  awaited _ _ found := .inl found
  pending _ _ storing := by cases storing
  fresh _ _ _ _ updating := by cases updating

omit [DecidableEq ι] in
theorem Linear.agree (linear : Linear tasks start system order)
    (finished : ∀ i, system.phase i = .finished) :
    Agree correlationId system.database (serial tasks start order) := by
  refine ⟨by rw [linear.events], OrderedMap.perm_of_get? fun key => ?_⟩
  cases expected : (serial tasks start order).snapshots.get? key with
  | some doc =>
    rcases linear.awaited key doc expected with stored | ⟨i, snapshot, storing, _⟩
    · exact stored
    · -- Nobody is left to store a snapshot.
      rw [finished i] at storing
      cases storing
  | none =>
    cases stored : system.database.snapshots.get? key with
    | some doc =>
      rw [linear.held key doc stored] at expected
      cases expected
    | none => rfl

/--
Operations that all finish, and whose aggregates are never changed under them, are serializable. -/
theorem serializable_of_undisturbed (tasks : ι → Task correlationId) (start : Database)
    (ledger : Ledger start correlationId) (shelved : Shelved .documentStore start correlationId)
    (apart : DistinctKeys tasks)
    (schedule : List ι)
    (undisturbed : Machine.Along (System.step tasks) (Undisturbed correlationId)
      (System.begin start) schedule)
    (finished : ∀ i, (Machine.run (System.step tasks) (System.begin start) schedule).phase i =
      .finished) :
    ∃ order : List ι, order.Nodup ∧ (∀ i, i ∈ order) ∧
      Agree correlationId
        (Machine.run (System.step tasks) (System.begin start) schedule).database
        (serial tasks start order) ∧
      Ledger (serial tasks start order) correlationId := by
  -- Some serial order explains every state of the run.
  have explained : ∃ order, Linear tasks start
      (Machine.run (System.step tasks) (System.begin start) schedule) order := by
    have first : ∃ order, Linear tasks start (System.begin start) order :=
      ⟨[], Linear.begin ledger shelved⟩
    refine Machine.run_invariant (fun system => ∃ order, Linear tasks start system order) ?_
      first undisturbed
    rintro system i ⟨order, linear⟩ free
    exact linear.step apart free
  obtain ⟨order, linear⟩ := explained
  refine ⟨order, linear.once, fun i => ?_, linear.agree finished, linear.ledger⟩
  rw [linear.taken, finished i]
  trivial

end Runs

theorem distinctKeys_of_keys {correlationId : String} {ι : Type}
    {tasks : ι → Task correlationId}
    (differ : ∀ i j, i ≠ j → (tasks i).plan.map Plan.key ≠ (tasks j).plan.map Plan.key) :
    DistinctKeys tasks := by
  intro i j plan other apart planned held
  have keys := differ i j apart
  rw [planned, held] at keys
  cases plan with
  | upsertIngressEvent => trivial
  | applySnapshotEvent => exact fun same => keys (congrArg some same)

def updateMessage (key : String) : Value :=
  .obj [("correlationId", .str "c-1"), ("kind", .str "update"), ("idempotencyKey", .str key),
    ("event", ledgerIngress)]

def enteringTasks (isSnapshot : Bool) : Task "c-1" :=
  if isSnapshot then .applySnapshotEvent (clockAt 0 "t0") (updateMessage "k-1") (by decide +kernel)
  else .upsertIngressEvent (clockAt 0 "t0") ledgerIngress (by decide +kernel)

def racingTasks (second : Bool) : Task "c-1" :=
  .applySnapshotEvent (clockAt 0 "t0") (updateMessage (if second then "k-2" else "k-1"))
    (by cases second <;> decide +kernel)

/-- The snapshot may be applied as soon as the aggregate is written, before the initial snapshot. -/
theorem serializable_entering :
    let schedule := [false, false, true, true, false, true, true]
    ∃ order : List Bool, order.Nodup ∧ (∀ i, i ∈ order) ∧
      Agree "c-1"
        (Machine.run (System.step enteringTasks) (System.begin .empty) schedule).database
        (serial enteringTasks .empty order) ∧
      Ledger (serial enteringTasks .empty order) "c-1" :=
  -- The snapshot reads the aggregate behind the write of the entering event.
  serializable_of_undisturbed enteringTasks .empty (ledger_empty .documentStore "c-1").1
    (ledger_empty .documentStore "c-1").2 (distinctKeys_of_keys (by decide +kernel)) _
    (by decide +kernel) (by decide +kernel)

/-- Two snapshots that read the same count overwrite each other. -/
theorem racing_not_serializable :
    let schedule := [false, true, false, true, false, false, true, true]
    let system := Machine.run (System.step racingTasks) (System.begin .empty) schedule
    DistinctKeys racingTasks ∧ (∀ i, system.phase i = .finished) ∧
      ¬ ∃ order : List Bool, order.Nodup ∧ (∀ i, i ∈ order) ∧
        Agree "c-1" system.database (serial racingTasks .empty order) := by
  intro schedule system
  refine ⟨distinctKeys_of_keys (by decide +kernel), by decide +kernel, ?_⟩
  rintro ⟨order, once, complete, agree⟩
  -- There are only two orders, and both store two snapshots.
  have both : order.Perm [false, true] := by
    rw [List.perm_ext_iff_of_nodup once (by decide)]
    exact fun i => iff_of_true (complete i) (by cases i <;> decide)
  have sizes := agree.snapshots.length_eq
  obtain ⟨first, second, rfl⟩ := List.length_eq_two.mp both.length_eq
  cases first <;> cases second
  · exact absurd once (by decide)
  · exact absurd sizes (by decide +kernel)
  · exact absurd sizes (by decide +kernel)
  · exact absurd once (by decide)

end BitBrat
