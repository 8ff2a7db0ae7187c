import BitBrat.Persistence.Ledger

/-! Runs of the persistence store for one event: the ledger after every operation. -/

namespace BitBrat

open Js

theorem nextSequence_of_count {aggregate : Value} {count : Nat}
    (counted : aggregate.get "snapshotCount" = countValue count) :
    nextSequence aggregate = .finite ((count + 1 : Nat) : ℚ) := by
  have read : (aggregate.get "snapshotCount").or (.num (.finite 0)) = countValue count := by
    rw [counted]
    by_cases zero : count = 0
    · -- A count of zero is read as missing, which is zero again.
      subst zero
      simp [countValue, Value.or, Value.truthy, Number.truthy]
    · exact Value.or_of_truthy (by simp [countValue, Value.truthy, Number.truthy, zero]) _
  rw [nextSequence, read]
  simp [countValue, Number.add]

structure Normalized (snapshotEvent : Value) (correlationId : String) : Prop where
  correlationId : snapshotEvent.get "correlationId" = .str correlationId
  key : ∃ text, snapshotEvent.get "idempotencyKey" = .str text

variable {correlationId : String}

theorem Normalized.strip_key {snapshotEvent : Value}
    (normalized : Normalized snapshotEvent correlationId) :
    stripUndefinedDeep (snapshotEvent.get "idempotencyKey") =
      snapshotEvent.get "idempotencyKey" := by
  obtain ⟨text, keyed⟩ := normalized.key
  rw [keyed, strip_str]

section Built

variable (snapshotEvent expireAt aggregate : Value)

theorem key_buildSnapshot :
    (buildSnapshot snapshotEvent expireAt aggregate).get "idempotencyKey" =
      stripUndefinedDeep (snapshotEvent.get "idempotencyKey") := by
  simp only [buildSnapshot, buildSnapshotDoc, get_strip, Value.get_obj_cons]
  rfl

theorem sequence_buildSnapshot :
    (buildSnapshot snapshotEvent expireAt aggregate).get "sequence" =
      .num (nextSequence aggregate) := by
  simp only [buildSnapshot, buildSnapshotDoc, get_strip, Value.get_obj_cons]
  exact strip_num _

theorem snapshotId_buildSnapshot :
    (buildSnapshot snapshotEvent expireAt aggregate).get "snapshotId" =
      .str (buildSnapshotId (snapshotEvent.get "correlationId").toText (nextSequence aggregate)
        (snapshotEvent.get "kind")) := by
  simp only [buildSnapshot, buildSnapshotDoc, get_strip, Value.get_obj_cons]
  exact strip_str _

end Built

theorem snapshotCount_apply (aggregate snapshot : Value) (count : Number) :
    (applySnapshotToAggregate aggregate snapshot count).get "snapshotCount" = .num count := by
  simp [applySnapshotToAggregate, Value.get_extend, List.lookup_cons]

theorem latestSnapshotId_apply (aggregate snapshot : Value) (count : Number) :
    (applySnapshotToAggregate aggregate snapshot count).get "latestSnapshotId" =
      stripUndefinedDeep (snapshot.get "snapshotId") := by
  simp [applySnapshotToAggregate, Value.get_extend, List.lookup_cons]

variable {database : Database}

theorem counted_aggregateOr (ledger : Ledger database correlationId)
    (snapshotEvent expireAt : Value) :
    (database.aggregateOr correlationId (initialAggregate snapshotEvent expireAt)).get
      "snapshotCount" = countValue database.snapshots.size := by
  unfold Database.aggregateOr
  cases found : database.events.get? correlationId with
  | some aggregate => exact ledger.counted aggregate found
  -- An event that has not started has no snapshot, and a first aggregate counts none.
  | none =>
    rw [ledger.unstarted found, Option.getD_none]
    simp only [initialAggregate, get_strip, Value.get_obj_cons]
    rw [countValue, Nat.cast_zero]
    exact strip_num _

theorem nextEntry_buildSnapshot {backend : Backend} {database : Database} {correlationId : String}
    (ledger : Ledger database correlationId) (shelved : Shelved backend database correlationId)
    {snapshotEvent : Value} (normalized : Normalized snapshotEvent correlationId)
    (expireAt : Value)
    (unseen : database.findSnapshot backend correlationId (snapshotEvent.get "idempotencyKey") =
      none) :
    let aggregate := database.aggregateOr correlationId (initialAggregate snapshotEvent expireAt)
    let snapshot := buildSnapshot snapshotEvent expireAt aggregate
    NextEntry database correlationId
      (applySnapshotToAggregate aggregate snapshot (sequenceOf snapshot)) snapshot := by
  intro aggregate snapshot
  have next := nextSequence_of_count (counted_aggregateOr ledger snapshotEvent expireAt)
  have sequence : snapshot.get "sequence" = countValue (database.snapshots.size + 1) := by
    rw [sequence_buildSnapshot, next]
    rfl
  have id := snapshotId_buildSnapshot snapshotEvent expireAt aggregate
  constructor
  · exact sequence
  · refine ⟨snapshotEvent.get "kind", ?_⟩
    rw [id, normalized.correlationId, next]
    rfl
  · intro entry member
    -- The search for the key went past every stored snapshot.
    have missed := List.find?_eq_none.mp unseen entry member
    have owned := shelved.owned entry member
    rw [key_buildSnapshot, strip_strip, normalized.strip_key]
    simpa [owned] using missed
  · rw [snapshotCount_apply, sequenceOf, sequence]
    rfl
  · rw [latestSnapshotId_apply, id, strip_str]

def Database.HasKey (database : Database) (key : Value) : Prop :=
  ∃ entry ∈ database.snapshots.entries, entry.2.get "idempotencyKey" = key

structure Advanced (backend : Backend) (correlationId : String) (before after : Database) :
    Prop where
  ledger : Ledger after correlationId
  shelved : Shelved backend after correlationId
  grows : ∀ entry ∈ before.snapshots.entries, entry ∈ after.snapshots.entries
  lasts : (before.events.get? correlationId).isSome → (after.events.get? correlationId).isSome

variable {backend : Backend}

theorem Advanced.refl (ledger : Ledger database correlationId)
    (shelved : Shelved backend database correlationId) :
    Advanced backend correlationId database database :=
  ⟨ledger, shelved, fun _ member => member, id⟩

theorem Advanced.write (ledger : Ledger database correlationId)
    (shelved : Shelved backend database correlationId) {aggregate snapshot : Value}
    (next : NextEntry database correlationId aggregate snapshot) :
    Advanced backend correlationId database
      (database.write backend correlationId aggregate (snapshotIdOf snapshot) snapshot) := by
  -- The new snapshot stands behind the others, of which none is lost.
  obtain ⟨kept, placed⟩ := ledger.write shelved next
  refine ⟨kept, placed, ?_, fun _ => ?_⟩
  · intro entry member
    rw [write_entries shelved next]
    exact List.mem_append_left _ member
  · simp [Database.write]

theorem applySnapshotEvent_advanced {backend : Backend} {database : Database}
    {correlationId : String} (ledger : Ledger database correlationId)
    (shelved : Shelved backend database correlationId) {snapshotEvent : Value}
    (normalized : Normalized snapshotEvent correlationId) (expireAt : Value) :
    let after := database.applySnapshotEvent backend correlationId
      (snapshotEvent.get "idempotencyKey") (initialAggregate snapshotEvent expireAt)
      (buildSnapshot snapshotEvent expireAt)
    Advanced backend correlationId database after ∧
      after.HasKey (snapshotEvent.get "idempotencyKey") := by
  intro after
  cases searched : database.findSnapshot backend correlationId
      (snapshotEvent.get "idempotencyKey") with
  -- The key was seen before, so nothing is written.
  | some entry =>
    have same : after = database := applySnapshotEvent_of_seen _ _ searched
    rw [same]
    have hit := List.find?_some searched
    simp only [decide_eq_true_eq] at hit
    exact ⟨.refl ledger shelved, entry, List.mem_of_find?_eq_some searched, hit.2⟩
  -- The next entry of the ledger is written, under the new key.
  | none =>
    have next := nextEntry_buildSnapshot ledger shelved normalized expireAt searched
    have written := applySnapshotEvent_of_unseen (initialAggregate snapshotEvent expireAt)
      (buildSnapshot snapshotEvent expireAt) searched
    obtain ⟨entry, member, same⟩ := exists_key_of_write shelved next
    rw [show after = _ from written]
    refine ⟨.write ledger shelved next, entry, member, ?_⟩
    rw [same, key_buildSnapshot, strip_strip, normalized.strip_key]

/-! Messages for one event in any order, with redeliveries: what each leaves of the ledger. -/

inductive StoreOperation where
  | upsertIngressEvent (event : Value)
  | applySnapshotEvent (message : Value)
  | applyFinalization (message : Value)
  | applyDeadLetter (message : Value)
  deriving DecidableEq

def StoreOperation.perform (backend : Backend) (clock : Clock) (database : Database) :
    StoreOperation → Except PersistError Database
  | upsertIngressEvent event => BitBrat.upsertIngressEvent backend clock event database
  | applySnapshotEvent message => BitBrat.applySnapshotEvent backend clock message database
  | applyFinalization message => BitBrat.applyFinalization backend clock message database
  | applyDeadLetter message => BitBrat.applyDeadLetter backend clock message database

/-- The event that a snapshot message names, first of all or inside its own event. -/
def snapshotCorrelationId (message : Value) : String :=
  (((message.get "correlationId").or ((message.get "event").get "correlationId")).or
    (.str "")).toText

def deadLetterCorrelationId (message : Value) : String :=
  ((message.get "correlationId").or (((message.get "envelope").get "correlationId").or
    (((message.get "payload").get "correlationId").or (.str "")))).toText

def StoreOperation.Addresses (correlationId : String) : StoreOperation → Prop
  | upsertIngressEvent event => event.get "correlationId" = .str correlationId
  | applySnapshotEvent message => snapshotCorrelationId message = correlationId
  | applyFinalization message =>
    ((message.get "correlationId").or (.str "")).toText = correlationId
  | applyDeadLetter message => deadLetterCorrelationId message = correlationId

instance (correlationId : String) : DecidablePred (StoreOperation.Addresses correlationId)
  | .upsertIngressEvent event =>
    inferInstanceAs (Decidable (event.get "correlationId" = .str correlationId))
  | .applySnapshotEvent message =>
    inferInstanceAs (Decidable (snapshotCorrelationId message = correlationId))
  | .applyFinalization message =>
    inferInstanceAs
      (Decidable (((message.get "correlationId").or (.str "")).toText = correlationId))
  | .applyDeadLetter message =>
    inferInstanceAs (Decidable (deadLetterCorrelationId message = correlationId))

/-- A message about one event, and the time at which it is processed. -/
structure Request (correlationId : String) where
  operation : StoreOperation
  clock : Clock
  addressed : operation.Addresses correlationId

/-- The database, and the messages that were processed without an error. -/
structure Archive where
  database : Database
  processed : List StoreOperation

/-- Process one message; one that throws leaves everything as it was. -/
def Archive.step (backend : Backend) {correlationId : String} (archive : Archive)
    (request : Request correlationId) : Archive :=
  match request.operation.perform backend request.clock archive.database with
  | .ok database => { database, processed := archive.processed ++ [request.operation] }
  | .error _ => archive

def Archive.empty : Archive := { database := .empty, processed := [] }

structure Unchanged (correlationId : String) (before after : Database) : Prop where
  aggregate : Option.Rel Value.Same (before.events.get? correlationId)
    (after.events.get? correlationId)
  snapshots : after.snapshots = before.snapshots

def snapshotKeyOf (message : Value) : Value :=
  .str ((message.get "idempotencyKey").or (.str "")).toText

/--
What the database must hold before a message.

A finalization needs its aggregate, and when it comes again, an aggregate that still says what it
says. A dead letter that comes again needs a key that is already stored.
-/
def Orderly (backend : Backend) {correlationId : String} (archive : Archive)
    (request : Request correlationId) : Prop :=
  match request.operation with
  | .applyFinalization message =>
    -- A finalization finds its event, and finds it unchanged when it comes again.
    correlationId ≠ "" → ∃ aggregate,
      archive.database.events.get? correlationId = some aggregate ∧
      (request.operation ∈ archive.processed → ∀ expireAt,
        finalizationExpireAt request.clock message = .ok expireAt →
        backend.InForce aggregate (finalizationPatch request.clock message expireAt))
  | .applyDeadLetter message =>
    request.operation ∈ archive.processed → namesEvent message →
      archive.database.HasKey (.str (deadLetterKey request.clock message).toText)
  | _ => True

structure LedgerKept (backend : Backend) {correlationId : String} (archive : Archive)
    (request : Request correlationId) : Prop where
  ledger : Ledger (archive.step backend request).database correlationId
  /-- A message that was already processed changes nothing. -/
  redelivery : request.operation ∈ archive.processed →
    Unchanged correlationId archive.database (archive.step backend request).database

theorem Unchanged.refl (correlationId : String) (database : Database) :
    Unchanged correlationId database database := by
  refine ⟨?_, rfl⟩
  cases database.events.get? correlationId with
  | none => exact .none
  | some aggregate => exact .some (.refl aggregate)

theorem findSnapshot_of_hasKey (shelved : Shelved backend database correlationId)
    {key : Value} (stored : database.HasKey key) :
    ∃ entry, database.findSnapshot backend correlationId key = some entry := by
  obtain ⟨entry, member, same⟩ := stored
  rw [← Option.isSome_iff_exists, Database.findSnapshot, List.find?_isSome]
  exact ⟨entry, member, by simp [shelved.owned entry member, same]⟩

section Operations

variable {backend : Backend} {clock : Clock} {database after : Database} {correlationId : String}

theorem buildInitialSnapshotId_eq (correlationId : String) :
    buildInitialSnapshotId correlationId =
      buildSnapshotId correlationId (.finite ((1 : Nat) : ℚ)) (.str "initial") := by
  have digits : padStart 6 (toString 1) = "000001" := by decide +kernel
  have text : "-" ++ ("000001" ++ ("-" ++ "initial")) = "-000001-initial" := by decide +kernel
  simp only [buildSnapshotId, Number.toText_natCast, digits, Value.toText, String.append_assoc,
    text, buildInitialSnapshotId]

theorem nextEntry_ingress (clock : Clock) {event : Value}
    (addressed : event.get "correlationId" = .str correlationId)
    (empty : database.snapshots.size = 0) (expireAt : Value) :
    NextEntry database correlationId (normalizeIngressEvent clock event expireAt).1
      (normalizeIngressEvent clock event expireAt).2 := by
  -- The first snapshot has the first number and the first identifier.
  have named : (normalizeIngressEvent clock event expireAt).2.get "snapshotId" =
      .str (buildInitialSnapshotId correlationId) := by
    simp only [normalizeIngressEvent, buildSnapshotDoc, get_strip, Value.get_obj_cons, addressed]
    exact strip_str _
  constructor
  · simp only [normalizeIngressEvent, buildSnapshotDoc, get_strip, Value.get_obj_cons]
    rw [empty, countValue, zero_add, Nat.cast_one]
    exact strip_num _
  · refine ⟨.str "initial", ?_⟩
    rw [named, buildInitialSnapshotId_eq, empty]
  · intro entry member
    rw [List.length_eq_zero_iff.mp empty] at member
    cases member
  · simp only [normalizeIngressEvent, get_strip, Value.get_obj_cons]
    rw [empty, countValue, zero_add, Nat.cast_one]
    exact strip_num _
  · rw [named]
    simp only [normalizeIngressEvent, get_strip, Value.get_obj_cons, addressed]
    exact strip_str _

theorem upsertIngressEvent_advances {event : Value}
    (ledger : Ledger database correlationId) (shelved : Shelved backend database correlationId)
    (addressed : event.get "correlationId" = .str correlationId)
    (done : upsertIngressEvent backend clock event database = .ok after) :
    Advanced backend correlationId database after ∧
      (after.events.get? correlationId).isSome ∧
      ((database.events.get? correlationId).isSome → after = database) := by
  unfold upsertIngressEvent at done
  cases dated : computeExpireAt clock ((event.get "ingress").get "ingressAt")
      ((event.get "qos").get "persistenceTtlSec") with
  | error reason =>
    rw [dated] at done
    cases done
  | ok expireAt =>
    -- What is written belongs to the event that is upserted.
    have named : (normalizeIngressEvent clock event expireAt).1.get "correlationId" =
        .str correlationId := by
      simp only [normalizeIngressEvent, get_strip, Value.get_obj_cons, addressed]
      exact strip_str _
    simp only [dated, Bind.bind, Except.bind, Database.upsertIngressEvent, named,
      Value.toText] at done
    split at done
    · cases found : database.events.get? correlationId with
      -- An event that is stored already is left as it is.
      | some aggregate =>
        simp only [found, Except.ok.injEq] at done
        subst done
        exact ⟨.refl ledger shelved, by simp [found], fun _ => rfl⟩
      | none =>
        simp only [found, Except.ok.injEq] at done
        subst done
        have next := nextEntry_ingress clock addressed (ledger.unstarted found) expireAt
        exact ⟨.write ledger shelved next, by simp [Database.write],
          fun present => by cases present⟩
    · cases done

theorem key_normalizeSnapshotEvent (clock : Clock) (message : Value) :
    (normalizeSnapshotEvent clock message).get "idempotencyKey" = snapshotKeyOf message := by
  simp only [normalizeSnapshotEvent, get_strip, Value.get_obj_cons]
  exact strip_str _

variable {message : Value}

theorem normalized_normalizeSnapshotEvent (clock : Clock)
    (addressed : snapshotCorrelationId message = correlationId) :
    Normalized (normalizeSnapshotEvent clock message) correlationId := by
  constructor
  · simp only [normalizeSnapshotEvent, get_strip, Value.get_obj_cons]
    rw [← addressed]
    exact strip_str _
  · rw [key_normalizeSnapshotEvent]
    exact ⟨_, rfl⟩

theorem applySnapshotEvent_advances (ledger : Ledger database correlationId)
    (shelved : Shelved backend database correlationId)
    (addressed : snapshotCorrelationId message = correlationId)
    (done : applySnapshotEvent backend clock message database = .ok after) :
    Advanced backend correlationId database after ∧ after.HasKey (snapshotKeyOf message) ∧
      (database.HasKey (snapshotKeyOf message) → after = database) := by
  have normalized := normalized_normalizeSnapshotEvent clock addressed
  have key := key_normalizeSnapshotEvent clock message
  unfold applySnapshotEvent at done
  dsimp only at done
  -- A message without its parts throws before anything is read.
  split at done
  · cases done
  · split at done
    · cases done
    · split at done
      · cases done
      · cases dated : snapshotExpireAt clock (normalizeSnapshotEvent clock message) with
        | error reason =>
          rw [dated] at done
          cases done
        | ok expireAt =>
          simp only [dated, Bind.bind, Except.bind, Except.ok.injEq, normalized.correlationId,
            Value.toText] at done
          obtain ⟨advanced, stored⟩ :=
            applySnapshotEvent_advanced ledger shelved normalized expireAt
          rw [done] at advanced stored
          rw [key] at stored
          refine ⟨advanced, stored, fun seen => ?_⟩
          rw [← key] at seen
          obtain ⟨entry, found⟩ := findSnapshot_of_hasKey shelved seen
          rw [← done, applySnapshotEvent_of_seen _ _ found]

theorem normalizeDeadLetterPayload_addresses (clock : Clock) (named : namesEvent message) :
    snapshotCorrelationId (normalizeDeadLetterPayload clock message) =
        deadLetterCorrelationId message ∧
      snapshotKeyOf (normalizeDeadLetterPayload clock message) =
        .str (deadLetterKey clock message).toText := by
  have id : (normalizeDeadLetterPayload clock message).get "correlationId" =
      .str (deadLetterCorrelationId message) := by
    simp only [normalizeDeadLetterPayload, get_strip, Value.get_obj_cons]
    exact strip_str _
  have key : (normalizeDeadLetterPayload clock message).get "idempotencyKey" =
      .str (deadLetterKey clock message).toText := by
    simp only [normalizeDeadLetterPayload, get_strip, Value.get_obj_cons]
    exact strip_str _
  -- A message that names its event does so before its payload is asked.
  have nonempty : deadLetterCorrelationId message ≠ "" := by
    intro empty
    simp only [namesEvent, decide_eq_true_eq] at named
    unfold deadLetterCorrelationId at empty
    by_cases own : (message.get "correlationId").truthy
    · rw [Value.or_of_truthy own] at empty named
      exact named empty
    · rw [Value.or_of_falsy (by simpa using own)] at empty named
      by_cases wrapped : ((message.get "envelope").get "correlationId").truthy
      · rw [Value.or_of_truthy wrapped] at empty named
        exact named empty
      · rw [Value.or_of_falsy (by simpa using wrapped)] at named
        exact named rfl
  have holds : (Value.str (deadLetterCorrelationId message)).truthy := by simpa using nonempty
  constructor
  · rw [snapshotCorrelationId, id, Value.or_of_truthy holds, Value.or_of_truthy holds,
      Value.toText]
  · rw [snapshotKeyOf, key]
    by_cases blank : (deadLetterKey clock message).toText = ""
    · rw [blank]
      rfl
    · rw [Value.or_of_truthy (by simpa using blank), Value.toText]

theorem applyDeadLetter_advances (ledger : Ledger database correlationId)
    (shelved : Shelved backend database correlationId)
    (addressed : deadLetterCorrelationId message = correlationId)
    (done : applyDeadLetter backend clock message database = .ok after) :
    Advanced backend correlationId database after ∧
      ((namesEvent message → database.HasKey (.str (deadLetterKey clock message).toText)) →
        after = database) := by
  unfold applyDeadLetter at done
  split at done
  · -- A dead letter that names its event goes the way of a snapshot message.
    rename_i named
    obtain ⟨about, key⟩ := normalizeDeadLetterPayload_addresses clock named
    obtain ⟨advanced, _, kept⟩ :=
      applySnapshotEvent_advances ledger shelved (about.trans addressed) done
    rw [key] at kept
    exact ⟨advanced, fun held => kept (held named)⟩
  · cases done
    exact ⟨.refl ledger shelved, fun _ => rfl⟩

theorem finalizationPatch_silent (clock : Clock) (message expireAt : Value) :
    (finalizationPatch clock message expireAt).get "snapshotCount" = .undefined ∧
      (finalizationPatch clock message expireAt).get "latestSnapshotId" = .undefined := by
  constructor <;>
  · simp only [finalizationPatch, get_strip, Value.get_obj_cons]
    rfl

theorem applyFinalization_advances {aggregate : Value}
    (ledger : Ledger database correlationId) (shelved : Shelved backend database correlationId)
    (addressed : ((message.get "correlationId").or (.str "")).toText = correlationId)
    (found : database.events.get? correlationId = some aggregate)
    (done : applyFinalization backend clock message database = .ok after) :
    Advanced backend correlationId database after ∧
      ((∀ expireAt, finalizationExpireAt clock message = .ok expireAt →
          backend.InForce aggregate (finalizationPatch clock message expireAt)) →
        Unchanged correlationId database after) := by
  unfold applyFinalization at done
  dsimp only at done
  rw [addressed] at done
  split at done
  · cases done
  · cases dated : finalizationExpireAt clock message with
    | error reason =>
      rw [dated] at done
      cases done
    | ok expireAt =>
      simp only [dated, Bind.bind, Except.bind, Except.ok.injEq, Database.applyFinalization,
        Backend.setMerged, found] at done
      have held : after.events.get? correlationId = some (backend.merge aggregate
          (stripUndefinedDeep (finalizationPatch clock message expireAt))) := by
        rw [← done]
        exact OrderedMap.get?_set_self _ _ _
      have shelf : after.snapshots = database.snapshots := by rw [← done]
      obtain ⟨uncounted, unlatest⟩ := finalizationPatch_silent clock message expireAt
      -- The patch says nothing of the count and of the latest snapshot.
      have spared (key : String) (silent :
          (finalizationPatch clock message expireAt).get key = .undefined) :
          (backend.merge aggregate (stripUndefinedDeep
            (finalizationPatch clock message expireAt))).get key = aggregate.get key := by
        rw [get_merge, if_pos silent]
      refine ⟨⟨⟨?_, ?_, ?_, ?_, ?_, ?_⟩, ⟨?_, ?_⟩, ?_, ?_⟩, fun force => ⟨?_, shelf⟩⟩
      · intro merged same
        rw [held] at same
        cases same
        rw [spared "snapshotCount" uncounted, shelf]
        exact ledger.counted aggregate found
      · intro absent
        rw [held] at absent
        cases absent
      · rw [shelf]
        exact ledger.numbered
      · rw [shelf]
        exact ledger.identified
      · rw [shelf]
        exact ledger.keyed
      · intro merged same last atEnd
        rw [held] at same
        cases same
        rw [spared "latestSnapshotId" unlatest]
        rw [shelf] at atEnd
        exact ledger.latest aggregate found last atEnd
      · rw [shelf]
        exact shelved.owned
      · rw [shelf]
        exact shelved.placed
      · rw [shelf]
        exact fun _ member => member
      · intro _
        rw [held]
        rfl
      · rw [found, held]
        refine .some (Value.Same.symm ?_)
        have inForce := force expireAt rfl
        simp only [finalizationPatch, strip_strip] at inForce ⊢
        exact merge_of_inForce inForce

end Operations

/-- What holds between messages: the ledger, and what the processed messages left behind. -/
structure Books (backend : Backend) (correlationId : String) (archive : Archive) : Prop where
  ledger : Ledger archive.database correlationId
  shelved : Shelved backend archive.database correlationId
  entered : ∀ event, .upsertIngressEvent event ∈ archive.processed →
    (archive.database.events.get? correlationId).isSome
  applied : ∀ message, .applySnapshotEvent message ∈ archive.processed →
    archive.database.HasKey (snapshotKeyOf message)

/-- What one message that does not throw does to books that are in order. -/
structure Performed (backend : Backend) (correlationId : String) (archive : Archive)
    (operation : StoreOperation) (after : Database) : Prop where
  advanced : Advanced backend correlationId archive.database after
  redelivery : operation ∈ archive.processed → Unchanged correlationId archive.database after
  entered : ∀ event, operation = .upsertIngressEvent event →
    (after.events.get? correlationId).isSome
  applied : ∀ message, operation = .applySnapshotEvent message →
    after.HasKey (snapshotKeyOf message)

variable {archive : Archive} {request : Request correlationId}

theorem perform_performed (books : Books backend correlationId archive)
    (orderly : Orderly backend archive request) {after : Database}
    (done : request.operation.perform backend request.clock archive.database = .ok after) :
    Performed backend correlationId archive request.operation after := by
  obtain ⟨ledger, shelved, entered, applied⟩ := books
  obtain ⟨operation, clock, addressed⟩ := request
  cases operation with
  | upsertIngressEvent event =>
    obtain ⟨advanced, present, kept⟩ :=
      upsertIngressEvent_advances ledger shelved addressed done
    refine ⟨advanced, fun again => ?_, fun _ _ => present, nofun⟩
    rw [kept (entered event again)]
    exact .refl correlationId archive.database
  | applySnapshotEvent message =>
    obtain ⟨advanced, stored, kept⟩ :=
      applySnapshotEvent_advances ledger shelved addressed done
    refine ⟨advanced, fun again => ?_, nofun, fun _ same => ?_⟩
    · rw [kept (applied message again)]
      exact .refl correlationId archive.database
    · cases same
      exact stored
  | applyFinalization message =>
    by_cases blank : correlationId = ""
    · -- A finalization without an event throws.
      simp only [StoreOperation.perform, applyFinalization] at done
      rw [if_pos (addressed.trans blank)] at done
      cases done
    · obtain ⟨aggregate, found, force⟩ := orderly blank
      obtain ⟨advanced, kept⟩ := applyFinalization_advances ledger shelved addressed found done
      exact ⟨advanced, fun again => kept (force again), nofun,
        nofun⟩
  | applyDeadLetter message =>
    obtain ⟨advanced, kept⟩ := applyDeadLetter_advances ledger shelved addressed done
    refine ⟨advanced, fun again => ?_, nofun, nofun⟩
    rw [kept (orderly again)]
    exact .refl correlationId archive.database

theorem Books.step (books : Books backend correlationId archive)
    (orderly : Orderly backend archive request) :
    Books backend correlationId (archive.step backend request) ∧
      LedgerKept backend archive request := by
  unfold Archive.step
  cases done : request.operation.perform backend request.clock archive.database with
  | error reason =>
    -- A request that throws leaves the books where they were.
    have same : archive.step backend request = archive := by simp [Archive.step, done]
    refine ⟨books, ?_, fun _ => ?_⟩
    · rw [same]
      exact books.ledger
    · rw [same]
      exact .refl correlationId archive.database
  | ok after =>
    have same : (archive.step backend request).database = after := by simp [Archive.step, done]
    have performed := perform_performed books orderly done
    have advanced := performed.advanced
    refine ⟨⟨advanced.ledger, advanced.shelved, ?_, ?_⟩, ?_, ?_⟩
    · intro event member
      -- What was processed before stays, and what is processed now is added.
      rcases List.mem_append.mp member with before | now
      · exact advanced.lasts (books.entered event before)
      · exact performed.entered event (List.mem_singleton.mp now).symm
    · intro message member
      rcases List.mem_append.mp member with before | now
      · obtain ⟨entry, stored, key⟩ := books.applied message before
        exact ⟨entry, advanced.grows entry stored, key⟩
      · exact performed.applied message (List.mem_singleton.mp now).symm
    · rw [same]
      exact advanced.ledger
    · rw [same]
      exact performed.redelivery

/--
In every orderly run of messages for one event, the ledger holds after each of them. -/
theorem ledger_kept_of_orderly (backend : Backend) (correlationId : String)
    (requests : List (Request correlationId))
    (orderly : Machine.Along (Archive.step backend) (Orderly backend) .empty requests) :
    Machine.Along (Archive.step backend) (LedgerKept backend) .empty requests := by
  obtain ⟨ledger, shelved⟩ := ledger_empty backend correlationId
  -- The books are what every step keeps, and they start empty.
  have opened : Books backend correlationId .empty :=
    ⟨ledger, shelved, nofun, nofun⟩
  exact Machine.along_of_invariant (Books backend correlationId)
    (fun _ _ books ok => (books.step ok).1) (fun _ _ books ok => (books.step ok).2) opened orderly

theorem orderly_of_new (new : request.operation ∉ archive.processed)
    (present : (archive.database.events.get? correlationId).isSome) :
    Orderly backend archive request := by
  obtain ⟨aggregate, found⟩ := Option.isSome_iff_exists.mp present
  unfold Orderly
  -- Only a request that comes again could be out of order.
  split
  · exact fun _ => ⟨aggregate, found, fun again => absurd again new⟩
  · exact fun again => absurd again new
  · trivial

def clockAt (now : Int) (nowIso : String) : Clock :=
  { now, nowIso, parseDate := fun _ => none }

def ledgerIngress : Value := .obj [("correlationId", .str "c-1"), ("type", .str "chat")]

def keylessDeadLetter : Value :=
  .obj [("correlationId", .str "c-1"), ("payload", .obj [("reason", .str "NO_ROUTE")])]

def keyedDeadLetter : Value :=
  .obj [("correlationId", .str "c-1"), ("idempotencyKey", .str "c-1:dead")]

def sentMessage : Value := .obj [("correlationId", .str "c-1"), ("status", .str "SENT")]

def requestAt (operation : StoreOperation) (second : Nat)
    (addressed : operation.Addresses "c-1") : Request "c-1" where
  operation := operation
  clock := clockAt (1735689600000 + 1000 * second) (toString second)
  addressed := addressed

/-- A redelivered dead letter with a key, and a finalization of the event, keep the ledger. -/
theorem ledger_kept_of_keyed :
    Machine.Along (Archive.step .documentStore) (LedgerKept .documentStore) .empty
      [requestAt (.upsertIngressEvent ledgerIngress) 0 (by decide +kernel),
       requestAt (.applyDeadLetter keyedDeadLetter) 1 (by decide +kernel),
       requestAt (.applyDeadLetter keyedDeadLetter) 2 (by decide +kernel),
       requestAt (.applyFinalization sentMessage) 3 (by decide +kernel)] := by
  -- The second dead letter finds the key of the first.
  refine ledger_kept_of_orderly _ _ _ ⟨trivial, ?_, fun _ _ => ?_, ?_, trivial⟩
  · exact orderly_of_new (by decide +kernel) (by decide +kernel)
  · unfold Database.HasKey
    decide +kernel
  · exact orderly_of_new (by decide +kernel) (by decide +kernel)

/--
A redelivered dead letter without a key is stored twice. -/
theorem ledger_not_kept :
    ¬ Machine.Along (Archive.step .documentStore) (LedgerKept .documentStore) .empty
        [requestAt (.applyDeadLetter keylessDeadLetter) 0 (by decide +kernel),
         requestAt (.applyDeadLetter keylessDeadLetter) 1 (by decide +kernel)] ∧
      ¬ Machine.Along (Archive.step .documentStore) (LedgerKept .documentStore) .empty
        [requestAt (.applyFinalization sentMessage) 0 (by decide +kernel)] := by
  constructor
  · rintro ⟨_, kept, _⟩
    -- The second dead letter has a key of its own, and adds a snapshot.
    have same := (kept.redelivery (by decide +kernel)).snapshots
    have sizes := congrArg OrderedMap.size same
    exact absurd sizes (by decide +kernel)
  · rintro ⟨kept, _⟩
    -- A finalization of an unknown event stores an aggregate without a count.
    obtain ⟨aggregate, found⟩ : ∃ aggregate, (Archive.step .documentStore .empty
        (requestAt (.applyFinalization sentMessage) 0 (by decide +kernel))).database.events.get?
          "c-1" = some aggregate := by
      rw [← Option.isSome_iff_exists]
      decide +kernel
    have counted := kept.ledger.counted aggregate found
    have uncounted := congrArg (Option.map fun aggregate => aggregate.get "snapshotCount") found
    rw [Option.map_some, counted] at uncounted
    exact absurd uncounted (by decide +kernel)

end BitBrat
