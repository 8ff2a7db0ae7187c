import BitBrat.Persistence.Model

/-! The persistence repositories over their two databases, and the operations of the store. -/

namespace BitBrat

open Js

inductive Backend where
  | firestore
  | documentStore
  deriving DecidableEq

/-- The documents of a database: aggregates, snapshots and sources by their keys. -/
structure Database where
  events : OrderedMap String Value
  /-- Snapshots by the event they are stored under, if they are nested, and their own key. -/
  snapshots : OrderedMap (String × String) Value
  sources : OrderedMap String Value

def Database.empty : Database := { events := .empty, snapshots := .empty, sources := .empty }

def Backend.merge (backend : Backend) (stored patch : Value) : Value :=
  match backend with
  | firestore => stored.mergeInto patch
  | documentStore => stored.concat patch

/-- A merge write creates a missing document from the patch alone. -/
def Backend.setMerged (backend : Backend) (documents : OrderedMap String Value) (id : String)
    (patch : Value) : OrderedMap String Value :=
  match documents.get? id with
  | some stored => documents.set id (backend.merge stored patch)
  | none => documents.set id patch

def Backend.snapshotKey (backend : Backend) (correlationId snapshotId : String) :
    String × String :=
  match backend with
  | firestore => (correlationId, snapshotId)
  | documentStore => ("", snapshotId)

/-- What is stored of a snapshot: a flat table adds the event it belongs to. -/
def Backend.snapshotDoc (backend : Backend) (correlationId : String) (snapshot : Value) : Value :=
  match backend with
  | firestore => stripUndefinedDeep snapshot
  | documentStore => stripUndefinedDeep (snapshot.extend [("correlationId", .str correlationId)])

def Backend.belongs (backend : Backend) (correlationId : String)
    (entry : (String × String) × Value) : Bool :=
  match backend with
  | firestore => entry.1.1 = correlationId
  | documentStore => entry.2.get "correlationId" = .str correlationId

/-- The first snapshot of an event with a given idempotency key. -/
def Database.findSnapshot (backend : Backend) (database : Database) (correlationId : String)
    (idempotencyKey : Value) : Option ((String × String) × Value) :=
  database.snapshots.entries.find? fun entry =>
    backend.belongs correlationId entry ∧ entry.2.get "idempotencyKey" = idempotencyKey

def Database.write (backend : Backend) (database : Database) (correlationId : String)
    (aggregate : Value) (snapshotId : String) (snapshot : Value) : Database :=
  { database with
    events := database.events.set correlationId (stripUndefinedDeep aggregate)
    snapshots := database.snapshots.set (backend.snapshotKey correlationId snapshotId)
      (backend.snapshotDoc correlationId snapshot) }

def snapshotIdOf (snapshot : Value) : String := (snapshot.get "snapshotId").toText

def sequenceOf (snapshot : Value) : Number :=
  match snapshot.get "sequence" with
  | .num sequence => sequence
  | _ => .nan

/-- Create the aggregate and its initial snapshot, unless the aggregate exists. -/
def Database.upsertIngressEvent (backend : Backend) (database : Database)
    (aggregate snapshot : Value) : Except PersistError Database :=
  let correlationId := aggregate.get "correlationId"
  if correlationId.truthy then
    match database.events.get? correlationId.toText with
    | some _ => .ok database
    | none =>
      .ok (database.write backend correlationId.toText aggregate (snapshotIdOf snapshot) snapshot)
  else .error .missing_correlationId

def Database.applyFinalization (backend : Backend) (database : Database) (correlationId : String)
    (patch : Value) : Database :=
  { database with
    events := backend.setMerged database.events correlationId (stripUndefinedDeep patch) }

def Database.aggregateOr (database : Database) (correlationId : String) (initial : Value) :
    Value :=
  (database.events.get? correlationId).getD initial

/-- Apply a snapshot to its aggregate, unless its idempotency key is already stored. -/
def Database.applySnapshotEvent (backend : Backend) (database : Database)
    (correlationId : String) (idempotencyKey initialAggregate : Value)
    (buildSnapshot : Value → Value) : Database :=
  let aggregate := database.aggregateOr correlationId initialAggregate
  match database.findSnapshot backend correlationId idempotencyKey with
  | some _ => database
  | none =>
    let snapshot := buildSnapshot aggregate
    let updated := applySnapshotToAggregate aggregate snapshot (sequenceOf snapshot)
    database.write backend correlationId updated (snapshotIdOf snapshot) snapshot

section ApplySnapshot

variable {backend : Backend} {database : Database} {correlationId : String}
  {idempotencyKey : Value} (initialAggregate : Value) (buildSnapshot : Value → Value)

theorem applySnapshotEvent_of_seen {entry : (String × String) × Value}
    (seen : database.findSnapshot backend correlationId idempotencyKey = some entry) :
    database.applySnapshotEvent backend correlationId idempotencyKey initialAggregate
      buildSnapshot = database := by
  simp [Database.applySnapshotEvent, seen]

theorem applySnapshotEvent_of_unseen
    (unseen : database.findSnapshot backend correlationId idempotencyKey = none) :
    let aggregate := database.aggregateOr correlationId initialAggregate
    let snapshot := buildSnapshot aggregate
    database.applySnapshotEvent backend correlationId idempotencyKey initialAggregate
        buildSnapshot =
      database.write backend correlationId
        (applySnapshotToAggregate aggregate snapshot (sequenceOf snapshot))
        (snapshotIdOf snapshot) snapshot := by
  simp [Database.applySnapshotEvent, unseen]

end ApplySnapshot

end BitBrat
