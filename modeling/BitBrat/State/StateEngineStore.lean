import BitBrat.Persistence.Repository

/-! The state engine: which mutations it accepts, and what it writes for each of them. -/

namespace BitBrat

open Js

/-- The two collections of the state engine: the state by key, and the log by mutation. -/
structure StateCollections where
  state : OrderedMap String StateSnapshot
  mutationLog : OrderedMap String MutationLogEntry

def StateCollections.empty : StateCollections where
  state := .empty
  mutationLog := .empty

structure MutationStamp where
  updatedAt : String
  committedAt : String
  rejectedAt : String

def StateCollections.setState (store : StateCollections) (key : String) (snapshot : StateSnapshot) :
    StateCollections :=
  { store with state := store.state.set key snapshot }

def StateCollections.setLog (store : StateCollections) (id : String) (entry : MutationLogEntry) :
    StateCollections :=
  { store with mutationLog := store.mutationLog.set id entry }

/-- The version under a key, where a key without a state has version zero. -/
def StateCollections.currentVersion (store : StateCollections) (key : String) : Nat :=
  match store.state.get? key with
  | some snapshot => snapshot.version
  -- A missing state counts as version zero.
  | none => 0

structure CommitMutationResult where
  success : Bool
  resultingVersion : Option Nat := none
  error : Option String := none
  deriving DecidableEq

/-- The error of a mutation that expects another version than the current one. -/
def versionMismatch (mutation : MutationProposal) (currentVersion : Nat) : Option String :=
  match mutation.expectedVersion with
  -- Without an expectation, any version will do.
  | none => none
  | some expected =>
    if expected ≠ .finite currentVersion then
      some ("Version mismatch: expected " ++ expected.toText ++ ", found " ++
        toString currentVersion)
    else none

def mutationSnapshot (mutation : MutationProposal) (updatedAt : String) (nextVersion : Nat) :
    StateSnapshot where
  value := mutation.value
  updatedAt
  updatedBy := mutation.actor
  version := nextVersion
  ttl := mutation.ttl.filter Number.truthy
  -- A source among the proposed metadata takes the place of the reason.
  metadata := (Value.obj [("source", .str mutation.reason)]).extend (mutation.metadata.getD [])

def mutationLogEntry (mutation : MutationProposal) (committedAt : String) (status : MutationStatus)
    (error : Option String) (resultingVersion : Option Nat) : MutationLogEntry :=
  { toMutationProposal := mutation, committedAt, status, error, resultingVersion }

def logMutation (mutation : MutationProposal) (committedAt : String) (status : MutationStatus)
    (error : Option String) (resultingVersion : Option Nat) (store : StateCollections) :
    StateCollections :=
  store.setLog mutation.id (mutationLogEntry mutation committedAt status error resultingVersion)

/-- The transaction of a commit, which throws before it has written anything. -/
def commitTransaction (stamp : MutationStamp) (mutation : MutationProposal)
    (store : StateCollections) : Except String (Nat × StateCollections) := do
  -- Everything that is read here is still so when the transaction is applied.
  let currentVersion := store.currentVersion mutation.key
  if let some error := versionMismatch mutation currentVersion then throw error
  let nextVersion := currentVersion + 1
  let snapshot := mutationSnapshot mutation stamp.updatedAt nextVersion
  let logEntry := mutationLogEntry mutation stamp.committedAt .accepted none (some nextVersion)
  return (nextVersion, (store.setState mutation.key snapshot).setLog mutation.id logEntry)

def FirestoreStateEngineStore.commitMutation (stamp : MutationStamp) (mutation : MutationProposal)
    (store : StateCollections) : CommitMutationResult × StateCollections :=
  match commitTransaction stamp mutation store with
  | .ok (resultingVersion, written) =>
    ({ success := true, resultingVersion := some resultingVersion }, written)
  | .error error => ({ success := false, error := some error }, store)

/-- The call that a commit makes next, with what it remembers of the calls before. -/
inductive CommitPhase where
  | reading
  | writing (nextVersion : Nat)
  | logging (nextVersion : Nat)
  | finished (result : CommitMutationResult)
  deriving DecidableEq

def commitCall (stamp : MutationStamp) (mutation : MutationProposal) (phase : CommitPhase)
    (store : StateCollections) : CommitPhase × StateCollections :=
  match phase with
  | .reading =>
    -- The version is read once, and is not looked at again when the state is written.
    let currentVersion := store.currentVersion mutation.key
    match versionMismatch mutation currentVersion with
    | some error => (.finished { success := false, error := some error }, store)
    | none => (.writing (currentVersion + 1), store)
  | .writing nextVersion =>
    let snapshot := mutationSnapshot mutation stamp.updatedAt nextVersion
    (.logging nextVersion, store.setState mutation.key snapshot)
  | .logging nextVersion =>
    let logEntry := mutationLogEntry mutation stamp.committedAt .accepted none (some nextVersion)
    (.finished { success := true, resultingVersion := some nextVersion },
      store.setLog mutation.id logEntry)
  | .finished result => (.finished result, store)

/-- Commit a mutation with one call to the document store after the other. -/
def DocumentStoreStateEngineStore.commitMutation (stamp : MutationStamp)
    (mutation : MutationProposal) (store : StateCollections) :
    CommitMutationResult × StateCollections :=
  let currentVersion := store.currentVersion mutation.key
  match versionMismatch mutation currentVersion with
  | some error => ({ success := false, error := some error }, store)
  | none =>
    -- The two writes follow the read, without a transaction around them.
    let nextVersion := currentVersion + 1
    let snapshot := mutationSnapshot mutation stamp.updatedAt nextVersion
    let logEntry := mutationLogEntry mutation stamp.committedAt .accepted none (some nextVersion)
    ({ success := true, resultingVersion := some nextVersion },
      (store.setState mutation.key snapshot).setLog mutation.id logEntry)

def Backend.commitMutation : Backend → MutationStamp → MutationProposal → StateCollections →
    CommitMutationResult × StateCollections
  | .firestore => FirestoreStateEngineStore.commitMutation
  | .documentStore => DocumentStoreStateEngineStore.commitMutation

def isAllowedKey (allowedKeys : List String) (key : String) : Bool :=
  allowedKeys.any fun allowed =>
    -- A trailing star denotes a prefix.
    if allowed.toList.getLast? = some '*' then allowed.toList.dropLast.isPrefixOf key.toList
    else allowed = key

/-- Handle one mutation: validate it, commit it, and log a rejection. -/
def handleMutation (backend : Backend) (allowedKeys : List String) (stamp : MutationStamp)
    (mutation : MutationProposal) (store : StateCollections) : StateCollections :=
  if !isAllowedKey allowedKeys mutation.key then
    -- A key that is not allowed never reaches the store.
    logMutation mutation stamp.rejectedAt .rejected (some "Key not allowed") none store
  else
    let (result, committed) := backend.commitMutation stamp mutation store
    if result.success then committed
    else logMutation mutation stamp.rejectedAt .rejected result.error none committed

theorem commitMutation_eq_calls (stamp : MutationStamp) (mutation : MutationProposal)
    (store : StateCollections) :
    let call := fun (at_phase : CommitPhase × StateCollections) =>
      commitCall stamp mutation at_phase.1 at_phase.2
    let (result, committed) := DocumentStoreStateEngineStore.commitMutation stamp mutation store
    call (call (call (.reading, store))) = (.finished result, committed) := by
  simp only [commitCall, DocumentStoreStateEngineStore.commitMutation]
  cases versionMismatch mutation (store.currentVersion mutation.key) <;> rfl

theorem Backend.commitMutation_eq (backend : Backend) (stamp : MutationStamp)
    (mutation : MutationProposal) (store : StateCollections) :
    backend.commitMutation stamp mutation store =
      DocumentStoreStateEngineStore.commitMutation stamp mutation store := by
  cases backend with
  | documentStore => rfl
  | firestore =>
    -- Both stores check the version first, and write the same two documents.
    simp only [Backend.commitMutation, FirestoreStateEngineStore.commitMutation, commitTransaction,
      DocumentStoreStateEngineStore.commitMutation]
    cases versionMismatch mutation (store.currentVersion mutation.key) <;> rfl

end BitBrat
