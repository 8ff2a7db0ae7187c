import BitBrat.State.StateEngineStore

/-! Store calls that fail while a mutation is handled, and what the log then says of the state. -/

namespace BitBrat

open Js

inductive StoreOutcome where
  | answered
  /-- The call throws, and what it was to write may have been written even so. -/
  | failed (error : String) (applied : Bool)
  deriving DecidableEq

structure StoreFaults where
  reading : StoreOutcome := .answered
  /-- Writing the state, which commits the transaction where there is one. -/
  writing : StoreOutcome := .answered
  /-- Writing the accepted entry of the log, where that is a call of its own. -/
  logging : StoreOutcome := .answered
  rejecting : StoreOutcome := .answered

/-- What a mutation leaves behind: the collections, and its own entry in the log. -/
structure MutationHandling where
  store : StateCollections
  /-- The entry that was written last for the mutation, if one was written now. -/
  entry : Option MutationLogEntry := none

/-- Write an entry into the log, with a call that may fail. -/
def MutationHandling.log (handling : MutationHandling) (outcome : StoreOutcome)
    (entry : MutationLogEntry) : MutationHandling :=
  let logged : MutationHandling :=
    { store := handling.store.setLog entry.id entry, entry := some entry }
  match outcome with
  | .answered => logged
  | .failed _ applied => if applied then logged else handling

def failedCommit (error : String) (handling : MutationHandling) :
    CommitMutationResult × MutationHandling :=
  ({ success := false, error := some error }, handling)

section

variable (faults : StoreFaults) (stamp : MutationStamp) (mutation : MutationProposal)
  (store : StateCollections)

def acceptedEntry (nextVersion : Nat) : MutationLogEntry :=
  mutationLogEntry mutation stamp.committedAt .accepted none (some nextVersion)

def FirestoreStateEngineStore.commitWithFaults : CommitMutationResult × MutationHandling :=
  match faults.reading with
  | .failed error _ => failedCommit error { store }
  | .answered =>
    match commitTransaction stamp mutation store with
    | .error error => failedCommit error { store }
    | .ok (nextVersion, written) =>
      let committed : MutationHandling :=
        { store := written, entry := some (acceptedEntry stamp mutation nextVersion) }
      match faults.writing with
      | .answered => ({ success := true, resultingVersion := some nextVersion }, committed)
      -- The transaction is applied as a whole or not at all.
      | .failed error applied => failedCommit error (if applied then committed else { store })

/-- Commit a mutation with one call after the other, each of which may fail. -/
def DocumentStoreStateEngineStore.commitWithFaults : CommitMutationResult × MutationHandling :=
  match faults.reading with
  | .failed error _ => failedCommit error { store }
  | .answered =>
    let currentVersion := store.currentVersion mutation.key
    match versionMismatch mutation currentVersion with
    | some error => failedCommit error { store }
    | none =>
      let nextVersion := currentVersion + 1
      let snapshot := mutationSnapshot mutation stamp.updatedAt nextVersion
      let written : MutationHandling := { store := store.setState mutation.key snapshot }
      match faults.writing with
      | .failed error applied => failedCommit error (if applied then written else { store })
      | .answered =>
        let logged := written.log faults.logging (acceptedEntry stamp mutation nextVersion)
        match faults.logging with
        | .answered => ({ success := true, resultingVersion := some nextVersion }, logged)
        -- The state has been written by now, whatever is reported.
        | .failed error _ => failedCommit error logged

/-- Commit a mutation with the store of a database, each of whose calls may fail. -/
def Backend.commitWithFaults (backend : Backend) : CommitMutationResult × MutationHandling :=
  match backend with
  | .firestore => FirestoreStateEngineStore.commitWithFaults faults stamp mutation store
  | .documentStore => DocumentStoreStateEngineStore.commitWithFaults faults stamp mutation store

def handleWithFaults (backend : Backend) (allowedKeys : List String) : MutationHandling :=
  let reject (error : Option String) :=
    mutationLogEntry mutation stamp.rejectedAt .rejected error none
  if !isAllowedKey allowedKeys mutation.key then
    MutationHandling.log { store } faults.rejecting (reject (some "Key not allowed"))
  else
    let (result, committed) := backend.commitWithFaults faults stamp mutation store
    if result.success then committed
    else committed.log faults.rejecting (reject result.error)

/-- What a commit and the log owe to each other, wherever a call fails. -/
structure FailureAtomic (backend : Backend) (allowedKeys : List String) : Prop where
  unchanged : (backend.commitWithFaults faults stamp mutation store).1.success = false →
    (backend.commitWithFaults faults stamp mutation store).2.store.state = store.state
  accepted : (∃ entry, (handleWithFaults faults stamp mutation store backend allowedKeys).entry =
      some entry ∧ entry.status = .accepted) ↔
    (handleWithFaults faults stamp mutation store backend allowedKeys).store.state ≠ store.state

/-- Once the state is written, no call fails that a commit makes. -/
def Sheltered (backend : Backend) : Prop :=
  faults.reading = .answered →
    versionMismatch mutation (store.currentVersion mutation.key) = none →
    match backend with
    | .firestore => ∀ error, faults.writing ≠ .failed error true
    | .documentStore =>
      (∃ error, faults.writing = .failed error false) ∨
        faults.writing = .answered ∧ faults.logging = .answered

end

section

variable {faults : StoreFaults} {stamp : MutationStamp} {mutation : MutationProposal}
  {store : StateCollections} {backend : Backend} {allowedKeys : List String}

@[simp] theorem MutationHandling.log_state (handling : MutationHandling)
    (outcome : StoreOutcome) (entry : MutationLogEntry) :
    (handling.log outcome entry).store.state = handling.store.state := by
  unfold MutationHandling.log
  cases outcome with
  | answered => rfl
  | failed error applied => cases applied <;> rfl

private theorem MutationHandling.log_rejected {handling : MutationHandling}
    {entry : MutationLogEntry} (outcome : StoreOutcome) (unlogged : handling.entry = none)
    (rejected : entry.status = .rejected) :
    ¬ ∃ accepted, (handling.log outcome entry).entry = some accepted ∧
      accepted.status = .accepted := by
  rintro ⟨accepted, logged, status⟩
  unfold MutationHandling.log at logged
  -- What the log says last is the rejection, or nothing.
  have last : some entry = some accepted ∨ handling.entry = some accepted := by
    cases outcome with
    | answered => exact .inl logged
    | failed error applied =>
      cases applied with
      | true => exact .inl logged
      | false => exact .inr logged
  rcases last with same | earlier
  · obtain rfl : entry = accepted := by simpa using same
    rw [rejected] at status
    cases status
  · rw [unlogged] at earlier
    cases earlier

theorem setState_ne (stamp : MutationStamp) (mutation : MutationProposal)
    (store : StateCollections) :
    (store.setState mutation.key (mutationSnapshot mutation stamp.updatedAt
      (store.currentVersion mutation.key + 1))).state ≠ store.state := by
  intro same
  -- The version under the key would be its own successor.
  have read := congrArg (fun state => state.get? mutation.key) same
  simp only [StateCollections.setState, OrderedMap.get?_set_self] at read
  have version : store.currentVersion mutation.key = store.currentVersion mutation.key + 1 := by
    conv_lhs => rw [StateCollections.currentVersion, ← read]
    rfl
  omega

theorem commitWithFaults_never (backend : Backend) (stamp : MutationStamp)
    (mutation : MutationProposal) (store : StateCollections) :
    ((backend.commitWithFaults {} stamp mutation store).1,
        (backend.commitWithFaults {} stamp mutation store).2.store) =
      backend.commitMutation stamp mutation store := by
  cases backend with
  | documentStore =>
    simp only [Backend.commitWithFaults, DocumentStoreStateEngineStore.commitWithFaults,
      Backend.commitMutation, DocumentStoreStateEngineStore.commitMutation]
    cases versionMismatch mutation (store.currentVersion mutation.key) <;> rfl
  | firestore =>
    simp only [Backend.commitWithFaults, FirestoreStateEngineStore.commitWithFaults,
      Backend.commitMutation, FirestoreStateEngineStore.commitMutation]
    cases commitTransaction stamp mutation store <;> rfl

theorem handleWithFaults_never (backend : Backend) (allowedKeys : List String)
    (stamp : MutationStamp) (mutation : MutationProposal) (store : StateCollections) :
    (handleWithFaults {} stamp mutation store backend allowedKeys).store =
      handleMutation backend allowedKeys stamp mutation store := by
  simp only [handleWithFaults, handleMutation, ← commitWithFaults_never]
  split
  · rfl
  · split <;> rfl

theorem commitTransaction_eq (stamp : MutationStamp) (mutation : MutationProposal)
    (store : StateCollections) :
    commitTransaction stamp mutation store =
      match versionMismatch mutation (store.currentVersion mutation.key) with
      | some error => .error error
      | none =>
        let nextVersion := store.currentVersion mutation.key + 1
        .ok (nextVersion, (store.setState mutation.key
          (mutationSnapshot mutation stamp.updatedAt nextVersion)).setLog mutation.id
            (acceptedEntry stamp mutation nextVersion)) := by
  simp only [commitTransaction]
  cases versionMismatch mutation (store.currentVersion mutation.key) <;> rfl

theorem commit_of_sheltered (stamp : MutationStamp)
    (sheltered : Sheltered faults mutation store backend) :
    let committed := backend.commitWithFaults faults stamp mutation store
    (committed.1.success = true ∧ committed.2.store.state ≠ store.state ∧
        ∃ entry, committed.2.entry = some entry ∧ entry.status = .accepted) ∨
      (committed.1.success = false ∧ committed.2.store.state = store.state ∧
        committed.2.entry = none) := by
  have changed := setState_ne stamp mutation store
  -- The calls of a commit are followed in their order, up to the first that fails.
  cases read : faults.reading with
  | failed error applied =>
    right
    cases backend <;>
      simp [Backend.commitWithFaults, FirestoreStateEngineStore.commitWithFaults,
        DocumentStoreStateEngineStore.commitWithFaults, read, failedCommit]
  | answered =>
    cases mismatch : versionMismatch mutation (store.currentVersion mutation.key) with
    | some error =>
      right
      cases backend <;>
        simp [Backend.commitWithFaults, FirestoreStateEngineStore.commitWithFaults,
          DocumentStoreStateEngineStore.commitWithFaults, commitTransaction_eq, read, mismatch,
          failedCommit]
    | none =>
      have harmless := sheltered read mismatch
      cases backend with
      | firestore =>
        simp only [Backend.commitWithFaults, FirestoreStateEngineStore.commitWithFaults,
          commitTransaction_eq, read, mismatch]
        cases written : faults.writing with
        | answered => exact .inl ⟨rfl, changed, _, rfl, rfl⟩
        | failed error applied =>
          cases applied with
          | true => exact absurd written (harmless error)
          | false => exact .inr ⟨rfl, rfl, rfl⟩
      | documentStore =>
        simp only [Backend.commitWithFaults, DocumentStoreStateEngineStore.commitWithFaults, read,
          mismatch]
        rcases harmless with ⟨error, written⟩ | ⟨written, logged⟩
        · rw [written]
          exact .inr ⟨rfl, rfl, rfl⟩
        · rw [written, logged]
          exact .inl ⟨rfl, changed, _, rfl, rfl⟩

theorem commit_of_not_sheltered (stamp : MutationStamp)
    (exposed : ¬ Sheltered faults mutation store backend) :
    (backend.commitWithFaults faults stamp mutation store).1.success = false ∧
      (backend.commitWithFaults faults stamp mutation store).2.store.state ≠ store.state := by
  have changed := setState_ne stamp mutation store
  unfold Sheltered at exposed
  simp only [Classical.not_imp] at exposed
  obtain ⟨read, mismatch, harmful⟩ := exposed
  cases backend with
  | firestore =>
    -- The transaction is applied, but its answer does not arrive.
    simp only [not_forall, not_not] at harmful
    obtain ⟨error, written⟩ := harmful
    simp only [Backend.commitWithFaults, FirestoreStateEngineStore.commitWithFaults,
      commitTransaction_eq, read, mismatch, written]
    exact ⟨rfl, changed⟩
  | documentStore =>
    simp only [Backend.commitWithFaults, DocumentStoreStateEngineStore.commitWithFaults, read,
      mismatch]
    cases written : faults.writing with
    | failed error applied =>
      cases applied with
      | false => exact absurd (.inl ⟨error, written⟩) harmful
      | true => exact ⟨rfl, changed⟩
    | answered =>
      cases logged : faults.logging with
      | answered => exact absurd (.inr ⟨written, logged⟩) harmful
      | failed error applied =>
        -- The log is written after the state, and its failure is taken for the commit's.
        refine ⟨rfl, ?_⟩
        simpa [failedCommit] using changed

/-- A commit and the log tell of the state as it is, if and only if the commit is sheltered. -/
theorem failureAtomic_iff (faults : StoreFaults) (stamp : MutationStamp)
    (mutation : MutationProposal) (store : StateCollections) (backend : Backend)
    (allowedKeys : List String) :
    FailureAtomic faults stamp mutation store backend allowedKeys ↔
      Sheltered faults mutation store backend := by
  constructor
  · intro atomic
    by_contra exposed
    obtain ⟨failed, changed⟩ := commit_of_not_sheltered stamp exposed
    exact changed (atomic.unchanged failed)
  · intro sheltered
    have outcome := commit_of_sheltered stamp sheltered
    refine ⟨?_, ?_⟩
    · intro failed
      rcases outcome with ⟨success, _⟩ | ⟨_, same, _⟩
      · rw [failed] at success
        cases success
      · exact same
    · unfold handleWithFaults
      split
      · -- A key that is not allowed is rejected before anything is committed.
        refine iff_of_false (MutationHandling.log_rejected _ rfl rfl) ?_
        simp
      · rcases outcome with ⟨success, changed, entry⟩ | ⟨failed, same, unlogged⟩
        · simp only [success, if_true]
          exact iff_of_true entry changed
        · simp only [failed, Bool.false_eq_true, if_false]
          refine iff_of_false (MutationHandling.log_rejected _ unlogged rfl) ?_
          simp [same]

def switchOn : MutationProposal where
  id := "m-1"
  op := .set
  key := "stream.state"
  value := .str "on"
  actor := "ingress-egress"
  reason := "stream.online"
  ts := "2026-01-01T00:00:00Z"

/-- The state is written, the log is not, and the mutation is then logged as rejected. -/
theorem failureAtomic_fails :
    ¬ ∀ (faults : StoreFaults) (stamp : MutationStamp) (mutation : MutationProposal)
      (store : StateCollections) (backend : Backend) (allowedKeys : List String),
      FailureAtomic faults stamp mutation store backend allowedKeys := by
  intro all
  let stamp : MutationStamp := { updatedAt := "t1", committedAt := "t2", rejectedAt := "t3" }
  let faults : StoreFaults := { logging := .failed "connection reset" false }
  have atomic := all faults stamp switchOn .empty .documentStore ["stream.state"]
  have failed : (Backend.documentStore.commitWithFaults faults stamp switchOn .empty).1 =
      { success := false, error := some "connection reset" } := by decide
  have unchanged := atomic.unchanged (by rw [failed])
  -- The state has the new value, though the commit has failed.
  have written : ((Backend.documentStore.commitWithFaults faults stamp switchOn
      .empty).2.store.state.get? "stream.state").map (·.value) = some (.str "on") := by decide
  rw [unchanged] at written
  cases written

end

end BitBrat
