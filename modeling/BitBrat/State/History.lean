import BitBrat.Machine.Run
import BitBrat.State.StateEngineStore

/-! The state and the history of its mutations: when one version counts the other. -/

namespace BitBrat

open Js Machine

/-- One delivery of a mutation, with the clock while it is handled. -/
structure MutationMessage where
  mutation : MutationProposal
  stamp : MutationStamp

def mutationStep (backend : Backend) (allowedKeys : List String) (store : StateCollections)
    (message : MutationMessage) : StateCollections :=
  handleMutation backend allowedKeys message.stamp message.mutation store

def acceptedEntries (store : StateCollections) (key : String) : List MutationLogEntry :=
  (store.mutationLog.entries.map Prod.snd).filter fun entry =>
    entry.key = key ∧ entry.status = .accepted

/-- The version of every key counts its accepted mutations, which are numbered from one. -/
structure HistoryAgrees (store : StateCollections) : Prop where
  counted : ∀ key, (acceptedEntries store key).length = store.currentVersion key
  numbered : ∀ key, ((acceptedEntries store key).map (·.resultingVersion)).Perm
    ((List.range' 1 (store.currentVersion key)).map some)

structure MutationLaw (allowedKeys : List String) (message : MutationMessage)
    (before after : StateCollections) : Prop where
  agrees : HistoryAgrees after
  disallowed : isAllowedKey allowedKeys message.mutation.key = false → after.state = before.state
  rejected : ∀ entry, after.mutationLog.get? message.mutation.id = some entry →
    entry.status = .rejected → after.state = before.state
  redelivered : ∀ entry, before.mutationLog.get? message.mutation.id = some entry →
    after.state = before.state ∧ after.mutationLog.get? message.mutation.id = some entry

def refusal (allowedKeys : List String) (store : StateCollections) (mutation : MutationProposal) :
    Option String :=
  -- The key is looked at before the version.
  if isAllowedKey allowedKeys mutation.key then
    versionMismatch mutation (store.currentVersion mutation.key)
  else some "Key not allowed"

/-- A mutation is new, or is rejected again just as it was. -/
def Unrepeated (allowedKeys : List String) (store : StateCollections) (message : MutationMessage) :
    Prop :=
  ∀ entry, store.mutationLog.get? message.mutation.id = some entry →
    -- A mutation that would be committed again is never harmless.
    ∃ error, refusal allowedKeys store message.mutation = some error ∧
      entry = mutationLogEntry message.mutation message.stamp.rejectedAt .rejected (some error) none

section

variable {backend : Backend} {allowedKeys : List String} {store : StateCollections}
  {message : MutationMessage}

theorem mutationStep_of_refused {error : String}
    (refused : refusal allowedKeys store message.mutation = some error) :
    mutationStep backend allowedKeys store message =
      store.setLog message.mutation.id (mutationLogEntry message.mutation message.stamp.rejectedAt
        .rejected (some error) none) := by
  -- Both reasons end in the same log entry, by the two branches of the handler.
  unfold refusal at refused
  simp only [mutationStep, handleMutation, Backend.commitMutation_eq]
  split at refused
  · rename_i allowed
    -- An allowed key is refused by the commit, which has written nothing.
    rw [allowed]
    simp [DocumentStoreStateEngineStore.commitMutation, refused, logMutation]
  · -- A disallowed key is logged without asking the store.
    rename_i disallowed
    rw [Bool.not_eq_true] at disallowed
    cases refused
    simp [disallowed, logMutation]

theorem mutationStep_of_accepted (accepted : refusal allowedKeys store message.mutation = none) :
    mutationStep backend allowedKeys store message =
      (store.setState message.mutation.key (mutationSnapshot message.mutation
        message.stamp.updatedAt (store.currentVersion message.mutation.key + 1))).setLog
          message.mutation.id (mutationLogEntry message.mutation message.stamp.committedAt .accepted
            none (some (store.currentVersion message.mutation.key + 1))) := by
  -- Only an allowed key gets as far as the commit.
  unfold refusal at accepted
  simp only [mutationStep, handleMutation, Backend.commitMutation_eq]
  split at accepted
  · rename_i allowed
    rw [allowed]
    simp [DocumentStoreStateEngineStore.commitMutation, accepted]
  · cases accepted

theorem refusal_of_disallowed
    (disallowed : isAllowedKey allowedKeys message.mutation.key = false) :
    refusal allowedKeys store message.mutation = some "Key not allowed" := by
  rw [refusal, disallowed]
  rfl

variable {id : String} {entry : MutationLogEntry}

theorem acceptedEntries_setLog (unlogged : store.mutationLog.get? id = none)
    (key : String) : acceptedEntries (store.setLog id entry) key =
      acceptedEntries store key ++
        if entry.key = key ∧ entry.status = .accepted then [entry] else [] := by
  -- An absent identifier is appended behind the entries that are there.
  have absent := lookup_eq_none_iff_not_mem.mp unlogged
  have appended : (store.mutationLog.set id entry).entries =
      store.mutationLog.entries ++ [(id, entry)] := setEntry_of_not_mem entry absent
  simp only [acceptedEntries, StateCollections.setLog, appended, List.map_append,
    List.filter_append]
  congr 1
  simp [List.filter_cons]

theorem currentVersion_setState (key : String) (snapshot : StateSnapshot) (other : String) :
    (store.setState key snapshot).currentVersion other =
      if other = key then snapshot.version else store.currentVersion other := by
  by_cases same : other = key
  · simp [StateCollections.currentVersion, StateCollections.setState, same]
  · simp [StateCollections.currentVersion, StateCollections.setState, same]

theorem HistoryAgrees.reject (agrees : HistoryAgrees store)
    (unlogged : store.mutationLog.get? id = none) (rejected : entry.status = .rejected) :
    HistoryAgrees (store.setLog id entry) := by
  -- A rejected entry is not counted for any key.
  have same (key : String) : acceptedEntries (store.setLog id entry) key =
      acceptedEntries store key := by
    rw [acceptedEntries_setLog unlogged, if_neg (by simp [rejected]), List.append_nil]
  constructor
  · intro key
    rw [same]
    exact agrees.counted key
  · intro key
    rw [same]
    exact agrees.numbered key

theorem HistoryAgrees.commit (agrees : HistoryAgrees store) {key : String}
    {snapshot : StateSnapshot} (unlogged : store.mutationLog.get? id = none)
    (addressed : entry.key = key) (accepted : entry.status = .accepted)
    (stored : snapshot.version = store.currentVersion key + 1)
    (numbered : entry.resultingVersion = some (store.currentVersion key + 1)) :
    HistoryAgrees ((store.setState key snapshot).setLog id entry) := by
  -- The entry is counted for its own key, whose version is the only one that changes.
  have entries (other : String) : acceptedEntries ((store.setState key snapshot).setLog id entry)
      other = acceptedEntries store other ++ if key = other then [entry] else [] := by
    have still_unlogged : (store.setState key snapshot).mutationLog.get? id = none := unlogged
    rw [acceptedEntries_setLog still_unlogged, addressed]
    simp only [accepted, and_true]
    rfl
  have version (other : String) : ((store.setState key snapshot).setLog id entry).currentVersion
      other = if other = key then snapshot.version else store.currentVersion other :=
    currentVersion_setState key snapshot other
  constructor
  · -- One entry more is counted, under its own key.
    intro other
    have counted := agrees.counted other
    rw [entries, version, List.length_append, counted]
    by_cases same : other = key
    · simp [same, stored]
    · simp [same, Ne.symm same]
  · intro other
    have earlier := agrees.numbered other
    rw [entries, version, List.map_append]
    by_cases same : other = key
    · -- The range of the numbers grows by the next one.
      subst same
      rw [if_pos rfl, if_pos rfl, stored, List.range'_1_concat, List.map_append,
        List.map_singleton, List.map_singleton, numbered, Nat.add_comm 1]
      exact earlier.append_right _
    · rw [if_neg same, if_neg (Ne.symm same), List.map_nil, List.append_nil]
      exact earlier

private theorem historyAgrees_empty : HistoryAgrees .empty where
  counted _ := rfl
  numbered _ := .nil

theorem mutationLaw_of_unrepeated (agrees : HistoryAgrees store)
    (unrepeated : Unrepeated allowedKeys store message) :
    MutationLaw allowedKeys message store (mutationStep backend allowedKeys store message) := by
  cases refused : refusal allowedKeys store message.mutation with
  | some error =>
    rw [mutationStep_of_refused refused]
    -- A rejection that is logged for the first time leaves every count.
    cases logged : store.mutationLog.get? message.mutation.id with
    | none =>
      exact ⟨agrees.reject logged rfl, fun _ => rfl, fun _ _ _ => rfl, fun entry found => by
        rw [logged] at found
        cases found⟩
    | some entry =>
      -- The same rejection is written once more.
      obtain ⟨again, same, rfl⟩ := unrepeated entry logged
      cases refused.symm.trans same
      have unchanged : store.setLog message.mutation.id (mutationLogEntry message.mutation
          message.stamp.rejectedAt .rejected (some error) none) = store := by
        simp only [StateCollections.setLog]
        rw [show store.mutationLog.set message.mutation.id _ = store.mutationLog from
          OrderedMap.ext (setEntry_of_lookup logged)]
      rw [unchanged]
      exact ⟨agrees, fun _ => rfl, fun _ _ _ => rfl, fun _ found => ⟨rfl, found⟩⟩
  | none =>
    -- What is accepted cannot be in the log, since a repetition would be refused.
    have unlogged : store.mutationLog.get? message.mutation.id = none := by
      cases logged : store.mutationLog.get? message.mutation.id with
      | none => rfl
      | some entry =>
        obtain ⟨error, again, -⟩ := unrepeated entry logged
        rw [refused] at again
        cases again
    rw [mutationStep_of_accepted refused]
    refine ⟨agrees.commit unlogged rfl rfl rfl rfl, ?_, ?_, ?_⟩
    · -- A disallowed key would have been refused.
      intro disallowed
      rw [refusal_of_disallowed disallowed] at refused
      cases refused
    · -- What was logged was accepted.
      intro entry found rejected
      simp only [StateCollections.setLog, OrderedMap.get?_set_self, Option.some.injEq] at found
      rw [← found] at rejected
      cases rejected
    · -- A new mutation has no entry to keep.
      intro entry found
      rw [unlogged] at found
      cases found

theorem unrepeated_of_mutationLaw
    (law : MutationLaw allowedKeys message store (mutationStep backend allowedKeys store message)) :
    Unrepeated allowedKeys store message := by
  intro entry logged
  -- The law keeps both the state and the entry of the repeated mutation.
  obtain ⟨unchanged, kept⟩ := law.redelivered entry logged
  cases refused : refusal allowedKeys store message.mutation with
  | some error =>
    -- The rejection overwrites the entry, which the law keeps.
    rw [mutationStep_of_refused refused] at kept
    simp only [StateCollections.setLog, OrderedMap.get?_set_self, Option.some.injEq] at kept
    exact ⟨error, rfl, kept.symm⟩
  | none =>
    -- A commit changes the version of its key.
    exfalso
    have version := congrArg (fun state => StateCollections.currentVersion
      { state, mutationLog := store.mutationLog } message.mutation.key) unchanged
    rw [mutationStep_of_accepted refused] at version
    have written (snapshot : StateSnapshot) :
        (store.setState message.mutation.key snapshot).currentVersion message.mutation.key =
          snapshot.version := by
      rw [currentVersion_setState, if_pos rfl]
    have grows := (written _).symm.trans version
    simp only [mutationSnapshot, StateCollections.currentVersion] at grows
    omega

end

/--
The history agrees with the state after every step of exactly the runs without repetitions. -/
theorem history_agrees_iff (backend : Backend) (allowedKeys : List String)
    (messages : List MutationMessage) :
    Along (mutationStep backend allowedKeys) (fun store message => MutationLaw allowedKeys message
        store (mutationStep backend allowedKeys store message)) .empty messages ↔
      Along (mutationStep backend allowedKeys) (Unrepeated allowedKeys) .empty messages := by
  -- The agreement is the invariant under which the law and the condition are the same.
  refine along_congr HistoryAgrees ?_ ?_ historyAgrees_empty messages
  · intro store message agrees unrepeated
    exact (mutationLaw_of_unrepeated agrees unrepeated).agrees
  · intro store message agrees
    exact ⟨unrepeated_of_mutationLaw, mutationLaw_of_unrepeated agrees⟩

def streamOnline : MutationMessage where
  mutation := {
    id := "m-1", op := .set, key := "stream.state", value := .str "on", actor := "ingress-egress"
    reason := "stream.online", ts := "2024-01-01T00:00:00.000Z" }
  stamp := {
    updatedAt := "2024-01-01T00:00:01.000Z", committedAt := "2024-01-01T00:00:01.000Z"
    rejectedAt := "2024-01-01T00:00:01.000Z" }

/-- A mutation that is delivered twice is committed twice, and logged once. -/
theorem redelivery_commits :
    ¬ ∀ (backend : Backend) (allowedKeys : List String) (messages : List MutationMessage),
      Along (mutationStep backend allowedKeys) (fun store message => MutationLaw allowedKeys message
        store (mutationStep backend allowedKeys store message)) .empty messages := by
  intro lawful
  -- After the second delivery the version is two, and one entry is counted.
  have again := (lawful .documentStore ["stream.state"] [streamOnline, streamOnline]).2.1.agrees
  have counted := again.counted "stream.state"
  revert counted
  decide +kernel

end BitBrat
