import BitBrat.Machine.Run
import BitBrat.State.StateEngineStore
import Mathlib.Logic.Function.Basic

/-! Concurrent commits on one key, whose calls to the document store interleave. -/

namespace BitBrat

open Js Machine

structure Commit (key : String) where
  mutation : MutationProposal
  addressed : mutation.key = key
  stamp : MutationStamp

structure CommitSystem (ι : Type) where
  store : StateCollections
  phase : ι → CommitPhase

section

variable {key : String} {ι : Type}

def CommitSystem.begin (start : StateCollections) : CommitSystem ι where
  store := start
  phase _ := .reading

def CommitSystem.step [DecidableEq ι] (commits : ι → Commit key) (system : CommitSystem ι) (i : ι) :
    CommitSystem ι :=
  -- The calls are atomic, and the other commits stay where they are.
  let called := commitCall (commits i).stamp (commits i).mutation (system.phase i) system.store
  { store := called.2, phase := Function.update system.phase i called.1 }

def CommitSystem.Reports (system : CommitSystem ι) (i : ι) (version : Nat) : Prop :=
  ∃ result, system.phase i = .finished result ∧ result.success = true ∧
    result.resultingVersion = some version

structure OptimisticLaw (commits : ι → Commit key) (system : CommitSystem ι) : Prop where
  distinct : ∀ i j version, system.Reports i version → system.Reports j version → i = j
  once : ∀ i j version other expected, i ≠ j →
    (commits i).mutation.expectedVersion = some expected →
    (commits j).mutation.expectedVersion = some expected →
    ¬ (system.Reports i version ∧ system.Reports j other)
  /-- Where no commit is between its two writes, the last successful one is stored. -/
  stored : (∀ i next, system.phase i ≠ .logging next) → (∃ i version, system.Reports i version) →
    ∃ i version, system.Reports i version ∧
      (∀ j other, system.Reports j other → other ≤ version) ∧
      system.store.state.get? key = some
        (mutationSnapshot (commits i).mutation (commits i).stamp.updatedAt version)

def Uncontended (key : String) (system : CommitSystem ι) (i : ι) : Prop :=
  match system.phase i with
  | .writing nextVersion => nextVersion = system.store.currentVersion key + 1
  | _ => True

instance (system : CommitSystem ι) (i : ι) : Decidable (Uncontended key system i) := by
  unfold Uncontended
  split <;> infer_instance

def CommitPhase.written : CommitPhase → Option Nat
  | .logging nextVersion => some nextVersion
  | .finished result => if result.success then result.resultingVersion else none
  | _ => none

theorem CommitSystem.Reports.written {system : CommitSystem ι} {i : ι} {version : Nat}
    (reports : system.Reports i version) : (system.phase i).written = some version := by
  obtain ⟨result, finished, success, resulting⟩ := reports
  simp [finished, CommitPhase.written, success, resulting]

private theorem CommitSystem.reports_of_written {system : CommitSystem ι} {i : ι} {version : Nat}
    (written : (system.phase i).written = some version)
    (logged : ∀ next, system.phase i ≠ .logging next) : system.Reports i version := by
  -- Of the phases behind the write, only the last one is left.
  cases at_phase : system.phase i with
  | reading | writing next =>
    rw [at_phase] at written
    cases written
  | logging next => exact absurd at_phase (logged next)
  | finished result =>
    rw [at_phase, CommitPhase.written] at written
    split at written
    · rename_i success
      exact ⟨result, at_phase, success, written⟩
    · cases written

def Expected (commit : Commit key) (nextVersion : Nat) : Prop :=
  ∃ currentVersion, nextVersion = currentVersion + 1 ∧
    ∀ expected, commit.mutation.expectedVersion = some expected → expected = .finite currentVersion

/-- The versions that were written are distinct, and the stored state is that of the last one. -/
structure Versioned (commits : ι → Commit key) (system : CommitSystem ι) : Prop where
  bound : ∀ i version, (system.phase i).written = some version →
    version ≤ system.store.currentVersion key
  apart : ∀ i j version, (system.phase i).written = some version →
    (system.phase j).written = some version → i = j
  writing : ∀ i next, system.phase i = .writing next → Expected (commits i) next
  expected : ∀ i version, (system.phase i).written = some version → Expected (commits i) version
  latest : (∃ i version, (system.phase i).written = some version) →
    ∃ i, (system.phase i).written = some (system.store.currentVersion key) ∧
      system.store.state.get? key = some (mutationSnapshot (commits i).mutation
        (commits i).stamp.updatedAt (system.store.currentVersion key))

variable {commits : ι → Commit key} {system : CommitSystem ι}

theorem versioned_begin (start : StateCollections) :
    Versioned commits (CommitSystem.begin start) where
  -- Every commit is still about to read.
  bound _ _ written := by cases written
  apart _ _ _ written := by cases written
  writing _ _ at_phase := by cases at_phase
  expected _ _ written := by cases written
  latest := by
    rintro ⟨i, version, written⟩
    cases written

theorem Versioned.law (versioned : Versioned commits system) : OptimisticLaw commits system where
  distinct i j version left right := versioned.apart i j version left.written right.written
  once := by
    rintro i j version other expected differs left right ⟨first, second⟩
    -- Both have met the same expectation, and so have written the same version.
    obtain ⟨below, next, met⟩ := versioned.expected i version first.written
    obtain ⟨beneath, successor, kept⟩ := versioned.expected j other second.written
    have same : (below : ℚ) = beneath := by
      have both := (met expected left).symm.trans (kept expected right)
      injection both
    have versions : version = other := by
      have equal : below = beneath := by exact_mod_cast same
      omega
    subst versions
    exact differs (versioned.apart i j version first.written second.written)
  stored := by
    rintro logged ⟨i, version, reports⟩
    -- The commit that wrote the stored version has logged it, and so reports it.
    obtain ⟨last, written, stored⟩ := versioned.latest ⟨i, version, reports.written⟩
    refine ⟨last, _, CommitSystem.reports_of_written written (logged last), ?_, stored⟩
    intro j other reported
    exact versioned.bound j other reported.written

variable [DecidableEq ι] {i : ι}

theorem Versioned.quiet (versioned : Versioned commits system) {store : StateCollections}
    {next : CommitPhase} (state : store.state = system.store.state)
    (written : next.written = (system.phase i).written)
    (writing : ∀ version, next = .writing version → Expected (commits i) version) :
    Versioned commits { store, phase := Function.update system.phase i next } := by
  -- The stored version, and what each commit has written, are the same as before.
  have current : store.currentVersion key = system.store.currentVersion key := by
    rw [StateCollections.currentVersion, state]
    rfl
  have same (j : ι) :
      (Function.update system.phase i next j).written = (system.phase j).written := by
    by_cases here : j = i
    · subst here
      rw [Function.update_self, written]
    · rw [Function.update_of_ne here]
  refine ⟨?_, ?_, ?_, ?_, ?_⟩
  · -- No version is written that was not written before.
    intro j version held
    rw [current]
    exact versioned.bound j version (by rwa [← same])
  · intro j other version left right
    exact versioned.apart j other version (by rwa [← same]) (by rwa [← same])
  · intro j version at_phase
    by_cases here : j = i
    · subst here
      -- The commit that moves has just read, or is past its write.
      exact writing version (by simpa using at_phase)
    · exact versioned.writing j version (by simpa [Function.update_of_ne here] using at_phase)
  · intro j version held
    exact versioned.expected j version (by rwa [← same])
  · rintro ⟨j, version, held⟩
    obtain ⟨last, latest, stored⟩ := versioned.latest ⟨j, version, by rwa [← same]⟩
    refine ⟨last, ?_, ?_⟩
    · rw [same, current]
      exact latest
    · rw [state, current]
      exact stored

theorem Versioned.write (versioned : Versioned commits system) {next : Nat}
    (at_phase : system.phase i = .writing next)
    (uncontended : next = system.store.currentVersion key + 1) :
    Versioned commits
      { store := system.store.setState key
          (mutationSnapshot (commits i).mutation (commits i).stamp.updatedAt next)
        phase := Function.update system.phase i (.logging next) } := by
  -- The state is stored with the version that was written.
  have current : (system.store.setState key (mutationSnapshot (commits i).mutation
      (commits i).stamp.updatedAt next)).currentVersion key = next := by
    simp [StateCollections.currentVersion, StateCollections.setState, mutationSnapshot]
  -- A commit has written the new version exactly when it is the one that moves.
  have cases_written (j : ι) (version : Nat)
      (held : (Function.update system.phase i (.logging next) j).written = some version) :
      (j = i ∧ version = next) ∨ (j ≠ i ∧ (system.phase j).written = some version) := by
    by_cases here : j = i
    · subst here
      rw [Function.update_self] at held
      exact .inl ⟨rfl, (Option.some.inj held).symm⟩
    · rw [Function.update_of_ne here] at held
      exact .inr ⟨here, held⟩
  -- Every version that was written before is below the new one.
  have below (j : ι) (version : Nat) (held : (system.phase j).written = some version) :
      version < next := by
    have bound := versioned.bound j version held
    omega
  refine ⟨?_, ?_, ?_, ?_, ?_⟩
  · intro j version held
    rw [current]
    rcases cases_written j version held with ⟨-, rfl⟩ | ⟨-, before⟩
    · exact le_refl _
    · exact (below j version before).le
  · -- The new version is above all others, and only one commit writes it.
    intro j other version left right
    rcases cases_written j version left with ⟨rfl, rfl⟩ | ⟨-, before⟩ <;>
      rcases cases_written other _ right with ⟨rfl, same⟩ | ⟨-, earlier⟩
    · rfl
    · exact absurd (below other _ earlier) (lt_irrefl _)
    · have smaller := below j version before
      omega
    · exact versioned.apart j other version before earlier
  · -- A commit that has just written is not about to write.
    intro j version held
    by_cases here : j = i
    · subst here
      simp at held
    · exact versioned.writing j version (by simpa [Function.update_of_ne here] using held)
  · intro j version held
    rcases cases_written j version held with ⟨rfl, rfl⟩ | ⟨-, before⟩
    · exact versioned.writing j _ at_phase
    · exact versioned.expected j version before
  · intro _
    -- The commit that moves is the last one now.
    refine ⟨i, ?_, ?_⟩
    · show (Function.update system.phase i (.logging next) i).written = some _
      rw [Function.update_self, current]
      rfl
    · rw [current]
      simp [StateCollections.setState]

theorem expected_of_reading (commit : Commit key) {currentVersion : Nat}
    (met : versionMismatch commit.mutation currentVersion = none) :
    Expected commit (currentVersion + 1) := by
  refine ⟨currentVersion, rfl, fun expected named => ?_⟩
  rw [versionMismatch, named] at met
  simpa using met

theorem Versioned.step (versioned : Versioned commits system)
    (uncontended : Uncontended key system i) : Versioned commits (system.step commits i) := by
  unfold CommitSystem.step
  cases at_phase : system.phase i with
  -- A mismatch ends the commit, and a match hands the next version on.
  | reading =>
    simp only [commitCall]
    split
    · exact versioned.quiet rfl (by rw [at_phase]; rfl) (by simp)
    · rename_i met
      refine versioned.quiet rfl (by rw [at_phase]; rfl) fun version named => ?_
      cases named
      exact expected_of_reading (commits i) met
  -- The write finds the version that was read.
  | writing next =>
    simp only [commitCall, (commits i).addressed]
    exact versioned.write at_phase (by simpa only [Uncontended, at_phase] using uncontended)
  -- Logging and having finished leave the state alone.
  | logging next => exact versioned.quiet rfl (by rw [at_phase]; rfl) (by simp [commitCall])
  | finished result => exact versioned.quiet rfl (by rw [at_phase]; rfl) (by simp [commitCall])

/-- Commits that write on top of the version that they read keep the law, in any interleaving. -/
theorem optimistic_of_uncontended (commits : ι → Commit key) (start : StateCollections)
    (schedule : List ι)
    (uncontended : Along (CommitSystem.step commits) (Uncontended key) (.begin start) schedule) :
    OptimisticLaw commits (run (CommitSystem.step commits) (.begin start) schedule) :=
  -- Versions stay distinct at every call, and the law is read off at the end.
  (run_invariant (Versioned commits) (fun _ _ versioned free => versioned.step free)
    (versioned_begin start) uncontended).law

omit [DecidableEq ι] in
omit [DecidableEq ι] in
end

def streamCommits (second : Bool) : Commit "stream.state" where
  mutation := {
    id := if second then "m-2" else "m-1", op := .set, key := "stream.state"
    value := .str (if second then "off" else "on"), actor := "ingress-egress"
    reason := "stream", ts := "2024-01-01T00:00:00.000Z" }
  addressed := rfl
  stamp := {
    updatedAt := "2024-01-01T00:00:01.000Z", committedAt := "2024-01-01T00:00:01.000Z"
    rejectedAt := "2024-01-01T00:00:01.000Z" }

/-- The second commit may read as soon as the first one has written the state. -/
theorem optimistic_of_uncontended_stream :
    OptimisticLaw streamCommits (run (CommitSystem.step streamCommits) (.begin .empty)
      [false, false, true, true, false, true]) :=
  optimistic_of_uncontended streamCommits .empty [false, false, true, true, false, true]
    (by decide +kernel)

/-- Two commits that read the same version both succeed with the next one. -/
theorem both_commits_succeed :
    ¬ ∀ (key : String) (ι : Type) [DecidableEq ι] (commits : ι → Commit key)
        (start : StateCollections) (schedule : List ι),
      OptimisticLaw commits (run (CommitSystem.step commits) (.begin start) schedule) := by
  intro lawful
  -- Both commits read before either of them writes.
  have law := lawful "stream.state" Bool streamCommits .empty
    [false, true, false, true, false, true]
  have same := law.distinct false true 1 ⟨_, rfl, rfl, rfl⟩ ⟨_, rfl, rfl, rfl⟩
  cases same

end BitBrat
