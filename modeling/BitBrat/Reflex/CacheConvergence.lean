import Mathlib.Data.List.Induction
import Mathlib.Data.List.Perm.Basic
import BitBrat.Js.Sort
import BitBrat.Machine.Pending
import BitBrat.Machine.Run
import BitBrat.Reflex.ReflexAdmin

/-! The cache of active reflexes, and the reads of the store that write it. -/

namespace BitBrat

open Js

structure ReflexTable where
  documents : ReflexStore
  keyed : ∀ id reflex, documents.get? id = some reflex → reflex.id = id

def ReflexTable.empty : ReflexTable where
  documents := .empty
  keyed := by simp

def ReflexTable.put (table : ReflexTable) (reflex : Reflex) : ReflexTable where
  documents := table.documents.set reflex.id reflex
  keyed := by
    intro id found stored
    rw [OrderedMap.get?_set] at stored
    -- The reflex that is stored now has its own identifier.
    split at stored
    · rename_i same
      cases stored
      exact same.symm
    · exact table.keyed id found stored

/-- What a read of the repository answers: the active reflexes, lowest priority first. -/
def ReflexTable.getAll (table : ReflexTable) : List Reflex :=
  -- Priorities that are equal keep the order in which the reflexes are stored.
  ((table.documents.entries.map Prod.snd).filter (·.active)).mergeSort
    fun left right => left.priority ≤ right.priority

def refreshCache (reflexes : List Reflex) : ReflexStore :=
  reflexes.foldl (fun cache reflex => cache.set reflex.id reflex) .empty

inductive ReadKind where
  | refresh
  | initial
  | late
  deriving DecidableEq

/-- The answer to a read, with the number of store changes before it. -/
structure Answer where
  version : Nat
  reflexes : List Reflex

/-- A read that was begun, with the number of store changes before it, and its answer. -/
structure PendingRead where
  kind : ReadKind
  since : Nat
  answer : Option Answer := none

/--
The store, its repository and one cache over it.

The versions and the flag for a refresh only describe the run, and decide nothing in it.
-/
structure CacheSystem where
  table : ReflexTable
  version : Nat
  pending : List PendingRead
  cachedReflexes : List Reflex
  cachedVersion : Nat
  subscribed : Bool
  cache : ReflexStore
  cacheVersion : Nat
  refreshed : Bool
  closed : Bool

def CacheSystem.start (table : ReflexTable) : CacheSystem where
  table
  version := 1
  -- The cache has begun its initial read, and nobody is subscribed yet.
  pending := [{ kind := .initial, since := 1 }]
  cachedReflexes := []
  cachedVersion := 0
  subscribed := false
  cache := .empty
  cacheVersion := 0
  refreshed := false
  closed := false

inductive CacheEvent where
  | change (table : ReflexTable)
  | refresh
  | answer (index : Nat)
  | complete (index : Nat)
  | close

namespace CacheSystem

def write (system : CacheSystem) (answer : Answer) : CacheSystem :=
  { system with cache := refreshCache answer.reflexes, cacheVersion := answer.version }

def remember (system : CacheSystem) (answer : Answer) : CacheSystem :=
  { system with cachedReflexes := answer.reflexes, cachedVersion := answer.version }

def remembered (system : CacheSystem) : Answer :=
  { version := system.cachedVersion, reflexes := system.cachedReflexes }

/-- Subscribe the cache, which is called at once or after a read of its own. -/
def subscribe (system : CacheSystem) : CacheSystem :=
  let subscribed := { system with subscribed := true }
  if system.cachedReflexes ≠ [] then subscribed.write system.remembered
  else
    { subscribed with
      pending := subscribed.pending ++ [{ kind := .late, since := system.version }] }

def continue_ (system : CacheSystem) (kind : ReadKind) (answer : Answer) : CacheSystem :=
  match kind with
  | .refresh =>
    let remembering := system.remember answer
    -- Only a callback that is still subscribed is notified.
    if system.subscribed then remembering.write answer else remembering
  | .initial => (system.write answer).subscribe
  -- The callback is called whether or not it is still subscribed.
  | .late => (system.remember answer).write answer

/-- Note whether a completed read was begun after the last store change. -/
def note (system : CacheSystem) (since : Nat) : CacheSystem :=
  { system with refreshed := system.refreshed || since = system.version }

/-- A read with the content of the store for its answer, unless it has one already. -/
def answerRead (system : CacheSystem) (read : PendingRead) : PendingRead :=
  if read.answer.isSome then read
  else { read with answer := some { version := system.version, reflexes := system.table.getAll } }

/-- One step of the store, the repository and the cache. -/
def step (system : CacheSystem) : CacheEvent → CacheSystem
  | .change table => { system with table, version := system.version + 1, refreshed := false }
  | .refresh =>
    { system with pending := system.pending ++ [{ kind := .refresh, since := system.version }] }
  | .answer index =>
    { system with pending := system.pending.modify index system.answerRead }
  | .complete index =>
    match system.pending[index]? with
    | some { kind, since, answer := some answer } =>
      ({ system with pending := system.pending.eraseIdx index }.note since).continue_ kind answer
    | _ => system
  | .close =>
    -- Before its initial read has completed, a cache has nothing to unsubscribe.
    { system with subscribed := false, cache := .empty, cacheVersion := 0, closed := true }

end CacheSystem

/-! The cache converges to the store, in the runs in which no read completes behind a later one. -/

open Js Machine

structure Convergent (system : CacheSystem) : Prop where
  /-- With no read left after a read of the last content, the cache holds the active reflexes. -/
  current : system.pending = [] → system.refreshed = true → system.subscribed = true →
    ∀ id, system.cache.get? id = (system.table.documents.get? id).filter (·.active)
  silent : system.closed = true → system.cache = .empty

/-- A completed read brings nothing older than what it overwrites, and nothing to a closed cache. -/
def InOrder (system : CacheSystem) : CacheEvent → Prop
  | .complete index => ∀ kind since answer,
    system.pending[index]? = some { kind, since, answer := some answer } →
      -- What may be overwritten depends on who reads, and on who is subscribed.
      match kind with
      | .refresh => system.closed = false →
        (if system.subscribed then system.cacheVersion else system.cachedVersion) ≤ answer.version
      | .initial => system.closed = false ∧
        (system.cachedReflexes ≠ [] → answer.version ≤ system.cachedVersion)
      | .late => system.closed = false ∧ system.cacheVersion ≤ answer.version
  | _ => True

structure ReadSound (system : CacheSystem) (read : PendingRead) : Prop where
  since : read.since ≤ system.version
  answered : ∀ answer, read.answer = some answer →
    read.since ≤ answer.version ∧ answer.version ≤ system.version ∧
      (answer.version = system.version → answer.reflexes = system.table.getAll)
  late : read.kind = .late → system.closed = false → system.subscribed = true

/-- The versions describe what was read, and the last content is in the cache or on its way. -/
structure Ordered (system : CacheSystem) : Prop where
  positive : 0 < system.version
  reads : ∀ read ∈ system.pending, ReadSound system read
  cacheBound : system.cacheVersion ≤ system.version
  cachedBound : system.cachedVersion ≤ system.version
  cacheContent : system.cacheVersion = system.version →
    system.cache = refreshCache system.table.getAll
  cachedContent : system.cachedVersion = system.version →
    system.cachedReflexes = system.table.getAll
  remembered : system.refreshed = true → system.subscribed = false → system.closed = false →
    system.cachedVersion = system.version
  caught : system.refreshed = true → system.subscribed = true →
    system.cacheVersion = system.version ∨
      ∃ read ∈ system.pending, read.kind = .late ∧ read.since = system.version
  silent : system.closed = true → system.cache = .empty ∧ system.subscribed = false
  once : (system.pending.map (·.kind)).count .initial ≤ 1
  /-- The initial read is over when the cache has subscribed. -/
  settled : system.subscribed = true → (system.pending.map (·.kind)).count .initial = 0

theorem get?_refreshCache {reflexes : List Reflex}
    (distinct : (reflexes.map Reflex.id).Nodup) (id : String) :
    (refreshCache reflexes).get? id = reflexes.find? (·.id = id) := by
  -- The cache is filled from the front, so the induction takes reflexes from the back.
  induction reflexes using List.reverseRecOn with
  | nil => rfl
  | append_singleton earlier last ih =>
    rw [List.map_append, List.nodup_append] at distinct
    obtain ⟨before, -, apart⟩ := distinct
    have written : refreshCache (earlier ++ [last]) = (refreshCache earlier).set last.id last := by
      simp [refreshCache, List.foldl_append]
    rw [written, OrderedMap.get?_set, List.find?_append, ih before]
    by_cases same : id = last.id
    · -- No earlier reflex has the identifier of the last one.
      have absent : earlier.find? (·.id = id) = none := by
        rw [List.find?_eq_none]
        intro reflex member found
        exact apart reflex.id (List.mem_map_of_mem member) last.id (by simp)
          ((of_decide_eq_true found).trans same)
      rw [absent, if_pos same]
      simp [same]
    · -- The last reflex is under another identifier, and hides nothing.
      simp [same, Ne.symm same]

theorem mem_getAll {table : ReflexTable} {reflex : Reflex} :
    reflex ∈ table.getAll ↔
      table.documents.get? reflex.id = some reflex ∧ reflex.active = true := by
  simp only [ReflexTable.getAll, List.mem_mergeSort, List.mem_filter, List.mem_map, Prod.exists,
    exists_eq_right]
  -- A stored reflex is found under its own identifier, and nowhere else.
  refine and_congr_left fun _ => ⟨fun ⟨id, member⟩ => ?_, fun stored => ?_⟩
  · have stored := lookup_of_mem table.documents.distinct member
    rwa [table.keyed id reflex stored]
  · exact ⟨reflex.id, mem_of_lookup stored⟩

theorem distinct_getAll (table : ReflexTable) : (table.getAll.map Reflex.id).Nodup := by
  -- Every stored reflex carries the key that it is stored under.
  have keys : table.documents.entries.map (fun entry => entry.2.id) =
      table.documents.entries.map Prod.fst := by
    refine List.map_congr_left fun entry member => ?_
    exact table.keyed entry.1 entry.2 (lookup_of_mem table.documents.distinct member)
  have all : ((table.documents.entries.map Prod.snd).map Reflex.id).Nodup := by
    rw [List.map_map]
    exact keys ▸ table.documents.distinct
  -- Sorting and filtering repeat nothing.
  exact ((List.mergeSort_perm _ _).map Reflex.id).nodup_iff.mpr
    (all.sublist (List.filter_sublist.map Reflex.id))

theorem get?_refreshCache_getAll (table : ReflexTable) (id : String) :
    (refreshCache table.getAll).get? id = (table.documents.get? id).filter (·.active) := by
  rw [get?_refreshCache (distinct_getAll table)]
  cases found : table.getAll.find? (·.id = id) with
  | none =>
    -- A stored reflex that is active would have been found.
    cases stored : table.documents.get? id with
    | none => rfl
    | some reflex =>
      have keyed := table.keyed id reflex stored
      have missing : reflex ∉ table.getAll := fun member =>
        List.find?_eq_none.mp found reflex member (by simpa using keyed)
      rw [mem_getAll, keyed] at missing
      rw [Option.filter_some, if_neg fun active => missing ⟨stored, active⟩]
  | some reflex =>
    -- What is found is stored under the identifier that was asked for, and active.
    have same : reflex.id = id := by simpa using List.find?_some found
    obtain ⟨stored, active⟩ := mem_getAll.mp (List.mem_of_find?_eq_some found)
    rw [← same, stored, Option.filter_some, if_pos active]

theorem ordered_start (table : ReflexTable) : Ordered (.start table) where
  positive := Nat.one_pos
  reads := by
    -- Only the initial read is pending, and it has no answer yet.
    intro read member
    rw [List.mem_singleton.mp member]
    exact ⟨le_refl 1, by simp, by simp⟩
  cacheBound := by simp [CacheSystem.start]
  cachedBound := by simp [CacheSystem.start]
  cacheContent := by simp [CacheSystem.start]
  cachedContent := by simp [CacheSystem.start]
  remembered := by simp [CacheSystem.start]
  caught := by simp [CacheSystem.start]
  silent := by simp [CacheSystem.start]
  once := by simp [CacheSystem.start]
  settled := by simp [CacheSystem.start]

private theorem Ordered.convergent {system : CacheSystem} (ordered : Ordered system) :
    Convergent system where
  current := by
    intro empty refreshed subscribed id
    rcases ordered.caught refreshed subscribed with current | ⟨read, member, -⟩
    · rw [ordered.cacheContent current, get?_refreshCache_getAll]
    · -- No late read is on its way when nothing is pending.
      simp [empty] at member
  silent closed := (ordered.silent closed).1

namespace Ordered

variable {system : CacheSystem}

theorem change (ordered : Ordered system) (table : ReflexTable) :
    Ordered (system.step (.change table)) where
  positive := Nat.succ_pos _
  reads := by
    intro read member
    -- No answer has the new version yet.
    obtain ⟨since, answered, late⟩ := ordered.reads read member
    refine ⟨Nat.le_succ_of_le since, fun answer found => ?_, late⟩
    obtain ⟨after, before, -⟩ := answered answer found
    refine ⟨after, Nat.le_succ_of_le before, fun same => ?_⟩
    simp only [CacheSystem.step] at same
    omega
  cacheBound := Nat.le_succ_of_le ordered.cacheBound
  cachedBound := Nat.le_succ_of_le ordered.cachedBound
  cacheContent := by
    have bound := ordered.cacheBound
    simp only [CacheSystem.step]
    omega
  cachedContent := by
    have bound := ordered.cachedBound
    simp only [CacheSystem.step]
    omega
  remembered := by simp [CacheSystem.step]
  caught := by simp [CacheSystem.step]
  silent := ordered.silent
  once := ordered.once
  settled := ordered.settled

theorem refresh (ordered : Ordered system) : Ordered (system.step .refresh) where
  positive := ordered.positive
  reads := by
    intro read member
    -- The read that was just begun has no answer.
    rcases List.mem_append.mp member with pending | begun
    · obtain ⟨since, answered, late⟩ := ordered.reads read pending
      exact ⟨since, answered, late⟩
    · rw [List.mem_singleton.mp begun]
      exact ⟨le_refl _, by simp, by simp⟩
  cacheBound := ordered.cacheBound
  cachedBound := ordered.cachedBound
  cacheContent := ordered.cacheContent
  cachedContent := ordered.cachedContent
  remembered := ordered.remembered
  caught := by
    intro refreshed subscribed
    rcases ordered.caught refreshed subscribed with current | ⟨read, member, late⟩
    · exact .inl current
    · exact .inr ⟨read, List.mem_append_left _ member, late⟩
  silent := ordered.silent
  once := by simpa [CacheSystem.step] using ordered.once
  settled := by simpa [CacheSystem.step] using ordered.settled

theorem readSound_answerRead {read : PendingRead} (sound : ReadSound system read) :
    ReadSound system (system.answerRead read) := by
  obtain ⟨since, answered, late⟩ := sound
  unfold CacheSystem.answerRead
  split
  · -- A read that has its answer keeps it.
    exact ⟨since, answered, late⟩
  · -- The answer is the content of the store at this version.
    refine ⟨since, fun answer found => ?_, late⟩
    cases found
    exact ⟨since, le_refl _, fun _ => rfl⟩

theorem map_kind_answer (system : CacheSystem) (index : Nat) :
    (system.pending.modify index system.answerRead).map (·.kind) =
      system.pending.map (·.kind) := by
  refine map_modify index fun read => ?_
  unfold CacheSystem.answerRead
  split <;> rfl

theorem answer (ordered : Ordered system) (index : Nat) :
    Ordered (system.step (.answer index)) where
  positive := ordered.positive
  reads := by
    intro read member
    have sound : ReadSound system read := by
      obtain ⟨asked, pending, rfl | rfl⟩ := mem_modify member
      · exact ordered.reads _ pending
      · exact readSound_answerRead (ordered.reads asked pending)
    exact ⟨sound.since, sound.answered, sound.late⟩
  cacheBound := ordered.cacheBound
  cachedBound := ordered.cachedBound
  cacheContent := ordered.cacheContent
  cachedContent := ordered.cachedContent
  remembered := ordered.remembered
  caught := by
    intro refreshed subscribed
    rcases ordered.caught refreshed subscribed with current | ⟨read, member, kind, since⟩
    · exact .inl current
    · obtain ⟨after, still, same⟩ := exists_mem_modify index system.answerRead member
      refine .inr ⟨after, still, ?_⟩
      rcases same with rfl | rfl
      · exact ⟨kind, since⟩
      · -- An answer changes neither who reads nor since when.
        unfold CacheSystem.answerRead
        split <;> exact ⟨kind, since⟩
  silent := ordered.silent
  once := by
    rw [CacheSystem.step, map_kind_answer]
    exact ordered.once
  settled := by
    intro subscribed
    rw [CacheSystem.step, map_kind_answer]
    exact ordered.settled subscribed

theorem close (ordered : Ordered system) : Ordered (system.step .close) where
  positive := ordered.positive
  reads := by
    -- A closed cache is owed nothing by a late read.
    intro read member
    obtain ⟨since, answered, -⟩ := ordered.reads read member
    exact ⟨since, answered, by simp [CacheSystem.step]⟩
  cacheBound := Nat.zero_le _
  cachedBound := ordered.cachedBound
  cacheContent := by
    -- The empty cache was read at no version of the store.
    have positive := ordered.positive
    simp only [CacheSystem.step]
    omega
  cachedContent := ordered.cachedContent
  remembered := by simp [CacheSystem.step]
  caught := by simp [CacheSystem.step]
  silent := by simp [CacheSystem.step]
  once := ordered.once
  settled := by simp [CacheSystem.step]

structure Completing (system : CacheSystem) (index : Nat) (kind : ReadKind) (since : Nat)
    (answer : Answer) : Prop where
  found : system.pending[index]? = some { kind, since, answer := some answer }
  fresh : since ≤ answer.version
  bound : answer.version ≤ system.version
  current : answer.version = system.version → answer.reflexes = system.table.getAll

variable {index : Nat} {kind : ReadKind} {since : Nat}

theorem completing (ordered : Ordered system) {answer : Answer}
    (found : system.pending[index]? = some { kind, since, answer := some answer }) :
    Completing system index kind since answer := by
  obtain ⟨fresh, bound, current⟩ :=
    (ordered.reads _ (List.mem_of_getElem? found)).answered answer rfl
  exact ⟨found, fresh, bound, current⟩

theorem reads_eraseIdx (ordered : Ordered system) {read : PendingRead}
    (member : read ∈ system.pending.eraseIdx index) : ReadSound system read :=
  ordered.reads read (List.mem_of_mem_eraseIdx member)

theorem count_eraseIdx_le (system : CacheSystem) (index : Nat) :
    ((system.pending.eraseIdx index).map (·.kind)).count .initial ≤
      (system.pending.map (·.kind)).count .initial :=
  ((List.eraseIdx_sublist system.pending index).map _).count_le _

theorem initial_over (ordered : Ordered system) {answer : Answer}
    (completing : Completing system index .initial since answer) : system.subscribed = false ∧
      ((system.pending.eraseIdx index).map (·.kind)).count .initial = 0 := by
  -- There was one initial read, and it is the one that leaves the pending ones.
  obtain ⟨bound, here⟩ := List.getElem?_eq_some_iff.mp completing.found
  have split := ((List.getElem_cons_eraseIdx_perm bound).map (·.kind)).count_eq ReadKind.initial
  rw [here, List.map_cons, List.count_cons_self] at split
  have once := ordered.once
  refine ⟨?_, by omega⟩
  -- A subscribed cache would have no initial read to complete.
  cases subscribed : system.subscribed with
  | false => rfl
  | true =>
    have settled := ordered.settled subscribed
    omega

/-- The system in which a read continues, once it has left the pending ones. -/
def taken (system : CacheSystem) (index since : Nat) : CacheSystem :=
  { system with pending := system.pending.eraseIdx index }.note since

theorem version_of_refreshed {answer : Answer}
    (completing : Completing system index kind since answer)
    (refreshed : (taken system index since).refreshed = true) :
    system.refreshed = true ∨ answer.version = system.version := by
  -- An answer is never older than the moment at which its read was begun.
  have fresh := completing.fresh
  have bound := completing.bound
  simp only [taken, CacheSystem.note, Bool.or_eq_true, decide_eq_true_eq] at refreshed
  -- Either an earlier read was, or this one was begun at the present version.
  rcases refreshed with earlier | now
  · exact .inl earlier
  · right
    omega

theorem remember (ordered : Ordered system) {answer : Answer}
    (completing : Completing system index .refresh since answer)
    (unsubscribed : system.subscribed = false)
    (order : system.closed = false → system.cachedVersion ≤ answer.version) :
    Ordered ((taken system index since).remember answer) where
  positive := ordered.positive
  reads := by
    intro read member
    obtain ⟨since, answered, late⟩ := ordered.reads_eraseIdx member
    exact ⟨since, answered, late⟩
  cacheBound := ordered.cacheBound
  cachedBound := completing.bound
  cacheContent := ordered.cacheContent
  cachedContent := completing.current
  remembered := by
    intro refreshed _ opened
    have order := order opened
    have bound := completing.bound
    rcases version_of_refreshed completing refreshed with earlier | now
    · -- What was remembered has the last version, and is overwritten by nothing older.
      have before := ordered.remembered earlier unsubscribed opened
      simp only [CacheSystem.remember, taken, CacheSystem.note]
      omega
    · exact now
  caught := by
    intro _ subscribed
    -- Nothing is promised here to a cache that is not subscribed.
    exact absurd (unsubscribed.symm.trans subscribed) (by decide)
  silent := ordered.silent
  once := le_trans (count_eraseIdx_le system index) ordered.once
  settled := by
    intro subscribed
    exact absurd (unsubscribed.symm.trans subscribed) (by decide)

theorem write (ordered : Ordered system) {answer : Answer}
    (completing : Completing system index kind since answer)
    (subscribed : system.subscribed = true) (opened : system.closed = false)
    (order : system.cacheVersion ≤ answer.version) :
    Ordered (((taken system index since).remember answer).write answer) where
  positive := ordered.positive
  reads := by
    intro read member
    obtain ⟨since, answered, late⟩ := ordered.reads_eraseIdx member
    exact ⟨since, answered, late⟩
  cacheBound := completing.bound
  cachedBound := completing.bound
  cacheContent := by
    -- The callback fills the cache from the answer alone.
    intro same
    exact congrArg refreshCache (completing.current same)
  cachedContent := completing.current
  remembered := by
    intro _ unsubscribed
    exact absurd (unsubscribed.symm.trans subscribed) (by decide)
  caught := by
    intro refreshed _
    have bound := completing.bound
    rcases version_of_refreshed completing refreshed with earlier | now
    · rcases ordered.caught earlier subscribed with before | ⟨read, member, late, begun⟩
      · -- The cache already had the last version, and this answer is not older.
        left
        simp only [CacheSystem.write, CacheSystem.remember, taken, CacheSystem.note]
        omega
      · by_cases same : read = { kind, since, answer := some answer }
        · -- The late read that was awaited is the one that completes.
          left
          have fresh := completing.fresh
          rw [same] at begun
          simp only at begun
          simp only [CacheSystem.write, CacheSystem.remember, taken, CacheSystem.note]
          omega
        · -- Another late read is awaited, and still pending.
          exact .inr ⟨read, mem_eraseIdx_of_ne completing.found member same, late, begun⟩
    · exact .inl now
  silent := by
    intro closed
    exact absurd (opened.symm.trans closed) (by decide)
  once := le_trans (count_eraseIdx_le system index) ordered.once
  settled := by
    intro _
    exact Nat.le_zero.mp ((count_eraseIdx_le system index).trans_eq (ordered.settled subscribed))

theorem initial_remembered (ordered : Ordered system) {answer : Answer}
    (completing : Completing system index .initial since answer) (opened : system.closed = false)
    (order : answer.version ≤ system.cachedVersion) :
    Ordered ({ (taken system index since).write answer with
      subscribed := true }.write system.remembered) := by
  obtain ⟨unsubscribed, none_left⟩ := ordered.initial_over completing
  refine ⟨ordered.positive, ?_, ordered.cachedBound, ordered.cachedBound, ?_, ordered.cachedContent,
    by simp [CacheSystem.write], ?_, ?_, none_left.le.trans zero_le_one, fun _ => none_left⟩
  · -- The cache has subscribed, as a late read requires.
    intro read member
    obtain ⟨since, answered, -⟩ := ordered.reads_eraseIdx member
    exact ⟨since, answered, fun _ _ => rfl⟩
  · intro same
    -- The callback gets the list of the repository, not the answer of this read.
    exact congrArg refreshCache (ordered.cachedContent same)
  · intro refreshed _
    have bound := ordered.cachedBound
    left
    rcases version_of_refreshed completing refreshed with earlier | now
    · -- The list already had the last version.
      exact ordered.remembered earlier unsubscribed opened
    · -- What is remembered is not older than what was read just now.
      simp only [CacheSystem.write, CacheSystem.remembered, taken, CacheSystem.note]
      omega
  · intro closed
    exact absurd (opened.symm.trans closed) (by decide)

theorem initial_late (ordered : Ordered system) {answer : Answer}
    (completing : Completing system index .initial since answer) (opened : system.closed = false) :
    Ordered { (taken system index since).write answer with
      subscribed := true
      pending := system.pending.eraseIdx index ++
        [{ kind := .late, since := system.version }] } := by
  obtain ⟨-, none_left⟩ := ordered.initial_over completing
  -- The read that is begun is not an initial one.
  have none_begun : ((system.pending.eraseIdx index ++
      [({ kind := .late, since := system.version } : PendingRead)]).map
        (·.kind)).count .initial = 0 := by
    rw [List.map_append, List.count_append, none_left]
    rfl
  refine ⟨ordered.positive, ?_, completing.bound, ordered.cachedBound, ?_, ordered.cachedContent,
    by simp, ?_, ?_, none_begun.le.trans zero_le_one, fun _ => none_begun⟩
  · intro read member
    rcases List.mem_append.mp member with pending | begun
    · obtain ⟨since, answered, -⟩ := ordered.reads_eraseIdx pending
      exact ⟨since, answered, fun _ _ => rfl⟩
    · -- The read that was just begun has no answer.
      rw [List.mem_singleton.mp begun]
      exact ⟨le_refl _, by simp, fun _ _ => rfl⟩
  · intro same
    exact congrArg refreshCache (completing.current same)
  · -- Whatever the cache holds, the read that was begun just now brings the last content.
    intro _ _
    exact .inr ⟨_, List.mem_append_right _ (List.mem_singleton_self _), rfl, rfl⟩
  · intro closed
    exact absurd (opened.symm.trans closed) (by decide)

theorem initial (ordered : Ordered system) {answer : Answer}
    (completing : Completing system index .initial since answer) (opened : system.closed = false)
    (order : system.cachedReflexes ≠ [] → answer.version ≤ system.cachedVersion) :
    Ordered (((taken system index since).write answer).subscribe) := by
  -- A repository with a list calls at once, and one without begins to read.
  unfold CacheSystem.subscribe
  split
  · rename_i cached
    exact ordered.initial_remembered completing opened (order cached)
  · exact ordered.initial_late completing opened

theorem complete (ordered : Ordered system) (index : Nat)
    (inOrder : InOrder system (.complete index)) : Ordered (system.step (.complete index)) := by
  -- Who reads decides what is written, and only to a cache that is open.
  simp only [CacheSystem.step]
  split
  · rename_i kind since answer found
    have completing := ordered.completing found
    have inOrder := inOrder kind since answer found
    cases kind with
    | refresh =>
      by_cases subscribed : system.subscribed = true
      · -- A subscribed cache is not closed.
        have opened : system.closed = false := by
          rw [Bool.eq_false_iff]
          intro closed
          exact absurd ((ordered.silent closed).2.symm.trans subscribed) (by decide)
        have order := inOrder opened
        rw [if_pos subscribed] at order
        have notified : (taken system index since).continue_ .refresh answer =
            ((taken system index since).remember answer).write answer := if_pos subscribed
        show Ordered ((taken system index since).continue_ .refresh answer)
        rw [notified]
        exact ordered.write completing subscribed opened order
      · -- Without a subscriber the answer is remembered by the repository alone.
        rw [Bool.not_eq_true] at subscribed
        have quiet : (taken system index since).continue_ .refresh answer =
            (taken system index since).remember answer :=
          if_neg (by simp [taken, CacheSystem.note, subscribed])
        show Ordered ((taken system index since).continue_ .refresh answer)
        rw [quiet]
        refine ordered.remember completing subscribed fun opened => ?_
        simpa [subscribed] using inOrder opened
    | initial => exact ordered.initial completing inOrder.1 inOrder.2
    | late =>
      -- A late read was begun by a cache that has subscribed, and is still open.
      have subscribed := (ordered.reads _ (List.mem_of_getElem? found)).late rfl inOrder.1
      exact ordered.write completing subscribed inOrder.1 inOrder.2
  · -- A read without an answer does not complete.
    exact ordered

theorem step (ordered : Ordered system) (event : CacheEvent) (inOrder : InOrder system event) :
    Ordered (system.step event) := by
  -- The condition speaks of the completions only.
  cases event with
  | change table => exact ordered.change table
  | refresh => exact ordered.refresh
  | answer index => exact ordered.answer index
  | complete index => exact ordered.complete index inOrder
  | close => exact ordered.close

end Ordered

/-- Where no read completes behind a later one, and none for a closed cache, the cache converges. -/
theorem cache_converges {table : ReflexTable} {events : List CacheEvent}
    (inOrder : Along CacheSystem.step InOrder (.start table) events) :
    Convergent (run CacheSystem.step (.start table) events) :=
  (run_invariant Ordered (fun _ event ordered inOrder => ordered.step event inOrder)
    (ordered_start table) inOrder).convergent

private theorem one_lt_priorities : 1 < 1001 := by decide

def greetingReflex : Reflex where
  id := "r1"
  name := "greeting"
  active := true
  priority := ⟨1, one_lt_priorities⟩
  patternMatch := { type := some .exact, pattern := "!hi", field := "message.text" }
  createdAt := "2024-01-01T00:00:00.000Z"
  updatedAt := "2024-01-01T00:00:00.000Z"

/-- A run in which a reflex is stored once the cache has subscribed, and one refresh follows. -/
theorem cache_converges_stored :
    Convergent (run CacheSystem.step (.start .empty)
      [.answer 0, .complete 0, .answer 0, .complete 0, .change (.put .empty greetingReflex),
        .refresh, .answer 0, .complete 0]) := by
  -- Only the three completions ask for an order.
  refine cache_converges ⟨trivial, ?_, trivial, ?_, trivial, trivial, trivial, ?_, trivial⟩
  · intro kind since answer found
    cases found
    exact ⟨rfl, fun cached => absurd rfl cached⟩
  · intro kind since answer found
    cases found
    exact ⟨rfl, Nat.le_refl 1⟩
  · intro kind since answer found
    cases found
    exact fun _ => Nat.le_succ 1

/-- A poll that read the store before a mutation overwrites what the mutation's refresh read. -/
theorem older_read_overwrites :
    ¬ ∀ (table : ReflexTable) (events : List CacheEvent),
      Convergent (run CacheSystem.step (.start table) events) := by
  intro converges
  -- The answer to the poll was read from the empty store.
  have stale : refreshCache ReflexTable.empty.getAll = .empty := by
    simp [ReflexTable.getAll, ReflexTable.empty, OrderedMap.empty, refreshCache]
  have current : (refreshCache ReflexTable.empty.getAll).get? "r1" = some greetingReflex :=
    (converges .empty
      [.answer 0, .complete 0, .answer 0, .complete 0, .refresh, .answer 0,
        .change (.put .empty greetingReflex), .refresh, .answer 1, .complete 1,
        .complete 0]).current rfl rfl rfl "r1"
  rw [stale] at current
  cases current

end BitBrat
