import BitBrat.Bus.Dedupe
import BitBrat.Machine.Run
import Mathlib.Data.List.Perm.Subperm

/-! The window of the dedupe store: which keys it reports, over whole histories of calls. -/

namespace BitBrat

open Js Machine

/-- The process: its store, its clock, and the keys that were presented, the newest first. -/
structure DedupeState where
  clock : Int
  store : DedupeStore := .empty
  history : List (String × Int) := []

structure DedupeCall where
  key : String
  delay : Nat

def DedupeState.timeOf (state : DedupeState) (call : DedupeCall) : Int := state.clock + call.delay

def DedupeState.answer (env : DedupeEnv) (state : DedupeState) (call : DedupeCall) : Bool :=
  (dedupeShouldDrop env call.key (state.timeOf call) state.store).2

/-- The process after a call; an empty text is no key. -/
def DedupeState.step (env : DedupeEnv) (state : DedupeState) (call : DedupeCall) : DedupeState :=
  let now := state.timeOf call
  { clock := now
    store := (dedupeShouldDrop env call.key now state.store).1
    history := if call.key = "" then state.history else (call.key, now) :: state.history }

/-- The distinct keys, the most recently presented first, with the time each was presented last. -/
def recents : List (String × Int) → List (String × Int)
  | [] => []
  | call :: earlier => call :: (recents earlier).filter fun other => other.1 ≠ call.1

def dedupeTarget (env : DedupeEnv) : Nat := (getDedupeMax env * 9 / 10).toNat

def DedupeStore.fresh (env : DedupeEnv) (now : Int) (store : DedupeStore) :
    OrderedMap String Int :=
  store.map.filter fun entry => ¬ getDedupeTtlMs env < now - entry.2

/-- The entries are too many although none of them has expired. -/
def DedupeStore.Overfull (env : DedupeEnv) (now : Int) (store : DedupeStore) : Prop :=
  getDedupeMax env < (store.fresh env now).size

instance (env : DedupeEnv) (now : Int) (store : DedupeStore) :
    Decidable (store.Overfull env now) :=
  inferInstanceAs (Decidable (_ < _))

/-- The number of entries at the front of the map that an eviction removes. -/
def DedupeStore.surplus (env : DedupeEnv) (now : Int) (store : DedupeStore) : Nat :=
  (store.fresh env now).entries.length - dedupeTarget env

/-- A key was presented again after the last time that another one was presented. -/
def PresentedAfter (history : List (String × Int)) (entry other : String × Int) : Prop :=
  (recents history).idxOf entry < (recents history).idxOf other

/-- What a call owes for its key, and leaves in the store. -/
structure DedupeLaw (env : DedupeEnv) (state : DedupeState) (call : DedupeCall) : Prop where
  onlyRecent : state.answer env call = true → ∃ presented ∈ state.history,
    presented.1 = call.key ∧ state.timeOf call - presented.2 ≤ getDedupeTtlMs env
  reported : call.key ≠ "" → ∀ presentedAt,
    (call.key, presentedAt) ∈ (recents state.history).take (dedupeTarget env) →
      state.timeOf call - presentedAt ≤ getDedupeTtlMs env → state.answer env call = true
  /-- What is removed before it has expired was presented before everything that is left. -/
  oldestFirst : call.key ≠ "" →
    let pruned := state.store.prune env (state.timeOf call)
    ∀ gone ∈ state.store.map.entries,
      state.timeOf call - gone.2 ≤ getDedupeTtlMs env → pruned.map.get? gone.1 = none →
        ∀ left ∈ pruned.map.entries, PresentedAfter state.history left gone
  bounded : ((state.step env call).store.map.size : Int) ≤ getDedupeMax env + 1

/-- The map is not overfull with a key at its front that was refreshed after one further back,
nor is a key looked up that was presented at time zero. -/
structure EvictionInPlace (env : DedupeEnv) (state : DedupeState) (call : DedupeCall) : Prop where
  unrefreshed : call.key ≠ "" → state.store.Overfull env (state.timeOf call) →
    let fresh := (state.store.fresh env (state.timeOf call)).entries
    let surplus := state.store.surplus env (state.timeOf call)
    ∀ front ∈ fresh.take surplus, ∀ back ∈ fresh.drop surplus,
      ¬ PresentedAfter state.history front back
  timed : call.key ≠ "" →
    (call.key, 0) ∈ (recents state.history).take (dedupeTarget env) →
      ¬ state.timeOf call ≤ getDedupeTtlMs env

structure DedupeHolds (env : DedupeEnv) (state : DedupeState) : Prop where
  last : ∀ key seen, state.store.map.get? key = some seen →
    (key, seen) ∈ recents state.history
  bounded : (state.store.map.size : Int) ≤ getDedupeMax env + 1

structure RecentKept (env : DedupeEnv) (state : DedupeState) : Prop extends
    DedupeHolds env state where
  kept : ∀ key seen, (key, seen) ∈ (recents state.history).take (dedupeTarget env) →
    state.clock - seen ≤ getDedupeTtlMs env → state.store.map.get? key = some seen

variable {entry : String × Int}

theorem mem_of_mem_recents {history : List (String × Int)}
    (member : entry ∈ recents history) : entry ∈ history := by
  induction history with
  | nil => cases member
  | cons call earlier ih =>
    rcases List.mem_cons.mp member with rfl | later
    · exact List.mem_cons_self
    · exact List.mem_cons_of_mem _ (ih (List.mem_of_mem_filter later))

theorem nodup_keys_recents (history : List (String × Int)) :
    ((recents history).map Prod.fst).Nodup := by
  induction history with
  | nil => exact .nil
  | cons call earlier ih =>
    rw [recents, List.map_cons, List.nodup_cons]
    constructor
    · intro inside
      obtain ⟨other, member, same⟩ := List.mem_map.mp inside
      simpa [same] using (List.mem_filter.mp member).2
    · exact ih.sublist (List.filter_sublist.map _)

theorem mem_take_of_filter {entries : List (String × Int)} {key : String} {count : Nat}
    (distinct : (entries.map Prod.fst).Nodup)
    (member : entry ∈ (entries.filter fun other => other.1 ≠ key).take count) :
    entry ∈ entries.take (count + 1) := by
  induction entries generalizing count with
  | nil => simp at member
  | cons first rest ih =>
    rw [List.map_cons, List.nodup_cons] at distinct
    by_cases same : first.1 = key
    · -- The key stands here and nowhere else.
      have others : (first :: rest).filter (fun other => other.1 ≠ key) = rest := by
        rw [List.filter_cons_of_neg (by simp [same]), List.filter_eq_self]
        intro other inside
        simp only [ne_eq, decide_eq_true_eq]
        rintro rfl
        exact distinct.1 (same ▸ List.mem_map_of_mem inside)
      rw [others] at member
      exact List.mem_cons_of_mem _ member
    · rw [List.filter_cons_of_pos (by simp [same])] at member
      cases count with
      | zero => simp at member
      | succ count =>
        rw [List.take_succ_cons, List.mem_cons] at member ⊢
        rcases member with rfl | later
        · exact .inl rfl
        · exact .inr (ih distinct.2 later)

theorem presentedAfter_of_not {history : List (String × Int)} {other : String × Int}
    (member : entry ∈ recents history) (apart : entry ≠ other)
    (notAfter : ¬ PresentedAfter history other entry) : PresentedAfter history entry other := by
  have places : (recents history).idxOf entry ≠ (recents history).idxOf other :=
    fun same => apart ((List.idxOf_inj member).mp same)
  unfold PresentedAfter at notAfter ⊢
  omega

section

variable {env : DedupeEnv} {now : Int} {store : DedupeStore}

theorem dedupeTarget_le : (dedupeTarget env : Int) ≤ getDedupeMax env := by
  have nonnegative : 0 ≤ getDedupeMax env := by
    unfold getDedupeMax positiveFloor
    split
    · split
      case isTrue positive => exact Rat.le_floor_iff.mpr (by exact_mod_cast positive.le)
      case isFalse => omega
    · omega
  unfold dedupeTarget
  omega

theorem prune_eq : store.prune env now =
    if getDedupeMax env < store.map.size ∨ min (getDedupeTtlMs env) 30000 < now - store.lastPrune
    then
      { map := if store.Overfull env now then
          (store.fresh env now).dropOldest (dedupeTarget env) else store.fresh env now
        lastPrune := now }
    else store := rfl

theorem entries_prune_of_overfull (overfull : store.Overfull env now) :
    (store.prune env now).map.entries =
      (store.fresh env now).entries.drop (store.surplus env now) := by
  have many : getDedupeMax env < store.map.size := by
    have fewer : (store.fresh env now).size ≤ store.map.size := List.length_filter_le _ _
    unfold DedupeStore.Overfull at overfull
    omega
  rw [prune_eq, if_pos (.inl many)]
  dsimp only
  rw [if_pos overfull]
  rfl

theorem mem_prune_of_not_overfull (room : ¬ store.Overfull env now) {entry : String × Int}
    (member : entry ∈ store.map.entries) (young : now - entry.2 ≤ getDedupeTtlMs env) :
    entry ∈ (store.prune env now).map.entries := by
  rw [prune_eq]
  split
  · exact List.mem_filter.mpr ⟨member, by simpa using young⟩
  · exact member

theorem mem_prune_of_young {entry : String × Int} (member : entry ∈ store.map.entries)
    (young : now - entry.2 ≤ getDedupeTtlMs env)
    (behind : store.Overfull env now →
      entry ∉ (store.fresh env now).entries.take (store.surplus env now)) :
    entry ∈ (store.prune env now).map.entries := by
  by_cases overfull : store.Overfull env now
  · rw [entries_prune_of_overfull overfull]
    have fresh : entry ∈ (store.fresh env now).entries :=
      List.mem_filter.mpr ⟨member, by simpa using young⟩
    rw [← List.take_append_drop (store.surplus env now) (store.fresh env now).entries] at fresh
    exact (List.mem_append.mp fresh).resolve_left (behind overfull)
  · exact mem_prune_of_not_overfull overfull member young

theorem size_prune_le : ((store.prune env now).map.size : Int) ≤ getDedupeMax env := by
  by_cases overfull : store.Overfull env now
  · have left : (store.prune env now).map.size = _ :=
      congrArg List.length (entries_prune_of_overfull overfull)
    have target : (dedupeTarget env : Int) ≤ getDedupeMax env := dedupeTarget_le
    rw [List.length_drop, DedupeStore.surplus] at left
    omega
  · rw [prune_eq]
    split
    · exact Int.not_lt.mp overfull
    · omega

theorem not_mem_take_of_surplus {history : List (String × Int)}
    (last : ∀ entry ∈ store.map.entries, entry ∈ recents history)
    (overfull : store.Overfull env now)
    (ordered : ∀ front ∈ (store.fresh env now).entries.take (store.surplus env now),
      ∀ back ∈ (store.fresh env now).entries.drop (store.surplus env now),
        ¬ PresentedAfter history front back)
    {gone : String × Int}
    (front : gone ∈ (store.fresh env now).entries.take (store.surplus env now)) :
    gone ∉ (recents history).take (dedupeTarget env) := by
  intro recent
  let fresh := (store.fresh env now).entries
  have distinct : fresh.Nodup := (store.fresh env now).distinct.of_map
  have known : ∀ entry ∈ fresh, entry ∈ recents history :=
    fun entry member => last entry (List.mem_of_mem_filter member)
  -- Everything at the back was presented after the key that goes.
  have later : fresh.drop (store.surplus env now) ⊆
      (recents history).take ((recents history).idxOf gone) := by
    intro back behind
    have apart : back ≠ gone := fun same =>
      List.disjoint_take_drop distinct le_rfl front (same ▸ behind)
    have member : back ∈ recents history := known back (List.mem_of_mem_drop behind)
    rw [List.mem_take_iff_idxOf_lt member]
    exact presentedAfter_of_not member apart (ordered gone front back behind)
  have many : (fresh.drop (store.surplus env now)).length ≤ (recents history).idxOf gone := by
    have fits := ((distinct.sublist (List.drop_sublist _ _)).subperm later).length_le
    rw [List.length_take] at fits
    omega
  -- So at least as many keys are more recent as an eviction leaves.
  have target : (dedupeTarget env : Int) ≤ getDedupeMax env := dedupeTarget_le
  have place : (recents history).idxOf gone < dedupeTarget env :=
    (List.mem_take_iff_idxOf_lt (List.mem_of_mem_take recent)).mp recent
  have size : (store.fresh env now).size = fresh.length := rfl
  have length : (store.fresh env now).entries.length = fresh.length := rfl
  rw [List.length_drop, DedupeStore.surplus] at many
  unfold DedupeStore.Overfull at overfull
  omega

end

section

variable {env : DedupeEnv} {state : DedupeState}

variable {call : DedupeCall}

theorem store_step (identified : call.key ≠ "") : (state.step env call).store.map =
      (state.store.prune env (state.timeOf call)).map.set call.key (state.timeOf call) := by
  unfold DedupeState.step dedupeShouldDrop
  dsimp only
  rw [if_neg identified]
  split
  · split <;> rfl
  · rfl

theorem history_step (identified : call.key ≠ "") :
    (state.step env call).history = (call.key, state.timeOf call) :: state.history := by
  unfold DedupeState.step
  simp [identified]

theorem step_of_no_key {call : DedupeCall} (empty : call.key = "") :
    (state.step env call).store = state.store ∧
      (state.step env call).history = state.history := by
  unfold DedupeState.step dedupeShouldDrop
  simp [empty]

theorem RecentKept.start (clock : Int) : RecentKept env { clock } where
  last := by simp [DedupeStore.empty]
  bounded := by
    have target : (dedupeTarget env : Int) ≤ getDedupeMax env := dedupeTarget_le
    simp only [DedupeStore.empty, OrderedMap.size_empty]
    omega
  kept := by simp [recents]

theorem DedupeHolds.step (call : DedupeCall) (holds : DedupeHolds env state) :
    DedupeHolds env (state.step env call) := by
  by_cases identified : call.key = ""
  · obtain ⟨stored, presented⟩ := @step_of_no_key env state call identified
    exact ⟨by rw [stored, presented]; exact holds.last, by rw [stored]; exact holds.bounded⟩
  constructor
  case last =>
    intro key seen found
    rw [store_step identified, OrderedMap.get?_set] at found
    rw [history_step identified, recents]
    split at found
    case isTrue same =>
      cases found
      rw [same]
      exact List.mem_cons_self
    case isFalse apart =>
      have earlier := holds.last key seen (get?_of_prune found)
      exact List.mem_cons_of_mem _ (List.mem_filter.mpr ⟨earlier, by simpa using apart⟩)
  case bounded =>
    have pruned : ((state.store.prune env (state.timeOf call)).map.size : Int) ≤
        getDedupeMax env := size_prune_le
    have written : (state.step env call).store.map.size ≤
        (state.store.prune env (state.timeOf call)).map.size + 1 := by
      rw [store_step identified]
      exact OrderedMap.size_set_le _ _ _
    omega

private theorem RecentKept.get?_prune (recent : RecentKept env state)
    (permitted : EvictionInPlace env state call) (identified : call.key ≠ "")
    {entry : String × Int} (among : entry ∈ (recents state.history).take (dedupeTarget env))
    (young : state.timeOf call - entry.2 ≤ getDedupeTtlMs env) :
    (state.store.prune env (state.timeOf call)).map.get? entry.1 = some entry.2 := by
  have before : state.clock - entry.2 ≤ getDedupeTtlMs env := by
    unfold DedupeState.timeOf at young
    omega
  have stored : entry ∈ state.store.map.entries :=
    mem_of_lookup (recent.kept entry.1 entry.2 among before)
  refine lookup_of_mem (state.store.prune env (state.timeOf call)).map.distinct
    (mem_prune_of_young stored young fun overfull front => ?_)
  -- At the front of an overfull map it would not be recent.
  refine not_mem_take_of_surplus (fun entry member => ?_) overfull
    (permitted.unrefreshed identified overfull) front among
  exact recent.last entry.1 entry.2 (lookup_of_mem state.store.map.distinct member)

theorem RecentKept.step (recent : RecentKept env state)
    (permitted : EvictionInPlace env state call) : RecentKept env (state.step env call) := by
  refine ⟨recent.toDedupeHolds.step call, ?_⟩
  intro key seen among young
  by_cases identified : call.key = ""
  · obtain ⟨stored, presented⟩  := @step_of_no_key env state call identified
    rw [presented] at among
    rw [stored]
    refine recent.kept key seen among ?_
    have later : (state.step env call).clock = state.clock + call.delay := rfl
    omega
  rw [history_step identified, recents] at among
  rw [store_step identified, OrderedMap.get?_set]
  obtain ⟨rest, count⟩ : ∃ rest, dedupeTarget env = rest + 1 := by
    cases size : dedupeTarget env with
    | zero => simp [size] at among
    | succ rest => exact ⟨rest, rfl⟩
  rw [count, List.take_succ_cons, List.mem_cons] at among
  rcases among with new | earlier
  · cases new
    exact if_pos rfl
  · -- A key that moved back by one place was recent before.
    have apart : key ≠ call.key := by
      have inside := (List.mem_filter.mp (List.mem_of_mem_take earlier)).2
      simpa using inside
    have before := mem_take_of_filter (nodup_keys_recents state.history) earlier
    rw [← count] at before
    rw [if_neg apart]
    exact recent.get?_prune permitted identified before young

theorem answer_iff (identified : call.key ≠ "") : state.answer env call = true ↔
      ∃ seen, (state.store.prune env (state.timeOf call)).map.get? call.key = some seen ∧
        seen ≠ 0 ∧ state.timeOf call - seen ≤ getDedupeTtlMs env := by
  unfold DedupeState.answer
  rw [dedupeShouldDrop_eq_holds env identified]
  unfold DedupeStore.holds
  cases (state.store.prune env (state.timeOf call)).map.get? call.key with
  | none => simp
  | some seen => simp

private theorem DedupeHolds.onlyRecent (holds : DedupeHolds env state)
    (reports : state.answer env call = true) : ∃ presented ∈ state.history,
      presented.1 = call.key ∧ state.timeOf call - presented.2 ≤ getDedupeTtlMs env := by
  by_cases identified : call.key = ""
  · unfold DedupeState.answer dedupeShouldDrop at reports
    simp [identified] at reports
  · obtain ⟨seen, found, _, young⟩ := (answer_iff identified).mp reports
    have last := holds.last call.key seen (get?_of_prune found)
    exact ⟨_, mem_of_mem_recents last, rfl, young⟩

theorem RecentKept.lawful (recent : RecentKept env state)
    (permitted : EvictionInPlace env state call) : DedupeLaw env state call where
  onlyRecent := recent.toDedupeHolds.onlyRecent
  reported := by
    intro identified presentedAt among young
    have found := recent.get?_prune permitted identified among young
    refine (answer_iff identified).mpr ⟨presentedAt, found, ?_, young⟩
    -- A time of zero would be read as no time.
    rintro rfl
    exact permitted.timed identified among (by omega)
  oldestFirst := by
    intro identified pruned gone member young removed left stays
    have overfullFront : state.store.Overfull env (state.timeOf call) ∧
        gone ∈ (state.store.fresh env (state.timeOf call)).entries.take
          (state.store.surplus env (state.timeOf call)) := by
      by_contra behind
      have kept := mem_prune_of_young member young fun overfull front =>
        behind ⟨overfull, front⟩
      rw [show pruned.map.get? gone.1 = some gone.2 from
        lookup_of_mem pruned.map.distinct kept] at removed
      cases removed
    obtain ⟨overfull, front⟩ := overfullFront
    rw [entries_prune_of_overfull overfull] at stays
    have distinct : (state.store.fresh env (state.timeOf call)).entries.Nodup :=
      (state.store.fresh env (state.timeOf call)).distinct.of_map
    have apart : left ≠ gone := fun same =>
      List.disjoint_take_drop distinct le_rfl front (same ▸ stays)
    have stored : left ∈ state.store.map.entries :=
      List.mem_of_mem_filter (List.mem_of_mem_drop stays)
    have known : left ∈ recents state.history :=
      recent.last left.1 left.2 (lookup_of_mem state.store.map.distinct stored)
    exact presentedAfter_of_not known apart
      (permitted.unrefreshed identified overfull gone front left stays)
  bounded := (recent.toDedupeHolds.step call).bounded

theorem DedupeHolds.inPlace (holds : DedupeHolds env state) (law : DedupeLaw env state call) :
    EvictionInPlace env state call where
  unrefreshed := by
    intro identified overfull fresh surplus front first back behind after
    have pruned := entries_prune_of_overfull overfull
    have inside : front ∈ fresh := List.mem_of_mem_take first
    have stored := List.mem_filter.mp inside
    -- The key at the front is gone, since no two entries have one key.
    have removed : (state.store.prune env (state.timeOf call)).map.get? front.1 = none := by
      refine lookup_eq_none_iff_not_mem.mpr fun left => ?_
      rw [pruned] at left
      have distinct : (fresh.map Prod.fst).Nodup :=
        (state.store.fresh env (state.timeOf call)).distinct
      rw [← List.take_append_drop surplus fresh, List.map_append] at distinct
      exact (List.disjoint_of_nodup_append distinct) (List.mem_map_of_mem first) left
    have before : PresentedAfter state.history back front :=
      law.oldestFirst identified front stored.1 (by simpa using stored.2) removed back
        (by rw [pruned]; exact behind)
    unfold PresentedAfter at before after
    omega
  timed := by
    intro identified among young
    obtain ⟨seen, found, nonzero, _⟩ :=
      (answer_iff identified).mp (law.reported identified 0 among (by omega))
    -- The time in the store is that of the last presentation.
    have last := holds.last call.key seen (get?_of_prune found)
    have once := nodup_keys_recents state.history
    have first := lookup_of_mem once last
    rw [lookup_of_mem once (List.mem_of_mem_take among)] at first
    exact nonzero (Option.some.inj first).symm

/-- The window is kept along a run exactly when every eviction of the run is in place. -/
theorem dedupeWindow_iff (env : DedupeEnv) (clock : Int) (calls : List DedupeCall) :
    Along (DedupeState.step env) (DedupeLaw env) { clock } calls ↔
      Along (DedupeState.step env) (EvictionInPlace env) { clock } calls := by
  refine along_congr (RecentKept env) (fun state call recent permitted => recent.step permitted)
    (fun state call recent => ⟨recent.toDedupeHolds.inPlace, recent.lawful⟩)
    (RecentKept.start clock) calls

/-- A store of three keys forgets the first one, which was refreshed before the fourth came. -/
theorem dedupeWindow_forgets_refreshed :
    ¬ Along (DedupeState.step { MESSAGE_DEDUP_MAX := .finite 3 })
      (DedupeLaw { MESSAGE_DEDUP_MAX := .finite 3 }) { clock := 1000 }
      [⟨"a", 1⟩, ⟨"b", 1⟩, ⟨"c", 1⟩, ⟨"a", 1⟩, ⟨"d", 1⟩, ⟨"a", 1⟩] := by
  intro along
  have last := along.2.2.2.2.2.1
  have missed := last.reported (by decide) 1004 (by decide +kernel) (by decide +kernel)
  exact absurd missed (by decide +kernel)

end

end BitBrat
