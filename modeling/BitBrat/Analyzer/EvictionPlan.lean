import BitBrat.Analyzer.WindowManager
import BitBrat.Machine.Shares

/-! Who gives up how many events, and how far that reaches. -/

namespace BitBrat

open Js Machine

def evictionTotal (candidates : List EvictionCandidate) : Nat :=
  (candidates.map (·.evictCount)).sum

/-- Every candidate is named once, and has the events that it is to give up. -/
structure EvictionFeasible (memory : MemoryManager) (candidates : List EvictionCandidate) :
    Prop where
  distinct : (candidates.map (·.observerId)).Nodup
  available : ∀ candidate ∈ candidates,
    candidate.evictCount ≤ memory.getObserverCount candidate.observerId

/-- The candidates reach a target, with less than one event too many for each observer. -/
structure EvictionReaches (memory : MemoryManager) (target : Nat)
    (candidates : List EvictionCandidate) : Prop where
  enough : target ≤ evictionTotal candidates
  tight : evictionTotal candidates < target + memory.observerEventCounts.size

/-- An observer that none has more events than gives up the target, as far as it can. -/
def EvictsLargest (memory : MemoryManager) (target : Nat) (candidates : List EvictionCandidate) :
    Prop :=
  ∃ largest, (∀ other, memory.getObserverCount other ≤ memory.getObserverCount largest) ∧
    candidates = [{
      observerId := largest
      evictCount := min target (memory.getObserverCount largest)
      reason := .largestWindow }]

structure EvictionPlanned (config : MemoryManagerConfig) (memory : MemoryManager) (target : Nat)
    (candidates : List EvictionCandidate) : Prop where
  feasible : EvictionFeasible memory candidates
  oldest : config.evictionStrategy = .oldest → EvictionReaches memory target candidates
  largestWindow : config.evictionStrategy = .largestWindow → memory.getObserverCount "" = 0 →
    EvictsLargest memory target candidates

section

variable {memory : MemoryManager} {target : Nat}

theorem getObserverCount_of_mem {entry : String × Nat}
    (is_entry : entry ∈ memory.observerEventCounts.entries) :
    memory.getObserverCount entry.1 = entry.2 := by
  rw [MemoryManager.getObserverCount, OrderedMap.get?,
    lookup_of_mem memory.observerEventCounts.distinct is_entry]
  rfl

theorem getObserverCount_eq_zero_or (memory : MemoryManager) (observerId : String) :
    memory.getObserverCount observerId = 0 ∨
      (observerId, memory.getObserverCount observerId) ∈ memory.observerEventCounts.entries := by
  cases found : memory.observerEventCounts.get? observerId with
  | none => exact .inl (by simp [MemoryManager.getObserverCount, found])
  | some count =>
    refine .inr ?_
    simpa [MemoryManager.getObserverCount, found] using mem_of_lookup found

theorem getEvictionCandidatesOldest_eq (within : target ≤ memory.getTotalEvents) :
    memory.getEvictionCandidatesOldest id target =
      (memory.observerEventCounts.entries.filter fun entry =>
        0 < share Prod.snd memory.getTotalEvents target entry).map fun entry => {
          observerId := entry.1
          evictCount := (share Prod.snd memory.getTotalEvents target entry).toNat
          reason := .oldest } := by
  simp only [MemoryManager.getEvictionCandidatesOldest]
  split
  · -- Nobody has a share in nothing.
    rename_i nothing
    rw [nothing] at within ⊢
    simp [share, Nat.le_zero.mp within]
  · rw [← List.filterMap_eq_map, List.filterMap_filter]
    apply List.filterMap_congr
    intro entry _
    -- The share is no more than there is, so that nothing is cut off.
    have at_most := share_le Prod.snd within entry
    have cut : min (share Prod.snd memory.getTotalEvents target entry).toNat entry.2 =
        (share Prod.snd memory.getTotalEvents target entry).toNat := by
      omega
    by_cases has_share : 0 < share Prod.snd memory.getTotalEvents target entry
    · simp only [has_share, decide_true, if_true, Function.comp_apply]
      rw [← cut]
      exact if_pos has_share
    · simp only [has_share, decide_false, Bool.false_eq_true, if_false]
      exact if_neg has_share

theorem evictionTotal_shares (entries : List (String × Nat)) (total target : Nat) :
    (evictionTotal ((entries.filter fun entry => 0 < share Prod.snd total target entry).map
        fun entry => {
          observerId := entry.1
          evictCount := (share Prod.snd total target entry).toNat
          reason := .oldest }) : ℤ) =
      (entries.map (share Prod.snd total target)).sum := by
  induction entries with
  | nil => rfl
  | cons entry rest ih =>
    have nonneg := share_nonneg Prod.snd total target entry
    rw [List.map_cons, List.sum_cons, ← ih]
    by_cases has_share : 0 < share Prod.snd total target entry
    · rw [List.filter_cons_of_pos (by simpa using has_share)]
      simp only [evictionTotal, List.map_cons, List.sum_cons, Nat.cast_add]
      omega
    · rw [List.filter_cons_of_neg (by simpa using has_share)]
      omega

theorem feasible_oldest (within : target ≤ memory.getTotalEvents) :
    EvictionFeasible memory (memory.getEvictionCandidatesOldest id target) := by
  rw [getEvictionCandidatesOldest_eq within]
  constructor
  · rw [List.map_map]
    exact memory.observerEventCounts.distinct.sublist (List.filter_sublist.map _)
  · intro candidate is_candidate
    obtain ⟨entry, is_chosen, rfl⟩ := List.mem_map.mp is_candidate
    have at_most := share_le Prod.snd within entry
    rw [getObserverCount_of_mem (List.mem_of_mem_filter is_chosen)]
    show (share Prod.snd memory.getTotalEvents target entry).toNat ≤ entry.2
    omega

theorem reaches_oldest (asked : 1 ≤ target) (within : target ≤ memory.getTotalEvents) :
    EvictionReaches memory target (memory.getEvictionCandidatesOldest id target) := by
  obtain ⟨reached, exceeded⟩ := sum_shares memory.observerEventCounts.entries Prod.snd target rfl
    (show 0 < memory.getTotalEvents by omega)
  have total := evictionTotal_shares memory.observerEventCounts.entries memory.getTotalEvents target
  rw [getEvictionCandidatesOldest_eq within]
  rw [MemoryManager.getTotalEvents] at total ⊢
  rw [← total] at reached exceeded
  constructor
  · exact_mod_cast reached
  · exact_mod_cast exceeded

theorem exists_pos_of_total (some_event : 0 < memory.getTotalEvents) :
    ∃ entry ∈ memory.observerEventCounts.entries, 0 < entry.2 := by
  by_contra nobody
  push Not at nobody
  have zeros : ∀ count ∈ memory.observerEventCounts.entries.map Prod.snd, count = 0 := by
    intro count is_count
    obtain ⟨entry, is_entry, rfl⟩ := List.mem_map.mp is_count
    exact Nat.le_zero.mp (nobody entry is_entry)
  rw [MemoryManager.getTotalEvents, List.sum_eq_zero zeros] at some_event
  exact absurd some_event (Nat.lt_irrefl 0)

theorem getEvictionCandidatesLargestWindow_eq :
    memory.getEvictionCandidatesLargestWindow target =
      let chosen := largest Prod.snd memory.observerEventCounts.entries ("", 0)
      if chosen.1 = "" then []
      else [{
        observerId := chosen.1
        evictCount := min target chosen.2
        reason := .largestWindow }] :=
  rfl

theorem feasible_largestWindow :
    EvictionFeasible memory (memory.getEvictionCandidatesLargestWindow target) := by
  rw [getEvictionCandidatesLargestWindow_eq]
  obtain ⟨found, -, -⟩ := largest_spec Prod.snd memory.observerEventCounts.entries ("", 0)
  simp only
  split
  · exact ⟨List.nodup_nil, by simp⟩
  · rename_i named
    refine ⟨List.nodup_singleton _, ?_⟩
    intro candidate is_candidate
    obtain rfl := List.mem_singleton.mp is_candidate
    -- The window has a name, so that it is one of those on record.
    rcases found with same | is_entry
    · exact absurd (congrArg Prod.fst same) named
    · rw [getObserverCount_of_mem is_entry]
      exact min_le_right _ _

theorem evictsLargest (some_event : 0 < memory.getTotalEvents)
    (named : memory.getObserverCount "" = 0) :
    EvictsLargest memory target (memory.getEvictionCandidatesLargestWindow target) := by
  rw [getEvictionCandidatesLargestWindow_eq]
  obtain ⟨found, -, all⟩ := largest_spec Prod.snd memory.observerEventCounts.entries ("", 0)
  generalize largest Prod.snd memory.observerEventCounts.entries ("", 0) = chosen at found all ⊢
  -- The chosen window has an event, so that it is an entry, and not of the empty name.
  have positive : 0 < chosen.2 := by
    obtain ⟨entry, is_entry, above⟩ := exists_pos_of_total some_event
    exact above.trans_le (all entry is_entry)
  have is_entry : chosen ∈ memory.observerEventCounts.entries := by
    rcases found with rfl | is_entry
    · exact absurd positive (Nat.lt_irrefl 0)
    · exact is_entry
  have count := getObserverCount_of_mem is_entry
  have has_name : chosen.1 ≠ "" := by
    intro nameless
    rw [nameless, named] at count
    omega
  refine ⟨chosen.1, ?_, ?_⟩
  · intro other
    rw [count]
    rcases getObserverCount_eq_zero_or memory other with zero | is_other
    · omega
    · exact all _ is_other
  · simp only
    rw [if_neg has_name, count]

end

/--
Where the warning level is reached, whoever gives up events is named once and has them. -/
theorem getEvictionCandidates_planned (config : MemoryManagerConfig) (memory : MemoryManager)
    (target : Nat) (reached : memory.warningLevel config = true) (asked : 1 ≤ target)
    (within : target ≤ memory.getTotalEvents) :
    EvictionPlanned config memory target (memory.getEvictionCandidates config id target) := by
  have some_event : 0 < memory.getTotalEvents := by omega
  simp only [MemoryManager.getEvictionCandidates, reached, Bool.not_true, Bool.false_eq_true,
    if_false]
  cases strategy : config.evictionStrategy with
  | oldest =>
    refine ⟨feasible_oldest within, fun _ => reaches_oldest asked within, ?_⟩
    intro other
    cases strategy.symm.trans other
  | largestWindow =>
    refine ⟨feasible_largestWindow, ?_, fun _ => evictsLargest some_event⟩
    intro other
    cases strategy.symm.trans other

def largestWindowConfig : MemoryManagerConfig :=
  { memoryConfig with evictionStrategy := .largestWindow }

def fullMemory : MemoryManager where
  observerEventCounts := .set (.set .empty "observer-1" 5000) "observer-2" 5000

/-- Both observers give up a share of one event, and one of them gives up a whole window. -/
theorem getEvictionCandidates_planned_example :
    EvictionPlanned memoryConfig fullMemory 3000
        (fullMemory.getEvictionCandidates memoryConfig id 3000) ∧
      EvictionPlanned largestWindowConfig fullMemory 6000
        (fullMemory.getEvictionCandidates largestWindowConfig id 6000) :=
  ⟨getEvictionCandidates_planned memoryConfig fullMemory 3000 (by decide +kernel) (by decide)
      (by decide),
    getEvictionCandidates_planned largestWindowConfig fullMemory 6000 (by decide +kernel)
      (by decide) (by decide)⟩

/-- One window has no more events than it has, whatever the target. -/
theorem getEvictionCandidates_short :
    ¬ ∀ (config : MemoryManagerConfig) (memory : MemoryManager) (target : Nat),
      memory.warningLevel config = true → 1 ≤ target → target ≤ memory.getTotalEvents →
        EvictionFeasible memory (memory.getEvictionCandidates config id target) ∧
          EvictionReaches memory target (memory.getEvictionCandidates config id target) := by
  intro all
  have reaches := (all largestWindowConfig fullMemory 6000 (by decide +kernel) (by decide)
    (by decide)).2.enough
  revert reaches
  decide +kernel

end BitBrat
