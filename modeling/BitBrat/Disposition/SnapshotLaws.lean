import Mathlib.Algebra.BigOperators.Group.List.Lemmas
import Mathlib.Algebra.Order.Field.Basic
import Mathlib.Tactic.Linarith
import BitBrat.Disposition.Scoring
import BitBrat.Machine.MostRecent
import Mathlib.Data.Rat.Cast.Order

/-! Which observations a snapshot is about, and what it does not depend on. -/

namespace BitBrat

open Js Machine

section

variable (runtime : DispositionRuntime) (config : DispositionConfig)

def observedMs (observation : DispositionObservationEvent) : Int :=
  (runtime.parse observation.observedAt).getD 0

/-- The observations that were made no earlier than the window before a time begins. -/
def windowOf (nowMs : Int) (observations : List DispositionObservationEvent) :
    List DispositionObservationEvent :=
  observations.filter fun observation =>
    (runtime.parse observation.observedAt).any (nowMs - config.windowMs ≤ ·)

/-- In another order of the observations, those of one time keep theirs, or they write the time
alike and are all used or all left out. -/
def TiesKept (window permuted : List DispositionObservationEvent) : Prop :=
  ∀ observation ∈ window,
    window.filter (observedMs runtime · = observedMs runtime observation) =
        permuted.filter (observedMs runtime · = observedMs runtime observation) ∨
      CutBeside (observedMs runtime) config.maxEvents window (observedMs runtime observation) ∧
        ∀ other ∈ window, observedMs runtime other = observedMs runtime observation →
          other.observedAt = observation.observedAt

end

def riskRank (level : Option String) : Nat :=
  if normalizeRiskLevel level = "high" then 3
  else if normalizeRiskLevel level = "med" then 2
  else if normalizeRiskLevel level = "low" then 1
  else 0

def IsShare (value : ℚ) : Prop := 0 ≤ value ∧ value ≤ 1

structure IndicatorsBounded (indicators : DispositionIndicators) : Prop where
  supportiveness : IsShare indicators.supportivenessIndex
  friction : IsShare indicators.frictionIndex
  agitation : IsShare indicators.agitationIndex
  spam : IsShare indicators.spamIndex
  safetyConcern : IsShare indicators.safetyConcernIndex
  confidence : IsShare indicators.confidence

structure DispositionLaw (runtime : DispositionRuntime) (config : DispositionConfig)
    (nowIso : String) : Prop where
  /-- Only the most recent observations of the window are used, up to the maximum. -/
  recent : ∀ observations nowMs, runtime.parse nowIso = some nowMs → ∃ used unused,
    (used ++ unused).Perm (windowOf runtime config nowMs observations) ∧
      used.length = min config.maxEvents (windowOf runtime config nowMs observations).length ∧
      (∀ newer ∈ used, ∀ older ∈ unused, observedMs runtime older ≤ observedMs runtime newer) ∧
      computeDispositionSnapshot runtime used config nowIso =
        computeDispositionSnapshot runtime observations config nowIso ∧
      ∀ snapshot, computeDispositionSnapshot runtime observations config nowIso = .ok snapshot →
        snapshot.window.messageCount = used.length
  /-- The order of the observations does not matter, unless it is the order of ties. -/
  permuted : ∀ observations permuted, observations.Perm permuted →
    (∀ nowMs, runtime.parse nowIso = some nowMs → TiesKept runtime config
      (windowOf runtime config nowMs observations) (windowOf runtime config nowMs permuted)) →
    computeDispositionSnapshot runtime permuted config nowIso =
      computeDispositionSnapshot runtime observations config nowIso
  bounded : ∀ observations snapshot,
    computeDispositionSnapshot runtime observations config nowIso = .ok snapshot →
      IndicatorsBounded snapshot.indicators
  /-- A higher risk in place of a lower one does not reassure. -/
  monotone : ∀ before after observation riskier snapshot next,
    riskier.observedAt = observation.observedAt →
    riskRank observation.analysis.riskLevel ≤ riskRank riskier.analysis.riskLevel →
    computeDispositionSnapshot runtime (before ++ observation :: after) config nowIso =
      .ok snapshot →
    computeDispositionSnapshot runtime (before ++ riskier :: after) config nowIso = .ok next →
      snapshot.indicators.safetyConcernIndex ≤ next.indicators.safetyConcernIndex ∧
        (snapshot.band = .highRisk → next.band = .highRisk)

theorem isShare_clamp01 (value : ℚ) : IsShare (clamp01 value) := by
  unfold clamp01
  split
  · exact ⟨le_rfl, zero_le_one⟩
  · split
    · exact ⟨zero_le_one, le_rfl⟩
    · rename_i positive below
      push Not at positive below
      -- The rounded number of four digits lies between none and all of them.
      have lower : ((0 : ℤ) : ℚ) ≤ (value * 10000 + 1 / 2).floor :=
        Int.cast_le.mpr (Rat.le_floor_iff.mpr (by push_cast; linarith))
      have upper : ((value * 10000 + 1 / 2).floor : ℚ) ≤ (10000 : ℤ) :=
        Int.cast_le.mpr (Int.lt_add_one_iff.mp (Rat.floor_lt_iff.mpr (by push_cast; linarith)))
      push_cast at lower upper
      exact ⟨div_nonneg lower (by norm_num), (div_le_one (by norm_num)).mpr upper⟩

theorem clamp01_mono {left right : ℚ} (le : left ≤ right) :
    clamp01 left ≤ clamp01 right := by
  by_cases low : left ≤ 0
  · rw [show clamp01 left = 0 by rw [clamp01, if_pos low]]
    exact (isShare_clamp01 right).1
  by_cases high : right ≥ 1
  · rw [show clamp01 right = 1 by rw [clamp01, if_neg (by linarith), if_pos high]]
    exact (isShare_clamp01 left).2
  · -- Between the ends both numbers are rounded.
    push Not at low high
    rw [clamp01, clamp01, if_neg low.not_ge, if_neg (by linarith), if_neg (by linarith),
      if_neg high.not_ge]
    have floors : ((left * 10000 + 1 / 2).floor : ℚ) ≤ (right * 10000 + 1 / 2).floor :=
      Int.cast_le.mpr (Rat.floor_monotone (by linarith))
    linarith

theorem dispositionIndicators_bounded (sorted : List DispositionObservationEvent)
    (maxEvents : Nat) : IndicatorsBounded (dispositionIndicators sorted maxEvents) := by
  constructor <;> exact isShare_clamp01 _

theorem dispositionRatio_mono {part more total : Nat} (le : part ≤ more) :
    dispositionRatio part total ≤ dispositionRatio more total := by
  unfold dispositionRatio
  split
  · exact le_rfl
  · exact clamp01_mono (by gcongr)

variable {left right : List DispositionObservationEvent}

theorem dispositionIndicators_perm (same : left.Perm right) (maxEvents : Nat) :
    dispositionIndicators left maxEvents = dispositionIndicators right maxEvents := by
  -- They are made of counts, lengths and sums.
  have means (measure : DispositionObservationEvent → ℚ) :
      average (left.map measure) = average (right.map measure) := by
    have mapped := same.map measure
    have empty : left.map measure = [] ↔ right.map measure = [] := by
      rw [← List.length_eq_zero_iff, mapped.length_eq, List.length_eq_zero_iff]
    rw [average, average, mapped.sum_eq, mapped.length_eq]
    exact if_congr empty rfl rfl
  have anyone (test : DispositionObservationEvent → Bool) : left.any test = right.any test := by
    rw [Bool.eq_iff_iff, List.any_eq_true, List.any_eq_true]
    simp only [same.mem_iff]
  simp only [dispositionIndicators, means, anyone, same.countP_eq, same.length_eq]

theorem windowSnapshot_perm (same : left.Perm right) (config : DispositionConfig)
    (nowIso windowStart expiresAt : String) :
    windowSnapshot config nowIso windowStart expiresAt left =
      windowSnapshot config nowIso windowStart expiresAt right := by
  have anyone (test : DispositionObservationEvent → Bool) : left.any test = right.any test := by
    rw [Bool.eq_iff_iff, List.any_eq_true, List.any_eq_true]
    simp only [same.mem_iff]
  simp only [windowSnapshot, dispositionIndicators_perm same, anyone, same.length_eq]

variable {runtime : DispositionRuntime} {config : DispositionConfig}

theorem windowObservations_eq (observations : List DispositionObservationEvent)
    (nowMs : Int) : windowObservations runtime observations config (nowMs - config.windowMs) =
      (mostRecent (observedMs runtime) config.maxEvents
        (windowOf runtime config nowMs observations)).reverse := rfl

theorem computeDispositionSnapshot_congr {nowIso : String}
    (same : ∀ nowMs, runtime.parse nowIso = some nowMs →
      (windowObservations runtime left config (nowMs - config.windowMs)).Perm
        (windowObservations runtime right config (nowMs - config.windowMs)) ∧
      windowStart (windowObservations runtime left config (nowMs - config.windowMs))
          (nowMs - config.windowMs) =
        windowStart (windowObservations runtime right config (nowMs - config.windowMs))
          (nowMs - config.windowMs)) : computeDispositionSnapshot runtime left config nowIso =
      computeDispositionSnapshot runtime right config nowIso := by
  unfold computeDispositionSnapshot
  cases now : runtime.parse nowIso with
  | none => rfl
  | some nowMs =>
    obtain ⟨perm, start⟩ := same nowMs now
    simp only [start]
    congr
    funext expiresAt
    congr
    funext startAt
    rw [windowSnapshot_perm perm]

theorem computeDispositionSnapshot_eq_ok {observations : List DispositionObservationEvent}
    {nowIso : String} {snapshot : DispositionSnapshot}
    (computed : computeDispositionSnapshot runtime observations config nowIso = .ok snapshot) :
    ∃ nowMs startAt expiresAt, runtime.parse nowIso = some nowMs ∧
      snapshot = windowSnapshot config nowIso startAt expiresAt
        (windowObservations runtime observations config (nowMs - config.windowMs)) := by
  unfold computeDispositionSnapshot at computed
  cases now : runtime.parse nowIso with
  | none => simp [now] at computed
  | some nowMs =>
    simp only [now] at computed
    cases expires : dateToISOString (nowMs + config.snapshotTtlMs) with
    | error reason => simp [expires, bind, Except.bind] at computed
    | ok expiresAt =>
      cases started : windowStart (windowObservations runtime observations config
          (nowMs - config.windowMs)) (nowMs - config.windowMs) with
      | error reason => simp [expires, started, bind, Except.bind] at computed
      | ok startAt =>
        simp only [expires, started, bind, Except.bind, Except.ok.injEq] at computed
        exact ⟨nowMs, startAt, expiresAt, rfl, computed.symm⟩

theorem windowOf_mostRecent (observations : List DispositionObservationEvent)
    (nowMs : Int) : windowOf runtime config nowMs (mostRecent (observedMs runtime) config.maxEvents
        (windowOf runtime config nowMs observations)) =
      mostRecent (observedMs runtime) config.maxEvents
        (windowOf runtime config nowMs observations) := by
  refine List.filter_eq_self.mpr fun observation member => ?_
  have inside := (List.mergeSort_perm _ _).mem_iff.mp (List.mem_of_mem_take member)
  exact (List.mem_filter.mp inside).2

@[simp] theorem messageCount_windowSnapshot (config : DispositionConfig)
    (nowIso windowStart expiresAt : String) (sorted : List DispositionObservationEvent) :
    (windowSnapshot config nowIso windowStart expiresAt sorted).window.messageCount =
      sorted.length := by
  simp only [windowSnapshot]
  split <;> rfl

theorem windowStart_reverse (used : List DispositionObservationEvent) (cutoffMs : Int) :
    windowStart used.reverse cutoffMs =
      (used.getLast?.map fun last => Except.ok last.observedAt).getD
        (dateToISOString cutoffMs) := by
  cases used using List.reverseRecOn with
  | nil => rfl
  | append_singleton front last => simp [windowStart]

theorem windowObservations_perm {observations permuted : List DispositionObservationEvent}
    (same : observations.Perm permuted) {nowMs : Int}
    (kept : TiesKept runtime config (windowOf runtime config nowMs observations)
      (windowOf runtime config nowMs permuted)) :
    (windowObservations runtime observations config (nowMs - config.windowMs)).Perm
        (windowObservations runtime permuted config (nowMs - config.windowMs)) ∧
      windowStart (windowObservations runtime observations config (nowMs - config.windowMs))
          (nowMs - config.windowMs) =
        windowStart (windowObservations runtime permuted config (nowMs - config.windowMs))
          (nowMs - config.windowMs) := by
  have window : (windowOf runtime config nowMs observations).Perm
      (windowOf runtime config nowMs permuted) := same.filter _
  rw [windowObservations_eq, windowObservations_eq, windowStart_reverse, windowStart_reverse]
  generalize windowOf runtime config nowMs observations = left at kept window
  generalize windowOf runtime config nowMs permuted = right at kept window
  have settled : ∀ observation ∈ left, Settled (observedMs runtime) config.maxEvents left right
      (observedMs runtime observation) := fun observation member =>
    (kept observation member).imp_right And.left
  have used := perm_mostRecent _ window settled
  refine ⟨((List.reverse_perm _).trans used).trans (List.reverse_perm _).symm, ?_⟩
  cases ends : (mostRecent (observedMs runtime) config.maxEvents left).getLast? with
  | none =>
    -- Nothing is used in either order.
    rw [List.getLast?_eq_none_iff] at ends
    rw [ends] at used
    rw [used.nil_eq.symm]
    rfl
  | some first =>
    cases otherEnds : (mostRecent (observedMs runtime) config.maxEvents right).getLast? with
    | none =>
      rw [List.getLast?_eq_none_iff] at otherEnds
      rw [otherEnds] at used
      rw [used.eq_nil] at ends
      cases ends
    | some second =>
      -- The two oldest ones were made at one time, which they write alike.
      obtain ⟨level, order⟩ := getLast?_mostRecent _ window settled ends otherEnds
      have inside {list : List DispositionObservationEvent} {last : DispositionObservationEvent}
          (last_of : (mostRecent (observedMs runtime) config.maxEvents list).getLast? =
            some last) : last ∈ list :=
        (List.mergeSort_perm _ _).mem_iff.mp (List.mem_of_mem_take (List.mem_of_getLast? last_of))
      have written : second.observedAt = first.observedAt := by
        rcases kept first (inside ends) with ordered | ⟨-, alike⟩
        · rw [order ordered]
        · exact alike second (window.mem_iff.mpr (inside otherEnds)) level
      simp [written]

theorem riskRank_high (level : Option String) :
    3 ≤ riskRank level ↔ normalizeRiskLevel level = "high" := by
  unfold riskRank
  split
  · simp_all
  · split
    · simp_all
    · split <;> simp_all

theorem riskRank_med (level : Option String) :
    2 ≤ riskRank level ↔ normalizeRiskLevel level = "med" ∨ normalizeRiskLevel level = "high" := by
  unfold riskRank
  split
  · simp_all
  · split
    · simp_all
    · split <;> simp_all

/-- One observation is replaced by another of the same time, with no lower a risk. -/
def Riskier (pair : DispositionObservationEvent × DispositionObservationEvent) : Prop :=
  pair.2.observedAt = pair.1.observedAt ∧
    riskRank pair.1.analysis.riskLevel ≤ riskRank pair.2.analysis.riskLevel

theorem windowObservations_pairs
    {pairs : List (DispositionObservationEvent × DispositionObservationEvent)}
    (riskier : ∀ pair ∈ pairs, Riskier pair) (nowMs : Int) :
    ∃ used : List (DispositionObservationEvent × DispositionObservationEvent),
      (∀ pair ∈ used, Riskier pair) ∧
      windowObservations runtime (pairs.map Prod.fst) config (nowMs - config.windowMs) =
        used.map Prod.fst ∧
      windowObservations runtime (pairs.map Prod.snd) config (nowMs - config.windowMs) =
        used.map Prod.snd := by
  let time (pair : DispositionObservationEvent × DispositionObservationEvent) :=
    observedMs runtime pair.1
  let inside := pairs.filter fun pair =>
    (runtime.parse pair.1.observedAt).any (nowMs - config.windowMs ≤ ·)
  have within : ∀ pair ∈ inside, Riskier pair := fun pair member =>
    riskier pair (List.mem_filter.mp member).1
  have second : windowOf runtime config nowMs (pairs.map Prod.snd) = inside.map Prod.snd := by
    rw [windowOf, List.filter_map]
    refine congrArg _ (List.filter_congr fun pair member => ?_)
    simp [(riskier pair member).1]
  refine ⟨(mostRecent time config.maxEvents inside).reverse, ?_, ?_, ?_⟩
  · intro pair member
    exact within pair ((List.mergeSort_perm _ _).mem_iff.mp
      (List.mem_of_mem_take (List.mem_reverse.mp member)))
  · rw [windowObservations_eq, windowOf, List.filter_map, List.map_reverse,
      mostRecent_map time (observedMs runtime) (fun _ _ => rfl)]
    rfl
  · rw [windowObservations_eq, second, List.map_reverse,
      mostRecent_map time (observedMs runtime) fun pair member => by
        simp only [time, observedMs, (within pair member).1]]

theorem safetyConcern_mono
    {used : List (DispositionObservationEvent × DispositionObservationEvent)}
    (riskier : ∀ pair ∈ used, Riskier pair) (maxEvents : Nat) :
    ((used.map Prod.fst).any fun item => normalizeRiskLevel item.analysis.riskLevel = "high") ≤
        ((used.map Prod.snd).any fun item => normalizeRiskLevel item.analysis.riskLevel = "high") ∧
      (dispositionIndicators (used.map Prod.fst) maxEvents).safetyConcernIndex ≤
        (dispositionIndicators (used.map Prod.snd) maxEvents).safetyConcernIndex := by
  have high : ((used.map Prod.fst).any
      fun item => normalizeRiskLevel item.analysis.riskLevel = "high") ≤
        ((used.map Prod.snd).any
          fun item => normalizeRiskLevel item.analysis.riskLevel = "high") := by
    intro found
    simp only [List.any_map, List.any_eq_true, Function.comp_apply, decide_eq_true_eq] at found ⊢
    obtain ⟨pair, member, level⟩ := found
    exact ⟨pair, member, (riskRank_high _).mp
      (((riskRank_high _).mpr level).trans (riskier pair member).2)⟩
  refine ⟨high, clamp01_mono (add_le_add ?_ ?_)⟩
  · -- As many risks count as before, and perhaps more.
    have counts : (used.map Prod.fst).countP (fun item =>
          normalizeRiskLevel item.analysis.riskLevel = "med" ||
            normalizeRiskLevel item.analysis.riskLevel = "high") ≤
        (used.map Prod.snd).countP fun item =>
          normalizeRiskLevel item.analysis.riskLevel = "med" ||
            normalizeRiskLevel item.analysis.riskLevel = "high" := by
      rw [List.countP_map, List.countP_map]
      refine List.countP_mono_left fun pair member counted => ?_
      simp only [Function.comp_apply, Bool.or_eq_true, decide_eq_true_eq,
        ← riskRank_med] at counted ⊢
      exact counted.trans (riskier pair member).2
    rw [List.length_map, List.length_map]
    exact mul_le_mul_of_nonneg_left (dispositionRatio_mono counts) (by norm_num)
  · split
    · rename_i found
      rw [if_pos (high found)]
    · split
      · norm_num
      · exact le_rfl

theorem windowSnapshot_mono
    {used : List (DispositionObservationEvent × DispositionObservationEvent)}
    (riskier : ∀ pair ∈ used, Riskier pair) (config : DispositionConfig)
    (nowIso start expiresAt nextStart nextExpiresAt : String) :
    (windowSnapshot config nowIso start expiresAt
          (used.map Prod.fst)).indicators.safetyConcernIndex ≤
        (windowSnapshot config nowIso nextStart nextExpiresAt
          (used.map Prod.snd)).indicators.safetyConcernIndex ∧
      ((windowSnapshot config nowIso start expiresAt (used.map Prod.fst)).band = .highRisk →
        (windowSnapshot config nowIso nextStart nextExpiresAt
          (used.map Prod.snd)).band = .highRisk) := by
  obtain ⟨high, concern⟩ := safetyConcern_mono riskier config.maxEvents
  simp only [windowSnapshot, List.length_map]
  split
  · -- Too few observations show no risk at all.
    exact ⟨le_rfl, fun band => by cases band⟩
  · refine ⟨concern, fun band => ?_⟩
    have serious : ((used.map Prod.fst).any fun item =>
          normalizeRiskLevel item.analysis.riskLevel = "high") = true ∨
        (dispositionIndicators (used.map Prod.fst) config.maxEvents).safetyConcernIndex ≥
          8 / 10 := by
      by_contra calm
      simp only [dispositionBand, if_neg calm] at band
      repeat' split at band
      all_goals cases band
    exact if_pos (serious.imp (fun found => high found) fun found => found.trans concern)

/-- A snapshot is made of the most recent observations of its window, in no matter which order
apart from ties, its strengths are shares, and a higher risk does not reassure. -/
theorem dispositionLaw (runtime : DispositionRuntime) (config : DispositionConfig)
    (nowIso : String) : DispositionLaw runtime config nowIso where
  recent := by
    intro observations nowMs now
    obtain ⟨unused, parts, newer⟩ := exists_mostRecent_rest (observedMs runtime)
      config.maxEvents (windowOf runtime config nowMs observations)
    refine ⟨_, unused, parts, length_mostRecent _ _ _, newer, ?_, ?_⟩
    · refine computeDispositionSnapshot_congr fun otherMs same => ?_
      cases now.symm.trans same
      rw [windowObservations_eq, windowObservations_eq, windowOf_mostRecent,
        mostRecent_mostRecent]
      exact ⟨List.Perm.refl _, rfl⟩
    · intro snapshot computed
      obtain ⟨otherMs, start, expires, same, rfl⟩ := computeDispositionSnapshot_eq_ok computed
      cases now.symm.trans same
      rw [messageCount_windowSnapshot, windowObservations_eq, List.length_reverse]
  permuted := fun observations permuted same kept =>
    (computeDispositionSnapshot_congr fun nowMs now =>
      windowObservations_perm same (kept nowMs now)).symm
  bounded := by
    intro observations snapshot computed
    obtain ⟨nowMs, start, expires, -, rfl⟩ := computeDispositionSnapshot_eq_ok computed
    simp only [windowSnapshot]
    split
    · have nothing : IsShare 0 := ⟨le_rfl, zero_le_one⟩
      exact ⟨nothing, nothing, nothing, nothing, nothing, isShare_clamp01 _⟩
    · exact dispositionIndicators_bounded _ _
  monotone := by
    intro before after observation riskier snapshot next observed ranked computed nextComputed
    obtain ⟨nowMs, start, expires, now, rfl⟩ := computeDispositionSnapshot_eq_ok computed
    obtain ⟨otherMs, nextStart, nextExpires, same, rfl⟩ :=
      computeDispositionSnapshot_eq_ok nextComputed
    cases now.symm.trans same
    -- Every other observation is replaced by itself.
    let pairs := before.map (fun item => (item, item)) ++ (observation, riskier) ::
      after.map fun item => (item, item)
    have each : ∀ pair ∈ pairs, Riskier pair := by
      intro pair member
      simp only [pairs, List.mem_append, List.mem_cons, List.mem_map] at member
      rcases member with ⟨item, -, rfl⟩ | rfl | ⟨item, -, rfl⟩
      · exact ⟨rfl, le_rfl⟩
      · exact ⟨observed, ranked⟩
      · exact ⟨rfl, le_rfl⟩
    have firsts : pairs.map Prod.fst = before ++ observation :: after := by
      simp [pairs, Function.comp_def]
    have seconds : pairs.map Prod.snd = before ++ riskier :: after := by
      simp [pairs, Function.comp_def]
    obtain ⟨used, riskiers, here, there⟩ := @windowObservations_pairs runtime config _ each nowMs
    rw [firsts] at here
    rw [seconds] at there
    rw [here, there]
    exact windowSnapshot_mono riskiers config nowIso _ _ _ _

/-- The clock of a script, and a database that compares texts as the script does. -/
def sampleRuntime : DispositionRuntime where
  parse := ofISOString
  notBefore := fun left right => right ≤ left
  textLe := fun left right => left ≤ right
  parse_toISOString := fun ms _ => ofISOString_toISOString ms

def riskAt (observedAt level : String) : DispositionObservationEvent where
  correlationId := level
  observedAt := observedAt
  userKey := "ada"
  analysis := { intent := "question", riskLevel := some level }
  source := "query-analyzer"

/-- An observation of the next hour is used, and of two observations of one time it is the first
one that is. -/
theorem not_present_or_permuted :
    (¬ ∀ runtime config observations nowIso nowMs, runtime.parse nowIso = some nowMs →
      computeDispositionSnapshot runtime (observations.filter fun observation =>
          (runtime.parse observation.observedAt).any (· ≤ nowMs)) config nowIso =
        computeDispositionSnapshot runtime observations config nowIso) ∧
    ¬ ∀ runtime config observations permuted nowIso, observations.Perm permuted →
      computeDispositionSnapshot runtime permuted config nowIso =
        computeDispositionSnapshot runtime observations config nowIso := by
  constructor
  · intro law
    have later := law sampleRuntime { minEvents := 1 } [riskAt "2026-04-03T01:00:00.000Z" "high"]
      "2026-04-03T00:00:00.000Z" 1775174400000 (by decide +kernel)
    exact absurd later (by decide +kernel)
  · intro law
    let config : DispositionConfig := { maxEvents := 1, minEvents := 1 }
    let tied := riskAt "2026-04-03T00:00:00.000Z"
    have alone (left right : String) :
        computeDispositionSnapshot sampleRuntime [tied left, tied right] config
            "2026-04-03T00:00:01.000Z" =
          computeDispositionSnapshot sampleRuntime [tied left] config
            "2026-04-03T00:00:01.000Z" := by
      refine computeDispositionSnapshot_congr fun nowMs now => ?_
      have hour : sampleRuntime.parse "2026-04-03T00:00:01.000Z" = some 1775174401000 := by
        decide +kernel
      have read : sampleRuntime.parse "2026-04-03T00:00:00.000Z" = some 1775174400000 := by
        decide +kernel
      cases hour.symm.trans now
      -- Both are in the window, in the order in which they came.
      have pair : windowObservations sampleRuntime [tied left, tied right] config
          (1775174401000 - config.windowMs) = [tied left] := by
        rw [windowObservations_eq, mostRecent, List.mergeSort_of_pairwise] <;>
          simp [windowOf, observedMs, riskAt, tied, read, config]
      have single : windowObservations sampleRuntime [tied left] config
          (1775174401000 - config.windowMs) = [tied left] := by
        rw [windowObservations_eq, mostRecent, List.mergeSort_of_pairwise] <;>
          simp [windowOf, riskAt, tied, read, config]
      rw [pair, single]
      exact ⟨List.Perm.refl _, rfl⟩
    have swapped := law sampleRuntime config [tied "high", tied "none"] [tied "none", tied "high"]
      "2026-04-03T00:00:01.000Z" (List.Perm.swap _ _ _)
    rw [alone, alone] at swapped
    exact absurd swapped (by decide +kernel)

end BitBrat
