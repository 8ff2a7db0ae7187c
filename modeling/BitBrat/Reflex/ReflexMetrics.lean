import BitBrat.Js.NumberText
import Mathlib.Data.List.Induction
import Mathlib.Data.Rat.Floor

/-! Latency histograms of the reflex service, and the percentiles that are read from them. -/

namespace BitBrat

open Js

structure HistogramBucket where
  le : ℚ
  count : Nat

structure Histogram where
  buckets : List HistogramBucket
  sum : Number
  count : Nat

def latencyBuckets : List ℚ := [1, 5, 10, 25, 50, 100, 150, 250, 500, 1000, 2500, 5000]

def createHistogram (bucketBoundaries : List ℚ) : Histogram where
  buckets := bucketBoundaries.map fun le => { le, count := 0 }
  sum := .finite 0
  count := 0

def atMost (value : Number) (le : ℚ) : Bool := Number.le value (.finite le)

def observeHistogram (histogram : Histogram) (value : Number) : Histogram where
  sum := histogram.sum.add value
  count := histogram.count + 1
  buckets := histogram.buckets.map fun bucket =>
    if atMost value bucket.le then { bucket with count := bucket.count + 1 } else bucket

/-- The first bound that the observations of a percentile do not exceed, or else the last. -/
def calculatePercentile (histogram : Histogram) (percentile : ℚ) : ℚ :=
  if histogram.count = 0 then 0
  else
    let targetCount := ⌈percentile / 100 * histogram.count⌉
    match histogram.buckets.find? fun bucket => targetCount ≤ (bucket.count : ℤ) with
    | some bucket => bucket.le
    -- All histograms have buckets.
    | none => (histogram.buckets.getLast?.map HistogramBucket.le).getD 0

/-- The histogram after a sequence of observations. -/
def observed (observations : List Number) : Histogram :=
  observations.foldl observeHistogram (createHistogram latencyBuckets)

def Reaches (observations : List Number) (percentile le : ℚ) : Prop :=
  percentile / 100 * observations.length ≤ observations.countP (atMost · le)

instance (observations : List Number) (percentile le : ℚ) :
    Decidable (Reaches observations percentile le) := inferInstanceAs (Decidable (_ ≤ _))

structure HistogramLaw (observations : List Number) : Prop where
  total : (observed observations).count = observations.length
  counted : ∀ bucket ∈ (observed observations).buckets,
    bucket.count = observations.countP (atMost · bucket.le)
  monotone : (observed observations).buckets.Pairwise fun lower upper =>
    lower.le < upper.le ∧ lower.count ≤ upper.count
  last : ∃ bucket ∈ (observed observations).buckets.getLast?, bucket.le = 5000 ∧
    (bucket.count = observations.length ↔ ∀ value ∈ observations, atMost value 5000 = true)
  /-- A percentile that some bound reaches is read as the first bound that does. -/
  sound : ∀ percentile, Reaches observations percentile 5000 →
    Reaches observations percentile (calculatePercentile (observed observations) percentile) ∧
      ∀ le ∈ latencyBuckets, Reaches observations percentile le →
        calculatePercentile (observed observations) percentile ≤ le
  /-- Any other is read as the last bound. -/
  beyond : ∀ percentile, ¬ Reaches observations percentile 5000 →
    calculatePercentile (observed observations) percentile = 5000

variable {observations : List Number}

theorem foldl_observeHistogram (bounds : List ℚ) (observations : List Number) :
    observations.foldl observeHistogram (createHistogram bounds) =
      { buckets := bounds.map fun le => ⟨le, observations.countP (atMost · le)⟩
        sum := observations.foldl Number.add (.finite 0)
        count := observations.length } := by
  -- The last observation is counted in every bucket that it does not exceed.
  induction observations using List.reverseRecOn with
  | nil => rfl
  | append_singleton earlier value ih =>
    rw [List.foldl_concat, ih]
    simp only [observeHistogram, List.map_map, List.countP_append, List.countP_singleton,
      List.foldl_concat, List.length_append, List.length_singleton]
    congr 1
    apply List.map_congr_left
    intro le _
    show (if atMost value le = true then _ else _) = _
    split <;> simp [*]

theorem atMost_mono {value : Number} {lower upper : ℚ} (ordered : lower ≤ upper)
    (below : atMost value lower = true) : atMost value upper = true := by
  cases value with
  | finite value =>
    simp only [atMost, Number.le_finite, decide_eq_true_eq] at below ⊢
    exact below.trans ordered
  | infinity negative => exact below
  | nan => exact below

theorem countP_atMost_mono {lower upper : ℚ} (ordered : lower ≤ upper) :
    observations.countP (atMost · lower) ≤ observations.countP (atMost · upper) :=
  List.countP_mono_left fun _ _ => atMost_mono ordered

theorem calculatePercentile_observed (present : observations ≠ []) (percentile : ℚ) :
    calculatePercentile (observed observations) percentile =
      (latencyBuckets.find? fun le => decide (Reaches observations percentile le)).getD 5000 := by
  have some_count : observations.length ≠ 0 := mt List.length_eq_zero_iff.mp present
  -- A whole number is above the target exactly when it is above what the target rounds up.
  have target (le : ℚ) :
      decide (⌈percentile / 100 * observations.length⌉ ≤
          (observations.countP (atMost · le) : ℤ)) =
        decide (Reaches observations percentile le) := by
    rw [decide_eq_decide, Int.ceil_le, Reaches]
    norm_cast
  rw [observed, foldl_observeHistogram]
  simp only [calculatePercentile, if_neg some_count, List.find?_map, Function.comp_def, target]
  cases latencyBuckets.find? fun le => decide (Reaches observations percentile le) <;> rfl

theorem sorted_latencyBuckets : latencyBuckets.Pairwise (· < ·) := by
  decide +kernel

theorem le_of_find? {reaches : ℚ → Bool} {first le : ℚ}
    (found : latencyBuckets.find? reaches = some first) (member : le ∈ latencyBuckets)
    (reached : reaches le = true) : first ≤ le := by
  obtain ⟨_, before, after, split, earlier⟩ := List.find?_eq_some_iff_append.mp found
  have sorted := sorted_latencyBuckets
  rw [split] at member sorted
  rcases List.mem_append.mp member with inside | inside
  · exact absurd reached (by simpa using earlier le inside)
  · rcases List.mem_cons.mp inside with rfl | later
    · exact le_rfl
    · exact ((List.pairwise_cons.mp (List.pairwise_append.mp sorted).2.1).1 le later).le

end BitBrat
