import Mathlib.Data.Rat.Floor
import BitBrat.Types.Event

/-! Choosing the candidate that an egress event marks as selected. -/

namespace BitBrat

open Js

/-- The number under a property, or the default when there is none. -/
def numberOr (candidate : Value) (name : String) (fallback : Number) : Number :=
  match candidate.get name with
  | .num value => value
  | _ => fallback

/-- The least of some numbers, starting from positive infinity. -/
def minimum (numbers : List Number) : Number :=
  numbers.foldl (fun least number =>
    -- Not-a-number absorbs every comparison.
    if least = .nan ∨ number = .nan then .nan else if number.lt least then number else least)
    (.infinity false)

/-- The greatest of some numbers, starting from negative infinity. -/
def maximum (numbers : List Number) : Number :=
  numbers.foldl (fun most number =>
    if most = .nan ∨ number = .nan then .nan else if most.lt number then number else most)
    (.infinity true)

def strictlyEqual (left right : Number) : Bool := left = right ∧ left ≠ .nan

/--
The best candidate: lowest priority first, then highest confidence, then a random one.

The random number is drawn from zero up to but not including one.
-/
def selectBestCandidate (random : ℚ) (candidates : Option (List Value)) : Option Value :=
  match candidates with
  | none => none
  | some [] => none
  | some candidates =>
    let priority (candidate : Value) := numberOr candidate "priority" (.infinity false)
    let minPriority := minimum (candidates.map priority)
    let topPriority := candidates.filter fun candidate =>
      strictlyEqual (priority candidate) minPriority
    match topPriority with
    | [only] => some only
    | _ =>
      -- Only where several candidates have the top priority, their confidence counts.
      let confidence (candidate : Value) := numberOr candidate "confidence" (.finite (-1))
      let maxConfidence := maximum (topPriority.map confidence)
      let topConfidence := topPriority.filter fun candidate =>
        strictlyEqual (confidence candidate) maxConfidence
      match topConfidence with
      | [only] => some only
      | _ => topConfidence[(random * topConfidence.length).floor.toNat]?

/-- Mark the selected candidate of an event, if it has any candidates. -/
def markSelectedCandidate (random : ℚ) (event : Event) : Event :=
  match selectBestCandidate random event.candidates with
  | none => event
  | some best =>
    { event with
      candidates := event.candidates.map fun candidates =>
        candidates.map fun candidate =>
          -- The candidates are compared by identifier, which several may share.
          if candidate.get "id" = best.get "id" then
            candidate.extend [("status", .str "selected")]
          else candidate }

/-! The candidates that a draw chooses among: the best ones by priority, then by confidence. -/

section

variable {α β : Type}

def topPriorityBy (priority : α → Number) (items : List α) : List α :=
  items.filter fun item => strictlyEqual (priority item) (minimum (items.map priority))

def topConfidenceBy (confidence : α → Number) (items : List α) : List α :=
  items.filter fun item => strictlyEqual (confidence item) (maximum (items.map confidence))

/-- The items with the lowest priority, and of several those with the highest confidence. -/
def contendersBy (priority confidence : α → Number) (items : List α) : List α :=
  let top := topPriorityBy priority items
  if top.length = 1 then top else topConfidenceBy confidence top

theorem topPriorityBy_map (priority : β → Number) (change : α → β) (items : List α) :
    topPriorityBy priority (items.map change) =
      (topPriorityBy (priority ∘ change) items).map change := by
  simp [topPriorityBy, List.filter_map, Function.comp_def]

theorem topConfidenceBy_map (confidence : β → Number) (change : α → β) (items : List α) :
    topConfidenceBy confidence (items.map change) =
      (topConfidenceBy (confidence ∘ change) items).map change := by
  simp [topConfidenceBy, List.filter_map, Function.comp_def]

theorem contendersBy_map (priority confidence : β → Number) (change : α → β) (items : List α) :
    contendersBy priority confidence (items.map change) =
      (contendersBy (priority ∘ change) (confidence ∘ change) items).map change := by
  unfold contendersBy
  simp only [topPriorityBy_map, topConfidenceBy_map, List.length_map, apply_ite (List.map change)]

theorem mem_of_mem_contendersBy {priority confidence : α → Number} {items : List α} {item : α}
    (member : item ∈ contendersBy priority confidence items) : item ∈ items := by
  simp only [contendersBy] at member
  split at member
  · exact List.mem_of_mem_filter member
  · exact List.mem_of_mem_filter (List.mem_of_mem_filter member)

end

/-- The priority that a candidate is chosen by, lowest first. -/
def priorityOf (candidate : Value) : Number := numberOr candidate "priority" (.infinity false)

/-- The confidence that a candidate is chosen by, highest first. -/
def confidenceOf (candidate : Value) : Number := numberOr candidate "confidence" (.finite (-1))

def contenders (candidates : List Value) : List Value :=
  contendersBy priorityOf confidenceOf candidates

/-- A random number as it is drawn, from zero up to but not including one. -/
def Draw (random : ℚ) : Prop := 0 ≤ random ∧ random < 1

def drawnIndex (random : ℚ) (length : Nat) : Nat := (random * length).floor.toNat

theorem drawnIndex_one {random : ℚ} (draw : Draw random) : drawnIndex random 1 = 0 := by
  have floor : ⌊random⌋ = 0 := Int.floor_eq_zero_iff.mpr draw
  have same : random.floor = 0 := floor
  simp [drawnIndex, same]

theorem drawnIndex_lt {random : ℚ} (draw : Draw random) {length : Nat} (some_left : 0 < length) :
    drawnIndex random length < length := by
  have positive : (0 : ℚ) < length := by exact_mod_cast some_left
  have below : random * length < length := by nlinarith only [draw.2, positive]
  have floored : ⌊random * length⌋ < length := Int.floor_lt.mpr (by exact_mod_cast below)
  have same : (random * length).floor < length := floored
  unfold drawnIndex
  omega

theorem exists_draw {index length : Nat} (bound : index < length) :
    ∃ random, Draw random ∧ drawnIndex random length = index := by
  have positive : (0 : ℚ) < length := by exact_mod_cast Nat.zero_lt_of_lt bound
  -- The draw at the lower end of the interval of a position hits it.
  refine ⟨index / length, ⟨by positivity, ?_⟩, ?_⟩
  · rw [div_lt_one positive]
    exact_mod_cast bound
  · have whole : (index / length : ℚ) * length = index := div_mul_cancel₀ _ positive.ne'
    have floor : ⌊(index : ℚ)⌋ = index := Int.floor_natCast index
    have same : (index : ℚ).floor = index := floor
    rw [drawnIndex, whole, same]
    rfl

theorem selectBestCandidate_eq {random : ℚ} (draw : Draw random) (candidates : List Value) :
    selectBestCandidate random (some candidates) =
      (contenders candidates)[drawnIndex random (contenders candidates).length]? := by
  have unfolded : contenders candidates =
      if (topPriorityBy priorityOf candidates).length = 1 then topPriorityBy priorityOf candidates
      else topConfidenceBy confidenceOf (topPriorityBy priorityOf candidates) := rfl
  match candidates with
  | [] => rfl
  | first :: rest =>
    simp only [selectBestCandidate]
    split
    · -- Every draw chooses the only candidate with the lowest priority.
      rename_i only alone
      have top : topPriorityBy priorityOf (first :: rest) = [only] := alone
      rw [unfolded, top]
      simp [drawnIndex_one draw]
    · rename_i several
      have top : (topPriorityBy priorityOf (first :: rest)).length ≠ 1 := fun one => by
        obtain ⟨only, alone⟩ := List.length_eq_one_iff.mp one
        exact several only alone
      rw [if_neg top] at unfolded
      split
      · -- Nor is there a choice where only one of them has the highest confidence.
        rename_i only alone
        have best : topConfidenceBy confidenceOf (topPriorityBy priorityOf (first :: rest)) =
          [only] := alone
        rw [unfolded, best]
        simp [drawnIndex_one draw]
      · rw [unfolded]
        rfl

theorem selectBestCandidate_isSome_iff {random : ℚ} (draw : Draw random)
    (candidates : List Value) :
    (selectBestCandidate random (some candidates)).isSome ↔ contenders candidates ≠ [] := by
  rw [selectBestCandidate_eq draw, isSome_getElem?, ← List.length_pos_iff_ne_nil]
  exact ⟨Nat.zero_lt_of_lt, drawnIndex_lt draw⟩

theorem exists_selectBestCandidate_iff {candidates : List Value} {candidate : Value} :
    (∃ random, Draw random ∧ selectBestCandidate random (some candidates) = some candidate) ↔
      candidate ∈ contenders candidates := by
  constructor
  · rintro ⟨random, draw, chosen⟩
    rw [selectBestCandidate_eq draw] at chosen
    exact List.mem_of_getElem? chosen
  · -- Every contender has a position, and every position is drawn.
    intro member
    obtain ⟨index, bound, found⟩ := List.mem_iff_getElem.mp member
    obtain ⟨random, draw, drawn⟩ := exists_draw bound
    refine ⟨random, draw, ?_⟩
    rw [selectBestCandidate_eq draw, drawn, List.getElem?_eq_getElem bound, found]

end BitBrat
