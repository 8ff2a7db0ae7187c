import BitBrat.Js.Sort
import BitBrat.Routing.Contenders

/-! The candidate that is marked: that it is the best one, and the only one. -/

namespace BitBrat

open Js

/-- A candidate goes before another: by a lower priority, and then by a higher confidence. -/
def Beats (first second : Value) : Prop :=
  (priorityOf first).lt (priorityOf second) = true ∨
    (priorityOf first = priorityOf second ∧
      (confidenceOf second).lt (confidenceOf first) = true)

def isSelected (candidate : Value) : Bool := candidate.get "status" = .str "selected"

def remainingCandidates (random : ℚ) (event : Event) : List Value :=
  (markSelectedCandidate random event).candidates.getD []

/-- The chosen candidate at a position: no other beats it, it alone is selected, and the others
stay as they are, except that they are selected no more. -/
structure SelectedAt (random : ℚ) (event : Event) (candidates : List Value) (index : Nat)
    (chosen : Value) : Prop where
  found : candidates[index]? = some chosen
  returned : selectBestCandidate random (some candidates) = some chosen
  best : ∀ other ∈ candidates, ¬ Beats other chosen
  only : ∀ (position : Nat) (marked : Value),
    (remainingCandidates random event)[position]? = some marked →
      (isSelected marked = true ↔ position = index)
  kept : ∀ (position : Nat) (candidate : Value), position ≠ index →
    candidates[position]? = some candidate →
      ∃ marked : Value, (remainingCandidates random event)[position]? = some marked ∧
        ∀ field, (field ≠ "status" ∨ isSelected candidate = false) →
          marked.get field = candidate.get field

def SelectionLaw (random : ℚ) (event : Event) (candidates : List Value) : Prop :=
  ∃ index chosen, SelectedAt random event candidates index chosen

/-- The candidates can be compared: their priorities, and the confidences that matter. -/
structure Comparable (candidates : List Value) : Prop where
  priorities : ∀ candidate ∈ candidates, priorityOf candidate ≠ .nan
  confidences : (topPriorityBy priorityOf candidates).length ≠ 1 →
    ∀ candidate ∈ topPriorityBy priorityOf candidates, confidenceOf candidate ≠ .nan

/-- Beside a candidate that may be chosen, no other has its identifier or is selected already. -/
def ChosenAlone (candidates : List Value) : Prop :=
  ∀ (index : Nat) (chosen : Value), candidates[index]? = some chosen →
    chosen ∈ contenders candidates →
    ∀ (position : Nat) (other : Value), candidates[position]? = some other → position ≠ index →
      other.get "id" ≠ chosen.get "id" ∧ isSelected other = false

theorem foldl_best {better : Number → Number → Bool}
    (transitive : ∀ first second third, better first second = true →
      better second third = true → better first third = true)
    (total : ∀ first second, first ≠ .nan → second ≠ .nan → first ≠ second →
      better first second = true ∨ better second first = true)
    (irreflexive : ∀ number, better number number = false)
    (numbers : List Number) (first : Number) :
    let best := numbers.foldl (fun best number =>
      if best = .nan ∨ number = .nan then .nan
      else if better number best then number else best) first
    (best ≠ .nan ↔ ∀ number ∈ first :: numbers, number ≠ .nan) ∧
      (best ≠ .nan → best ∈ first :: numbers ∧
        ∀ number ∈ first :: numbers, better number best = false) := by
  -- The induction is on the numbers, for every best one so far.
  induction numbers generalizing first with
  | nil => simp [irreflexive]
  | cons number rest ih =>
    simp only [List.foldl_cons]
    by_cases unknown : first = .nan ∨ number = .nan
    · rw [if_pos unknown]
      have absorbed := (ih .nan).1
      have lost : ¬ ∀ other ∈ Number.nan :: rest, other ≠ .nan :=
        fun all => all .nan List.mem_cons_self rfl
      have fold := (not_congr absorbed).mpr lost
      refine ⟨⟨fun found => absurd found fold, fun all => ?_⟩, fun found => absurd found fold⟩
      rcases unknown with same | same
      · exact absurd same (all first (by simp))
      · exact absurd same (all number (by simp))
    · rw [if_neg unknown]
      push Not at unknown
      obtain ⟨known, known'⟩ := unknown
      by_cases wins : better number first = true
      · rw [if_pos wins]
        obtain ⟨finite, best⟩ := ih number
        constructor
        · rw [finite]
          simp [known]
        · intro found
          obtain ⟨member, least⟩ := best found
          refine ⟨List.mem_cons_of_mem _ member, ?_⟩
          intro other inside
          rcases List.mem_cons.mp inside with rfl | later
          · -- The one that was best so far is worse than the number that replaces it.
            by_contra beats
            have through := transitive _ _ _ wins (by simpa using beats)
            rw [least number List.mem_cons_self] at through
            cases through
          · exact least other later
      · rw [if_neg wins]
        obtain ⟨finite, best⟩ := ih first
        constructor
        · rw [finite]
          simp [known']
        · intro found
          obtain ⟨member, least⟩ := best found
          have kept := least first List.mem_cons_self
          constructor
          · rcases List.mem_cons.mp member with same | later
            · rw [same]
              exact List.mem_cons_self
            · exact List.mem_cons_of_mem _ (List.mem_cons_of_mem _ later)
          · intro other inside
            rcases List.mem_cons.mp inside with rfl | later
            · exact kept
            · rcases List.mem_cons.mp later with rfl | later
              · -- A number that does not replace the best so far is no better than the last best.
                by_contra beats
                have beats := Bool.eq_true_of_not_eq_false beats
                rcases eq_or_ne first (rest.foldl _ first) with same | apart
                · exact wins (same ▸ beats)
                · rcases total _ _ known found apart with below | above
                  · rw [kept] at below
                    cases below
                  · exact wins (transitive _ _ _ beats above)
              · exact least other (List.mem_cons_of_mem _ later)

theorem eq_of_not_lt_infinity {number : Number} (known : number ≠ .nan)
    (above : number.lt (.infinity false) = false) : number = .infinity false := by
  cases number with
  | finite value => simp [Number.lt] at above
  | infinity negative => cases negative <;> simp_all [Number.lt]
  | nan => exact absurd rfl known

theorem eq_of_not_infinity_lt {number : Number} (known : number ≠ .nan)
    (below : (Number.infinity true).lt number = false) : number = .infinity true := by
  cases number with
  | finite value => simp [Number.lt] at below
  | infinity negative => cases negative <;> simp_all [Number.lt]
  | nan => exact absurd rfl known

theorem minimum_spec {numbers : List Number} (nonempty : numbers ≠ []) :
    (minimum numbers ≠ .nan ↔ ∀ number ∈ numbers, number ≠ .nan) ∧
      (minimum numbers ≠ .nan → minimum numbers ∈ numbers ∧
        ∀ number ∈ numbers, number.lt (minimum numbers) = false) := by
  obtain ⟨finite, least⟩ := @foldl_best (fun number best => number.lt best)
    (fun _ _ _ => Number.lt_trans)
    (fun first second left right apart => Number.lt_or_lt apart left right) Number.lt_irrefl
    numbers (.infinity false)
  have known : minimum numbers ≠ .nan ↔ ∀ number ∈ numbers, number ≠ .nan :=
    finite.trans (by simp)
  refine ⟨known, fun found => ?_⟩
  have below : ∀ number ∈ numbers, number.lt (minimum numbers) = false :=
    fun number member => (least found).2 number (List.mem_cons_of_mem _ member)
  refine ⟨?_, below⟩
  rcases List.mem_cons.mp (least found).1 with infinite | inside
  · -- Where the least one is infinite, so are all.
    have same : minimum numbers = .infinity false := infinite
    obtain ⟨number, member⟩ := List.exists_mem_of_ne_nil _ nonempty
    have above := below number member
    rw [same] at above ⊢
    rw [← eq_of_not_lt_infinity (known.mp found number member) above]
    exact member
  · exact inside

theorem maximum_spec {numbers : List Number} (nonempty : numbers ≠ []) :
    (maximum numbers ≠ .nan ↔ ∀ number ∈ numbers, number ≠ .nan) ∧
      (maximum numbers ≠ .nan → maximum numbers ∈ numbers ∧
        ∀ number ∈ numbers, (maximum numbers).lt number = false) := by
  obtain ⟨finite, most⟩ := @foldl_best (fun number best => best.lt number)
    (fun _ _ _ left right => Number.lt_trans right left)
    (fun first second left right apart => Number.lt_or_lt apart.symm right left)
    Number.lt_irrefl numbers (.infinity true)
  have known : maximum numbers ≠ .nan ↔ ∀ number ∈ numbers, number ≠ .nan :=
    finite.trans (by simp)
  refine ⟨known, fun found => ?_⟩
  have above : ∀ number ∈ numbers, (maximum numbers).lt number = false :=
    fun number member => (most found).2 number (List.mem_cons_of_mem _ member)
  refine ⟨?_, above⟩
  rcases List.mem_cons.mp (most found).1 with infinite | inside
  · have same : maximum numbers = .infinity true := infinite
    obtain ⟨number, member⟩ := List.exists_mem_of_ne_nil _ nonempty
    have below := above number member
    rw [same] at below ⊢
    rw [← eq_of_not_infinity_lt (known.mp found number member) below]
    exact member
  · exact inside

theorem filter_best_ne_nil_iff {α : Type} {key : α → Number} {items : List α}
    {best : Number} (known : best ≠ .nan ↔ ∀ number ∈ items.map key, number ≠ .nan)
    (attained : best ≠ .nan → best ∈ items.map key) :
    (items.filter fun item => strictlyEqual (key item) best) ≠ [] ↔
      ∀ item ∈ items, key item ≠ .nan := by
  constructor
  · intro some_left
    obtain ⟨item, member⟩ := List.exists_mem_of_ne_nil _ some_left
    have equal := (List.mem_filter.mp member).2
    simp only [strictlyEqual, Bool.decide_and, Bool.and_eq_true, decide_eq_true_eq] at equal
    have found : best ≠ .nan := equal.1 ▸ equal.2
    exact fun other inside => known.mp found _ (List.mem_map_of_mem inside)
  · intro numbers
    have found : best ≠ .nan := by
      rw [known]
      intro number member
      obtain ⟨item, inside, rfl⟩ := List.mem_map.mp member
      exact numbers item inside
    obtain ⟨item, inside, same⟩ := List.mem_map.mp (attained found)
    apply List.ne_nil_of_mem
    exact List.mem_filter.mpr ⟨inside, by simp [strictlyEqual, same, found]⟩

variable {candidates : List Value}

theorem contenders_ne_nil_iff (nonempty : candidates ≠ []) :
    contenders candidates ≠ [] ↔ Comparable candidates := by
  have filled : candidates.map priorityOf ≠ [] := by simpa using nonempty
  obtain ⟨known, least⟩ := minimum_spec filled
  have priorities : topPriorityBy priorityOf candidates ≠ [] ↔
      ∀ candidate ∈ candidates, priorityOf candidate ≠ .nan :=
    filter_best_ne_nil_iff known fun found => (least found).1
  have confidences (some_left : topPriorityBy priorityOf candidates ≠ []) :
      topConfidenceBy confidenceOf (topPriorityBy priorityOf candidates) ≠ [] ↔
        ∀ candidate ∈ topPriorityBy priorityOf candidates, confidenceOf candidate ≠ .nan := by
    have filled : (topPriorityBy priorityOf candidates).map confidenceOf ≠ [] := by
      simpa using some_left
    obtain ⟨known, most⟩ := maximum_spec filled
    exact filter_best_ne_nil_iff known fun found => (most found).1
  unfold contenders contendersBy
  dsimp only
  split
  case isTrue single =>
    have some_left : topPriorityBy priorityOf candidates ≠ [] := by
      apply List.ne_nil_of_length_pos
      omega
    exact ⟨fun _ => ⟨priorities.mp some_left, fun several => absurd single several⟩,
      fun _ => some_left⟩
  case isFalse several =>
    constructor
    · intro best
      have some_left : topPriorityBy priorityOf candidates ≠ [] := by
        intro empty
        rw [empty] at best
        exact best rfl
      exact ⟨priorities.mp some_left, fun _ => (confidences some_left).mp best⟩
    · intro comparable
      exact (confidences (priorities.mpr comparable.priorities)).mpr
        (comparable.confidences several)

theorem mem_topPriorityBy {chosen : Value}
    (member : chosen ∈ topPriorityBy priorityOf candidates) :
    chosen ∈ candidates ∧ ∀ other ∈ candidates,
      (priorityOf other).lt (priorityOf chosen) = false ∧
        (priorityOf other = priorityOf chosen → other ∈ topPriorityBy priorityOf candidates) := by
  obtain ⟨inside, equal⟩ := List.mem_filter.mp member
  simp only [strictlyEqual, Bool.decide_and, Bool.and_eq_true, decide_eq_true_eq] at equal
  have filled : candidates.map priorityOf ≠ [] := by
    apply List.ne_nil_of_mem
    exact List.mem_map_of_mem inside
  have found : minimum (candidates.map priorityOf) ≠ .nan := equal.1 ▸ equal.2
  refine ⟨inside, fun other listed => ⟨?_, fun same => ?_⟩⟩
  · rw [equal.1]
    exact ((minimum_spec filled).2 found).2 _ (List.mem_map_of_mem listed)
  · refine List.mem_filter.mpr ⟨listed, ?_⟩
    simp [strictlyEqual, same, equal.1, found]

theorem not_beats_of_mem_contenders {chosen : Value}
    (member : chosen ∈ contenders candidates) : ∀ other ∈ candidates, ¬ Beats other chosen := by
  unfold contenders contendersBy at member
  dsimp only at member
  split at member
  case isTrue single =>
    obtain ⟨-, lowest⟩ := mem_topPriorityBy member
    rintro other listed (lower | ⟨same, higher⟩)
    · rw [(lowest other listed).1] at lower
      cases lower
    · -- The only candidate of its priority is no other one.
      obtain ⟨only, alone⟩ := List.length_eq_one_iff.mp single
      have one := (lowest other listed).2 same
      rw [alone, List.mem_singleton] at member one
      rw [member, one, Number.lt_irrefl] at higher
      cases higher
  case isFalse =>
    obtain ⟨top, equal⟩ := List.mem_filter.mp member
    obtain ⟨-, lowest⟩ := mem_topPriorityBy top
    simp only [strictlyEqual, Bool.decide_and, Bool.and_eq_true, decide_eq_true_eq] at equal
    rintro other listed (lower | ⟨same, higher⟩)
    · rw [(lowest other listed).1] at lower
      cases lower
    · have one := (lowest other listed).2 same
      have filled : (topPriorityBy priorityOf candidates).map confidenceOf ≠ [] := by
        apply List.ne_nil_of_mem
        exact List.mem_map_of_mem one
      have found : maximum ((topPriorityBy priorityOf candidates).map confidenceOf) ≠ .nan :=
        equal.1 ▸ equal.2
      rw [equal.1, ((maximum_spec filled).2 found).2 _ (List.mem_map_of_mem one)] at higher
      cases higher

def markBeside (best candidate : Value) : Value :=
  if candidate.get "id" = best.get "id" then candidate.extend [("status", .str "selected")]
  else candidate

theorem isSelected_markBeside (best candidate : Value) :
    isSelected (markBeside best candidate) =
      (decide (candidate.get "id" = best.get "id") || isSelected candidate) := by
  unfold markBeside isSelected
  by_cases same : candidate.get "id" = best.get "id"
  · simp [same, Value.get_extend]
  · simp [same]

theorem remainingCandidates_eq {random : ℚ} {event : Event} {best : Value}
    (has : event.candidates = some candidates)
    (returned : selectBestCandidate random (some candidates) = some best) :
    remainingCandidates random event = candidates.map (markBeside best) := by
  unfold remainingCandidates markSelectedCandidate
  rw [has, returned]
  rfl

/-- Whatever is drawn, the best candidate is selected, and it alone: exactly when the candidates can
be compared, and one that may be chosen shares its identifier with no other, and no other is
selected already. -/
theorem selection_lawful_iff (event : Event) (candidates : List Value) (nonempty : candidates ≠ [])
    (has : event.candidates = some candidates) :
    (∀ random, Draw random → SelectionLaw random event candidates) ↔
      Comparable candidates ∧ ChosenAlone candidates := by
  constructor
  · intro law
    constructor
    · obtain ⟨index, chosen, selected⟩ := law 0 ⟨le_refl 0, by norm_num⟩
      have some_left := (selectBestCandidate_isSome_iff ⟨le_refl 0, by norm_num⟩ candidates).mp
        (Option.isSome_of_eq_some selected.returned)
      exact (contenders_ne_nil_iff nonempty).mp some_left
    · intro index chosen found member position other listed apart
      obtain ⟨random, draw, returned⟩ := exists_selectBestCandidate_iff.mpr member
      obtain ⟨here, best, selected⟩ := law random draw
      have same : best = chosen := by
        have both := selected.returned.symm.trans returned
        exact Option.some.inj both
      subst same
      have marks (place : Nat) (candidate : Value) (there : candidates[place]? = some candidate) :
          isSelected (markBeside best candidate) = true ↔ place = here := by
        apply selected.only place
        rw [remainingCandidates_eq has returned, List.getElem?_map, there]
        rfl
      -- The position that is asked about is the one that is selected.
      have placed : index = here := by
        rw [← marks index best found, isSelected_markBeside]
        simp
      have unmarked : ¬ isSelected (markBeside best other) = true := by
        rw [marks position other listed]
        omega
      rw [isSelected_markBeside] at unmarked
      simpa using unmarked
  · rintro ⟨comparable, alone⟩ random draw
    have some_left := (contenders_ne_nil_iff nonempty).mpr comparable
    obtain ⟨chosen, returned⟩ := Option.isSome_iff_exists.mp
      ((selectBestCandidate_isSome_iff draw candidates).mpr some_left)
    have member := exists_selectBestCandidate_iff.mp ⟨random, draw, returned⟩
    obtain ⟨index, bound, found⟩ := List.mem_iff_getElem.mp (mem_of_mem_contendersBy member)
    have there : candidates[index]? = some chosen := by
      rw [List.getElem?_eq_getElem bound, found]
    have beside := alone index chosen there member
    refine ⟨index, chosen, there, returned, not_beats_of_mem_contenders member, ?_, ?_⟩
    · intro position marked inside
      rw [remainingCandidates_eq has returned, List.getElem?_map, Option.map_eq_some_iff] at inside
      obtain ⟨candidate, listed, rfl⟩ := inside
      rw [isSelected_markBeside]
      constructor
      · intro selected
        by_contra apart
        obtain ⟨other, unselected⟩ := beside position candidate listed apart
        simp [other, unselected] at selected
      · rintro rfl
        rw [there, Option.some.injEq] at listed
        simp [listed]
    · intro position candidate apart listed
      obtain ⟨other, -⟩ := beside position candidate listed apart
      refine ⟨candidate, ?_, fun _ _ => rfl⟩
      rw [remainingCandidates_eq has returned, List.getElem?_map, listed]
      simp [markBeside, other]

def sampleCandidate (id status : String) (priority : Number) : Value :=
  .obj [("id", .str id), ("status", .str status), ("priority", .num priority)]

def withCandidates (candidates : List Value) : Event :=
  { correlationId := "c-1", type := "chat.message.v1", candidates := some candidates }

/-- Two candidates with identifiers of their own, of which none is selected yet. -/
def twoProposed : List Value :=
  [sampleCandidate "a" "proposed" (.finite 2), sampleCandidate "b" "proposed" (.finite 1)]

/-- Of two proposed candidates the one of the lower priority is selected. -/
theorem selection_lawful_twoProposed : SelectionLaw 0 (withCandidates twoProposed) twoProposed := by
  have best : contenders twoProposed = [sampleCandidate "b" "proposed" (.finite 1)] := by
    decide +kernel
  refine (selection_lawful_iff (withCandidates twoProposed) twoProposed (by simp [twoProposed])
    rfl).mpr ⟨?_, ?_⟩ 0 ⟨le_refl 0, by norm_num⟩
  · exact (contenders_ne_nil_iff (by simp [twoProposed])).mp (by simp [best])
  · intro index chosen found member position other listed apart
    rw [best, List.mem_singleton] at member
    subst member
    match index, position with
    | 0, _ => exact absurd found (by decide +kernel)
    | 1, 0 =>
      cases listed
      decide +kernel
    | 1, 1 => exact absurd rfl apart
    | _, position + 2 => simp [twoProposed] at listed
    | index + 2, _ => simp [twoProposed] at found

/-- Candidates that share an identifier are both selected, one that was selected stays so, and of
candidates that cannot be compared none is chosen. -/
theorem selection_unlawful :
    ¬ SelectionLaw 0 (withCandidates [sampleCandidate "a" "proposed" (.finite 1),
        sampleCandidate "a" "proposed" (.finite 2)])
      [sampleCandidate "a" "proposed" (.finite 1), sampleCandidate "a" "proposed" (.finite 2)] ∧
    ¬ SelectionLaw 0 (withCandidates [sampleCandidate "a" "proposed" (.finite 1),
        sampleCandidate "b" "selected" (.finite 2)])
      [sampleCandidate "a" "proposed" (.finite 1), sampleCandidate "b" "selected" (.finite 2)] ∧
    ¬ SelectionLaw 0 (withCandidates [sampleCandidate "a" "proposed" .nan])
      [sampleCandidate "a" "proposed" .nan] := by
  refine ⟨?_, ?_, ?_⟩
  · rintro ⟨index, chosen, selected⟩
    have first := (selected.only 0 _ rfl).mp (by decide +kernel)
    have second := (selected.only 1 _ rfl).mp (by decide +kernel)
    omega
  · rintro ⟨index, chosen, selected⟩
    have first := (selected.only 0 _ rfl).mp (by decide +kernel)
    have second := (selected.only 1 _ rfl).mp (by decide +kernel)
    omega
  · rintro ⟨index, chosen, selected⟩
    have none : selectBestCandidate 0 (some [sampleCandidate "a" "proposed" .nan]) = none := by
      decide +kernel
    rw [selected.returned] at none
    cases none

end BitBrat
