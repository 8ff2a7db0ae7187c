import Mathlib.Data.List.Sort
import Mathlib.Data.Multiset.Count
import Mathlib.Data.List.Basic

/-! The longest suffix of a list that passes a test, which is what a bounded log keeps. -/

namespace Machine

section

variable {α : Type}

/-- The longest suffix that passes a test, where the empty one is kept in any case. -/
def longestSuffix (fits : List α → Bool) : List α → List α
  | [] => []
  | item :: rest => if fits (item :: rest) then item :: rest else longestSuffix fits rest

@[simp] theorem longestSuffix_nil (fits : List α → Bool) : longestSuffix fits [] = [] := rfl

variable {fits : List α → Bool}

theorem longestSuffix_eq_self {items : List α} (passes : fits items = true) :
    longestSuffix fits items = items := by
  cases items with
  | nil => rfl
  | cons item rest => rw [longestSuffix, if_pos passes]

structure IsLongestSuffix (fits : List α → Bool) (items kept : List α) : Prop where
  suffix : kept <:+ items
  passes : fits kept = true
  longest : ∀ other, other <:+ items → fits other = true → other <:+ kept

theorem IsLongestSuffix.unique {items kept other : List α}
    (first : IsLongestSuffix fits items kept) (second : IsLongestSuffix fits items other) :
    kept = other :=
  (second.longest kept first.suffix first.passes).eq_of_length_le
    (first.longest other second.suffix second.passes).length_le

theorem isLongestSuffix {fits : List α → Bool} (empty : fits [] = true) (items : List α) :
    IsLongestSuffix fits items (longestSuffix fits items) := by
  induction items with
  | nil => exact ⟨List.suffix_refl _, empty, fun _ ends _ => ends⟩
  | cons item rest ih =>
    by_cases passes : fits (item :: rest) = true
    · rw [longestSuffix_eq_self passes]
      exact ⟨List.suffix_refl _, passes, fun _ ends _ => ends⟩
    · rw [longestSuffix, if_neg passes]
      refine ⟨ih.suffix.trans (List.suffix_cons item rest), ih.passes, ?_⟩
      intro other ends fit
      -- The whole list does not pass, so that the other suffix is one of the rest.
      rcases List.suffix_cons_iff.mp ends with rfl | ends
      · exact absurd fit passes
      · exact ih.longest other ends fit

theorem longestSuffix_append
    (closed : ∀ before after, fits (before ++ after) = true → fits before = true)
    (items more : List α) :
    longestSuffix fits (longestSuffix fits items ++ more) = longestSuffix fits (items ++ more) := by
  -- The first item is cut from the list alone only if it is cut from the longer list as well.
  induction items with
  | nil => rfl
  | cons item rest ih =>
    by_cases passes : fits (item :: rest) = true
    · rw [longestSuffix_eq_self passes]
    · have longer : ¬ fits (item :: (rest ++ more)) = true :=
        fun all => passes (closed (item :: rest) more all)
      rw [longestSuffix, if_neg passes, ih, List.cons_append, longestSuffix, if_neg longer]

theorem longestSuffix_longestSuffix {also : List α → Bool}
    (closed : ∀ before after, fits (before ++ after) = true → fits after = true) (items : List α) :
    longestSuffix also (longestSuffix fits items) =
      longestSuffix (fun kept => fits kept && also kept) items := by
  induction items with
  | nil => rfl
  | cons item rest ih =>
    by_cases passes : fits (item :: rest) = true
    · rw [longestSuffix_eq_self passes]
      -- All suffixes pass the first test, so that only the second decides.
      clear ih
      generalize item :: rest = whole at passes
      induction whole with
      | nil => rfl
      | cons head tail ih =>
        have shorter : fits tail = true := closed [head] tail passes
        simp only [longestSuffix, passes, Bool.true_and, ih shorter]
    · have both : ¬ (fits (item :: rest) && also (item :: rest)) = true := by simp [passes]
      rw [longestSuffix, if_neg passes, ih]
      exact (if_neg both).symm

theorem longestSuffix_length (limit : Nat) (items : List α) :
    longestSuffix (fun kept => decide (kept.length ≤ limit)) items =
      items.drop (items.length - limit) := by
  induction items with
  | nil => simp
  | cons item rest ih =>
    by_cases short : (item :: rest).length ≤ limit
    · rw [longestSuffix_eq_self (by simpa using short), Nat.sub_eq_zero_of_le short, List.drop_zero]
    · have longer : (item :: rest).length - limit = rest.length - limit + 1 := by
        simp only [List.length_cons] at short ⊢
        omega
      rw [longestSuffix, if_neg (by simpa using short), ih, longer, List.drop_succ_cons]

end

/-! The elements of a list that have the highest keys, and when they do not depend on its order. -/

variable {α β κ : Type} [LinearOrder κ] (key : α → κ)

/-- A number of elements of the highest keys, the highest first, where equals keep their order. -/
def mostRecent (count : Nat) (list : List α) : List α :=
  (list.mergeSort fun left right => key right ≤ key left).take count

def CutBeside (count : Nat) (list : List α) (level : κ) : Prop :=
  count ≤ list.countP (level < key ·) ∨ list.countP (level ≤ key ·) ≤ count

theorem descends_trans (first second third : α)
    (upper : decide (key second ≤ key first) = true)
    (lower : decide (key third ≤ key second) = true) : decide (key third ≤ key first) = true := by
  simp only [decide_eq_true_eq] at upper lower ⊢
  exact lower.trans upper

theorem descends_total (left right : α) :
    (decide (key right ≤ key left) || decide (key left ≤ key right)) = true := by
  simpa using le_total (key right) (key left)

theorem pairwise_mergeSort_key (list : List α) :
    (list.mergeSort fun left right => key right ≤ key left).Pairwise
      fun left right => key right ≤ key left := by
  simpa using List.pairwise_mergeSort (descends_trans key) (descends_total key) list

theorem filter_mergeSort_key (list : List α) (level : κ) :
    (list.mergeSort fun left right => key right ≤ key left).filter (key · = level) =
      list.filter (key · = level) := by
  have equals : (list.filter (key · = level)).Pairwise
      fun left right => decide (key right ≤ key left) = true := by
    refine List.pairwise_iff_forall_sublist.mpr fun {left right} inside => ?_
    have leftLevel := (List.mem_filter.mp (inside.subset (by simp : left ∈ _))).2
    have rightLevel := (List.mem_filter.mp (inside.subset (by simp : right ∈ _))).2
    simp only [decide_eq_true_eq] at leftLevel rightLevel ⊢
    exact (rightLevel.trans leftLevel.symm).le
  -- They are a sublist of what they are in the sorted list, which has no more of them.
  have inside := (List.sublist_mergeSort (descends_trans key) (descends_total key) equals
    List.filter_sublist).filter (key · = level)
  simp only [List.filter_filter, Bool.and_self] at inside
  refine (inside.eq_of_length ?_).symm
  exact ((List.mergeSort_perm list _).filter (key · = level)).length_eq.symm

variable {list : List α}

theorem filter_take_of_pairwise
    (sorted : list.Pairwise fun left right => key right ≤ key left) (count : Nat) (level : κ) :
    (list.take count).filter (key · = level) =
      (list.filter (key · = level)).take (count - list.countP (level < key ·)) := by
  induction list generalizing count with
  | nil => simp
  | cons head rest ih =>
    obtain ⟨ahead, sorted⟩ := List.pairwise_cons.mp sorted
    cases count with
    | zero => simp
    | succ count =>
      rw [List.take_succ_cons, List.filter_cons, List.filter_cons, List.countP_cons, ih sorted]
      rcases lt_trichotomy level (key head) with higher | same | lower
      · -- The head takes one of the places.
        simp [higher, higher.ne']
      · -- Nothing behind the head is higher than it.
        have absent : rest.countP (level < key ·) = 0 := by
          rw [List.countP_eq_zero]
          intro other member
          simpa [same] using ahead other member
        simp [same.symm, absent]
      · -- Nothing behind the head has the key.
        have absent : rest.filter (key · = level) = [] := by
          rw [List.filter_eq_nil_iff]
          intro other member
          simpa using ((ahead other member).trans_lt lower).ne
        simp [lower.ne, absent]

theorem filter_mostRecent (count : Nat) (list : List α) (level : κ) :
    (mostRecent key count list).filter (key · = level) =
      (list.filter (key · = level)).take (count - list.countP (level < key ·)) := by
  rw [mostRecent, filter_take_of_pairwise key (pairwise_mergeSort_key key list),
    filter_mergeSort_key, (List.mergeSort_perm list _).countP_eq]

theorem pairwise_mostRecent (count : Nat) (list : List α) :
    (mostRecent key count list).Pairwise fun left right => key right ≤ key left :=
  (pairwise_mergeSort_key key list).sublist (List.take_sublist count _)

theorem length_mostRecent (count : Nat) (list : List α) :
    (mostRecent key count list).length = min count list.length := by
  rw [mostRecent, List.length_take, List.length_mergeSort]

theorem exists_mostRecent_rest (count : Nat) (list : List α) :
    ∃ rest, (mostRecent key count list ++ rest).Perm list ∧
      ∀ used ∈ mostRecent key count list, ∀ unused ∈ rest, key unused ≤ key used := by
  refine ⟨(list.mergeSort fun left right => key right ≤ key left).drop count, ?_, ?_⟩
  · rw [mostRecent, List.take_append_drop]
    exact List.mergeSort_perm list _
  · have sorted := pairwise_mergeSort_key key list
    rw [← List.take_append_drop count (list.mergeSort _)] at sorted
    exact fun used member unused behind => (List.pairwise_append.mp sorted).2.2 _ member _ behind

theorem mostRecent_mostRecent (count : Nat) (list : List α) :
    mostRecent key count (mostRecent key count list) = mostRecent key count list := by
  have sorted : (mostRecent key count list).Pairwise
      fun left right => decide (key right ≤ key left) = true := by
    simpa using pairwise_mostRecent key count list
  rw [mostRecent, List.mergeSort_of_pairwise sorted, List.take_of_length_le]
  exact (length_mostRecent key count list).le.trans (min_le_left _ _)

theorem mostRecent_map (other : β → κ) {map : α → β}
    (keeps : ∀ item ∈ list, other (map item) = key item) (count : Nat) :
    mostRecent other count (list.map map) = (mostRecent key count list).map map := by
  rw [mostRecent, mostRecent, List.map_take, List.map_mergeSort
    (s := fun left right => decide (other right ≤ other left))]
  intro left leftMember right rightMember
  rw [keeps left leftMember, keeps right rightMember]

/-- Two arrangements of the same elements do not tell the elements of a key apart. -/
def Settled (count : Nat) (left right : List α) (level : κ) : Prop :=
  left.filter (key · = level) = right.filter (key · = level) ∨ CutBeside key count left level

variable {count : Nat} {left right : List α}

theorem countP_le_key (list : List α) (level : κ) : list.countP (level ≤ key ·) =
    (list.filter (key · = level)).length + list.countP (level < key ·) := by
  induction list with
  | nil => rfl
  | cons head rest ih =>
    rw [List.countP_cons, List.countP_cons, List.filter_cons, ih]
    rcases lt_trichotomy level (key head) with newer | same | older
    · simp [newer, newer.le, newer.ne']
      omega
    · simp [same.symm]
      omega
    · simp [older.not_ge, older.ne, older.le]

theorem perm_filter_mostRecent (same : left.Perm right) {level : κ}
    (settled : Settled key count left right level) :
    ((mostRecent key count left).filter (key · = level)).Perm
      ((mostRecent key count right).filter (key · = level)) := by
  rw [filter_mostRecent, filter_mostRecent, ← same.countP_eq]
  rcases settled with order | nobody | everyone
  · rw [order]
  · simp [Nat.sub_eq_zero_of_le nobody]
  · -- The places behind the newer elements are enough for those of the key.
    have parts := countP_le_key key left level
    have others := (same.filter (key · = level)).length_eq
    rw [List.take_of_length_le (by omega), List.take_of_length_le (by omega)]
    exact same.filter _

theorem perm_mostRecent (same : left.Perm right)
    (settled : ∀ item ∈ left, Settled key count left right (key item)) :
    (mostRecent key count left).Perm (mostRecent key count right) := by
  classical
  rw [List.perm_iff_count]
  intro item
  by_cases member : item ∈ left
  · have inside := (perm_filter_mostRecent key same (settled item member)).count_eq item
    rwa [List.count_filter (by simp), List.count_filter (by simp)] at inside
  · -- What is not in the list is not among its most recent elements.
    have absent (list : List α) (outside : item ∉ list) :
        (mostRecent key count list).count item = 0 := by
      refine List.count_eq_zero.mpr fun inside => outside ?_
      exact (List.mergeSort_perm list _).mem_iff.mp (List.mem_of_mem_take inside)
    rw [absent left member, absent right fun inside => member (same.mem_iff.mpr inside)]

theorem getLast?_filter_key {last : α} (ends : list.getLast? = some last) :
    (list.filter (key · = key last)).getLast? = some last := by
  obtain ⟨front, rfl⟩ := List.getLast?_eq_some_iff.mp ends
  simp

/-- The oldest one of the most recent elements has the same key in any order, and is the same
where the elements of this key keep their order. -/
theorem getLast?_mostRecent (same : left.Perm right)
    (settled : ∀ item ∈ left, Settled key count left right (key item)) {first second : α}
    (ends : (mostRecent key count left).getLast? = some first)
    (otherEnds : (mostRecent key count right).getLast? = some second) :
    key second = key first ∧
      (left.filter (key · = key first) = right.filter (key · = key first) → second = first) := by
  -- The keys come in one order only.
  have descends (list : List α) :
      ((mostRecent key count list).map key).Pairwise fun newer older => older ≤ newer :=
    List.pairwise_map.mpr (pairwise_mostRecent key count list)
  have keys : (mostRecent key count left).map key = (mostRecent key count right).map key := by
    refine ((perm_mostRecent key same settled).map key).eq_of_pairwise ?_ (descends _) (descends _)
    exact fun _ _ _ _ above below => le_antisymm below above
  have level : key second = key first := by
    have lasts := congrArg List.getLast? keys
    rw [List.getLast?_map, List.getLast?_map, ends, otherEnds] at lasts
    exact (Option.some.inj lasts).symm
  refine ⟨level, fun order => ?_⟩
  have here := getLast?_filter_key key ends
  have there := getLast?_filter_key key otherEnds
  rw [level, filter_mostRecent, ← order, ← same.countP_eq, ← filter_mostRecent] at there
  exact (Option.some.inj (here.symm.trans there)).symm

end Machine
