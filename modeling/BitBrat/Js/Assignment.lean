import BitBrat.Js.OrderedMap
import Mathlib.Algebra.GroupWithZero.Nat
import Mathlib.Algebra.Order.BigOperators.Group.List
import Mathlib.Algebra.Order.Group.Nat
import Mathlib.Data.List.Induction
import Mathlib.Data.List.Perm.Subperm

/-! Assignments to keys, of which the last one counts, and files with one assignment a line. -/

namespace Js

variable {κ ν : Type} [DecidableEq κ]

theorem lookup_of_perm {left right : List (κ × ν)}
    (perm : left.Perm right) (distinct : (right.map Prod.fst).Nodup) (key : κ) :
    left.lookup key = right.lookup key := by
  have distinct_left : (left.map Prod.fst).Nodup := (perm.map Prod.fst).nodup_iff.mpr distinct
  cases found : right.lookup key with
  | some value => exact lookup_of_mem distinct_left (perm.mem_iff.mpr (mem_of_lookup found))
  | none =>
    have missing := lookup_eq_none_iff_not_mem.mp found
    apply lookup_eq_none_iff_not_mem.mpr
    intro member
    exact missing ((perm.map Prod.fst).mem_iff.mp member)

variable {μ : Type}

theorem lookup_map_entry (change : κ → ν → μ) (entries : List (κ × ν)) (key : κ) :
    (entries.map fun entry => (entry.1, change entry.1 entry.2)).lookup key =
      (entries.lookup key).map (change key) := by
  induction entries with
  | nil => rfl
  | cons entry rest ih =>
    obtain ⟨name, value⟩ := entry
    rw [List.map_cons, List.lookup_cons, List.lookup_cons, ih]
    cases here : key == name with
    | false => rfl
    | true =>
      obtain rfl := eq_of_beq here
      rfl

theorem lookup_map_snd (change : ν → μ) (entries : List (κ × ν)) (key : κ) :
    (entries.map fun entry => (entry.1, change entry.2)).lookup key =
      (entries.lookup key).map change :=
  lookup_map_entry (fun _ => change) entries key

def lastAssigned (assignments : List (κ × ν)) (key : κ) : Option ν :=
  assignments.reverse.lookup key

theorem lastAssigned_append (first second : List (κ × ν)) (key : κ) :
    lastAssigned (first ++ second) key =
      (lastAssigned second key).or (lastAssigned first key) := by
  rw [lastAssigned, List.reverse_append, List.lookup_append]
  rfl

variable {assignments : List (κ × ν)} {key : κ} {value : ν}

theorem mem_of_lastAssigned (found : lastAssigned assignments key = some value) :
    (key, value) ∈ assignments :=
  List.mem_reverse.mp (mem_of_lookup found)

theorem lookup_foldl_setEntry (assignments entries : List (κ × ν)) (key : κ) :
    (assignments.foldl (fun held entry => setEntry entry.1 entry.2 held) entries).lookup key =
      (lastAssigned assignments key).or (entries.lookup key) := by
  induction assignments generalizing entries with
  | nil => rfl
  | cons entry rest ih =>
    obtain ⟨name, value⟩ := entry
    have first : lastAssigned ((name, value) :: rest) key =
        (lastAssigned rest key).or (lastAssigned [(name, value)] key) :=
      lastAssigned_append [(name, value)] rest key
    rw [List.foldl_cons, ih, first, lookup_setEntry, Option.or_assoc]
    congr 1
    by_cases here : key = name
    · simp [lastAssigned, here]
    · have skipped : (key == name) = false := by simpa using here
      simp [lastAssigned, List.lookup_cons, here, skipped]

theorem nodup_foldl_setEntry (assignments : List (κ × ν)) {entries : List (κ × ν)}
    (distinct : (entries.map Prod.fst).Nodup) :
    ((assignments.foldl (fun held entry => setEntry entry.1 entry.2 held) entries).map
      Prod.fst).Nodup := by
  induction assignments generalizing entries with
  | nil => exact distinct
  | cons entry rest ih => exact ih (OrderedMap.set ⟨entries, distinct⟩ entry.1 entry.2).distinct

theorem setEntry_setEntry (key : κ) (value other : ν) (entries : List (κ × ν)) :
    setEntry key value (setEntry key other entries) = setEntry key value entries := by
  induction entries with
  | nil => simp [setEntry]
  | cons entry rest ih =>
    by_cases here : entry.1 = key
    · simp [setEntry, here]
    · simp [setEntry, here, ih]

theorem setEntry_comm {other : κ} (apart : other ≠ key) (value written : ν)
    {entries : List (κ × ν)} (held : key ∈ entries.map Prod.fst) :
    setEntry other written (setEntry key value entries) =
      setEntry key value (setEntry other written entries) := by
  induction entries with
  | nil => simp at held
  | cons entry rest ih =>
    by_cases here : entry.1 = key
    · have skipped : entry.1 ≠ other := fun same => apart (same.symm.trans here)
      simp [setEntry, here, apart.symm]
    · have later : key ∈ rest.map Prod.fst := by
        rcases List.mem_cons.mp held with same | later
        · exact absurd same.symm here
        · exact later
      by_cases there : entry.1 = other
      · simp [setEntry, there, apart]
      · simp [setEntry, here, there, ih later]

theorem foldl_setEntry_last {written : ν} {after : List (κ × ν)}
    (fresh : key ∉ after.map Prod.fst) (entries : List (κ × ν)) :
    after.foldl (fun map entry => setEntry entry.1 entry.2 map) (setEntry key written entries) =
      setEntry key written
        (after.foldl (fun map entry => setEntry entry.1 entry.2 map)
          (setEntry key value entries)) := by
  have general (map : List (κ × ν)) (held : key ∈ map.map Prod.fst) :
      after.foldl (fun map entry => setEntry entry.1 entry.2 map) (setEntry key written map) =
        setEntry key written (after.foldl (fun map entry => setEntry entry.1 entry.2 map) map) := by
    induction after generalizing map with
    | nil => rfl
    | cons entry rest ih =>
      have apart : entry.1 ≠ key := fun same => fresh (same ▸ List.mem_cons_self)
      have later : key ∉ rest.map Prod.fst := fun member => fresh (List.mem_cons_of_mem _ member)
      rw [List.foldl_cons, List.foldl_cons, setEntry_comm apart _ _ held]
      refine ih later _ ?_
      rw [keys_setEntry]
      split
      · exact held
      · exact List.mem_append_left _ held
  rw [← general _ (by rw [keys_setEntry]; split <;> simp_all), setEntry_setEntry]

theorem lastAssigned_map_snd (change : ν → μ) (assignments : List (κ × ν)) (key : κ) :
    lastAssigned (assignments.map fun entry => (entry.1, change entry.2)) key =
      (lastAssigned assignments key).map change := by
  rw [lastAssigned, ← List.map_reverse]
  exact lookup_map_snd change assignments.reverse key

/-- The last source that assigns to a key, with the value that it assigns. -/
def lastSource {ι : Type} (assigns : ι → List (κ × ν)) (sources : List ι) (key : κ) :
    Option (ι × ν) :=
  sources.reverse.findSome? fun source => (lastAssigned (assigns source) key).map (source, ·)

variable {ι : Type}

theorem lastSource_append (assigns : ι → List (κ × ν)) (first second : List ι) (key : κ) :
    lastSource assigns (first ++ second) key =
      (lastSource assigns second key).or (lastSource assigns first key) := by
  rw [lastSource, List.reverse_append, List.findSome?_append]
  rfl

theorem lastAssigned_flatMap (assigns : ι → List (κ × ν)) (sources : List ι) (key : κ) :
    lastAssigned (sources.flatMap assigns) key = (lastSource assigns sources key).map Prod.snd := by
  -- The induction is on the sources, from the last one to the first.
  induction sources using List.reverseRecOn with
  | nil => rfl
  | append_singleton front last ih =>
    rw [List.flatMap_append, lastAssigned_append, lastSource_append, ih, List.flatMap_singleton]
    cases found : lastAssigned (assigns last) key <;> simp [lastSource, found]

theorem lastSource_eq_some_iff {assigns : ι → List (κ × ν)} {sources : List ι} {source : ι} :
    lastSource assigns sources key = some (source, value) ↔
      ∃ before after, sources = before ++ source :: after ∧
        lastAssigned (assigns source) key = some value ∧
        ∀ later ∈ after, lastAssigned (assigns later) key = none := by
  rw [lastSource, List.findSome?_eq_some_iff]
  constructor
  · rintro ⟨after, found, before, order, assigned, none⟩
    obtain ⟨result, is, same⟩ := Option.map_eq_some_iff.mp assigned
    cases same
    refine ⟨before.reverse, after.reverse, ?_, is, fun later member => ?_⟩
    · rw [← List.reverse_reverse sources, order]
      simp
    · simpa using none later (List.mem_reverse.mp member)
  · rintro ⟨before, after, rfl, assigned, none⟩
    refine ⟨after.reverse, source, before.reverse, by simp, by rw [assigned]; rfl,
      fun later member => ?_⟩
    rw [none later (List.mem_reverse.mp member)]
    rfl

theorem lastSource_filter (assigns : ι → List (κ × ν)) (sources : List ι) (key : κ) :
    lastSource assigns (sources.filter fun source => !(assigns source).isEmpty) key =
      lastSource assigns sources key := by
  induction sources using List.reverseRecOn with
  | nil => rfl
  | append_singleton front last ih =>
    rw [List.filter_append, lastSource_append, lastSource_append, ih]
    cases given : assigns last with
    | nil => simp [lastSource, lastAssigned, given]
    | cons first rest => simp [given]

theorem lastAssigned_of_mem (distinct : (assignments.map Prod.fst).Nodup)
    (member : (key, value) ∈ assignments) : lastAssigned assignments key = some value := by
  refine lookup_of_mem ?_ (List.mem_reverse.mpr member)
  rw [List.map_reverse]
  exact List.nodup_reverse.mpr distinct

theorem lastAssigned_isSome :
    (lastAssigned assignments key).isSome ↔ key ∈ assignments.map Prod.fst := by
  rw [← not_iff_not, Option.not_isSome_iff_eq_none, lastAssigned, lookup_eq_none_iff_not_mem,
    List.map_reverse, List.mem_reverse]

theorem lastAssigned_eq_lookup (distinct : (assignments.map Prod.fst).Nodup) (key : κ) :
    lastAssigned assignments key = assignments.lookup key := by
  cases found : assignments.lookup key with
  | some value => exact lastAssigned_of_mem distinct (mem_of_lookup found)
  | none =>
    rw [← Option.not_isSome_iff_eq_none, lastAssigned_isSome]
    exact lookup_eq_none_iff_not_mem.mp found

theorem eq_of_sum_eq {α : Type} {items : List α} {first second : α → Nat}
    (bounded : ∀ item ∈ items, first item ≤ second item)
    (same : (items.map first).sum = (items.map second).sum) :
    ∀ item ∈ items, first item = second item := by
  induction items with
  | nil => exact fun _ member => absurd member List.not_mem_nil
  | cons head rest ih =>
    have here := bounded head List.mem_cons_self
    have later : (rest.map first).sum ≤ (rest.map second).sum :=
      List.sum_le_sum fun item member => bounded item (List.mem_cons_of_mem _ member)
    simp only [List.map_cons, List.sum_cons] at same
    intro item member
    rcases List.mem_cons.mp member with rfl | behind
    · omega
    · exact ih (fun item member => bounded item (List.mem_cons_of_mem _ member)) (by omega)
        item behind

theorem filterMap_eq_map_getD {α : Type} {items : List α} {change : α → Option α}
    (all : ∀ item ∈ items, (change item).isSome) :
    items.filterMap change = items.map fun item => (change item).getD item := by
  rw [← List.filterMap_eq_map]
  refine List.filterMap_congr fun item member => ?_
  obtain ⟨changed, is⟩ := Option.isSome_iff_exists.mp (all item member)
  simp [is]

section Lines

variable {entries lines : List (κ × ν)} {read : κ × ν → Option (κ × ν)} {size : κ → Nat}

theorem linesRead_of_assigned (listed : (lines.map Prod.fst).Nodup)
    (shrinks : ∀ entry found, read entry = some found → size found.1 ≤ size entry.1)
    (settles : ∀ entry found, read entry = some found → size found.1 = size entry.1 →
      found.1 = entry.1)
    (assigned : ∀ entry ∈ lines, lastAssigned (lines.filterMap read) entry.1 = some entry.2) :
    ∀ entry ∈ lines, read entry = some entry := by
  -- Every key is assigned, and there are no more assignments than keys.
  have covers : lines.map Prod.fst ⊆ (lines.filterMap read).map Prod.fst := by
    intro key member
    obtain ⟨entry, there, rfl⟩ := List.mem_map.mp member
    rw [← lastAssigned_isSome, assigned entry there]
    rfl
  have keys : (lines.map Prod.fst).Perm ((lines.filterMap read).map Prod.fst) := by
    refine (listed.subperm covers).perm_of_length_le ?_
    simpa using List.length_filterMap_le read lines
  have all : ∀ entry ∈ lines, (read entry).isSome := by
    refine List.filterMap_length_eq_length.mp ?_
    simpa using keys.length_eq.symm
  have heard : lines.filterMap read = lines.map fun entry => (read entry).getD entry :=
    filterMap_eq_map_getD all
  rw [heard] at keys assigned
  -- So the keys that are read are the keys that were written, and none has become shorter.
  have sizes : ∀ entry ∈ lines, size ((read entry).getD entry).1 = size entry.1 := by
    refine eq_of_sum_eq (fun entry there => ?_) ?_
    · obtain ⟨found, is⟩ := Option.isSome_iff_exists.mp (all entry there)
      rw [is]
      exact shrinks entry found is
    · have sums := (keys.map size).sum_eq
      simpa only [List.map_map, Function.comp_def] using sums.symm
  intro entry there
  obtain ⟨found, is⟩ := Option.isSome_iff_exists.mp (all entry there)
  have key : found.1 = entry.1 := by
    have sized := sizes entry there
    rw [is] at sized
    exact settles entry found is sized
  -- Its own line is the only one that assigns to its key.
  have alone : ((lines.map fun entry => (read entry).getD entry).map Prod.fst).Nodup :=
    keys.nodup_iff.mp listed
  have assigns : lastAssigned (lines.map fun entry => (read entry).getD entry) found.1 =
      some found.2 :=
    lastAssigned_of_mem alone (List.mem_map.mpr ⟨entry, there, by rw [is]; rfl⟩)
  rw [key, assigned entry there] at assigns
  rw [is, ← Prod.mk.eta (p := found), key, ← Option.some.inj assigns]

/--
Lines assign what the entries say exactly if every entry is written and read back from its line. -/
theorem linesRead_iff (distinct : (entries.map Prod.fst).Nodup) (written : lines.Subperm entries)
    (shrinks : ∀ entry found, read entry = some found → size found.1 ≤ size entry.1)
    (settles : ∀ entry found, read entry = some found → size found.1 = size entry.1 →
      found.1 = entry.1) :
    (∀ key, lastAssigned (lines.filterMap read) key = entries.lookup key) ↔
      lines.Perm entries ∧ ∀ entry ∈ entries, read entry = some entry := by
  constructor
  · intro same
    -- There are as many lines as assignments, and as many assignments as entries.
    have covers : entries.map Prod.fst ⊆ (lines.filterMap read).map Prod.fst := by
      intro key member
      obtain ⟨entry, there, rfl⟩ := List.mem_map.mp member
      rw [← lastAssigned_isSome, same, lookup_of_mem distinct there]
      rfl
    have counts := (distinct.subperm covers).length_le
    have fewer := List.length_filterMap_le read lines
    simp only [List.length_map] at counts
    have order : lines.Perm entries := written.perm_of_length_le (by omega)
    refine ⟨order, fun entry member => ?_⟩
    refine linesRead_of_assigned ((order.map Prod.fst).nodup_iff.mpr distinct) shrinks settles
      (fun other there => ?_) entry (order.mem_iff.mpr member)
    rw [same, lookup_of_mem distinct (order.mem_iff.mp there)]
  · rintro ⟨order, whole⟩ key
    have heard : lines.filterMap read = lines := by
      rw [List.filterMap_congr fun entry there => whole entry (order.mem_iff.mp there)]
      exact List.filterMap_some
    have listed : (lines.map Prod.fst).Nodup := (order.map Prod.fst).nodup_iff.mpr distinct
    rw [heard, lastAssigned_eq_lookup listed]
    cases found : entries.lookup key with
    | some value => exact lookup_of_mem listed (order.mem_iff.mpr (mem_of_lookup found))
    | none =>
      rw [lookup_eq_none_iff_not_mem] at found ⊢
      exact fun member => found ((order.map Prod.fst).mem_iff.mp member)

end Lines

end Js
