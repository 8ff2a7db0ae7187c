import Mathlib.Data.List.Nodup

/-! Insertion-ordered maps: the entries of a script object, of a `Map`, or of a table by key. -/

namespace Js

variable {κ ν : Type} [DecidableEq κ]

/-- Write one entry: an existing key keeps its position, and a new key is appended. -/
def setEntry (key : κ) (value : ν) : List (κ × ν) → List (κ × ν)
  | [] => [(key, value)]
  | entry :: rest =>
    -- The first entry under the key is the one every lookup reads.
    if entry.1 = key then (key, value) :: rest else entry :: setEntry key value rest

@[simp] theorem lookup_setEntry_self (key : κ) (value : ν) (entries : List (κ × ν)) :
    (setEntry key value entries).lookup key = some value := by
  induction entries with
  | nil => simp [setEntry]
  | cons entry rest ih =>
    obtain ⟨name, stored⟩ := entry
    by_cases here : name = key
    · simp [setEntry, here]
    · have skipped : (key == name) = false := by simpa using Ne.symm here
      simp [setEntry, here, List.lookup_cons, skipped, ih]

variable {key : κ}

@[simp] theorem lookup_setEntry_of_ne {other : κ} (apart : other ≠ key) (value : ν)
    (entries : List (κ × ν)) :
    (setEntry key value entries).lookup other = entries.lookup other := by
  induction entries with
  | nil =>
    have skipped : (other == key) = false := by simpa using apart
    simp [setEntry, List.lookup_cons, skipped]
  | cons entry rest ih =>
    obtain ⟨name, stored⟩ := entry
    by_cases here : name = key
    · subst here
      have skipped : (other == name) = false := by simpa using apart
      simp [setEntry, List.lookup_cons, skipped]
    · simp [setEntry, here, List.lookup_cons, ih]

theorem lookup_setEntry (key other : κ) (value : ν) (entries : List (κ × ν)) :
    (setEntry key value entries).lookup other =
      if other = key then some value else entries.lookup other := by
  by_cases same : other = key
  · subst same; simp
  · simp [same]

variable {value : ν} {entries : List (κ × ν)}

theorem setEntry_of_lookup (found : entries.lookup key = some value) :
    setEntry key value entries = entries := by
  -- The induction stops at the first entry under the key, which stays the same.
  induction entries with
  | nil => simp at found
  | cons entry rest ih =>
    obtain ⟨name, stored⟩ := entry
    by_cases here : name = key
    · subst here
      have stored_eq : stored = value := by simpa using found
      simp [setEntry, stored_eq]
    · have skipped : (key == name) = false := by simpa using Ne.symm here
      have later : rest.lookup key = some value := by
        simpa [List.lookup_cons, skipped] using found
      simp [setEntry, here, ih later]

theorem keys_setEntry (key : κ) (value : ν) (entries : List (κ × ν)) :
    (setEntry key value entries).map Prod.fst =
      if key ∈ entries.map Prod.fst then entries.map Prod.fst
      else entries.map Prod.fst ++ [key] := by
  -- A key that is met keeps its place, and one that is not goes to the end.
  induction entries with
  | nil => simp [setEntry]
  | cons entry rest ih =>
    by_cases here : entry.1 = key
    · simp [setEntry, here]
    · simp only [setEntry, if_neg here, List.map_cons, ih, List.mem_cons, Ne.symm here, false_or]
      split <;> simp

theorem setEntry_of_not_mem (value : ν) (absent : key ∉ entries.map Prod.fst) :
    setEntry key value entries = entries ++ [(key, value)] := by
  induction entries with
  | nil => rfl
  | cons entry rest ih =>
    simp only [List.map_cons, List.mem_cons, not_or] at absent
    simp [setEntry, Ne.symm absent.1, ih absent.2]

theorem lookup_eq_none_iff_not_mem : entries.lookup key = none ↔ key ∉ entries.map Prod.fst := by
  induction entries with
  | nil => simp
  | cons entry rest ih =>
    obtain ⟨name, stored⟩ := entry
    by_cases here : key = name
    · subst here; simp
    · have skipped : (key == name) = false := by simpa using here
      simp only [List.lookup_cons, skipped, ih, List.map_cons, List.mem_cons, here, false_or]

theorem mem_of_lookup (found : entries.lookup key = some value) : (key, value) ∈ entries := by
  -- The entry found splits the list around itself.
  obtain ⟨before, after, split, _⟩ := List.lookup_eq_some_iff.mp found
  simp [split]

theorem lookup_of_mem (distinct : (entries.map Prod.fst).Nodup) (member : (key, value) ∈ entries) :
    entries.lookup key = some value := by
  induction entries with
  | nil => simp at member
  | cons entry rest ih =>
    obtain ⟨name, stored⟩ := entry
    simp only [List.map_cons, List.nodup_cons] at distinct
    rcases List.mem_cons.mp member with same | later
    · cases same; simp
    · -- A later entry has another key than the first.
      have apart : key ≠ name := by
        intro same
        subst same
        exact distinct.1 (List.mem_map_of_mem (f := Prod.fst) later)
      have skipped : (key == name) = false := by simpa using apart
      simpa [List.lookup_cons, skipped] using ih distinct.2 later

def eraseKey (key : κ) (entries : List (κ × ν)) : List (κ × ν) :=
  entries.filter fun entry => entry.1 ≠ key

theorem lookup_eraseKey (key other : κ) (entries : List (κ × ν)) :
    (eraseKey key entries).lookup other = if other = key then none else entries.lookup other := by
  -- Every entry under the key goes, and the others keep their order.
  induction entries with
  | nil => simp [eraseKey]
  | cons entry rest ih =>
    obtain ⟨name, stored⟩ := entry
    by_cases here : name = key
    · subst here
      rw [eraseKey, List.filter_cons_of_neg (by simp), ← eraseKey, ih]
      by_cases same : other = name
      · simp [same]
      · have skipped : (other == name) = false := by simpa using same
        simp [same, List.lookup_cons, skipped]
    · rw [eraseKey, List.filter_cons_of_pos (by simpa using here), ← eraseKey]
      by_cases same : other = name
      · subst same; simp [here]
      · have skipped : (other == name) = false := by simpa using same
        simpa [List.lookup_cons, skipped] using ih

theorem eraseKey_comm (first second : κ) (entries : List (κ × ν)) :
    eraseKey first (eraseKey second entries) = eraseKey second (eraseKey first entries) := by
  simp only [eraseKey, List.filter_filter, Bool.and_comm]

@[simp] theorem eraseKey_eraseKey (key : κ) (entries : List (κ × ν)) :
    eraseKey key (eraseKey key entries) = eraseKey key entries := by
  simp [eraseKey, List.filter_filter]

@[simp] theorem eraseKey_cons_self (key : κ) (value : ν) (entries : List (κ × ν)) :
    eraseKey key ((key, value) :: entries) = eraseKey key entries := by
  simp [eraseKey]

theorem eraseKey_cons_of_ne {name : κ} (value : ν) (entries : List (κ × ν)) (apart : name ≠ key) :
    eraseKey key ((name, value) :: entries) = (name, value) :: eraseKey key entries := by
  simp [eraseKey, apart]

theorem countP_setEntry (key : κ) (value : ν) (counts : ν → Bool) (entries : List (κ × ν)) :
    (setEntry key value entries).countP (fun entry => counts entry.2) +
        (if (entries.lookup key).any counts then 1 else 0) =
      entries.countP (fun entry => counts entry.2) + if counts value then 1 else 0 := by
  -- The induction stops at the first entry under the key.
  induction entries with
  | nil => simp [setEntry, List.countP_cons]
  | cons entry rest ih =>
    obtain ⟨name, stored⟩ := entry
    by_cases here : name = key
    · subst here
      simp only [setEntry, ↓reduceIte, List.countP_cons, List.lookup_cons_self, Option.any_some]
      omega
    · have skipped : (key == name) = false := by simpa using Ne.symm here
      simp only [setEntry, if_neg here, List.countP_cons, List.lookup_cons, skipped]
      omega

theorem countP_eraseKey (counts : ν → Bool) (distinct : (entries.map Prod.fst).Nodup) :
    (eraseKey key entries).countP (fun entry => counts entry.2) +
        (if (entries.lookup key).any counts then 1 else 0) =
      entries.countP fun entry => counts entry.2 := by
  induction entries with
  | nil => rfl
  | cons entry rest ih =>
    obtain ⟨name, stored⟩ := entry
    simp only [List.map_cons, List.nodup_cons] at distinct
    have later := ih distinct.2
    by_cases here : name = key
    · -- No later entry has the key.
      subst here
      have gone : eraseKey name ((name, stored) :: rest) = eraseKey name rest := by
        simp [eraseKey]
      have absent : rest.lookup name = none := lookup_eq_none_iff_not_mem.mpr distinct.1
      rw [absent] at later
      rw [gone, List.lookup_cons_self, Option.any_some, List.countP_cons, ← later]
      rfl
    · have stays : eraseKey key ((name, stored) :: rest) = (name, stored) :: eraseKey key rest := by
        simp [eraseKey, here]
      have skipped : (key == name) = false := by simpa using Ne.symm here
      rw [stays, List.countP_cons, List.countP_cons, List.lookup_cons, skipped]
      simp only [← later]
      omega

/-- A map with distinct keys, read in the order in which its keys were first written. -/
structure OrderedMap (κ ν : Type) where
  entries : List (κ × ν)
  distinct : (entries.map Prod.fst).Nodup

namespace OrderedMap

def empty : OrderedMap κ ν := ⟨[], by simp⟩

def get? (map : OrderedMap κ ν) (key : κ) : Option ν := map.entries.lookup key

def size (map : OrderedMap κ ν) : Nat := map.entries.length

/-- Write one key, in place when it is already there. -/
def set (map : OrderedMap κ ν) (key : κ) (value : ν) : OrderedMap κ ν where
  entries := setEntry key value map.entries
  distinct := by
    -- Either the keys are unchanged, or one absent key joins them at the end.
    rw [keys_setEntry]
    split
    · exact map.distinct
    · rename_i absent
      refine List.Nodup.append map.distinct (by simp) ?_
      intro other held new
      simp only [List.mem_singleton] at new
      exact absent (new ▸ held)

/-- Keep only the entries that satisfy a test, in their order. -/
def filter (map : OrderedMap κ ν) (keep : κ × ν → Bool) : OrderedMap κ ν where
  entries := map.entries.filter keep
  distinct := map.distinct.sublist (List.filter_sublist.map _)

def erase (map : OrderedMap κ ν) (key : κ) : OrderedMap κ ν where
  entries := eraseKey key map.entries
  distinct := map.distinct.sublist (List.filter_sublist.map _)

def mapValues (map : OrderedMap κ ν) (change : ν → ν) : OrderedMap κ ν where
  entries := map.entries.map fun entry => (entry.1, change entry.2)
  distinct := by
    rw [List.map_map]
    exact map.distinct

/-- Forget the oldest entries until at most `target` are left. -/
def dropOldest (map : OrderedMap κ ν) (target : Nat) : OrderedMap κ ν where
  entries := map.entries.drop (map.entries.length - target)
  distinct := map.distinct.sublist ((List.drop_sublist _ _).map _)

omit [DecidableEq κ] in
@[ext] theorem ext {left right : OrderedMap κ ν} (same : left.entries = right.entries) :
    left = right := by
  cases left; cases right; simp_all

@[simp] theorem get?_empty (key : κ) : (empty : OrderedMap κ ν).get? key = none := rfl

omit [DecidableEq κ] in
@[simp] theorem size_empty : (empty : OrderedMap κ ν).size = 0 := rfl

@[simp] theorem get?_set_self (map : OrderedMap κ ν) (key : κ) (value : ν) :
    (map.set key value).get? key = some value := by
  simp [get?, set]

@[simp] theorem get?_set_of_ne (map : OrderedMap κ ν) {key other : κ} (apart : other ≠ key)
    (value : ν) : (map.set key value).get? other = map.get? other := by
  simp [get?, set, apart]

theorem get?_set (map : OrderedMap κ ν) (key other : κ) (value : ν) :
    (map.set key value).get? other = if other = key then some value else map.get? other := by
  simp [get?, set, lookup_setEntry]

theorem size_set_le (map : OrderedMap κ ν) (key : κ) (value : ν) :
    (map.set key value).size ≤ map.size + 1 := by
  have lengths := congrArg List.length (keys_setEntry key value map.entries)
  rw [List.length_map] at lengths
  unfold size
  show (setEntry key value map.entries).length ≤ _
  rw [lengths]
  split <;> simp

theorem get?_erase (map : OrderedMap κ ν) (key other : κ) :
    (map.erase key).get? other = if other = key then none else map.get? other :=
  lookup_eraseKey key other map.entries

theorem countP_set (map : OrderedMap κ ν) (key : κ) (value : ν) (counts : ν → Bool) :
    (map.set key value).entries.countP (fun entry => counts entry.2) +
        (if (map.get? key).any counts then 1 else 0) =
      map.entries.countP (fun entry => counts entry.2) + if counts value then 1 else 0 :=
  countP_setEntry key value counts map.entries

theorem countP_erase (map : OrderedMap κ ν) (key : κ) (counts : ν → Bool) :
    (map.erase key).entries.countP (fun entry => counts entry.2) +
        (if (map.get? key).any counts then 1 else 0) =
      map.entries.countP fun entry => counts entry.2 :=
  countP_eraseKey counts map.distinct

theorem get?_mapValues (map : OrderedMap κ ν) (change : ν → ν) (key : κ) :
    (map.mapValues change).get? key = (map.get? key).map change := by
  simp only [get?, mapValues]
  induction map.entries with
  | nil => rfl
  | cons entry rest ih =>
    obtain ⟨name, stored⟩ := entry
    by_cases here : key = name
    · subst here; simp
    · have skipped : (key == name) = false := by simpa using here
      simp [List.lookup_cons, skipped, ih]

theorem get?_of_filter {map : OrderedMap κ ν} {keep : κ × ν → Bool} {key : κ} {value : ν}
    (found : (map.filter keep).get? key = some value) : map.get? key = some value := by
  have member : (key, value) ∈ map.entries := (List.mem_filter.mp (mem_of_lookup found)).1
  exact lookup_of_mem map.distinct member

theorem get?_filter (map : OrderedMap κ ν) (keep : κ × ν → Bool) (key : κ) :
    (map.filter keep).get? key = (map.get? key).filter fun value => keep (key, value) := by
  cases found : map.get? key with
  | none =>
    cases kept : (map.filter keep).get? key with
    | none => rfl
    | some value =>
      rw [get?_of_filter kept] at found
      cases found
  | some value =>
    by_cases passes : keep (key, value) = true
    · have member : (key, value) ∈ (map.filter keep).entries :=
        List.mem_filter.mpr ⟨mem_of_lookup found, passes⟩
      have left : (some value).filter (fun value => keep (key, value)) = some value := by
        simp [passes]
      rw [left]
      exact lookup_of_mem (map.filter keep).distinct member
    · have dropped : (some value).filter (fun value => keep (key, value)) = none := by
        simp [passes]
      rw [dropped]
      cases kept : (map.filter keep).get? key with
      | none => rfl
      | some other =>
        have member := (List.mem_filter.mp (mem_of_lookup kept)).2
        have same := (get?_of_filter kept).symm.trans found
        cases same
        exact absurd member passes

theorem get?_of_dropOldest {map : OrderedMap κ ν} {target : Nat} {key : κ} {value : ν}
    (found : (map.dropOldest target).get? key = some value) : map.get? key = some value :=
  -- The entries kept are a suffix of the entries stored.
  lookup_of_mem map.distinct (List.mem_of_mem_drop (mem_of_lookup found))

theorem perm_of_get? {left right : OrderedMap κ ν}
    (same : ∀ key, left.get? key = right.get? key) : left.entries.Perm right.entries := by
  rw [List.perm_ext_iff_of_nodup left.distinct.of_map right.distinct.of_map]
  rintro ⟨key, value⟩
  -- An entry is there exactly when its own key reads its value.
  constructor
  · intro member
    exact mem_of_lookup ((same key).symm.trans (lookup_of_mem left.distinct member))
  · intro member
    exact mem_of_lookup ((same key).trans (lookup_of_mem right.distinct member))

end OrderedMap

end Js
