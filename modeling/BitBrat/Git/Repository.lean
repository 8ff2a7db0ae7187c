import BitBrat.Js.OrderedMap

/-! A repository: its last commit, its index and its working tree, and what is made of them. -/

namespace Git

open Js

abbrev FileTree := OrderedMap String String

structure Repository where
  head : FileTree
  index : FileTree
  work : FileTree
  tags : OrderedMap String FileTree := .empty
  /-- The paths that are left alone as long as they are not in the index. -/
  ignored : String → Bool := fun _ => false

namespace Repository

/-- Whether a path is in the index, or would be once everything is added. -/
def sees (repo : Repository) (path : String) : Bool :=
  (repo.index.get? path).isSome || !repo.ignored path

def changed (repo : Repository) (path : String) : Bool :=
  repo.head.get? path ≠ repo.index.get? path ||
    (repo.sees path && repo.index.get? path ≠ repo.work.get? path)

/-- The paths that are in the last commit, in the index or in the working tree. -/
def paths (repo : Repository) : List String :=
  (repo.head.entries ++ repo.index.entries ++ repo.work.entries).map Prod.fst

def dirty (repo : Repository) : Bool := repo.paths.any repo.changed

def addAll (repo : Repository) : Repository :=
  { repo with index := repo.work.filter fun entry => repo.sees entry.1 }

/-- The repository in which the index is committed, unless it is the last commit already. -/
def commit (repo : Repository) : Option Repository :=
  if repo.paths.all fun path => repo.head.get? path = repo.index.get? path then none
  else some { repo with head := repo.index }

/-- The repository with a tag for the last commit, unless there is such a tag. -/
def tag (repo : Repository) (name : String) : Option Repository :=
  if (repo.tags.get? name).isSome then none
  else some { repo with tags := repo.tags.set name repo.head }

/-- A path whose file is in the last commit as it is. -/
def Kept (repo : Repository) (path : String) : Prop :=
  repo.head.get? path = repo.work.get? path ∧ repo.index.get? path = repo.work.get? path

variable {repo : Repository} {path : String}

theorem get?_of_not_mem (absent : path ∉ repo.paths) :
    repo.head.get? path = none ∧ repo.index.get? path = none ∧ repo.work.get? path = none := by
  simp only [paths, List.map_append, List.mem_append, not_or] at absent
  obtain ⟨⟨head, index⟩, work⟩ := absent
  exact ⟨lookup_eq_none_iff_not_mem.mpr head, lookup_eq_none_iff_not_mem.mpr index,
    lookup_eq_none_iff_not_mem.mpr work⟩

theorem get?_addAll (repo : Repository) (path : String) :
    repo.addAll.index.get? path = if repo.sees path then repo.work.get? path else none := by
  rw [addAll, OrderedMap.get?_filter]
  cases seen : repo.sees path <;> cases repo.work.get? path <;> simp [seen]

theorem get?_addAll_eq_iff :
    repo.addAll.index.get? path = repo.work.get? path ↔
      repo.sees path = true ∨ repo.work.get? path = none := by
  rw [get?_addAll]
  by_cases seen : repo.sees path = true
  · simp [seen]
  · simp [seen, eq_comm]

theorem kept_iff_of_clean (clean : repo.dirty = false) :
    repo.Kept path ↔ repo.sees path = true ∨ repo.work.get? path = none := by
  by_cases listed : path ∈ repo.paths
  · have unchanged : repo.changed path = false := by
      simpa using List.any_eq_false.mp clean path listed
    simp only [changed, Bool.or_eq_false_iff, decide_eq_false_iff_not, not_not,
      Bool.and_eq_false_iff] at unchanged
    obtain ⟨same, seen | still⟩ := unchanged
    · -- A path that is not seen is not in the index.
      have untracked : repo.index.get? path = none := by
        simp only [sees, Bool.or_eq_false_iff, Option.isSome_eq_false_iff,
          Option.isNone_iff_eq_none] at seen
        exact seen.1
      simp [Kept, same, untracked, seen, eq_comm]
    · constructor
      · intro kept
        by_contra neither
        obtain ⟨unseen, there⟩ := not_or.mp neither
        rw [sees, kept.2] at unseen
        cases found : repo.work.get? path with
        | none => exact there found
        | some text => simp [found] at unseen
      · exact fun _ => ⟨same.trans still, still⟩
  · obtain ⟨head, index, work⟩ := get?_of_not_mem listed
    simp [Kept, head, index, work]

theorem get?_head_of_commit {committed : Repository} (done : repo.commit = some committed) :
    committed = { repo with head := repo.index } := by
  unfold commit at done
  split at done
  · cases done
  · exact (Option.some.inj done).symm

theorem get?_head_of_commit_eq_none (nothing : repo.commit = none) (path : String) :
    repo.head.get? path = repo.index.get? path := by
  unfold commit at nothing
  split at nothing
  · rename_i same
    by_cases listed : path ∈ repo.paths
    · simpa using List.all_eq_true.mp same path listed
    · obtain ⟨head, index, _⟩ := get?_of_not_mem listed
      rw [head, index]
  · cases nothing

end Repository

end Git
