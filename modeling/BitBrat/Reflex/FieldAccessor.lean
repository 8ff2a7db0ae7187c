import BitBrat.Js.Assignment

/-! Reading and writing a field of an object by a dotted path. -/

namespace BitBrat

open Js

/-- A script value as paths lead through it: an array or another object with its own properties, or
a value of any other kind, such as a text, a number or a function. -/
inductive FieldTree (α : Type) where
  | undefined
  | null
  | scalar (value : α)
  | object (isArray : Bool) (own : List (String × FieldTree α))

/-- The functions that every object, or every array, has under their names. -/
abbrev Inherited (α : Type) := Bool → String → Option α

namespace FieldTree

variable {α : Type} (inherited : Inherited α)

/-- A name whose property is no plain one: the setter of the prototype, and an array's length. -/
def special (isArray : Bool) (name : String) : Bool :=
  name = "__proto__" || (isArray && name = "length")

/-- A property of an object, its own or an inherited one; special ones are left open. -/
def prop (isArray : Bool) (own : List (String × FieldTree α)) (name : String) :
    Option (FieldTree α) :=
  if special isArray name then none
  else some ((own.lookup name).getD (((inherited isArray name).map scalar).getD undefined))

def follow : FieldTree α → List String → Option (FieldTree α)
  | tree, [] => some tree
  | .object isArray own, segment :: rest =>
    (prop inherited isArray own segment).bind fun child => follow child rest
  | _, _ :: _ => some undefined

/-- The object that a path goes on with: the one that is there, or else a new one. -/
def orNew : FieldTree α → Bool × List (String × FieldTree α)
  | .object isArray own => (isArray, own)
  | _ => (false, [])

/-- The own properties of an object after the value has been written behind the rest of a path. -/
def write (value : FieldTree α) (isArray : Bool) (own : List (String × FieldTree α)) :
    List String → Option (List (String × FieldTree α))
  | [] => some own
  | [last] => if special isArray last then none else some (setEntry last value own)
  | segment :: next :: rest =>
    (prop inherited isArray own segment).bind fun child =>
      (write value child.orNew.1 child.orNew.2 (next :: rest)).map fun inner =>
        setEntry segment (.object child.orNew.1 inner) own

end FieldTree

open FieldTree

variable {α : Type} (inherited : Inherited α)

def fieldSegments (path : String) : List String := (path.toList.splitOn '.').map String.ofList

/-- The value of an object behind a path, unless a special property is on the way. -/
def getField (isArray : Bool) (own : List (String × FieldTree α)) (path : String) :
    Option (FieldTree α) :=
  if path = "" then some .undefined
  else follow inherited (.object isArray own) (fieldSegments path)

/-- The object with a value behind a path, unless a special property is on the way. -/
def setFieldValue (isArray : Bool) (own : List (String × FieldTree α)) (path : String)
    (value : FieldTree α) : Option (List (String × FieldTree α)) :=
  if path = "" then some own else write inherited value isArray own (fieldSegments path)

/-- A path without the name of an inherited function. -/
def PlainPath (path : String) : Prop :=
  ∀ segment ∈ fieldSegments path, ∀ isArray, inherited isArray segment = none

structure FieldLaws (isArray : Bool) (own : List (String × FieldTree α)) (path : String) :
    Prop where
  get_set : ∀ value after, setFieldValue inherited isArray own path value = some after →
    getField inherited isArray after path = some value
  set_get : ∀ value, getField inherited isArray own path = some value → value ≠ .undefined →
    PlainPath inherited path → setFieldValue inherited isArray own path value = some own
  set_set : ∀ first after second, setFieldValue inherited isArray own path first = some after →
    setFieldValue inherited isArray after path second =
      setFieldValue inherited isArray own path second
  /-- What is read at another path, where neither is a part of the other, stays. -/
  apart : ∀ other value after before later,
    ¬ fieldSegments path <+: fieldSegments other → ¬ fieldSegments other <+: fieldSegments path →
    setFieldValue inherited isArray own path value = some after →
    getField inherited isArray own other = some before →
    getField inherited isArray after other = some later →
    before ≠ .undefined ∨ PlainPath inherited other → later = before

namespace FieldTree

variable {inherited} {own after : List (String × FieldTree α)} {isArray : Bool}
  {value : FieldTree α}

theorem prop_setEntry_self {name : String} {child : FieldTree α}
    (read : prop inherited isArray own name = some child) (written : FieldTree α) :
    prop inherited isArray (setEntry name written own) name = some written := by
  unfold prop at read ⊢
  split at read
  · cases read
  · simp [*]

theorem prop_setEntry_of_ne {name other : String} (apart : other ≠ name)
    (written : FieldTree α) : prop inherited isArray (setEntry name written own) other =
      prop inherited isArray own other := by
  simp [prop, apart]

theorem follow_write : ∀ {segments : List String} {isArray : Bool}
    {own after : List (String × FieldTree α)}, segments ≠ [] →
    write inherited value isArray own segments = some after →
    follow inherited (.object isArray after) segments = some value
  | [], _, _, _, some_segment, _ => absurd rfl some_segment
  | [last], _, _, _, _, written => by
    simp only [write] at written
    split at written
    · cases written
    · cases written
      simp [follow, prop, *]
  | segment :: next :: rest, _, _, _, _, written => by
    simp only [write, Option.bind_eq_some_iff, Option.map_eq_some_iff] at written
    obtain ⟨child, read, inner, deeper, rfl⟩ := written
    rw [follow, prop_setEntry_self read]
    exact follow_write (by simp) deeper

theorem write_follow (defined : value ≠ .undefined) :
    ∀ {segments : List String} {isArray : Bool} {own : List (String × FieldTree α)},
    (∀ segment ∈ segments, ∀ isArray, inherited isArray segment = none) →
    follow inherited (.object isArray own) segments = some value →
    write inherited value isArray own segments = some own
  | [], _, _, _, _ => rfl
  | segment :: rest, isArray, own, plain, read => by
    obtain ⟨child, child_read, later⟩ := Option.bind_eq_some_iff.mp read
    have child_own : own.lookup segment = some child ∨ child = .undefined := by
      unfold prop at child_read
      rw [plain segment List.mem_cons_self] at child_read
      split at child_read
      · cases child_read
      · cases found : own.lookup segment <;> simp_all
    have ordinary : special isArray segment = false := by
      by_contra refused
      simp [prop, refused] at child_read
    cases rest with
    | nil =>
      obtain rfl : child = value := by simpa [follow] using later
      simp [write, ordinary, setEntry_of_lookup (child_own.resolve_right defined)]
    | cons next rest =>
      -- What is defined behind a path is behind an object.
      cases child with
      | object kind fields =>
        have deeper := write_follow defined
          (fun segment member => plain segment (List.mem_cons_of_mem _ member)) later
        simp [write, child_read, orNew, deeper, setEntry_of_lookup (child_own.resolve_right nofun)]
      | _ => exact absurd (Option.some.inj later).symm defined

theorem write_write {first second : FieldTree α} : ∀ {segments : List String}
    {isArray : Bool} {own after : List (String × FieldTree α)},
    write inherited first isArray own segments = some after → segments ≠ [] →
    write inherited second isArray after segments =
      write inherited second isArray own segments
  | [], _, _, _, _, some_segment => absurd rfl some_segment
  | [last], _, _, _, written, _ => by
    simp only [write] at written ⊢
    split at written
    · cases written
    · cases written
      simp [*, setEntry_setEntry]
  | segment :: next :: rest, _, _, _, written, _ => by
    simp only [write, Option.bind_eq_some_iff, Option.map_eq_some_iff] at written
    obtain ⟨child, read, inner, deeper, rfl⟩ := written
    simp only [write, prop_setEntry_self read, read, Option.bind_some]
    rw [orNew, write_write deeper (by simp)]
    simp [setEntry_setEntry]

theorem follow_apart : ∀ {segments others : List String} {isArray : Bool}
    {own after : List (String × FieldTree α)} {before later : FieldTree α},
    ¬ segments <+: others → ¬ others <+: segments →
    write inherited value isArray own segments = some after →
    follow inherited (.object isArray own) others = some before →
    follow inherited (.object isArray after) others = some later →
    before ≠ .undefined ∨ (∀ segment ∈ others, ∀ isArray, inherited isArray segment = none) →
    later = before
  | [], _, _, _, _, _, _, longer, _, _, _, _, _ => absurd List.nil_prefix longer
  | _ :: _, [], _, _, _, _, _, _, longer, _, _, _, _ => absurd List.nil_prefix longer
  | segment :: rest, other :: others, isArray, own, after, before, later, first, second, written,
      read, reread, safe => by
    by_cases same : other = segment
    case neg =>
      -- The other path leaves at once, by a property that is not written.
      obtain ⟨inner, rfl⟩ : ∃ inner, after = setEntry segment inner own := by
        cases rest with
        | nil =>
          simp only [write] at written
          split at written
          · cases written
          · exact ⟨value, (Option.some.inj written).symm⟩
        | cons next rest =>
          simp only [write, Option.bind_eq_some_iff, Option.map_eq_some_iff] at written
          obtain ⟨child, _, inner, _, rfl⟩ := written
          exact ⟨_, rfl⟩
      rw [follow, prop_setEntry_of_ne same] at reread
      rw [follow, reread] at read
      exact Option.some.inj read
    case pos =>
      subst same
      cases rest with
      | nil => exact absurd ⟨others, rfl⟩ first
      | cons next rest =>
        simp only [write, Option.bind_eq_some_iff, Option.map_eq_some_iff] at written
        obtain ⟨child, child_read, inner, deeper, rfl⟩ := written
        rw [follow, child_read] at read
        rw [follow, prop_setEntry_self child_read] at reread
        have first' : ¬ next :: rest <+: others := fun shorter =>
          first ((List.prefix_cons_inj _).mpr shorter)
        have second' : ¬ others <+: next :: rest := fun shorter =>
          second ((List.prefix_cons_inj _).mpr shorter)
        have safe' := safe.imp_right fun plain segment member =>
          plain segment (List.mem_cons_of_mem _ member)
        cases child with
        | object kind fields => exact follow_apart first' second' deeper read reread safe'
        | _ =>
          -- A new object takes the place of what has no properties.
          cases others with
          | nil => exact absurd List.nil_prefix second'
          | cons name others =>
            obtain rfl : FieldTree.undefined = before := Option.some.inj read
            have plain := safe'.resolve_left (by simp)
            have ordinary : special false name = false := by
              refine Bool.eq_false_iff.mpr fun refused => ?_
              simp [follow, prop, orNew, refused] at reread
            have missing : follow inherited (.object false []) (name :: others) =
                some .undefined := by
              simp only [follow, prop, ordinary, plain name List.mem_cons_self]
              cases others <;> rfl
            exact follow_apart first' second' deeper missing reread safe'

end FieldTree

end BitBrat
