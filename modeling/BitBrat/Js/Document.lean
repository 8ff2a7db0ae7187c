import BitBrat.Js.Value

/-! Documents compared by what they read, and the two ways a store merges a patch into one. -/

namespace Js

theorem rel_cases {α β : Type} {related : α → β → Prop} {left : Option α} {right : Option β}
    (rel : Option.Rel related left right) :
    (left = none ∧ right = none) ∨
      ∃ value other, left = some value ∧ right = some other ∧ related value other := by
  cases rel with
  | none => exact .inl ⟨rfl, rfl⟩
  | some same => exact .inr ⟨_, _, rfl, rfl, same⟩

namespace Value

def atPath (value : Value) : List String → Value
  | [] => value
  | key :: path => (value.get key).atPath path

/-- What one read shows of a value: everything but an object's properties. -/
def shape : Value → Value
  -- Arrays and texts are read whole, while an object is read property by property.
  | obj _ => obj []
  | other => other

def Same (left right : Value) : Prop :=
  -- The order of an object's properties is not part of what a document says.
  ∀ path, (left.atPath path).shape = (right.atPath path).shape

namespace Same

@[refl] theorem refl (value : Value) : Same value value := fun _ => rfl

variable {left right : Value}

theorem symm (same : Same left right) : Same right left :=
  fun path => (same path).symm

theorem trans {first second third : Value} (left : Same first second)
    (right : Same second third) : Same first third :=
  fun path => (left path).trans (right path)

theorem get (same : Same left right) (key : String) : Same (left.get key) (right.get key) :=
  -- Every path below the property is a path of the document.
  fun path => same (key :: path)

theorem of_get {left right : List (String × Value)}
    (each : ∀ key, Same ((obj left).get key) ((obj right).get key)) :
    Same (obj left) (obj right) := by
  intro path
  cases path with
  | nil => rfl
  | cons key rest => exact each key rest

theorem shape_eq (same : Same left right) : left.shape = right.shape :=
  same []

theorem eq_of_not_object (same : Same left right) (plain : left.isObject = false) :
    left = right := by
  have root := same.shape_eq
  cases left <;> cases right <;> simp_all [shape, isObject]

theorem truthy_eq (same : Same left right) : left.truthy = right.truthy := by
  have root := same.shape_eq
  cases left <;> cases right <;> simp_all [shape, truthy]

theorem or {spare other : Value} (same : Same left right) (spares : Same spare other) :
    Same (left.or spare) (right.or other) := by
  simp only [Value.or, same.truthy_eq]
  split
  · exact same
  · exact spares

theorem extend {base other : Value} {updates others : List (String × Value)}
    (same : ∀ key, Same (base.get key) (other.get key))
    (written : List.Forall₂ (fun update write => update.1 = write.1 ∧ Same update.2 write.2)
      updates others) :
    Same (base.extend updates) (other.extend others) := by
  -- The writes are made in step, and each keeps every property alike.
  induction written generalizing base other with
  | nil => exact of_get fun key => by simpa using same key
  | @cons update write _ _ first _ ih =>
    obtain ⟨name, value⟩ := update
    obtain ⟨_, stored⟩ := write
    obtain ⟨rfl, values⟩ := first
    simp only [extend_cons]
    refine ih fun key => ?_
    simp only [get_setEntry, get_obj_fields]
    split
    · exact values
    · exact same key

end Same

/-- Overwrite the stored document's properties with those of a patch, each as a whole. -/
def concat (stored patch : Value) : Value :=
  obj (patch.fields.foldr (fun entry merged => Js.setEntry entry.1 entry.2 merged) stored.fields)

/--
Merge a patch into a stored value, map by map.

A map in the patch joins the map it meets, except that an empty one replaces it.
Anything else in the patch replaces what it meets.
-/
def deepMerge : Value → Value → Value
  | obj [], _ => obj []
  | obj (entry :: rest), stored =>
    match stored with
    | obj fields => obj (deepMergeFields (entry :: rest) fields)
    | _ => obj (entry :: rest)
  | patch, _ => patch
where
  /-- Every property of the patch is merged with the stored property of that name. -/
  deepMergeFields : List (String × Value) → List (String × Value) → List (String × Value)
    | [], fields => fields
    | (key, value) :: rest, fields =>
      Js.setEntry key (deepMerge value ((obj fields).get key)) (deepMergeFields rest fields)

/-- Merge a patch into a stored document, whose own root is never replaced. -/
def mergeInto (stored patch : Value) : Value :=
  obj (deepMerge.deepMergeFields patch.fields stored.fields)

theorem get_concat (stored patch : Value) (key : String) :
    (stored.concat patch).get key = (patch.fields.lookup key).getD (stored.get key) := by
  unfold concat
  -- The induction is on the patch, whose first entry under a key is the one read.
  induction patch.fields with
  | nil => simp
  | cons entry rest ih =>
    obtain ⟨name, value⟩ := entry
    rw [List.foldr_cons, get_setEntry]
    by_cases same : key = name
    · subst same; simp
    · have skipped : (key == name) = false := by simpa using same
      simp [same, ih, List.lookup_cons, skipped]

theorem get_deepMergeFields (patch fields : List (String × Value)) (key : String) :
    (obj (deepMerge.deepMergeFields patch fields)).get key =
      match patch.lookup key with
      | some value => deepMerge value ((obj fields).get key)
      | none => (obj fields).get key := by
  -- The induction is on the patch, whose first entry under a key is the one read.
  induction patch with
  | nil => simp [deepMerge.deepMergeFields]
  | cons entry rest ih =>
    obtain ⟨name, value⟩ := entry
    rw [deepMerge.deepMergeFields, get_setEntry]
    by_cases same : key = name
    · subst same; simp
    · have skipped : (key == name) = false := by simpa using same
      simp [same, ih, List.lookup_cons, skipped]

variable {patch : Value}

theorem deepMerge_of_no_fields (bare : patch.fields = []) (stored : Value) :
    deepMerge patch stored = patch := by
  cases patch with
  | obj fields =>
    have empty : fields = [] := bare
    subst empty
    rfl
  | _ => rfl

variable {stored : Value}

theorem deepMerge_of_not_object (plain : stored.isObject = false) (patch : Value) :
    deepMerge patch stored = patch := by
  cases patch with
  | obj fields =>
    cases fields with
    | nil => rfl
    | cons entry rest => cases stored <;> first | rfl | simp [isObject] at plain
  | _ => rfl

theorem get_deepMerge (held : patch.fields ≠ []) (object : stored.isObject = true) (key : String) :
    (deepMerge patch stored).get key =
      match patch.fields.lookup key with
      | some value => deepMerge value (stored.get key)
      | none => stored.get key := by
  cases stored with
  | obj fields =>
    cases patch with
    | obj updates =>
      cases updates with
      -- An empty patch would replace the document.
      | nil => simp at held
      | cons entry rest => exact get_deepMergeFields (entry :: rest) fields key
    | _ => simp [Value.fields] at held
  | _ => simp [isObject] at object

def Covered (stored patch : Value) : Prop :=
  -- Maps meet at a path, and an empty map of the patch needs no names because it replaces.
  ∀ path, (patch.atPath path).fields ≠ [] → (stored.atPath path).isObject = true →
    ∀ key, (stored.atPath path).get key ≠ undefined →
      ∃ value, (patch.atPath path).fields.lookup key = some value

theorem Covered.get (covered : Covered stored patch) (key : String) :
    Covered (stored.get key) (patch.get key) :=
  fun path => covered (key :: path)

theorem atPath_undefined (path : List String) : undefined.atPath path = undefined := by
  induction path with
  | nil => rfl
  | cons key rest ih => simpa [atPath] using ih

theorem get_of_no_fields {value : Value} (bare : value.fields = []) (key : String) :
    value.get key = undefined := by
  simp [Value.get, bare]

theorem get_of_lookup {value found : Value} {key : String}
    (located : value.fields.lookup key = some found) : value.get key = found := by
  simp [Value.get, located]

theorem shape_deepMerge (patch stored : Value) : (deepMerge patch stored).shape = patch.shape := by
  cases patch with
  | obj fields =>
    cases fields with
    | nil => rfl
    | cons entry rest => cases stored <;> rfl
  | _ => rfl

theorem isObject_of_shape {left right : Value} (alike : left.shape = right.shape)
    (held : right.fields ≠ []) : left.isObject = true := by
  cases right with
  | obj fields => cases left <;> first | rfl | cases alike
  | _ => exact absurd rfl held

theorem deepMerge_same (covered : Covered stored patch) : Same (deepMerge patch stored) patch := by
  intro path
  -- The induction is on the path, since the merge descends one property at a time.
  induction path generalizing stored patch with
  | nil => exact shape_deepMerge patch stored
  | cons key rest ih =>
    by_cases bare : patch.fields = []
    · rw [deepMerge_of_no_fields bare]
    by_cases object : stored.isObject = true
    · simp only [atPath, get_deepMerge bare object]
      cases named : patch.fields.lookup key with
      | some value =>
        have read := get_of_lookup named
        simpa [read] using ih (read ▸ covered.get key)
      | none =>
        -- Coverage leaves nothing stored under a name that the patch does not carry.
        have absent : stored.get key = undefined := by
          by_contra present
          obtain ⟨value, found⟩ := covered [] bare object key present
          rw [atPath, named] at found
          cases found
        have missing : patch.get key = undefined := by simp [Value.get, named]
        simp only [absent, missing]
    · rw [deepMerge_of_not_object (by simpa using object)]

theorem covered_of_same (same : Same (deepMerge patch stored) patch) :
    Covered stored patch := by
  intro path held object key present
  induction path generalizing stored patch with
  | nil =>
    simp only [atPath] at held object present ⊢
    cases named : patch.fields.lookup key with
    | some value => exact ⟨value, rfl⟩
    | none =>
      -- The stored property survives the merge, although the patch has nothing there.
      have merged := (same.get key).symm
      rw [get_deepMerge held object, named] at merged
      have missing : patch.get key = undefined := by simp [Value.get, named]
      rw [missing] at merged
      exact absurd (merged.eq_of_not_object rfl).symm present
  | cons name rest ih =>
    simp only [atPath] at held object present ⊢
    by_cases bare : patch.fields = []
    · simp [get_of_no_fields bare, atPath_undefined, Value.fields] at held
    by_cases whole : stored.isObject = true
    · have below := same.get name
      rw [get_deepMerge bare whole] at below
      cases named : patch.fields.lookup name with
      | none =>
        have missing : patch.get name = undefined := by simp [Value.get, named]
        simp [missing, atPath_undefined, Value.fields] at held
      | some value =>
        rw [named] at below
        have read := get_of_lookup named
        rw [read] at below held ⊢
        exact ih below held object present
    · have flat : stored.get name = undefined := by
        cases stored <;> simp_all [Value.get, Value.fields, isObject]
      simp [flat, atPath_undefined, isObject] at object

theorem deepMerge_same_iff : Same (deepMerge patch stored) patch ↔ Covered stored patch :=
  ⟨covered_of_same, deepMerge_same⟩

end Value

end Js
