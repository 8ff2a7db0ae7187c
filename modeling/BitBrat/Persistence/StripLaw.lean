import BitBrat.Persistence.Model

/-! What stripping undefined values keeps of documents whose objects may have any property. -/

namespace BitBrat

open Js

mutual

/-- A value without undefined properties and items, as it is assembled by assignments: the one to
`__proto__` makes no property. -/
def stripAssigning : Value → Value
  | .arr items => .arr (stripAssigningItems items)
  | .obj fields => .obj (stripAssigningFields fields)
  | other => other

def stripAssigningItems : List Value → List Value
  | [] => []
  | item :: rest =>
    if item = .undefined then stripAssigningItems rest
    else stripAssigning item :: stripAssigningItems rest

def stripAssigningFields : List (String × Value) → List (String × Value)
  | [] => []
  | (key, value) :: rest =>
    if value = .undefined then stripAssigningFields rest
    -- The setter of the prototype takes the value.
    else if key = "__proto__" then stripAssigningFields rest
    else (key, stripAssigning value) :: stripAssigningFields rest

end

mutual

/-- Every object in a value has each name once, and every property and item is as it should be. -/
def Throughout (ok : Option String → Value → Prop) : Value → Prop
  | .arr items => ThroughoutItems ok items
  | .obj fields => ThroughoutFields ok fields
  | _ => True

def ThroughoutItems (ok : Option String → Value → Prop) : List Value → Prop
  | [] => True
  | item :: rest => ok none item ∧ Throughout ok item ∧ ThroughoutItems ok rest

def ThroughoutFields (ok : Option String → Value → Prop) : List (String × Value) → Prop
  | [] => True
  | (key, value) :: rest =>
    (key ∉ rest.map Prod.fst ∧ ok (some key) value) ∧ Throughout ok value ∧
      ThroughoutFields ok rest

end

def Assembled : Value → Prop := Throughout fun _ _ => True

/-- Nothing undefined stands in a value, at any depth. -/
def Defined : Value → Prop := Throughout fun _ value => value ≠ .undefined

def NoPrototype : Value → Prop :=
  Throughout fun key value => key = some "__proto__" → value = .undefined

structure StripLaw (value : Value) : Prop where
  undefined : stripAssigning value = .undefined → value = .undefined
  clean : Defined (stripAssigning value)
  fixed : Defined value → stripAssigning value = value
  again : stripAssigning (stripAssigning value) = stripAssigning value
  kept : stripAssigning value = stripUndefinedDeep value

theorem stripAssigning_eq_undefined {value : Value} :
    stripAssigning value = .undefined ↔ value = .undefined := by
  cases value <;> simp [stripAssigning]

theorem mem_stripAssigningFields {key : String} (fields : List (String × Value))
    (member : key ∈ (stripAssigningFields fields).map Prod.fst) :
    key ∈ fields.map Prod.fst ∧ key ≠ "__proto__" := by
  induction fields with
  | nil => simp [stripAssigningFields] at member
  | cons entry rest ih =>
    obtain ⟨name, value⟩ := entry
    rw [stripAssigningFields] at member
    split at member
    · exact (ih member).imp_left (List.mem_cons_of_mem _)
    · split at member
      · exact (ih member).imp_left (List.mem_cons_of_mem _)
      · rename_i plain
        rcases List.mem_cons.mp member with rfl | later
        · exact ⟨List.mem_cons_self, plain⟩
        · exact (ih later).imp_left (List.mem_cons_of_mem _)

theorem mem_stripFields {key : String} (fields : List (String × Value))
    (member : key ∈ (stripUndefinedDeep.stripFields fields).map Prod.fst) :
    key ∈ fields.map Prod.fst := by
  induction fields with
  | nil => simp [stripUndefinedDeep.stripFields] at member
  | cons entry rest ih =>
    obtain ⟨name, value⟩ := entry
    have erased (inside : key ∈ (eraseKey name (stripUndefinedDeep.stripFields rest)).map
        Prod.fst) : key ∈ rest.map Prod.fst :=
      ih ((List.filter_sublist.map Prod.fst).subset inside)
    rw [stripUndefinedDeep.stripFields] at member
    split at member
    · exact List.mem_cons_of_mem _ (erased member)
    · rcases List.mem_cons.mp member with rfl | later
      · exact List.mem_cons_self
      · exact List.mem_cons_of_mem _ (erased later)

theorem stripFields_cons {key : String} {value : Value} {rest : List (String × Value)}
    (fresh : key ∉ rest.map Prod.fst) : stripUndefinedDeep.stripFields ((key, value) :: rest) =
      if value = .undefined then stripUndefinedDeep.stripFields rest
      else (key, stripUndefinedDeep value) :: stripUndefinedDeep.stripFields rest := by
  have kept : eraseKey key (stripUndefinedDeep.stripFields rest) =
      stripUndefinedDeep.stripFields rest := by
    apply List.filter_eq_self.mpr
    intro entry member
    have apart : entry.1 ≠ key := fun same =>
      fresh (mem_stripFields rest (same ▸ List.mem_map_of_mem member))
    simpa using apart
  rw [stripUndefinedDeep.stripFields, kept]

def HoldsWritten (ok : Option String → Value → Prop) : Prop :=
  ∀ key value, value ≠ .undefined → key ≠ some "__proto__" → ok key value

variable {ok : Option String → Value → Prop}

mutual

theorem throughout_stripAssigning (sound : HoldsWritten ok) :
    ∀ value : Value, Assembled value → Throughout ok (stripAssigning value)
  | .arr items, assembled => throughout_stripAssigningItems sound items assembled
  | .obj fields, assembled => throughout_stripAssigningFields sound fields assembled
  | .undefined, _ | .null, _ | .bool _, _ | .num _, _ | .str _, _ | .date _, _ => trivial

theorem throughout_stripAssigningItems (sound : HoldsWritten ok) : ∀ items : List Value,
    ThroughoutItems (fun _ _ => True) items → ThroughoutItems ok (stripAssigningItems items)
  | [], _ => trivial
  | item :: rest, ⟨_, inside, later⟩ => by
    rw [stripAssigningItems]
    split
    · exact throughout_stripAssigningItems sound rest later
    · rename_i defined
      exact ⟨sound _ _ (mt stripAssigning_eq_undefined.mp defined) nofun,
        throughout_stripAssigning sound item inside,
        throughout_stripAssigningItems sound rest later⟩

theorem throughout_stripAssigningFields (sound : HoldsWritten ok) :
    ∀ fields : List (String × Value),
    ThroughoutFields (fun _ _ => True) fields →
      ThroughoutFields ok (stripAssigningFields fields)
  | [], _ => trivial
  | (key, value) :: rest, ⟨⟨fresh, _⟩, inside, later⟩ => by
    rw [stripAssigningFields]
    split
    · exact throughout_stripAssigningFields sound rest later
    · rename_i defined
      split
      · exact throughout_stripAssigningFields sound rest later
      · rename_i plain
        refine ⟨⟨fun member => fresh (mem_stripAssigningFields rest member).1, ?_⟩,
          throughout_stripAssigning sound value inside,
          throughout_stripAssigningFields sound rest later⟩
        exact sound _ _ (mt stripAssigning_eq_undefined.mp defined)
          fun same => plain (Option.some.inj same)

end

mutual

theorem strip_of_defined : ∀ value : Value, Defined value →
    stripUndefinedDeep value = value
  | .arr items, defined => congrArg Value.arr (stripItems_of_defined items defined)
  | .obj fields, defined => congrArg Value.obj (stripFields_of_defined fields defined)
  | .undefined, _ | .null, _ | .bool _, _ | .num _, _ | .str _, _ | .date _, _ => rfl

theorem stripItems_of_defined : ∀ items : List Value,
    ThroughoutItems (fun _ value => value ≠ .undefined) items →
      stripUndefinedDeep.stripItems items = items
  | [], _ => rfl
  | item :: rest, ⟨defined, inside, later⟩ => by
    rw [stripUndefinedDeep.stripItems, if_neg defined, strip_of_defined item inside,
      stripItems_of_defined rest later]

theorem stripFields_of_defined : ∀ fields : List (String × Value),
    ThroughoutFields (fun _ value => value ≠ .undefined) fields →
      stripUndefinedDeep.stripFields fields = fields
  | [], _ => rfl
  | (key, value) :: rest, ⟨⟨fresh, defined⟩, inside, later⟩ => by
    rw [stripFields_cons fresh, if_neg defined, strip_of_defined value inside,
      stripFields_of_defined rest later]

end

mutual

theorem kept_iff : ∀ value : Value, Assembled value →
    (stripAssigning value = stripUndefinedDeep value ↔ NoPrototype value)
  | .arr items, assembled => by
    simpa [stripAssigning, stripUndefinedDeep, NoPrototype, Throughout] using
      keptItems_iff items assembled
  | .obj fields, assembled => by
    simpa [stripAssigning, stripUndefinedDeep, NoPrototype, Throughout] using
      keptFields_iff fields assembled
  | .undefined, _ | .null, _ | .bool _, _ | .num _, _ | .str _, _ | .date _, _ =>
    iff_of_true rfl trivial

theorem keptItems_iff : ∀ items : List Value,
    ThroughoutItems (fun _ _ => True) items →
      (stripAssigningItems items = stripUndefinedDeep.stripItems items ↔
        ThroughoutItems (fun key value => key = some "__proto__" → value = .undefined) items)
  | [], _ => iff_of_true rfl trivial
  | item :: rest, ⟨_, inside, later⟩ => by
    rw [stripAssigningItems, stripUndefinedDeep.stripItems, ThroughoutItems,
      ← keptItems_iff rest later, ← NoPrototype, ← kept_iff item inside]
    split
    · simp [*, stripAssigning]
    · simp

theorem keptFields_iff : ∀ fields : List (String × Value),
    ThroughoutFields (fun _ _ => True) fields →
      (stripAssigningFields fields = stripUndefinedDeep.stripFields fields ↔
        ThroughoutFields (fun key value => key = some "__proto__" → value = .undefined) fields)
  | [], _ => iff_of_true rfl trivial
  | (key, value) :: rest, ⟨⟨fresh, _⟩, inside, later⟩ => by
    rw [stripAssigningFields, stripFields_cons fresh, ThroughoutFields,
      ← keptFields_iff rest later, ← NoPrototype, ← kept_iff value inside]
    split
    · simp_all [stripAssigning]
    · split
      · -- The property is missing on one side.
        rename_i defined prototype
        refine iff_of_false (fun same => ?_) (by simp [defined, prototype])
        have member : key ∈ (stripAssigningFields rest).map Prod.fst := by simp [same]
        exact (mem_stripAssigningFields rest member).2 prototype
      · simp_all

end

/-- Stripping keeps its promises of a value exactly when no object in it has a defined property of
its own under the name of the prototype. -/
theorem stripLaw_iff {value : Value} (assembled : Assembled value) :
    StripLaw value ↔ NoPrototype value := by
  have clean : Defined (stripAssigning value) :=
    throughout_stripAssigning (fun _ _ defined _ => defined) value assembled
  have plain : NoPrototype (stripAssigning value) :=
    throughout_stripAssigning
      (fun _ _ _ other same => absurd same other :
        HoldsWritten fun key value => key = some "__proto__" → value = .undefined) value assembled
  have stripped : Assembled (stripAssigning value) :=
    throughout_stripAssigning (fun _ _ _ _ => trivial) value assembled
  refine ⟨fun law => (kept_iff value assembled).mp law.kept, fun noPrototype => ?_⟩
  have kept := (kept_iff value assembled).mpr noPrototype
  refine ⟨stripAssigning_eq_undefined.mp, clean, ?_, ?_, kept⟩
  · intro defined
    rw [kept, strip_of_defined value defined]
  · rw [(kept_iff _ stripped).mpr plain, strip_of_defined _ clean]

/-- A document with an undefined property in an item of an array. -/
theorem stripLaw_nested : StripLaw (.obj [("steps", .arr [.obj [("id", .str "a"),
    ("error", .undefined)], .undefined])]) :=
  (stripLaw_iff (by simp [Assembled, Throughout, ThroughoutFields, ThroughoutItems])).mpr
    (by simp [NoPrototype, Throughout, ThroughoutFields, ThroughoutItems])

/-- A property that is called like the prototype is lost. -/
theorem not_stripLaw : ¬ ∀ value, Assembled value → StripLaw value := by
  intro law
  have kept := (law (.obj [("__proto__", .obj [("role", .str "admin")])])
    (by simp [Assembled, Throughout, ThroughoutFields])).kept
  revert kept
  decide +kernel

end BitBrat
