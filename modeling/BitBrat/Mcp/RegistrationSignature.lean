import BitBrat.Js.KeyOrder

/-! The signatures by which registrations of a bit are compared. -/

namespace BitBrat

open Js

mutual

def stable : Value → Value
  | .arr items => .arr (stableItems items)
  | .obj fields => .obj (assigned (sortKeys (stableFields fields)))
  | other => other

def stableItems : List Value → List Value
  | [] => []
  | item :: rest => stable item :: stableItems rest

/-- The properties of an object with the names of the objects in them in order. -/
def stableFields : List (String × Value) → List (String × Value)
  | [] => []
  | (key, value) :: rest => (key, stable value) :: stableFields rest

end

def IGNORED_FIELDS : List String := ["correlationId", "updatedAt", "discoverySource"]

def meaningful (payload : List (String × Value)) : List (String × Value) :=
  payload.filter (·.1 ∉ IGNORED_FIELDS)

section

-- The text that a date is written as depends on its milliseconds alone.
variable (isoText : Int → String)

def registrationSignature (payload : List (String × Value)) : String :=
  stringify isoText (stable (.obj (meaningful payload)))

end

/-- The name that does not become a property when it is assigned to. -/
def isProto (key : String) : Bool := key = "__proto__"

theorem lookup_stableFields (fields : List (String × Value)) (key : String) :
    (stableFields fields).lookup key = (fields.lookup key).map stable := by
  induction fields with
  | nil => rfl
  | cons field rest ih =>
    obtain ⟨name, value⟩ := field
    rw [stableFields, List.lookup_cons, List.lookup_cons, ih]
    split <;> rfl

theorem keys_stableFields (fields : List (String × Value)) :
    (stableFields fields).map Prod.fst = fields.map Prod.fst := by
  induction fields with
  | nil => rfl
  | cons field rest ih => rw [stableFields, List.map_cons, List.map_cons, ih]

theorem fieldsAreJson_iff {fields : List (String × Value)} :
    FieldsAreJson fields ↔ ∀ field ∈ fields, IsJson field.2 := by
  induction fields with
  | nil => simp [FieldsAreJson]
  | cons field rest ih => simp [FieldsAreJson, ih]

theorem forall_map_lookup_eq_iff {fields : List (String × Value)}
    (distinct : (fields.map Prod.fst).Nodup) (others : List (String × Value)) :
    (∀ key, key ≠ "__proto__" →
        (fields.lookup key).map stable = (others.lookup key).map stable) ↔
      (∀ key, isProto key = false → others.lookup key ≠ none → fields.lookup key ≠ none) ∧
        ∀ field ∈ fields, isProto field.1 = false →
          ∃ other, others.lookup field.1 = some other ∧ stable field.2 = stable other := by
  have plain (key : String) : isProto key = false ↔ key ≠ "__proto__" := by simp [isProto]
  simp only [plain]
  constructor
  · intro same
    refine ⟨fun key compared there absent => ?_, fun field member compared => ?_⟩
    · have equal := same key compared
      rw [absent] at equal
      exact there (Option.map_eq_none_iff.mp equal.symm)
    · have equal := same field.1 compared
      rw [lookup_of_mem distinct member] at equal
      obtain ⟨other, found, matched⟩ := Option.map_eq_some_iff.mp equal.symm
      exact ⟨other, found, matched.symm⟩
  · intro ⟨none_more, all⟩ key compared
    cases found : fields.lookup key with
    | none =>
      -- A property of the other object would be one of this object.
      have absent : others.lookup key = none := by
        by_contra there
        exact none_more key compared there found
      rw [absent]
    | some value =>
      obtain ⟨other, there, equal⟩ := all (key, value) (mem_of_lookup found) compared
      rw [there, Option.map_some, Option.map_some, equal]

mutual

theorem stable_eq_iff : ∀ {value other : Value}, IsJson value → IsJson other →
    (stable value = stable other ↔ SameBut isProto value other)
  | .arr items, other, json, second => by
    cases other with
    | arr others => simpa [stable, SameBut] using stableItems_eq_iff json second
    | _ => simp [stable, SameBut]
  | .obj fields, other, json, second => by
    cases other with
    | obj others =>
      have compared := sameFields_iff json.2 second.2
      rw [stable, stable, Value.obj.injEq, assigned_sortKeys_eq_iff
        (keys_stableFields fields ▸ json.1) (keys_stableFields others ▸ second.1)]
      simp only [lookup_stableFields, SameBut, compared]
      exact forall_map_lookup_eq_iff json.1 others
    | _ => simp [stable, SameBut]
  | .undefined, other, _, _ | .null, other, _, _ | .bool _, other, _, _
  | .num _, other, _, _ | .str _, other, _, _ | .date _, other, _, _ => by
    cases other <;> simp [stable, SameBut]

theorem stableItems_eq_iff : ∀ {items others : List Value}, AreJson items → AreJson others →
    (stableItems items = stableItems others ↔ SameItems isProto items others)
  | [], [], _, _ => by simp [stableItems, SameItems]
  | [], _ :: _, _, _ | _ :: _, [], _, _ => by simp [stableItems, SameItems]
  | item :: items, other :: others, json, second => by
    simp [stableItems, SameItems, stable_eq_iff json.1 second.1,
      stableItems_eq_iff json.2 second.2]

theorem sameFields_iff : ∀ {fields others : List (String × Value)}, FieldsAreJson fields →
    FieldsAreJson others → (SameFields isProto fields others ↔ ∀ field ∈ fields,
      isProto field.1 = false → ∃ other, others.lookup field.1 = some other ∧
        stable field.2 = stable other)
  | [], _, _, _ => by simp [SameFields]
  | (key, value) :: fields, others, json, second => by
    have equal {other : Value} (found : others.lookup key = some other) :
        stable value = stable other ↔ SameBut isProto value other :=
      stable_eq_iff json.1 (fieldsAreJson_iff.mp second _ (mem_of_lookup found))
    rw [SameFields, sameFields_iff json.2 second, List.forall_mem_cons]
    refine and_congr (forall_congr' fun _ => exists_congr fun other => ?_) Iff.rfl
    exact and_congr_right fun found => (equal found).symm

end

mutual

theorem isJson_stable : ∀ {value : Value}, IsJson value → IsJson (stable value)
  | .arr items, json => by
    rw [stable]
    exact areJson_stableItems json
  | .obj fields, json => by
    have members := fieldsAreJson_iff.mp (fieldsAreJson_stableFields json.2)
    have kept : (assigned (sortKeys (stableFields fields))).Subperm (stableFields fields) :=
      (perm_assigned _).subperm.trans
        (List.filter_sublist.subperm.trans (perm_sortKeys _).subperm)
    rw [stable]
    refine ⟨?_, fieldsAreJson_iff.mpr fun field member => members field (kept.subset member)⟩
    have names := ((perm_sortKeys (stableFields fields)).map Prod.fst).nodup_iff.mpr
      (keys_stableFields fields ▸ json.1)
    exact ((perm_assigned _).map Prod.fst).nodup_iff.mpr
      ((List.filter_sublist.map Prod.fst).nodup names)
  | .null, json | .bool _, json | .str _, json | .num _, json | .undefined, json
  | .date _, json => by simpa only [stable] using json

theorem areJson_stableItems : ∀ {items : List Value}, AreJson items → AreJson (stableItems items)
  | [], _ => trivial
  | _ :: _, json => ⟨isJson_stable json.1, areJson_stableItems json.2⟩

theorem fieldsAreJson_stableFields : ∀ {fields : List (String × Value)}, FieldsAreJson fields →
    FieldsAreJson (stableFields fields)
  | [], _ => trivial
  | (_, _) :: _, json => ⟨isJson_stable json.1, fieldsAreJson_stableFields json.2⟩

end

theorem isJson_meaningful {payload : List (String × Value)} (json : IsJson (.obj payload)) :
    IsJson (.obj (meaningful payload)) :=
  ⟨(List.filter_sublist.map Prod.fst).nodup json.1,
    fieldsAreJson_iff.mpr fun field member =>
      fieldsAreJson_iff.mp json.2 field (List.filter_sublist.subset member)⟩

/-- Registrations of one signature have the same meaningful properties, but for the order of names
and for one name that is never a property. -/
theorem registrationSignature_eq_iff (isoText : Int → String)
    {payload other : List (String × Value)} (json : IsJson (.obj payload))
    (second : IsJson (.obj other)) :
    registrationSignature isoText payload = registrationSignature isoText other ↔
      SameBut isProto (.obj (meaningful payload)) (.obj (meaningful other)) := by
  have first := isJson_meaningful json
  have next := isJson_meaningful second
  rw [← stable_eq_iff first next]
  constructor
  · exact stringify_inj isoText (isJson_stable first) (isJson_stable next)
  · exact congrArg (stringify isoText)

end BitBrat
