import BitBrat.Backup.Serializer
import BitBrat.Js.Json
import Mathlib.Data.Set.Function

/-! What of a value is there again after it was written to a backup and read back. -/

namespace BitBrat

open Js

section

variable {sdk : FirestoreSdk}

theorem encodeValue_ne_undefined (value : FirestoreValue) :
    encodeValue sdk value ≠ .undefined := by
  cases value with
  | map fields =>
    unfold encodeValue
    split
    · nofun
    · split <;> nofun
  | _ => simp [encodeValue, encodeGeoPoint, typedWrapper]

theorem keys_encodeFields (fields : List (String × FirestoreValue)) :
    ((encodeFields sdk fields).map Prod.fst).Sublist (fields.map Prod.fst) := by
  induction fields with
  | nil => simp [encodeFields]
  | cons field rest ih =>
    obtain ⟨key, value⟩ := field
    unfold encodeFields
    split
    · exact ih.trans (List.sublist_cons_self _ _)
    · exact ih.cons_cons key

mutual

theorem jsonForm_encodeValue (isoText : Int → String) : ∀ value : FirestoreValue,
    value.WellFormed sdk → jsonForm isoText (encodeValue sdk value) = encodeValue sdk value
  | .null, _ | .bool _, _ | .str _, _ | .num _, _ => by simp [encodeValue, jsonForm]
  | .timestamp _, _ | .ref _, _ | .bytes _, _ => by
    simp [encodeValue, typedWrapper, jsonForm, jsonFields, eraseKey, TYPE_KEY]
  | .geoPoint _, _ => by
    simp [encodeValue, encodeGeoPoint, typedWrapper, jsonForm, jsonFields, eraseKey, TYPE_KEY]
  | .arr items, formed => by
    have same := jsonItems_encodeItems isoText items formed
    simp only [encodeValue, jsonForm, same]
  | .map fields, formed => by
    obtain ⟨distinct, fine⟩ := formed
    have same := jsonFields_encodeFields isoText fields distinct fine
    unfold encodeValue
    split
    · -- A map that passes for a place is written as one.
      simp [encodeGeoPoint, typedWrapper, jsonForm, jsonFields, eraseKey, TYPE_KEY]
    · split
      · simp [jsonForm, jsonFields, eraseKey, same, ESCAPE_KEY]
      · simp only [jsonForm, same]

theorem jsonItems_encodeItems (isoText : Int → String) : ∀ items : List FirestoreValue,
    ItemsWellFormed sdk items → jsonItems isoText (encodeItems sdk items) = encodeItems sdk items
  | [], _ => by simp [encodeItems, jsonItems]
  | item :: rest, ⟨formed, others⟩ => by
    have first := jsonForm_encodeValue isoText item formed
    have later := jsonItems_encodeItems isoText rest others
    simp only [encodeItems, jsonItems, if_neg (encodeValue_ne_undefined item), first, later]

theorem jsonFields_encodeFields (isoText : Int → String) :
    ∀ fields : List (String × FirestoreValue), (fields.map Prod.fst).Nodup →
      FieldsWellFormed sdk fields →
      jsonFields isoText (encodeFields sdk fields) = encodeFields sdk fields
  | [], _, _ => by simp [encodeFields, jsonFields]
  | (key, value) :: rest, distinct, ⟨formed, others⟩ => by
    obtain ⟨fresh, distinct⟩ := List.nodup_cons.mp distinct
    have first := jsonForm_encodeValue isoText value formed
    have later := jsonFields_encodeFields isoText rest distinct others
    unfold encodeFields
    split
    · exact later
    · -- No other field has this key.
      have apart : key ∉ (encodeFields sdk rest).map Prod.fst :=
        fun member => fresh ((keys_encodeFields rest).subset member)
      rw [jsonFields_cons isoText apart (encodeValue_ne_undefined value), first, later]

end

theorem lookup_encodeFields {fields : List (String × FirestoreValue)} {key : String}
    (absent : key ∉ fields.map Prod.fst) : (encodeFields sdk fields).lookup key = none :=
  lookup_eq_none_iff_not_mem.mpr fun member => absent ((keys_encodeFields fields).subset member)

theorem keys_of_not_needsEscape {fields : List (String × FirestoreValue)}
    (plain : needsEscape fields = false) :
    TYPE_KEY ∉ fields.map Prod.fst ∧ ESCAPE_KEY ∉ fields.map Prod.fst := by
  have none := List.any_eq_false.mp plain
  refine ⟨?_, ?_⟩
  all_goals
    intro member
    obtain ⟨field, held, same⟩ := List.mem_map.mp member
    exact none field held (by simp [same])

theorem key_of_decodeFields {fields : List (String × Value)}
    {decoded : List (String × FirestoreValue)} (done : decodeFields sdk fields = .ok decoded) :
    "__proto__" ∉ decoded.map Prod.fst := by
  induction fields generalizing decoded with
  | nil =>
    rw [decodeFields] at done
    cases done
    simp
  | cons field rest ih =>
    obtain ⟨key, value⟩ := field
    rw [decodeFields] at done
    obtain ⟨first, _, done⟩ := except_bind_ok.mp done
    obtain ⟨others, later, done⟩ := except_bind_ok.mp done
    cases done
    split
    · exact ih later
    · rename_i other
      simp only [List.map_cons, List.mem_cons, not_or]
      exact ⟨Ne.symm other, ih later⟩

theorem decodeValue_typedWrapper {type : String} {fields : List (String × Value)}
    (unescaped : fields.lookup ESCAPE_KEY = none) :
    decodeValue sdk (typedWrapper type fields) =
      decodeTyped sdk type (typedWrapper type fields) := by
  have other : (ESCAPE_KEY == TYPE_KEY) = false := rfl
  have notEscaped : escapedFields ((TYPE_KEY, .str type) :: fields) = none := by
    simp only [escapedFields, List.lookup_cons, other, unescaped]
  have typed : (Value.obj ((TYPE_KEY, .str type) :: fields)).get TYPE_KEY = .str type := by
    simp [Value.get_obj_cons]
  exact decodeValue_typed notEscaped typed

theorem decodeValue_encodeGeoPoint (latitude longitude : ℚ) :
    decodeValue sdk (encodeGeoPoint latitude longitude) =
      match GeoPoint.make (.finite latitude) (.finite longitude) with
      | some place => .ok (.geoPoint place)
      | none => .error "Value for argument \"latitude\" is not a valid number." := by
  unfold encodeGeoPoint
  rw [decodeValue_typedWrapper rfl]
  -- The two numbers read back as they are.
  change (match GeoPoint.make (sdk.toNumber (.num (.finite latitude)))
      (sdk.toNumber (.num (.finite longitude))) with
    | some place => Except.ok (FirestoreValue.geoPoint place)
    | none => .error "Value for argument \"latitude\" is not a valid number.") = _
  rw [sdk.toNumber_num, sdk.toNumber_num]

theorem decodeValue_timestamp (timestamp : Timestamp) :
    decodeValue sdk (encodeValue sdk (.timestamp timestamp)) = .ok (.timestamp timestamp) ↔
      timestamp.WholeMillis := by
  rw [encodeValue, decodeValue_typedWrapper rfl]
  have text (iso : String) : (typedWrapper "timestamp" [("value", .str iso)]).get "value" =
      .str iso := rfl
  simp only [decodeTyped, text, Value.toText, ↓reduceIte]
  constructor
  · -- What is decoded is made from milliseconds.
    intro same
    split at same
    · rename_i found made
      cases same
      obtain ⟨ms, _, made⟩ := Option.bind_eq_some_iff.mp made
      exact Timestamp.wholeMillis_of_fromMillis made
    · cases same
  · intro whole
    obtain ⟨low, high⟩ := timestamp.millis_bounds
    rw [sdk.toMillis_whole timestamp whole, sdk.parseDate_toISOString _ low high,
      Option.bind_some, Timestamp.fromMillis_millis whole]

mutual

theorem decodeValue_encodeValue : ∀ value : FirestoreValue, value.WellFormed sdk →
    (decodeValue sdk (encodeValue sdk value) = .ok value ↔ value.Restorable)
  | .null, _ | .bool _, _ | .str _, _ | .num _, _ => by
    simp [encodeValue, decodeValue, FirestoreValue.Restorable]
  | .timestamp timestamp, _ => decodeValue_timestamp timestamp
  | .geoPoint place, _ => by
    simp only [encodeValue, decodeValue_encodeGeoPoint, place.make_fields,
      FirestoreValue.Restorable]
  | .ref path, formed => by
    have known : sdk.doc path = some path := formed
    rw [encodeValue, decodeValue_typedWrapper rfl]
    simp [decodeTyped, typedWrapper, Value.get_obj_cons, TYPE_KEY, Value.toText, known,
      FirestoreValue.Restorable]
  | .bytes bytes, _ => by
    rw [encodeValue, decodeValue_typedWrapper rfl]
    simp [decodeTyped, typedWrapper, Value.get_obj_cons, TYPE_KEY, Value.toText,
      ofBase64_toBase64, FirestoreValue.Restorable]
  | .arr items, formed => by
    have each := decodeItems_encodeItems items formed
    simp only [encodeValue, decodeValue, except_bind_ok, FirestoreValue.Restorable, ← each]
    constructor
    · rintro ⟨decoded, done, same⟩
      cases same
      exact done
    · intro done
      exact ⟨items, done, rfl⟩
  | .map fields, formed => by
    obtain ⟨distinct, fine⟩ := formed
    have each := decodeFields_encodeFields fields fine
    have whole : (do .ok (.map (← decodeFields sdk (encodeFields sdk fields))) :
        Except String FirestoreValue) = .ok (.map fields) ↔ FieldsRestorable fields := by
      rw [← each, except_bind_ok]
      constructor
      · rintro ⟨decoded, done, same⟩
        cases same
        exact done
      · intro done
        exact ⟨fields, done, rfl⟩
    unfold encodeValue FirestoreValue.Restorable
    split
    · -- A map that passes for a place is not there again.
      rename_i latitude longitude like
      rw [decodeValue_encodeGeoPoint, like]
      constructor
      · intro same
        split at same <;> cases same
      · rintro ⟨never, _⟩
        cases never
    · rename_i unlike
      simp only [unlike, true_and]
      split
      · -- An escaped map is decoded field by field.
        rw [decodeValue_escaped rfl]
        exact whole
      · rename_i plain
        obtain ⟨noType, noEscape⟩ := keys_of_not_needsEscape (Bool.eq_false_iff.mpr plain)
        have unescaped : escapedFields (encodeFields sdk fields) = none := by
          simp [escapedFields, lookup_encodeFields noEscape]
        have untyped : (Value.obj (encodeFields sdk fields)).get TYPE_KEY = .undefined := by
          simp [Value.get, lookup_encodeFields noType]
        rw [decodeValue_plain unescaped untyped]
        exact whole

theorem decodeItems_encodeItems : ∀ items : List FirestoreValue,
    ItemsWellFormed sdk items →
      (decodeItems sdk (encodeItems sdk items) = .ok items ↔ ItemsRestorable items)
  | [], _ => by simp [encodeItems, decodeItems, ItemsRestorable]
  | item :: rest, ⟨formed, others⟩ => by
    have first := decodeValue_encodeValue item formed
    have later := decodeItems_encodeItems rest others
    simp only [encodeItems, decodeItems, except_bind_ok, ItemsRestorable, ← first, ← later]
    constructor
    · rintro ⟨decoded, done, decodedRest, doneRest, same⟩
      cases same
      exact ⟨done, doneRest⟩
    · rintro ⟨done, doneRest⟩
      exact ⟨item, done, rest, doneRest, rfl⟩

theorem decodeFields_encodeFields : ∀ fields : List (String × FirestoreValue),
    FieldsWellFormed sdk fields →
      (decodeFields sdk (encodeFields sdk fields) = .ok fields ↔ FieldsRestorable fields)
  | [], _ => by simp [encodeFields, decodeFields, FieldsRestorable]
  | (key, value) :: rest, ⟨formed, others⟩ => by
    have first := decodeValue_encodeValue value formed
    have later := decodeFields_encodeFields rest others
    unfold encodeFields FieldsRestorable
    split
    · -- The field is not written, and no decoded field has this key.
      rename_i proto
      constructor
      · intro done
        exact absurd (List.mem_map_of_mem List.mem_cons_self) (proto ▸ key_of_decodeFields done)
      · rintro ⟨apart, _⟩
        exact absurd proto apart
    · rename_i apart
      simp only [decodeFields, if_neg apart, except_bind_ok, ← first, ← later]
      constructor
      · rintro ⟨decoded, done, decodedRest, doneRest, same⟩
        cases same
        exact ⟨apart, done, doneRest⟩
      · rintro ⟨_, done, doneRest⟩
        exact ⟨value, done, rest, doneRest, rfl⟩

end

/-- The text of a value as a file holds it, read back. -/
def readBack (sdk : FirestoreSdk) (value : FirestoreValue) : Except String FirestoreValue :=
  decodeValue sdk (jsonForm toISOString (encodeValue sdk value))

def readBackDocument (sdk : FirestoreSdk) (data : List (String × FirestoreValue)) :
    Except String FirestoreValue :=
  decodeDocumentData sdk (jsonForm toISOString (encodeDocumentData sdk data))

/-- Values and documents are there again, and no two values have the same JSON. -/
structure BackupLaw (sdk : FirestoreSdk) (values : Set FirestoreValue) : Prop where
  value : ∀ value ∈ values, readBack sdk value = .ok value
  document : ∀ data, .map data ∈ values → readBackDocument sdk data = .ok (.map data)
  injective : Set.InjOn (encodeValue sdk) values

theorem encodeDocumentData_eq (data : List (String × FirestoreValue)) :
    encodeDocumentData sdk data = encodeValue sdk (.map data) := by
  unfold encodeDocumentData encodeValue
  split
  · rename_i same
    exact same.symm
  · rename_i other
    split at other
    · exact absurd rfl (other _)
    · split at other <;> exact absurd rfl (other _)

theorem readBack_iff {value : FirestoreValue} (formed : value.WellFormed sdk) :
    readBack sdk value = .ok value ↔ value.Restorable := by
  unfold readBack
  rw [jsonForm_encodeValue toISOString value formed]
  exact decodeValue_encodeValue value formed

theorem readBackDocument_eq (data : List (String × FirestoreValue)) :
    readBackDocument sdk data = readBack sdk (.map data) := by
  unfold readBackDocument decodeDocumentData
  rw [encodeDocumentData_eq]
  rfl

/-- Backups of some values keep the law exactly if they keep each of the values. -/
theorem backupLaw_iff (values : Set FirestoreValue)
    (formed : ∀ value ∈ values, value.WellFormed sdk) :
    BackupLaw sdk values ↔ ∀ value ∈ values, value.Restorable := by
  constructor
  · intro law value member
    exact (readBack_iff (formed value member)).mp (law.value value member)
  · intro kept
    have back : ∀ value ∈ values, readBack sdk value = .ok value :=
      fun value member => (readBack_iff (formed value member)).mpr (kept value member)
    refine ⟨back, ?_, ?_⟩
    · intro data member
      rw [readBackDocument_eq]
      exact back _ member
    · -- Values with the same JSON are read back as the same value.
      intro left memberLeft right memberRight same
      have leftBack := back left memberLeft
      have rightBack := back right memberRight
      unfold readBack at leftBack rightBack
      rw [same, rightBack] at leftBack
      cases leftBack
      rfl

/-- What the database library does to dates and paths, to the letter. -/
def plainSdk : FirestoreSdk where
  toMillis := Timestamp.millis
  toMillis_whole := fun _ _ => rfl
  parseDate := ofISOString
  parseDate_toISOString := fun ms _ _ => ofISOString_toISOString ms
  toNumber
    | .num number => number
    | _ => .nan
  toNumber_num := fun _ => rfl
  doc := documentPath
  doc_joined := fun _ => documentPath_joined
  accepts := fun _ => true
  accepts_filter := fun _ _ _ => rfl

def escapedDocument : FirestoreValue :=
  .map [("__type", .str "timestamp"), ("value", .arr [.ref "users/ada", .bytes [1, 2]]),
    ("at", .timestamp { seconds := 1700000000, nanoseconds := 250000000 })]

theorem backupLaw_of_escapedDocument : BackupLaw plainSdk {escapedDocument} := by
  have formed : ∀ value ∈ ({escapedDocument} : Set FirestoreValue), value.WellFormed plainSdk := by
    intro value member
    rw [Set.mem_singleton_iff.mp member]
    have known : plainSdk.doc "users/ada" = some "users/ada" := by decide
    simp [escapedDocument, FirestoreValue.WellFormed, FieldsWellFormed, ItemsWellFormed, known]
  refine (backupLaw_iff {escapedDocument} formed).mpr ?_
  intro value member
  rw [Set.mem_singleton_iff.mp member]
  refine ⟨rfl, ?_⟩
  simp [FirestoreValue.Restorable, FieldsRestorable, ItemsRestorable, Timestamp.WholeMillis]

def oneNanosecond : FirestoreValue := .timestamp { seconds := 0, nanoseconds := 1 }

def placeLike : FirestoreValue :=
  .map [("constructor", .map [("name", .str "GeoPoint")]), ("latitude", .num 1),
    ("longitude", .num 2)]

/-- A nanosecond is lost, and a map with the keys of a place becomes one. -/
theorem nanosecond_lost :
    (oneNanosecond.WellFormed plainSdk ∧ readBack plainSdk oneNanosecond ≠ .ok oneNanosecond) ∧
      placeLike.WellFormed plainSdk ∧ readBack plainSdk placeLike ≠ .ok placeLike := by
  have first : oneNanosecond.WellFormed plainSdk := trivial
  have second : placeLike.WellFormed plainSdk := by
    simp [placeLike, FirestoreValue.WellFormed, FieldsWellFormed]
  refine ⟨⟨first, ?_⟩, second, ?_⟩
  · intro back
    have whole : (0 + 1) % 1000000 = 0 := (readBack_iff first).mp back
    cases whole
  · intro back
    obtain ⟨unlike, _⟩ := (readBack_iff second).mp back
    cases unlike

end

end BitBrat
