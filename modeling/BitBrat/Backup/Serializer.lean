import Mathlib.Data.List.SplitBy
import BitBrat.Js.Base64
import BitBrat.Js.IsoDate
import BitBrat.Js.Value

/-! The collections that a backup consists of, and those that it must never touch. -/

namespace BitBrat

structure BackupCollectionSpec where
  path : String
  recurseSubcollections : Option Bool := none
  /-- The only subcollections that are followed, if they are restricted. -/
  subcollections : Option (List String) := none
  sensitive : Bool := false
  stripFields : List String := []
  deriving DecidableEq

def REGISTRY_VERSION : Nat := 2

def CONFIG_BACKUP_REGISTRY : List BackupCollectionSpec :=
  [{ path := "users", recurseSubcollections := some true },
    { path := "stories" },
    { path := "personalities", recurseSubcollections := some true },
    { path := "configs", recurseSubcollections := some true },
    { path := "stream_observers" },
    { path := "mcp_servers" },
    { path := "schedules" },
    { path := "sources"
      stripFields := ["status", "streamStatus", "metrics", "lastHeartbeat", "lastStatusUpdate",
        "lastStreamUpdate", "lastError", "viewerCount", "latencyMs"] },
    { path := "gateways/api/tokens", sensitive := true }]

/-- The collections that must never appear in a backup. -/
def FORBIDDEN_PREFIXES : List String :=
  ["events", "mutation_log", "state", "summarization_runs", "tool_usage", "prompt_logs"]

/-- The segments of a path, in which collections and documents alternate. -/
def collectionSegments (collectionPath : String) : List String :=
  ((collectionPath.toList.splitOn '/').map String.ofList).filter (· ≠ "")

theorem splitOn_joined {segments : List String} (nonempty : segments ≠ [])
    (proper : ∀ segment ∈ segments, segment ≠ "" ∧ '/' ∉ segment.toList) :
    ("/".intercalate segments).toList.splitOn '/' = segments.map String.toList := by
  rw [String.toList_intercalate]
  apply List.splitOn_intercalate
  · intro part member
    obtain ⟨segment, held, rfl⟩ := List.mem_map.mp member
    exact (proper segment held).2
  · simpa using nonempty

theorem collectionSegments_joined {segments : List String} (nonempty : segments ≠ [])
    (proper : ∀ segment ∈ segments, segment ≠ "" ∧ '/' ∉ segment.toList) :
    collectionSegments ("/".intercalate segments) = segments := by
  have same : (String.ofList ∘ String.toList) = id := by
    funext text
    simp
  unfold collectionSegments
  rw [splitOn_joined nonempty proper, List.map_map, same, List.map_id]
  exact List.filter_eq_self.mpr fun segment held => by simpa using (proper segment held).1

/-- The path of the document that a text refers to, if it does: collections and documents in turn,
where slashes around them do not matter. -/
def documentPath (path : String) : Option String :=
  let segments := collectionSegments path
  let inner := (path.toList.splitOn '/').tail.dropLast
  if [] ∈ inner ∨ segments = [] ∨ segments.length % 2 = 1 then none
  else some ("/".intercalate segments)

theorem documentPath_joined {segments : List String} (nonempty : segments ≠ [])
    (even : segments.length % 2 = 0)
    (proper : ∀ segment ∈ segments, segment ≠ "" ∧ '/' ∉ segment.toList) :
    documentPath ("/".intercalate segments) = some ("/".intercalate segments) := by
  unfold documentPath
  rw [collectionSegments_joined nonempty proper, splitOn_joined nonempty proper]
  -- None of the parts is empty.
  apply if_neg
  rintro (empty | none | odd)
  · obtain ⟨segment, held, same⟩ :=
      List.mem_map.mp (List.mem_of_mem_tail (List.dropLast_subset _ empty))
    exact (proper segment held).1 (String.toList_eq_nil_iff.mp same)
  · exact nonempty none
  · omega

/-- Every second segment, starting with the first: those that are collections. -/
def collectionIds : List String → List String
  | [] => []
  | [collectionId] => [collectionId]
  | collectionId :: _ :: rest => collectionId :: collectionIds rest

def isForbiddenPath (collectionPath : String) : Bool :=
  (collectionIds (collectionSegments collectionPath)).any FORBIDDEN_PREFIXES.contains

def assertRegistrySafe (registry : List BackupCollectionSpec) : Except String Unit :=
  match registry.find? fun spec => isForbiddenPath spec.path with
  | some spec => .error ("Backup registry contains a forbidden (log/event) collection path: '" ++
      spec.path ++ "'. Collections matching FORBIDDEN_PREFIXES (" ++
      ", ".intercalate FORBIDDEN_PREFIXES ++ ") must never be backed up.")
  | none => .ok ()

/-- What the registry says of a path, if it has exactly this path. -/
def findSpec (path : String) (registry : List BackupCollectionSpec) :
    Option BackupCollectionSpec :=
  registry.find? (·.path = path)

/-! The values of documents, and what the database library does with them. -/

open Js

structure Timestamp where
  seconds : Int
  nanoseconds : Nat
  inRange : -62135596800 ≤ seconds ∧ seconds ≤ 253402300799 := by decide
  belowSecond : nanoseconds < 1000000000 := by decide
  deriving DecidableEq

structure GeoPoint where
  latitude : ℚ
  longitude : ℚ
  inRange : (-90 ≤ latitude ∧ latitude ≤ 90) ∧ -180 ≤ longitude ∧ longitude ≤ 180 := by decide
  deriving DecidableEq

inductive FirestoreValue where
  | null
  | bool (flag : Bool)
  | str (text : String)
  | num (value : ℚ)
  | timestamp (timestamp : Timestamp)
  | geoPoint (geoPoint : GeoPoint)
  | ref (path : String)
  | bytes (bytes : List UInt8)
  | arr (items : List FirestoreValue)
  | map (fields : List (String × FirestoreValue))

def Timestamp.WholeMillis (timestamp : Timestamp) : Prop := timestamp.nanoseconds % 1000000 = 0

instance (timestamp : Timestamp) : Decidable timestamp.WholeMillis :=
  inferInstanceAs (Decidable (_ = _))

/-- The milliseconds of a timestamp, without what is below them. -/
def Timestamp.millis (timestamp : Timestamp) : Int :=
  timestamp.seconds * 1000 + (timestamp.nanoseconds / 1000000 : Nat)

def Timestamp.fromMillis (ms : Int) : Option Timestamp :=
  if range : -62135596800 ≤ ms / 1000 ∧ ms / 1000 ≤ 253402300799 then
    some {
      seconds := ms / 1000
      nanoseconds := (ms % 1000).toNat * 1000000
      inRange := range
      belowSecond := by omega }
  else none

/-- The place with a latitude and a longitude, if there is one. -/
def GeoPoint.make (latitude longitude : Number) : Option GeoPoint :=
  match latitude, longitude with
  | .finite latitude, .finite longitude =>
    if range : (-90 ≤ latitude ∧ latitude ≤ 90) ∧ -180 ≤ longitude ∧ longitude ≤ 180 then
      some { latitude, longitude, inRange := range }
    else none
  | _, _ => none

/-- What the database library and the language do, as far as a backup depends on it. -/
structure FirestoreSdk where
  toMillis : Timestamp → Int
  /-- What is lost of a timestamp is only what is below a millisecond. -/
  toMillis_whole : ∀ timestamp : Timestamp, timestamp.WholeMillis →
    toMillis timestamp = timestamp.millis
  parseDate : String → Option Int
  parseDate_toISOString : ∀ ms : Int, -8640000000000000 ≤ ms → ms ≤ 8640000000000000 →
    parseDate (toISOString ms) = some ms
  toNumber : Value → Number
  toNumber_num : ∀ number, toNumber (.num number) = number
  /-- The path of the document that a text refers to, if it does. -/
  doc : String → Option String
  /-- Collections and documents in turn, joined by slashes, are the path of a document. -/
  doc_joined : ∀ segments : List String, segments ≠ [] → segments.length % 2 = 0 →
    (∀ segment ∈ segments, segment ≠ "" ∧ '/' ∉ segment.toList) →
      doc ("/".intercalate segments) = some ("/".intercalate segments)
  /-- Whether fields can be written as a document, which is checked field by field. -/
  accepts : List (String × FirestoreValue) → Bool
  accepts_filter : ∀ fields keep, accepts fields = true → accepts (fields.filter keep) = true

mutual

/-- A value as a document can hold it: its maps have each key once, and its references are paths of
documents. -/
def FirestoreValue.WellFormed (sdk : FirestoreSdk) : FirestoreValue → Prop
  | .ref path => sdk.doc path = some path
  | .arr items => ItemsWellFormed sdk items
  | .map fields => (fields.map Prod.fst).Nodup ∧ FieldsWellFormed sdk fields
  | _ => True

def ItemsWellFormed (sdk : FirestoreSdk) : List FirestoreValue → Prop
  | [] => True
  | item :: rest => item.WellFormed sdk ∧ ItemsWellFormed sdk rest

/-- Fields that a map can hold, apart from each other. -/
def FieldsWellFormed (sdk : FirestoreSdk) : List (String × FirestoreValue) → Prop
  | [] => True
  | (_, value) :: rest => value.WellFormed sdk ∧ FieldsWellFormed sdk rest

end

theorem Timestamp.millis_bounds (timestamp : Timestamp) :
    -8640000000000000 ≤ timestamp.millis ∧ timestamp.millis ≤ 8640000000000000 := by
  have range := timestamp.inRange
  have small := timestamp.belowSecond
  unfold Timestamp.millis
  omega

theorem Timestamp.fromMillis_millis {timestamp : Timestamp} (whole : timestamp.WholeMillis) :
    Timestamp.fromMillis timestamp.millis = some timestamp := by
  have range := timestamp.inRange
  have small := timestamp.belowSecond
  unfold Timestamp.WholeMillis at whole
  -- The milliseconds fall apart into the seconds and what is left of the nanoseconds.
  have seconds : timestamp.millis / 1000 = timestamp.seconds := by
    unfold Timestamp.millis
    omega
  have nanoseconds : (timestamp.millis % 1000).toNat * 1000000 = timestamp.nanoseconds := by
    unfold Timestamp.millis
    omega
  unfold Timestamp.fromMillis
  simp only [seconds, nanoseconds]
  rw [dif_pos range]

theorem Timestamp.wholeMillis_of_fromMillis {ms : Int} {timestamp : Timestamp}
    (made : Timestamp.fromMillis ms = some timestamp) : timestamp.WholeMillis := by
  unfold Timestamp.fromMillis at made
  split at made
  · rw [← Option.some.inj made]
    exact Nat.mul_mod_left _ _
  · cases made

theorem GeoPoint.make_fields (place : GeoPoint) :
    GeoPoint.make (.finite place.latitude) (.finite place.longitude) = some place := by
  simp only [GeoPoint.make]
  rw [dif_pos place.inRange]

/-! Values of documents as JSON, in which the types that JSON does not have are wrapped. -/

def TYPE_KEY : String := "__type"

def ESCAPE_KEY : String := "__escaped"

/-- The coordinates of a map that passes for a place: one whose `constructor` has the name of the
class. -/
def geoPointLike (fields : List (String × FirestoreValue)) : Option (ℚ × ℚ) :=
  match fields.lookup "constructor", fields.lookup "latitude", fields.lookup "longitude" with
  | some (.map constructor), some (.num latitude), some (.num longitude) =>
    match constructor.lookup "name" with
    | some (.str name) => if name = "GeoPoint" then some (latitude, longitude) else none
    | _ => none
  | _, _, _ => none

def needsEscape (fields : List (String × FirestoreValue)) : Bool :=
  fields.any fun field => field.1 = TYPE_KEY || field.1 = ESCAPE_KEY

def typedWrapper (type : String) (fields : List (String × Value)) : Value :=
  .obj ((TYPE_KEY, .str type) :: fields)

def encodeGeoPoint (latitude longitude : ℚ) : Value :=
  typedWrapper "geopoint" [("latitude", .num (.finite latitude)),
    ("longitude", .num (.finite longitude))]

mutual

def encodeValue (sdk : FirestoreSdk) : FirestoreValue → Value
  | .null => .null
  | .timestamp timestamp =>
    typedWrapper "timestamp" [("value", .str (toISOString (sdk.toMillis timestamp)))]
  | .geoPoint place => encodeGeoPoint place.latitude place.longitude
  | .ref path => typedWrapper "ref" [("path", .str path)]
  | .bytes bytes => typedWrapper "bytes" [("value", .str (toBase64 bytes))]
  | .arr items => .arr (encodeItems sdk items)
  | .map fields =>
    match geoPointLike fields with
    | some (latitude, longitude) => encodeGeoPoint latitude longitude
    | none =>
      let inner := Value.obj (encodeFields sdk fields)
      if needsEscape fields then .obj [(ESCAPE_KEY, .bool true), ("value", inner)] else inner
  | .num value => .num (.finite value)
  | .str text => .str text
  | .bool flag => .bool flag

def encodeItems (sdk : FirestoreSdk) : List FirestoreValue → List Value
  | [] => []
  | item :: rest => encodeValue sdk item :: encodeItems sdk rest

def encodeFields (sdk : FirestoreSdk) : List (String × FirestoreValue) → List (String × Value)
  | [] => []
  | (key, value) :: rest =>
    -- An assignment to this name sets no property, but the prototype of the object.
    if key = "__proto__" then encodeFields sdk rest
    else (key, encodeValue sdk value) :: encodeFields sdk rest

end

def escapedFields (fields : List (String × Value)) : Option (List (String × Value)) :=
  match fields.lookup ESCAPE_KEY, fields.lookup "value" with
  | some (.bool true), some (.obj inner) => some inner
  | _, _ => none

def decodeTyped (sdk : FirestoreSdk) (type : String) (wrapper : Value) :
    Except String FirestoreValue :=
  if type = "timestamp" then
    match (sdk.parseDate (wrapper.get "value").toText).bind Timestamp.fromMillis with
    | some timestamp => .ok (.timestamp timestamp)
    | none => .error "Value for argument \"seconds\" is not a valid integer."
  else if type = "geopoint" then
    match GeoPoint.make (sdk.toNumber (wrapper.get "latitude"))
        (sdk.toNumber (wrapper.get "longitude")) with
    | some place => .ok (.geoPoint place)
    | none => .error "Value for argument \"latitude\" is not a valid number."
  else if type = "ref" then
    match sdk.doc (wrapper.get "path").toText with
    | some path => .ok (.ref path)
    | none => .error "Value for argument \"documentPath\" is not a valid resource path."
  else if type = "bytes" then .ok (.bytes (ofBase64 (wrapper.get "value").toText))
  else .error ("Unknown encoded __type: '" ++ type ++ "'")

variable {fields : List (String × Value)}

theorem sizeOf_escapedFields {inner : List (String × Value)}
    (escaped : escapedFields fields = some inner) : sizeOf inner < sizeOf fields := by
  unfold escapedFields at escaped
  split at escaped
  · rename_i _ found
    rw [← Option.some.inj escaped]
    have smaller := List.sizeOf_lt_of_mem (mem_of_lookup found)
    simp only [Prod.mk.sizeOf_spec, Value.obj.sizeOf_spec] at smaller
    omega
  · cases escaped

mutual

/-- The value that JSON stands for. JSON has no dates, and nothing that is undefined. -/
def decodeValue (sdk : FirestoreSdk) : Value → Except String FirestoreValue
  | .undefined | .null | .date _ => .ok .null
  | .arr items => do .ok (.arr (← decodeItems sdk items))
  | .obj fields =>
    match escaped : escapedFields fields with
    -- The inner fields of an escaped map are fields, whatever their names are.
    | some inner =>
      have := sizeOf_escapedFields escaped
      do .ok (.map (← decodeFields sdk inner))
    | none =>
      match (Value.obj fields).get TYPE_KEY with
      | .str type => decodeTyped sdk type (.obj fields)
      | _ => do .ok (.map (← decodeFields sdk fields))
  | .num (.finite value) => .ok (.num value)
  | .num _ => .ok .null
  | .str text => .ok (.str text)
  | .bool flag => .ok (.bool flag)
termination_by value => sizeOf value

def decodeItems (sdk : FirestoreSdk) : List Value → Except String (List FirestoreValue)
  | [] => .ok []
  | item :: rest => do .ok ((← decodeValue sdk item) :: (← decodeItems sdk rest))
termination_by items => sizeOf items

def decodeFields (sdk : FirestoreSdk) :
    List (String × Value) → Except String (List (String × FirestoreValue))
  | [] => .ok []
  | (key, value) :: rest => do
    let decoded ← decodeValue sdk value
    let others ← decodeFields sdk rest
    .ok (if key = "__proto__" then others else (key, decoded) :: others)
termination_by fields => sizeOf fields

end

theorem except_bind_ok {α β : Type} {first : Except String α} {next : α → Except String β}
    {result : β} :
    (first >>= next) = .ok result ↔ ∃ value, first = .ok value ∧ next value = .ok result := by
  cases first with
  | error message => exact ⟨nofun, nofun⟩
  | ok value => exact ⟨fun given => ⟨value, rfl, given⟩, fun ⟨_, same, given⟩ => by
      cases same
      exact given⟩

variable {sdk : FirestoreSdk}

theorem decodeValue_escaped {inner : List (String × Value)}
    (escaped : escapedFields fields = some inner) :
    decodeValue sdk (.obj fields) = (do .ok (.map (← decodeFields sdk inner))) := by
  rw [decodeValue]
  split
  · rename_i same
    rw [escaped] at same
    cases same
    rfl
  · rename_i absent
    rw [escaped] at absent
    cases absent

theorem decodeValue_typed {type : String} (unescaped : escapedFields fields = none)
    (typed : (Value.obj fields).get TYPE_KEY = .str type) :
    decodeValue sdk (.obj fields) = decodeTyped sdk type (.obj fields) := by
  rw [decodeValue]
  split
  · rename_i same
    rw [unescaped] at same
    cases same
  · rw [typed]

theorem decodeValue_plain (unescaped : escapedFields fields = none)
    (untyped : (Value.obj fields).get TYPE_KEY = .undefined) :
    decodeValue sdk (.obj fields) = (do .ok (.map (← decodeFields sdk fields))) := by
  rw [decodeValue]
  split
  · rename_i same
    rw [unescaped] at same
    cases same
  · rw [untyped]

mutual

/-- A value that a backup keeps: its timestamps are of whole milliseconds, and no map of it passes
for a place or has the name of a prototype for a key. -/
def FirestoreValue.Restorable : FirestoreValue → Prop
  | .timestamp timestamp => timestamp.WholeMillis
  | .arr items => ItemsRestorable items
  | .map fields => geoPointLike fields = none ∧ FieldsRestorable fields
  | _ => True

def ItemsRestorable : List FirestoreValue → Prop
  | [] => True
  | item :: rest => item.Restorable ∧ ItemsRestorable rest

def FieldsRestorable : List (String × FirestoreValue) → Prop
  | [] => True
  | (key, value) :: rest => key ≠ "__proto__" ∧ value.Restorable ∧ FieldsRestorable rest

end

def encodeDocumentData (sdk : FirestoreSdk) (data : List (String × FirestoreValue)) : Value :=
  match encodeValue sdk (.map data) with
  | .obj fields => .obj fields
  | _ => .obj []

def decodeDocumentData (sdk : FirestoreSdk) (data : Value) : Except String FirestoreValue :=
  decodeValue sdk data

end BitBrat
