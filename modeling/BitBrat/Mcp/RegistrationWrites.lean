import BitBrat.Machine.Pending
import BitBrat.Machine.Run
import BitBrat.Mcp.RegistrationSignature
import BitBrat.Persistence.Repository

/-! Registrations of a bit, and the writes of them that go on in the background. -/

namespace BitBrat

open Js Machine

inductive McpServerStore where
  | firestore
  | documentStore
  | memory

def McpServerStore.upsert (store : McpServerStore) (held : Option Value) (data : Value) : Value :=
  match store, held with
  | .firestore, some held => Backend.firestore.merge held data
  | .documentStore, some held => Backend.documentStore.merge held data
  | _, _ => data

structure Payload where
  fields : List (String × Value)
  json : IsJson (.obj fields)

/-- Two payloads say the same, but for the order of names and the fields that are left out. -/
def Payload.Same (payload other : Payload) : Prop :=
  SameBut (fun _ => false) (.obj (meaningful payload.fields)) (.obj (meaningful other.fields))

/-- Two payloads say the same but for a name that does not become a property. -/
def Payload.SameAssigned (payload other : Payload) : Prop :=
  SameBut isProto (.obj (meaningful payload.fields)) (.obj (meaningful other.fields))

def registrationDocument (payload : Payload) (correlationId updatedAt : String) : Value :=
  let named : Value := .obj [("name", (Value.obj payload.fields).get "name"),
    ("url", (Value.obj payload.fields).get "url")]
  (named.extend payload.fields).extend [("updatedAt", .str updatedAt),
    ("discoverySource", .str "auto-registration"), ("correlationId", .str correlationId)]

inductive WriteStatus where
  | waiting (performed timedOut : Bool)
  | succeeded
  | failed
  deriving DecidableEq

def WriteStatus.performed : WriteStatus → Bool
  | .waiting performed _ => performed
  | .succeeded => true
  | .failed => false

structure RegistrationWrite where
  payload : Payload
  document : Value
  status : WriteStatus

/-- What the gateway knows of one bit, its stored registration, and the writes of it so far. -/
structure Registry where
  cached : Option String
  stored : Option Value
  writes : List RegistrationWrite

def Registry.initial : Registry := { cached := none, stored := none, writes := [] }

inductive RegistryEvent where
  | register (payload : Payload) (correlationId updatedAt : String)
  | perform (index : Nat)
  | succeed (index : Nat)
  | fail (index : Nat)
  | timeout (index : Nat)

section

-- The text that a date is written as depends on its milliseconds alone.
variable (isoText : Int → String) (store : McpServerStore)

def handleMcpRegistration (state : Registry) (payload : Payload)
    (correlationId updatedAt : String) : Registry :=
  let fields := Value.obj payload.fields
  if !(fields.get "name").truthy || !(fields.get "url").truthy then state
  else
    let signature := registrationSignature isoText payload.fields
    if state.cached = some signature then state
    else
      { state with
        cached := some signature
        writes := state.writes ++ [{
          payload, document := registrationDocument payload correlationId updatedAt
          status := .waiting false false }] }

def Registry.setStatus (state : Registry) (index : Nat) (status : WriteStatus) : Registry :=
  { state with writes := state.writes.modify index fun write => { write with status } }

def Registry.step (state : Registry) : RegistryEvent → Registry
  | .register payload correlationId updatedAt =>
    handleMcpRegistration isoText state payload correlationId updatedAt
  | .perform index =>
    match state.writes[index]? with
    | some { document, status := .waiting false timedOut, .. } =>
      { state.setStatus index (.waiting true timedOut) with
        stored := some (store.upsert state.stored document) }
    | _ => state
  | .succeed index =>
    match state.writes[index]? with
    | some { status := .waiting true _, .. } => state.setStatus index .succeeded
    | _ => state
  | .fail index =>
    match state.writes[index]? with
    | some { status := .waiting _ false, .. } =>
      { state.setStatus index .failed with cached := none }
    -- The signature was forgotten when the time was over.
    | some { status := .waiting _ true, .. } => state.setStatus index .failed
    | _ => state
  | .timeout index =>
    match state.writes[index]? with
    | some { status := .waiting performed false, .. } =>
      { state.setStatus index (.waiting performed true) with cached := none }
    | _ => state

end

def Registry.payloads (state : Registry) : List Payload := state.writes.map (·.payload)

def Registry.latest (state : Registry) : Option RegistrationWrite :=
  state.writes[state.writes.length - 1]?

def Registry.Settled (state : Registry) : Prop :=
  ∀ write ∈ state.writes, write.status = .succeeded ∨ write.status = .failed

mutual

def Carries : Value → Value → Prop
  | .obj fields, held => held.isObject = true ∧ CarriesFields fields held
  | value, held => held = value

def CarriesFields : List (String × Value) → Value → Prop
  | [], _ => True
  | (key, value) :: rest, held => Carries value (held.get key) ∧ CarriesFields rest held

end

def Registry.Carried (isoText : Int → String) (state : Registry) (signature : String) : Prop :=
  ∃ payload ∈ state.payloads, registrationSignature isoText payload.fields = signature ∧
    ∃ document, state.stored = some document ∧ CarriesFields (meaningful payload.fields) document

def Registry.Deduped (isoText : Int → String) (state : Registry) : Prop :=
  ∀ signature, state.cached = some signature → state.Carried isoText signature

/-- While a signature is remembered whose write is performed, no other payload is written. -/
def Registry.Timely (state : Registry) : RegistryEvent → Prop
  | .perform index => ∀ write latest, state.writes[index]? = some write →
      state.latest = some latest → state.cached ≠ none → latest.status.performed = true →
        write.payload.SameAssigned latest.payload
  | _ => True

def SignaturesFit (isoText : Int → String) (payload other : Payload) : Prop :=
  registrationSignature isoText payload.fields = registrationSignature isoText other.fields ↔
    payload.Same other

theorem carriesFields_iff {fields : List (String × Value)} {held : Value} :
    CarriesFields fields held ↔ ∀ field ∈ fields, Carries field.2 (held.get field.1) := by
  induction fields with
  | nil => simp [CarriesFields]
  | cons field rest ih => simp [CarriesFields, ih]

mutual

theorem carries_deepMerge : ∀ {value : Value}, IsJson value →
    ∀ held, Carries value (Value.deepMerge value held)
  | .obj [], json, held => ⟨rfl, trivial⟩
  | .obj (field :: rest), json, held => by
    have all := carries_deepMerge_fields json.2
    have found (entry : String × Value) (member : entry ∈ field :: rest) :
        (field :: rest).lookup entry.1 = some entry.2 := lookup_of_mem json.1 member
    refine ⟨by cases held <;> rfl, carriesFields_iff.mpr fun entry member => ?_⟩
    cases held with
    | obj fields =>
      rw [Value.deepMerge, Value.get_deepMergeFields, found entry member]
      exact all entry member _
    | _ =>
      -- The map replaces what is no map.
      have same := all entry member .null
      rw [Value.deepMerge_of_not_object rfl] at same
      rw [Value.deepMerge_of_not_object rfl, Value.get, Value.fields_obj, found entry member]
      exact same
  | .null, _, _ | .bool _, _, _ | .num _, _, _ | .str _, _, _ | .arr _, _, _ | .undefined, _, _
  | .date _, _, _ => rfl

theorem carries_deepMerge_fields : ∀ {fields : List (String × Value)}, FieldsAreJson fields →
    ∀ field ∈ fields, ∀ held, Carries field.2 (Value.deepMerge field.2 held)
  | [], _ => nofun
  | (_, _) :: _, json =>
    List.forall_mem_cons.mpr ⟨carries_deepMerge json.1, carries_deepMerge_fields json.2⟩

end

theorem carries_self {value : Value} (json : IsJson value) : Carries value value := by
  have same := carries_deepMerge json .null
  rwa [Value.deepMerge_of_not_object rfl] at same

theorem carries_upsert (store : McpServerStore) (held : Option Value) {data value : Value}
    {key : String} (json : IsJson value) (said : data.get key = value) :
    Carries value ((store.upsert held data).get key) := by
  have there : data.fields.lookup key = some value := by
    cases found : data.fields.lookup key with
    | some other =>
      rw [Value.get, found] at said
      exact congrArg some said
    | none =>
      rw [Value.get, found] at said
      exact absurd json (said ▸ id)
  have plain : Carries value (data.get key) := by
    rw [said]
    exact carries_self json
  cases held with
  | none => cases store <;> exact plain
  | some document =>
    cases store with
    | firestore =>
      rw [McpServerStore.upsert, Backend.merge, Value.mergeInto, Value.get_deepMergeFields, there]
      exact carries_deepMerge json _
    | documentStore =>
      rw [McpServerStore.upsert, Backend.merge, Value.get_concat, there]
      exact carries_self json
    | memory => exact plain

theorem get_registrationDocument (payload : Payload) (correlationId updatedAt : String)
    {field : String × Value} (member : field ∈ meaningful payload.fields) :
    (registrationDocument payload correlationId updatedAt).get field.1 = field.2 := by
  obtain ⟨listed, compared⟩ := List.mem_filter.mp member
  have others : field.1 ≠ "correlationId" ∧ field.1 ≠ "updatedAt" ∧
      field.1 ≠ "discoverySource" := by simpa [IGNORED_FIELDS] using compared
  have distinct : (payload.fields.reverse.map Prod.fst).Nodup := by
    rw [List.map_reverse, List.nodup_reverse]
    exact payload.json.1
  have found := lookup_of_mem distinct (List.mem_reverse.mpr listed)
  rw [registrationDocument, Value.get_extend, Value.get_extend, found]
  have absent : ([("updatedAt", Value.str updatedAt), ("discoverySource", .str "auto-registration"),
      ("correlationId", .str correlationId)] : List (String × Value)).reverse.lookup field.1 =
        none := by
    rw [lookup_eq_none_iff_not_mem]
    simp [others]
  rw [absent]
  rfl

/-- A write is answered, or can be answered in time. -/
def WriteStatus.inTime : WriteStatus → Bool
  | .waiting _ timedOut => !timedOut
  | .succeeded => true
  | .failed => false

/-- What holds while writes go on: the signature that is remembered is that of the last write, which
is in time, and the stored registration carries its payload once it is performed. -/
structure Registry.Sound (isoText : Int → String) (state : Registry) : Prop where
  documents : ∀ write ∈ state.writes, ∃ correlationId updatedAt,
    write.document = registrationDocument write.payload correlationId updatedAt
  current : ∀ signature, state.cached = some signature → ∃ write, state.latest = some write ∧
    registrationSignature isoText write.payload.fields = signature ∧
    write.status.inTime = true ∧ (write.status.performed = true → state.Carried isoText signature)

@[simp] theorem payloads_setStatus (state : Registry) (index : Nat) (status : WriteStatus) :
    (state.setStatus index status).payloads = state.payloads :=
  map_modify index fun _ => rfl

theorem latest_setStatus (state : Registry) (index : Nat) (status : WriteStatus) :
    (state.setStatus index status).latest =
      if index = state.writes.length - 1 then
        state.latest.map fun write => { write with status }
      else state.latest := by
  simp only [Registry.latest, Registry.setStatus, List.length_modify, List.getElem?_modify]
  split
  · rfl
  · simp

theorem documents_setStatus {state : Registry} (index : Nat) (status : WriteStatus)
    (documents : ∀ write ∈ state.writes, ∃ correlationId updatedAt,
      write.document = registrationDocument write.payload correlationId updatedAt) :
    ∀ write ∈ (state.setStatus index status).writes, ∃ correlationId updatedAt,
      write.document = registrationDocument write.payload correlationId updatedAt := by
  intro write member
  obtain ⟨before, listed, same⟩ := mem_modify member
  obtain ⟨correlationId, updatedAt, written⟩ := documents before listed
  rcases same with same | same
  · exact ⟨correlationId, updatedAt, same ▸ written⟩
  · exact ⟨correlationId, updatedAt, same ▸ written⟩

variable {isoText : Int → String} {state : Registry}

theorem carried_setStatus {signature : String} (index : Nat) (status : WriteStatus)
    (carried : state.Carried isoText signature) :
    (state.setStatus index status).Carried isoText signature := by
  unfold Registry.Carried
  rw [payloads_setStatus]
  exact carried

private theorem Registry.Sound.setStatus (sound : state.Sound isoText) {index : Nat}
    {write : RegistrationWrite} {status : WriteStatus} (here : state.writes[index]? = some write)
    (kept : write.status.inTime = true → status.inTime = true ∧
      (status.performed = true → write.status.performed = true)) :
    (state.setStatus index status).Sound isoText where
  documents := documents_setStatus index status sound.documents
  current := by
    intro signature remembered
    obtain ⟨latest, last, signed, timely, carried⟩ := sound.current signature remembered
    rw [latest_setStatus]
    split
    · rename_i same
      subst same
      obtain rfl : latest = write := Option.some.inj (last.symm.trans here)
      obtain ⟨inTime, earlier⟩ := kept timely
      rw [last]
      exact ⟨_, rfl, signed, inTime, fun done => carried_setStatus _ _ (carried (earlier done))⟩
    · exact ⟨latest, last, signed, timely, fun done => carried_setStatus _ _ (carried done)⟩

theorem Registry.Sound.forget {state : Registry} (documents : ∀ write ∈ state.writes,
      ∃ correlationId updatedAt,
        write.document = registrationDocument write.payload correlationId updatedAt) :
    { state with cached := none }.Sound isoText where
  documents := documents
  current := nofun

theorem Registry.Sound.register (sound : state.Sound isoText) (payload : Payload)
    (correlationId updatedAt : String) :
    (handleMcpRegistration isoText state payload correlationId updatedAt).Sound isoText := by
  unfold handleMcpRegistration
  dsimp only
  split
  · exact sound
  split
  · exact sound
  refine ⟨fun write member => ?_, fun signature remembered => ?_⟩
  · rcases List.mem_append.mp member with earlier | new
    · exact sound.documents write earlier
    · obtain rfl := List.mem_singleton.mp new
      exact ⟨correlationId, updatedAt, rfl⟩
  · have signed : registrationSignature isoText payload.fields = signature :=
      Option.some.inj remembered
    refine ⟨{ payload, document := registrationDocument payload correlationId updatedAt
              status := .waiting false false }, ?_, signed, rfl, nofun⟩
    simp [Registry.latest]

theorem Registry.Sound.perform (store : McpServerStore) (sound : state.Sound isoText) {index : Nat}
    {write : RegistrationWrite} {timedOut : Bool} (here : state.writes[index]? = some write)
    (waiting : write.status = .waiting false timedOut)
    (timely : state.Timely (.perform index)) :
    ({ state.setStatus index (.waiting true timedOut) with
        stored := some (store.upsert state.stored write.document) } : Registry).Sound isoText := by
  have member : write ∈ state.writes := List.mem_of_getElem? here
  obtain ⟨correlationId, updatedAt, written⟩ := sound.documents write member
  -- What is stored now has the meaningful properties of this payload.
  have carried : ({ state.setStatus index (.waiting true timedOut) with
      stored := some (store.upsert state.stored write.document) } : Registry).Carried isoText
        (registrationSignature isoText write.payload.fields) := by
    refine ⟨write.payload, ?_, rfl, _, rfl, carriesFields_iff.mpr fun field listed => ?_⟩
    · show write.payload ∈ (state.setStatus index (.waiting true timedOut)).payloads
      rw [payloads_setStatus]
      exact List.mem_map_of_mem member
    · have json := fieldsAreJson_iff.mp (isJson_meaningful write.payload.json).2 field listed
      exact carries_upsert store state.stored json
        (written ▸ get_registrationDocument write.payload correlationId updatedAt listed)
  refine ⟨documents_setStatus index _ sound.documents, fun signature remembered => ?_⟩
  obtain ⟨latest, last, signed, inTime, before⟩ := sound.current signature remembered
  show ∃ write, (state.setStatus index (.waiting true timedOut)).latest = some write ∧ _
  rw [latest_setStatus]
  split
  · rename_i same
    subst same
    obtain rfl : latest = write := Option.some.inj (last.symm.trans here)
    rw [last]
    rw [waiting] at inTime
    exact ⟨_, rfl, signed, inTime, fun _ => signed ▸ carried⟩
  · refine ⟨latest, last, signed, inTime, fun done => ?_⟩
    -- Another payload is not written any more, so that this one is of the same signature.
    have known : state.cached ≠ none := fun unknown => by
      rw [show state.cached = some signature from remembered] at unknown
      cases unknown
    have same := timely write latest here last known done
    have equal := (registrationSignature_eq_iff isoText write.payload.json latest.payload.json).mpr
      same
    rw [← signed, ← equal]
    exact carried

theorem Registry.Sound.step (store : McpServerStore) (sound : state.Sound isoText)
    {event : RegistryEvent} (timely : state.Timely event) :
    (state.step isoText store event).Sound isoText := by
  cases event with
  | register payload correlationId updatedAt => exact sound.register payload correlationId updatedAt
  | perform index =>
    rw [Registry.step]
    split
    · rename_i payload document timedOut here
      exact sound.perform store here rfl timely
    · exact sound
  | succeed index =>
    rw [Registry.step]
    split
    · rename_i here
      exact sound.setStatus here fun _ => ⟨rfl, fun _ => rfl⟩
    · exact sound
  | fail index =>
    rw [Registry.step]
    split
    · exact Registry.Sound.forget (documents_setStatus index _ sound.documents)
    · rename_i here
      exact sound.setStatus here nofun
    · exact sound
  | timeout index =>
    rw [Registry.step]
    split
    · exact Registry.Sound.forget (documents_setStatus index _ sound.documents)
    · exact sound

theorem signaturesFit_iff (isoText : Int → String) (payload other : Payload) :
    SignaturesFit isoText payload other ↔ (payload.SameAssigned other → payload.Same other) := by
  have weaker : payload.Same other → payload.SameAssigned other :=
    SameBut.weaken fun key compared => absurd compared (by simp)
  rw [SignaturesFit, registrationSignature_eq_iff isoText payload.json other.json]
  exact ⟨fun same => same.mp, fun stronger => ⟨stronger, weaker⟩⟩

def registrationAt (url : String) : Payload where
  fields := [("name", .str "weather"), ("url", .str url)]
  json := ⟨by simp, trivial, trivial, trivial⟩

def writtenAt (url : String) (status : WriteStatus) : RegistrationWrite where
  payload := registrationAt url
  document := registrationDocument (registrationAt url) "c-1" "2025-01-01T00:00:00.000Z"
  status

/-- A registration that is not the remembered one is written. -/
theorem register_registrationAt (isoText : Int → String) {url : String} (named : url ≠ "")
    {state : Registry}
    (fresh : state.cached ≠ some (registrationSignature isoText (registrationAt url).fields)) :
    handleMcpRegistration isoText state (registrationAt url) "c-1" "2025-01-01T00:00:00.000Z" =
      { state with
        cached := some (registrationSignature isoText (registrationAt url).fields)
        writes := state.writes ++ [writtenAt url (.waiting false false)] } := by
  have name : (Value.obj (registrationAt url).fields).get "name" = .str "weather" := rfl
  have address : (Value.obj (registrationAt url).fields).get "url" = .str url := rfl
  have valid : ¬ (!((Value.obj (registrationAt url).fields).get "name").truthy ||
      !((Value.obj (registrationAt url).fields).get "url").truthy) = true := by
    rw [name, address]
    simp [named]
  rw [handleMcpRegistration, if_neg valid, if_neg fresh]
  rfl

theorem registrationSignature_ne (isoText : Int → String) {url other : String}
    (apart : url ≠ other) : registrationSignature isoText (registrationAt url).fields ≠
      registrationSignature isoText (registrationAt other).fields := by
  intro same
  have equal := (registrationSignature_eq_iff isoText (registrationAt url).json
    (registrationAt other).json).mp same
  have fields (url : String) : meaningful (registrationAt url).fields =
      [("name", .str "weather"), ("url", .str url)] := rfl
  simp only [fields, SameBut, SameFields] at equal
  obtain ⟨address, found, kept⟩ := equal.2.2.1 rfl
  cases found
  exact apart (Value.str.inj kept)

end BitBrat
