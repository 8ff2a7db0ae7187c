import BitBrat.Js.Value

/-! The builder of envelopes: how the fields of an event are read by a mapping, for any platform. -/

namespace BitBrat

open Js

/-- An error of the builder: fields that it needs are missing, or something else was thrown. -/
inductive EnvelopeError where
  | missingRequiredFields (userId channelId : String)
  | thrown (text : String)
  deriving DecidableEq

def EnvelopeError.message : EnvelopeError → String
  | .missingRequiredFields userId channelId =>
    "generic-envelope-builder.missing_required_fields: userId=" ++ userId ++ ", channelId=" ++
      channelId
  | .thrown text => text

/-- How a value is read from an event: along a path, or by a function, which may throw. -/
inductive FieldExtractor where
  | path (path : String)
  | function (extract : Value → Except String Value)

/-- How a field is read: not at all, in one way, or by a path and those to fall back on. -/
inductive FieldMapping where
  | missing
  | single (extractor : FieldExtractor)
  | withFallbacks (path : Option FieldExtractor) (fallbacks : List String)

structure GenericFieldMapping where
  eventWrapper : String := ""
  userId : FieldMapping
  channelId : FieldMapping
  userName : FieldMapping := .missing
  messageText : FieldMapping := .missing
  messageId : FieldMapping := .missing
  timestamp : FieldMapping := .missing
  custom : List (String × FieldExtractor) := []

/-- The options of the builder, where the identifiers and the times come one after the other. -/
structure BuilderOptions where
  uuid : Nat → String
  nowIso : Nat → String
  egressDestination : String := ""
  correlationId : String := ""
  debugMetadata : Value := .undefined

structure GenericBuilderContext where
  platform : String
  eventType : String
  platformEvent : Value
  fieldMapping : GenericFieldMapping
  opts : BuilderOptions

/-- The custom fields, of the envelope itself and of the identity in it. -/
structure CustomFields where
  root : List (String × Value) := []
  identity : List (String × Value) := []

/-- A value is there: it is neither undefined nor null. -/
def Present (value : Value) : Prop := value ≠ .undefined ∧ value ≠ .null

instance (value : Value) : Decidable (Present value) :=
  inferInstanceAs (Decidable (value ≠ .undefined ∧ value ≠ .null))

def textOrElse (text default : String) : String := if text = "" then default else text

def setProperty (name : String) (value : Value) (properties : List (String × Value)) :
    List (String × Value) :=
  if name = "__proto__" then properties else setEntry name value properties

def cannotRead (value : Value) (key : String) : EnvelopeError :=
  .thrown ("Cannot read properties of " ++ value.toText ++ " (reading '" ++ key ++ "')")

/-- The name of the constructor of a value, unless the value has another one of its own. -/
def constructorName (evt : Value) : Value :=
  match evt.fields.lookup "constructor", evt with
  | some own, _ => own.get "name"
  | none, .arr _ => .str "Array"
  | none, .str _ => .str "String"
  | none, .num _ => .str "Number"
  | none, .bool _ => .str "Boolean"
  | none, .date _ => .str "Date"
  | none, _ => .str "Object"

def objectKeys : Value → List String
  | .obj fields => fields.map Prod.fst
  | .arr items => (List.range items.length).map toString
  | .str text => (List.range text.length).map toString
  | _ => []

def extractPlatformEventName (evt : Value) (platform : String) : Except EnvelopeError Value :=
  if platform = "discord" then
    if Present evt then .ok (((constructorName evt).or (evt.get "t")).or (.str "DiscordEvent"))
    else .error (cannotRead evt "constructor")
  else if platform = "slack" then
    if Present evt then
      .ok ((((evt.get "event").get "type").or (evt.get "type")).or (.str "SlackEvent"))
    else .error (cannotRead evt "event")
  else if platform = "twitch" then
    match evt with
    | .obj fields =>
      .ok (.str (if (fields.lookup "subscription").isSome then "EventSub" else "IRC"))
    | .arr _ => .ok (.str "IRC")
    | .date _ => .ok (.str "IRC")
    | other => .error (.thrown ("Cannot use 'in' operator to search for 'subscription' in " ++
        other.toText))
  else if platform = "telegram" then
    if Present evt then
      .ok (.str (textOrElse (((objectKeys evt).find? (· ≠ "update_id")).getD "") "TelegramUpdate"))
    else .error (.thrown "Cannot convert undefined or null to object")
  else .ok (.str "UnknownEvent")

def determineEgressType (eventType : String) : String :=
  if "dm.".toList.isPrefixOf eventType.toList then "dm"
  else if "chat.".toList.isPrefixOf eventType.toList then "chat"
  else "event"

section

variable (get : Value → String → Value)

def extractField (obj : Value) : FieldExtractor → Except EnvelopeError Value
  | .path path => .ok (get obj path)
  | .function extract => (extract obj).mapError .thrown

def presentText (value : Value) : String := if Present value then value.toText else ""

def extractWithFallbacks (obj : Value) : FieldMapping → Except EnvelopeError String
  | .missing => .ok ""
  | .single (.path "") => .ok ""
  | .single extractor => (extractField get obj extractor).map presentText
  | .withFallbacks path fallbacks => do
    let primary ← match path with
      | none => .ok .undefined
      | some (.path "") => .ok .undefined
      | some extractor => extractField get obj extractor
    if Present primary then return primary.toText
    return (((fallbacks.map (get obj)).find? (Present ·)).map Value.toText).getD ""

def extractCustomFields (obj : Value) :
    List (String × FieldExtractor) → CustomFields → Except EnvelopeError CustomFields
  | [], result => .ok result
  | (key, extractor) :: rest, result => do
    let value ← extractField get obj extractor
    if "identity.".toList.isPrefixOf key.toList then
      let fieldName := String.ofList (key.toList.drop "identity.".length)
      extractCustomFields obj rest
        { result with identity := setProperty fieldName value result.identity }
    else extractCustomFields obj rest { result with root := setProperty key value result.root }

variable (ctx : GenericBuilderContext)

/-- The event that the fields are read from, which the platform may wrap. -/
def GenericBuilderContext.evt : Value :=
  if ctx.fieldMapping.eventWrapper = "" then ctx.platformEvent
  else (get ctx.platformEvent ctx.fieldMapping.eventWrapper).or ctx.platformEvent

/-- The identifier that goes with an event from its beginning. -/
def GenericBuilderContext.correlationId : String :=
  textOrElse ctx.opts.correlationId (ctx.opts.uuid 0)

def GenericBuilderContext.traceId : String :=
  ctx.opts.uuid (if ctx.opts.correlationId = "" then 1 else 0)

def baseEnvelope (userId channelId userName messageText messageId timestamp : String)
    (metadata : List (String × Value)) (platformEventName : Value) : Value :=
  -- A time is taken for an event that has none, though the envelope does not say it.
  let ingressAt := ctx.opts.nowIso (if timestamp = "" then 1 else 0)
  let envelope : Value := .obj [
    ("v", .str "2"),
    ("type", .str ctx.eventType),
    ("correlationId", .str ctx.correlationId),
    ("traceId", .str ctx.traceId),
    ("ingress", .obj [("ingressAt", .str ingressAt), ("source", .str ("ingress." ++ ctx.platform)),
      ("connector", .str ctx.platform), ("channel", .str channelId)]),
    ("identity", .obj [("external", .obj [("id", .str userId), ("platform", .str ctx.platform),
      ("displayName", .str (textOrElse userName userId)), ("metadata", .obj metadata)])]),
    ("egress", .obj [("destination", .str ctx.opts.egressDestination),
      ("type", .str (determineEgressType ctx.eventType)), ("connector", .str ctx.platform),
      ("channel", .str channelId)]),
    ("routing", .obj [("stage", .str "initial"), ("slip", .arr []), ("history", .arr [])]),
    ("metadata", .obj [("rawPlatformPayload", ctx.platformEvent),
      ("platformEventName", platformEventName)])]
  if messageText = "" ∧ messageId = "" then envelope
  else envelope.extend [("message", .obj [
    ("id", .str (textOrElse messageId ("msg-" ++ ctx.correlationId))), ("role", .str "user"),
    ("text", .str messageText), ("rawPlatformPayload", ctx.evt get)])]

def withDebugMetadata (envelope : Value) : Value :=
  if ctx.opts.debugMetadata.truthy then
    -- Custom metadata that is no object has no properties to keep.
    envelope.extend [("qos", .obj [("tracer", .bool true)]),
      ("metadata", (envelope.get "metadata").extend [("debug", ctx.opts.debugMetadata)])]
  else envelope

/-- Read the other fields of an event, and build its envelope of all of them. -/
def completeEnvelope (userId channelId : String) : Except EnvelopeError Value := do
  let mapping := ctx.fieldMapping
  let evt := ctx.evt get
  let userName ← extractWithFallbacks get evt mapping.userName
  let messageText ← extractWithFallbacks get evt mapping.messageText
  let messageId ← extractWithFallbacks get evt mapping.messageId
  let timestamp ← extractWithFallbacks get evt mapping.timestamp
  let customFields ← extractCustomFields get evt mapping.custom {}
  let platformEventName ← extractPlatformEventName ctx.platformEvent ctx.platform
  let envelope := baseEnvelope get ctx userId channelId userName messageText messageId timestamp
    customFields.identity platformEventName
  return withDebugMetadata ctx (envelope.extend customFields.root)

def buildGenericEnvelope : Except EnvelopeError Value := do
  let userId ← extractWithFallbacks get (ctx.evt get) ctx.fieldMapping.userId
  let channelId ← extractWithFallbacks get (ctx.evt get) ctx.fieldMapping.channelId
  if userId = "" ∨ channelId = "" then throw (.missingRequiredFields userId channelId)
  completeEnvelope get ctx userId channelId

/-- The values that a field may be read from, in the order in which they are tried. -/
def fieldCandidates (obj : Value) : FieldMapping → List (Except EnvelopeError Value)
  | .missing => []
  | .single (.path "") => []
  | .single extractor => [extractField get obj extractor]
  | .withFallbacks none fallbacks => fallbacks.map fun path => .ok (get obj path)
  | .withFallbacks (some (.path "")) fallbacks => fallbacks.map fun path => .ok (get obj path)
  | .withFallbacks (some extractor) fallbacks =>
    extractField get obj extractor :: fallbacks.map fun path => .ok (get obj path)

def Absent (candidate : Except EnvelopeError Value) : Prop :=
  ∃ value, candidate = .ok value ∧ ¬ Present value

/-- The text of the first value that is there, and none if there is no such value. -/
def YieldsText (candidates : List (Except EnvelopeError Value)) (text : String) : Prop :=
  (∃ before value after, candidates = before ++ .ok value :: after ∧
    (∀ candidate ∈ before, Absent candidate) ∧ Present value ∧ text = value.toText) ∨
  (∀ candidate ∈ candidates, Absent candidate) ∧ text = ""

def FieldMapping.extractors : FieldMapping → List FieldExtractor
  | .missing => []
  | .single extractor => [extractor]
  | .withFallbacks path _ => path.toList

def GenericFieldMapping.extractors (mapping : GenericFieldMapping) : List FieldExtractor :=
  [mapping.userId, mapping.channelId, mapping.userName, mapping.messageText, mapping.messageId,
    mapping.timestamp].flatMap FieldMapping.extractors ++ mapping.custom.map Prod.snd

def protectedFields : List String :=
  ["v", "type", "correlationId", "traceId", "ingress", "identity", "egress", "routing"]

structure EnvelopeIntegrity (userId channelId : String) (event : Value) : Prop where
  v : event.get "v" = .str "2"
  type : event.get "type" = .str ctx.eventType
  correlationId : event.get "correlationId" = .str ctx.correlationId
  traceId : event.get "traceId" = .str ctx.traceId
  ingress : ∃ call, event.get "ingress" = .obj [("ingressAt", .str (ctx.opts.nowIso call)),
    ("source", .str ("ingress." ++ ctx.platform)), ("connector", .str ctx.platform),
    ("channel", .str channelId)]
  identityId : ((event.get "identity").get "external").get "id" = .str userId
  identityPlatform : ((event.get "identity").get "external").get "platform" = .str ctx.platform
  egress : event.get "egress" = .obj [("destination", .str ctx.opts.egressDestination),
    ("type", .str (determineEgressType ctx.eventType)), ("connector", .str ctx.platform),
    ("channel", .str channelId)]
  routing : event.get "routing" =
    .obj [("stage", .str "initial"), ("slip", .arr []), ("history", .arr [])]

structure EnvelopeLaw : Prop where
  /-- The fields that are needed are missing exactly if one of them yields no text. -/
  missing : (∃ userId channelId,
      buildGenericEnvelope get ctx = .error (.missingRequiredFields userId channelId)) ↔
    ∃ userId channelId,
      YieldsText (fieldCandidates get (ctx.evt get) ctx.fieldMapping.userId) userId ∧
      YieldsText (fieldCandidates get (ctx.evt get) ctx.fieldMapping.channelId) channelId ∧
      (userId = "" ∨ channelId = "")
  built : ∀ event, buildGenericEnvelope get ctx = .ok event → ∃ userId channelId,
    YieldsText (fieldCandidates get (ctx.evt get) ctx.fieldMapping.userId) userId ∧
      YieldsText (fieldCandidates get (ctx.evt get) ctx.fieldMapping.channelId) channelId ∧
      EnvelopeIntegrity ctx userId channelId event
  /-- Nothing else is thrown but by a function of the mapping, or where the event is no object. -/
  thrown : ∀ text, buildGenericEnvelope get ctx = .error (.thrown text) →
    (∃ extract, .function extract ∈ ctx.fieldMapping.extractors ∧
      extract (ctx.evt get) = .error text) ∨
    extractPlatformEventName ctx.platformEvent ctx.platform = .error (.thrown text)

end

section

variable {get : Value → String → Value} {ctx : GenericBuilderContext} {obj : Value}

/-- The text that the first value that is there has, unless reading one throws before. -/
def firstText : List (Except EnvelopeError Value) → Except EnvelopeError String
  | [] => .ok ""
  | .error error :: _ => .error error
  | .ok value :: rest => if Present value then .ok value.toText else firstText rest

theorem firstText_paths (paths : List String) :
    firstText (paths.map fun path => .ok (get obj path)) =
      .ok ((((paths.map (get obj)).find? (Present ·)).map Value.toText).getD "") := by
  induction paths with
  | nil => rfl
  | cons path rest ih =>
    by_cases there : Present (get obj path)
    · simp [firstText, there]
    · simp [firstText, there, ih]

theorem firstText_single (extracted : Except EnvelopeError Value) :
    firstText [extracted] = extracted.map presentText := by
  cases extracted with
  | error error => rfl
  | ok value => by_cases there : Present value <;> simp [firstText, presentText, there, Except.map]

theorem firstText_cons (extracted : Except EnvelopeError Value) (paths : List String) :
    firstText (extracted :: paths.map fun path => .ok (get obj path)) =
      (do
        let primary ← extracted
        if Present primary then return primary.toText
        return (((paths.map (get obj)).find? (Present ·)).map Value.toText).getD "") := by
  cases extracted with
  | error error => rfl
  | ok value =>
    by_cases there : Present value <;>
      simp [firstText, firstText_paths, there, bind, Except.bind, pure, Except.pure]

theorem extractWithFallbacks_eq (mapping : FieldMapping) :
    extractWithFallbacks get obj mapping = firstText (fieldCandidates get obj mapping) := by
  have absent : ¬ Present .undefined := fun there => there.1 rfl
  cases mapping with
  | missing => rfl
  | single extractor =>
    cases extractor with
    | path path =>
      by_cases empty : path = ""
      · subst empty
        rfl
      · simp [extractWithFallbacks, fieldCandidates, empty, firstText_single]
    | function extract => exact (firstText_single _).symm
  | withFallbacks primary fallbacks =>
    cases primary with
    | none =>
      rw [fieldCandidates, firstText_paths]
      simp [extractWithFallbacks, absent, bind, Except.bind, pure, Except.pure]
    | some extractor =>
      cases extractor with
      | path path =>
        by_cases empty : path = ""
        · subst empty
          rw [fieldCandidates, firstText_paths]
          simp [extractWithFallbacks, absent, bind, Except.bind, pure, Except.pure]
        · simp [extractWithFallbacks, fieldCandidates, empty, firstText_cons]
      | function extract =>
        have candidates : fieldCandidates get obj
            (.withFallbacks (some (.function extract)) fallbacks) =
            extractField get obj (.function extract) ::
              fallbacks.map fun path => .ok (get obj path) := rfl
        rw [candidates, firstText_cons]
        rfl

theorem yieldsText_iff (candidates : List (Except EnvelopeError Value)) (text : String) :
    YieldsText candidates text ↔ firstText candidates = .ok text := by
  induction candidates with
  | nil => simp [YieldsText, firstText, eq_comm]
  | cons candidate rest ih =>
    cases candidate with
    | error error =>
      -- An error is no value, so that nothing is yielded.
      have broken : ¬ Absent (.error error) := by
        rintro ⟨value, same, _⟩
        cases same
      refine iff_of_false ?_ (by simp [firstText])
      rintro (⟨before, value, after, parts, absent, _, _⟩ | ⟨absent, _⟩)
      · cases before with
        | nil => simp at parts
        | cons first before =>
          obtain rfl := (List.cons.inj parts).1
          exact broken (absent _ List.mem_cons_self)
      · exact broken (absent _ List.mem_cons_self)
    | ok value =>
      by_cases there : Present value
      · have unmissed : ¬ Absent (.ok value) := by
          rintro ⟨_, same, absent⟩
          obtain rfl := Except.ok.inj same
          exact absent there
        simp only [firstText, there, if_true, Except.ok.injEq]
        constructor
        · rintro (⟨before, found, after, parts, absent, _, rfl⟩ | ⟨absent, _⟩)
          · cases before with
            | nil => rw [Except.ok.inj (List.cons.inj parts).1]
            | cons first before =>
              obtain rfl := (List.cons.inj parts).1
              exact absurd (absent _ List.mem_cons_self) unmissed
          · exact absurd (absent _ List.mem_cons_self) unmissed
        · rintro rfl
          exact Or.inl ⟨[], value, rest, rfl, by simp, there, rfl⟩
      · have missed : Absent (.ok value) := ⟨value, rfl, there⟩
        simp only [firstText, there, if_false]
        rw [← ih]
        constructor
        · rintro (⟨before, found, after, parts, absent, present, rfl⟩ | ⟨absent, rfl⟩)
          · cases before with
            | nil =>
              obtain rfl := Except.ok.inj (List.cons.inj parts).1
              exact absurd present there
            | cons first before =>
              refine Or.inl ⟨before, found, after, (List.cons.inj parts).2, ?_, present, rfl⟩
              exact fun other member => absent other (List.mem_cons_of_mem _ member)
          · exact Or.inr ⟨fun other member => absent other (List.mem_cons_of_mem _ member), rfl⟩
        · rintro (⟨before, found, after, rfl, absent, present, rfl⟩ | ⟨absent, rfl⟩)
          · refine Or.inl ⟨.ok value :: before, found, after, rfl, ?_, present, rfl⟩
            intro other member
            rcases List.mem_cons.mp member with rfl | member
            · exact missed
            · exact absent other member
          · refine Or.inr ⟨?_, rfl⟩
            intro other member
            rcases List.mem_cons.mp member with rfl | member
            · exact missed
            · exact absent other member

theorem yieldsText_fieldCandidates {mapping : FieldMapping} {text : String} :
    YieldsText (fieldCandidates get obj mapping) text ↔
      extractWithFallbacks get obj mapping = .ok text := by
  rw [yieldsText_iff, extractWithFallbacks_eq]

variable {error : EnvelopeError}

theorem exists_of_extractField {extractor : FieldExtractor}
    (failed : extractField get obj extractor = .error error) :
    ∃ extract text, extractor = .function extract ∧ extract obj = .error text ∧
      error = .thrown text := by
  cases extractor with
  | path path => cases failed
  | function extract =>
    cases result : extract obj with
    | ok value => simp [extractField, result, Except.mapError] at failed
    | error text =>
      refine ⟨extract, text, rfl, result, ?_⟩
      simpa [extractField, result, Except.mapError, eq_comm] using failed

theorem fieldCandidates_cases (get : Value → String → Value) (obj : Value)
    (mapping : FieldMapping) :
    (∃ paths : List String, fieldCandidates get obj mapping =
      paths.map fun path => .ok (get obj path)) ∨
    ∃ extractor ∈ mapping.extractors, ∃ paths : List String, fieldCandidates get obj mapping =
      extractField get obj extractor :: paths.map fun path => .ok (get obj path) := by
  unfold fieldCandidates
  split
  · exact Or.inl ⟨[], rfl⟩
  · exact Or.inl ⟨[], rfl⟩
  · exact Or.inr ⟨_, List.mem_singleton_self _, [], rfl⟩
  · exact Or.inl ⟨_, rfl⟩
  · exact Or.inl ⟨_, rfl⟩
  · exact Or.inr ⟨_, by simp [FieldMapping.extractors], _, rfl⟩

theorem exists_of_extractWithFallbacks {mapping : FieldMapping}
    (failed : extractWithFallbacks get obj mapping = .error error) :
    ∃ extract text, .function extract ∈ mapping.extractors ∧ extract obj = .error text ∧
      error = .thrown text := by
  rw [extractWithFallbacks_eq] at failed
  rcases fieldCandidates_cases get obj mapping with ⟨paths, same⟩ | ⟨extractor, member, paths, same⟩
  · rw [same, firstText_paths] at failed
    cases failed
  · rw [same] at failed
    cases read : extractField get obj extractor with
    | error thrown =>
      obtain ⟨extract, text, rfl, result, rfl⟩ := exists_of_extractField read
      rw [read, firstText] at failed
      exact ⟨extract, text, member, result, (Except.error.inj failed).symm⟩
    | ok value =>
      rw [read, firstText, firstText_paths] at failed
      split at failed <;> cases failed

theorem exists_of_extractCustomFields {custom : List (String × FieldExtractor)}
    {result : CustomFields} (failed : extractCustomFields get obj custom result = .error error) :
    ∃ extract text, .function extract ∈ custom.map Prod.snd ∧ extract obj = .error text ∧
      error = .thrown text := by
  induction custom generalizing result with
  | nil => cases failed
  | cons entry rest ih =>
    obtain ⟨key, extractor⟩ := entry
    unfold extractCustomFields at failed
    cases read : extractField get obj extractor with
    | error thrown =>
      obtain ⟨extract, text, rfl, result, rfl⟩ := exists_of_extractField read
      rw [read] at failed
      exact ⟨extract, text, List.mem_cons_self, result, (Except.error.inj failed).symm⟩
    | ok value =>
      rw [read] at failed
      simp only [bind, Except.bind] at failed
      split at failed
      · obtain ⟨extract, text, member, thrown⟩ := ih failed
        exact ⟨extract, text, List.mem_cons_of_mem _ member, thrown⟩
      · obtain ⟨extract, text, member, thrown⟩ := ih failed
        exact ⟨extract, text, List.mem_cons_of_mem _ member, thrown⟩

theorem keys_extractCustomFields {custom : List (String × FieldExtractor)}
    {result customFields : CustomFields}
    (read : extractCustomFields get obj custom result = .ok customFields) :
    ∀ key ∈ customFields.root.map Prod.fst,
      key ∈ result.root.map Prod.fst ∨ key ∈ custom.map Prod.fst := by
  induction custom generalizing result with
  | nil =>
    rw [← Except.ok.inj read]
    exact fun key member => Or.inl member
  | cons entry rest ih =>
    obtain ⟨name, extractor⟩ := entry
    unfold extractCustomFields at read
    simp only [bind, Except.bind] at read
    split at read
    · cases read
    · split at read
      · intro key member
        exact (ih read key member).imp_right fun later => List.mem_cons_of_mem _ later
      · rename_i value _ _
        intro key member
        rcases ih read key member with written | later
        · -- The field is written here, or it was there before.
          unfold setProperty at written
          split at written
          · exact Or.inl written
          · rw [keys_setEntry] at written
            split at written
            · exact Or.inl written
            · rcases List.mem_append.mp written with before | here
              · exact Or.inl before
              · rw [List.mem_singleton.mp here]
                exact Or.inr List.mem_cons_self
        · exact Or.inr (List.mem_cons_of_mem _ later)

theorem get_extend_of_not_mem {base : Value} {fields : List (String × Value)} {key : String}
    (free : key ∉ fields.map Prod.fst) : (base.extend fields).get key = base.get key := by
  have unwritten : fields.reverse.lookup key = none := by
    rw [lookup_eq_none_iff_not_mem, List.map_reverse, List.mem_reverse]
    exact free
  rw [Value.get_extend, unwritten, Option.getD_none]

theorem bind_eq_error {ε α β : Type} {first : Except ε α} {next : α → Except ε β}
    {error : ε} (failed : (first >>= next) = .error error) :
    first = .error error ∨ ∃ value, first = .ok value ∧ next value = .error error := by
  cases first with
  | error thrown => exact Or.inl (congrArg Except.error (Except.error.inj failed))
  | ok value => exact Or.inr ⟨value, rfl, failed⟩

theorem bind_eq_success {ε α β : Type} {first : Except ε α} {next : α → Except ε β}
    {result : β} (succeeds : (first >>= next) = .ok result) :
    ∃ value, first = .ok value ∧ next value = .ok result := by
  cases first with
  | error thrown => cases succeeds
  | ok value => exact ⟨value, rfl, succeeds⟩

variable {userId channelId : String} {event : Value}

theorem EnvelopeIntegrity.extend {fields : List (String × Value)}
    (integrity : EnvelopeIntegrity ctx userId channelId event)
    (free : ∀ key ∈ protectedFields, key ∉ fields.map Prod.fst) :
    EnvelopeIntegrity ctx userId channelId (event.extend fields) := by
  have kept : ∀ key ∈ protectedFields, (event.extend fields).get key = event.get key :=
    fun key member => get_extend_of_not_mem (free key member)
  constructor
  · rw [kept "v" (by decide)]
    exact integrity.v
  · rw [kept "type" (by decide)]
    exact integrity.type
  · rw [kept "correlationId" (by decide)]
    exact integrity.correlationId
  · rw [kept "traceId" (by decide)]
    exact integrity.traceId
  · rw [kept "ingress" (by decide)]
    exact integrity.ingress
  · rw [kept "identity" (by decide)]
    exact integrity.identityId
  · rw [kept "identity" (by decide)]
    exact integrity.identityPlatform
  · rw [kept "egress" (by decide)]
    exact integrity.egress
  · rw [kept "routing" (by decide)]
    exact integrity.routing

theorem integrity_baseEnvelope
    (userId channelId userName messageText messageId timestamp : String)
    (metadata : List (String × Value)) (platformEventName : Value) :
    EnvelopeIntegrity ctx userId channelId (baseEnvelope get ctx userId channelId userName
      messageText messageId timestamp metadata platformEventName) := by
  unfold baseEnvelope
  simp only
  split
  · constructor <;> simp [Value.get_obj_cons]
  · refine EnvelopeIntegrity.extend ?_ (by simp [protectedFields])
    constructor <;> simp [Value.get_obj_cons]

private theorem EnvelopeIntegrity.withDebugMetadata
    (integrity : EnvelopeIntegrity ctx userId channelId event) :
    EnvelopeIntegrity ctx userId channelId (BitBrat.withDebugMetadata ctx event) := by
  unfold BitBrat.withDebugMetadata
  split
  · exact integrity.extend (by simp [protectedFields])
  · exact integrity

theorem thrown_of_completeEnvelope
    (failed : completeEnvelope get ctx userId channelId = .error error) :
    (∃ extract text, .function extract ∈ ctx.fieldMapping.extractors ∧
      extract (ctx.evt get) = .error text ∧ error = .thrown text) ∨
    extractPlatformEventName ctx.platformEvent ctx.platform = .error error := by
  have field : ∀ mapping ∈ [ctx.fieldMapping.userName, ctx.fieldMapping.messageText,
      ctx.fieldMapping.messageId, ctx.fieldMapping.timestamp],
      extractWithFallbacks get (ctx.evt get) mapping = .error error →
      ∃ extract text, .function extract ∈ ctx.fieldMapping.extractors ∧
        extract (ctx.evt get) = .error text ∧ error = .thrown text := by
    intro mapping member thrown
    obtain ⟨extract, text, own, result⟩ := exists_of_extractWithFallbacks thrown
    refine ⟨extract, text, List.mem_append_left _ (List.mem_flatMap.mpr ⟨mapping, ?_, own⟩), result⟩
    exact List.mem_cons_of_mem _ (List.mem_cons_of_mem _ member)
  -- The reads are taken apart in their order, and the first that throws is found.
  unfold completeEnvelope at failed
  rcases bind_eq_error failed with thrown | ⟨_, _, failed⟩
  · exact Or.inl (field _ (by simp) thrown)
  rcases bind_eq_error failed with thrown | ⟨_, _, failed⟩
  · exact Or.inl (field _ (by simp) thrown)
  rcases bind_eq_error failed with thrown | ⟨_, _, failed⟩
  · exact Or.inl (field _ (by simp) thrown)
  rcases bind_eq_error failed with thrown | ⟨_, _, failed⟩
  · exact Or.inl (field _ (by simp) thrown)
  rcases bind_eq_error failed with thrown | ⟨_, _, failed⟩
  · obtain ⟨extract, text, own, result⟩ := exists_of_extractCustomFields thrown
    exact Or.inl ⟨extract, text, List.mem_append_right _ own, result⟩
  rcases bind_eq_error failed with thrown | ⟨_, _, failed⟩
  · exact Or.inr thrown
  cases failed

theorem integrity_of_completeEnvelope
    (free : ∀ key ∈ protectedFields, key ∉ ctx.fieldMapping.custom.map Prod.fst)
    (built : completeEnvelope get ctx userId channelId = .ok event) :
    EnvelopeIntegrity ctx userId channelId event := by
  unfold completeEnvelope at built
  obtain ⟨userName, _, built⟩ := bind_eq_success built
  obtain ⟨messageText, _, built⟩ := bind_eq_success built
  obtain ⟨messageId, _, built⟩ := bind_eq_success built
  obtain ⟨timestamp, _, built⟩ := bind_eq_success built
  obtain ⟨customFields, read, built⟩ := bind_eq_success built
  obtain ⟨platformEventName, _, built⟩ := bind_eq_success built
  rw [← Except.ok.inj built]
  refine EnvelopeIntegrity.withDebugMetadata (EnvelopeIntegrity.extend ?_ ?_)
  · exact integrity_baseEnvelope _ _ _ _ _ _ _ _
  · intro key member written
    rcases keys_extractCustomFields read key written with impossible | custom
    · simp at impossible
    · exact free key member custom

theorem buildGenericEnvelope_cases (get : Value → String → Value)
    (ctx : GenericBuilderContext) :
    (∃ extract text, .function extract ∈ ctx.fieldMapping.extractors ∧
      extract (ctx.evt get) = .error text ∧
      buildGenericEnvelope get ctx = .error (.thrown text) ∧
      ∀ userId channelId, ¬ (extractWithFallbacks get (ctx.evt get) ctx.fieldMapping.userId =
        .ok userId ∧ extractWithFallbacks get (ctx.evt get) ctx.fieldMapping.channelId =
        .ok channelId)) ∨
    ∃ userId channelId,
      extractWithFallbacks get (ctx.evt get) ctx.fieldMapping.userId = .ok userId ∧
      extractWithFallbacks get (ctx.evt get) ctx.fieldMapping.channelId = .ok channelId ∧
      buildGenericEnvelope get ctx = if userId = "" ∨ channelId = ""
        then .error (.missingRequiredFields userId channelId)
        else completeEnvelope get ctx userId channelId := by
  have own : ∀ mapping ∈ [ctx.fieldMapping.userId, ctx.fieldMapping.channelId],
      ∀ extractor ∈ mapping.extractors, extractor ∈ ctx.fieldMapping.extractors := by
    intro mapping member extractor listed
    refine List.mem_append_left _ (List.mem_flatMap.mpr ⟨mapping, ?_, listed⟩)
    rcases List.mem_cons.mp member with rfl | member
    · exact List.mem_cons_self
    · rw [List.mem_singleton.mp member]
      exact List.mem_cons_of_mem _ List.mem_cons_self
  cases user : extractWithFallbacks get (ctx.evt get) ctx.fieldMapping.userId with
  | error error =>
    obtain ⟨extract, text, listed, result, rfl⟩ := exists_of_extractWithFallbacks user
    refine Or.inl ⟨extract, text, own _ (by simp) _ listed, result, ?_, ?_⟩
    · simp only [buildGenericEnvelope, user, bind, Except.bind]
    · rintro userId channelId ⟨impossible, _⟩
      cases impossible
  | ok userId =>
    cases channel : extractWithFallbacks get (ctx.evt get) ctx.fieldMapping.channelId with
    | error error =>
      obtain ⟨extract, text, listed, result, rfl⟩ := exists_of_extractWithFallbacks channel
      refine Or.inl ⟨extract, text, own _ (by simp) _ listed, result, ?_, ?_⟩
      · simp only [buildGenericEnvelope, user, channel, bind, Except.bind]
      · rintro userId channelId ⟨_, impossible⟩
        cases impossible
    | ok channelId =>
      refine Or.inr ⟨userId, channelId, rfl, rfl, ?_⟩
      simp only [buildGenericEnvelope, user, channel, bind, Except.bind]
      split <;> rfl

theorem extractPlatformEventName_ne_missing (evt : Value)
    (platform userId channelId : String) :
    extractPlatformEventName evt platform ≠ .error (.missingRequiredFields userId channelId) := by
  intro failed
  unfold extractPlatformEventName at failed
  split at failed
  · split at failed <;> cases failed
  split at failed
  · split at failed <;> cases failed
  split at failed
  · split at failed <;> cases failed
  split at failed
  · split at failed <;> cases failed
  cases failed

end

/-- Reading a property by its name, for the paths of one name that the documents here use. -/
def getProperty (obj : Value) (path : String) : Value := obj.get path

def chatContext (custom : List (String × FieldExtractor)) (userId : FieldMapping)
    (platformEvent : Value) : GenericBuilderContext where
  platform := "twitch"
  eventType := "chat.message.v1"
  platformEvent
  fieldMapping := { userId, channelId := .single (.path "channel"), custom }
  opts := {
    uuid := fun call => "uuid-" ++ toString call
    nowIso := fun _ => "2024-01-01T00:00:00.000Z" }

end BitBrat
