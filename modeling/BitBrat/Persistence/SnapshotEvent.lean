import BitBrat.Js.Json
import BitBrat.Js.NumberText
import BitBrat.Types.Event
import Mathlib.Tactic.IntervalCases

/-! Snapshots of events for the persistence service: what is left out of them, and when. -/

namespace BitBrat

open Js

inductive PersistenceSnapshotMode where
  | off
  | finalOnly
  | significant
  | all
  deriving DecidableEq

inductive PersistenceSnapshotKind where
  | initial
  | update
  | final
  | deadletter
  deriving DecidableEq

def PersistenceSnapshotKind.text : PersistenceSnapshotKind → String
  | .initial => "initial"
  | .update => "update"
  | .final => "final"
  | .deadletter => "deadletter"

structure PersistenceSnapshotPolicy where
  mode : PersistenceSnapshotMode
  includeRawPayloads : Bool
  maxSnapshotBytes : Option Number := none
  ttlDays : Number

structure SnapshotParams where
  kind : PersistenceSnapshotKind
  sourceService : String
  sourceTopic : String
  event : List (String × Value)
  changeSummary : Option String := none
  delivery : Value := .undefined
  deadletter : Value := .undefined
  idempotencyKey : Option String := none
  capturedAt : Option String := none
  stage : Value := .undefined
  stepId : Value := .undefined
  attempt : Option Number := none

structure PersistenceSnapshotEvent where
  v : String
  correlationId : Value
  kind : PersistenceSnapshotKind
  capturedAt : String
  sourceService : String
  sourceTopic : String
  idempotencyKey : String
  stage : Value
  stepId : Value
  attempt : Option Number
  changeSummary : Option String
  delivery : Value
  deadletter : Value
  event : Value

/-- What the settings say, where a truth value may be written in several ways. -/
def parseBoolean (raw : Value) (fallback : Bool) : Bool :=
  match raw with
  | .bool flag => flag
  | .str text =>
    let normalized := (String.ofList (trimBlanks text.toList)).toLower
    if normalized ∈ ["1", "true", "yes", "on"] then true
    else if normalized ∈ ["0", "false", "no", "off"] then false
    else fallback
  | _ => fallback

def parsePositiveNumber (raw : Value) : Option Number :=
  let parsed : Option Number :=
    match raw with
    | .undefined => none
    | .null => none
    | .num value => some value
    | .str text => if text = "" then none else some (Number.ofText text)
    | .bool flag => some (.finite (if flag then 1 else 0))
    -- Settings are texts, numbers and truth values.
    | _ => none
  parsed.filter fun number =>
    match number with
    | .finite value => 0 < value
    | _ => false

/-- What is published, from the configuration or else from the environment. -/
def resolvePersistenceSnapshotPolicy (config environment : Value) : PersistenceSnapshotPolicy :=
  let setting (name : String) := (config.get name).coalesce (environment.get name)
  let modeRaw := (String.ofList (trimBlanks ((setting "PERSISTENCE_SNAPSHOT_MODE").coalesce
    (.str "final-only")).toText.toList)).toLower
  { mode :=
      match modeRaw with
      | "off" => .off
      | "significant" => .significant
      | "all" => .all
      | _ => .finalOnly
    includeRawPayloads := parseBoolean (setting "PERSISTENCE_INCLUDE_RAW_PAYLOADS") true
    maxSnapshotBytes := parsePositiveNumber (setting "PERSISTENCE_MAX_SNAPSHOT_BYTES")
    ttlDays := (parsePositiveNumber (setting "PERSISTENCE_TTL_DAYS")).getD (.finite 7) }

def shouldPublishSnapshot (policy : PersistenceSnapshotPolicy)
    (kind : PersistenceSnapshotKind) : Bool :=
  if policy.mode = .off then false
  else if kind = .final ∨ kind = .deadletter then true
  else policy.mode = .all ∨ policy.mode = .significant

def deleteProperty (key : String) : Value → Value
  | .obj fields => .obj (eraseKey key fields)
  | other => other

def keepLastStep (candidate : Value) : Value :=
  let routing := candidate.get "routing"
  match routing.get "slip" with
  | .arr slip =>
    candidate.extend [("routing", routing.extend [("slip", .arr (slip.drop (slip.length - 1)))])]
  | _ => candidate

def trimSteps : List (Value → Value) :=
  [deleteProperty "payload", deleteProperty "metadata", deleteProperty "errors",
    deleteProperty "externalEvent", deleteProperty "message", deleteProperty "annotations",
    deleteProperty "candidates", keepLastStep]

def trimUntil (fits : Value → Bool) : List (Value → Value) → Value → Option Value
  | [], _ => none
  | trim :: rest, candidate =>
    let trimmed := trim candidate
    if fits trimmed then some trimmed else trimUntil fits rest trimmed

section

-- The text that a date is written as depends on its milliseconds alone.
variable (isoText : Int → String)

def withinBytes (limit : Number) (event : Value) : Bool :=
  Number.le (.finite (jsonBytes isoText event : ℚ)) limit

/-- The event, or what is left of it when it is too large, and whether it was cut. -/
def trimEventToMaxBytes (event : Value) (maxSnapshotBytes : Option Number) :
    Option (Value × Bool) :=
  match maxSnapshotBytes with
  | none => some (event, false)
  | some limit =>
    -- A limit of zero is none.
    if !limit.truthy then some (event, false)
    else if withinBytes isoText limit event then some (event, false)
    else
      (trimUntil (withinBytes isoText limit) trimSteps (jsonForm isoText event)).map
        fun candidate => (candidate, true)

def openStep (slip : Value) : Value :=
  match slip with
  | .arr steps =>
    (steps.find? fun step =>
      step.get "status" ≠ .str "OK" ∧ step.get "status" ≠ .str "SKIP").getD .undefined
  | _ => .undefined

/-- The snapshot of an event, unless none is published or what is left of the event is too large. -/
def buildPersistenceSnapshotEvent (policy : PersistenceSnapshotPolicy) (params : SnapshotParams)
    (nowIso : String) : Option PersistenceSnapshotEvent :=
  if !shouldPublishSnapshot policy params.kind then none
  else
    let capturedAt := (params.capturedAt.bind nonEmpty).getD nowIso
    let source := Value.obj params.event
    let cloned := jsonForm isoText source
    let event := if policy.includeRawPayloads then cloned else deleteProperty "payload" cloned
    match trimEventToMaxBytes isoText event policy.maxSnapshotBytes with
    | none => none
    | some (kept, truncated) =>
      let correlationId := source.get "correlationId"
      let routing := source.get "routing"
      some
        { v := "1"
          correlationId
          kind := params.kind
          capturedAt
          sourceService := params.sourceService
          sourceTopic := params.sourceTopic
          idempotencyKey := (params.idempotencyKey.bind nonEmpty).getD
            (correlationId.toText ++ ":" ++ params.kind.text ++ ":" ++ params.sourceService ++
              ":" ++ params.sourceTopic ++ ":" ++ capturedAt)
          stage := params.stage.or (routing.get "stage")
          stepId := params.stepId.or ((openStep (routing.get "slip")).get "id")
          attempt := params.attempt
          changeSummary :=
            match params.changeSummary with
            | some summary =>
              if truncated ∧ summary ≠ "" then some (summary ++ " (truncated)") else some summary
            | none => none
          delivery := params.delivery
          deadletter := params.deadletter
          event := kept }

def trimmedBy (event : Value) (count : Nat) : Value :=
  (trimSteps.take count).foldl (fun candidate trim => trim candidate) event

def fitsLimit (maxSnapshotBytes : Option Number) (event : Value) : Bool :=
  maxSnapshotBytes.all fun limit => !limit.truthy || withinBytes isoText limit event

def snapshotSource (policy : PersistenceSnapshotPolicy) (event : List (String × Value)) : Value :=
  let cloned := jsonForm isoText (.obj event)
  if policy.includeRawPayloads then cloned else deleteProperty "payload" cloned

/-- What a snapshot promises: its size, whose event it is, and that raw payloads are left out. -/
structure SnapshotSound (policy : PersistenceSnapshotPolicy) (event : List (String × Value))
    (snapshot : PersistenceSnapshotEvent) : Prop where
  bounded : ∀ limit ∈ policy.maxSnapshotBytes, withinBytes isoText limit snapshot.event = true
  /-- Events travel as JSON, so that the input's properties are compared in that form. -/
  kept : ∀ key ∈ ["correlationId", "type", "v", "ingress", "identity"],
    snapshot.event.get key = jsonForm isoText ((Value.obj event).get key)
  withheld : policy.includeRawPayloads = false →
    snapshot.event.get "payload" = .undefined ∧
      (snapshot.event.get "message").get "rawPlatformPayload" = .undefined ∧
      (snapshot.event.get "externalEvent").get "rawPayload" = .undefined

/--
When a snapshot keeps its promises.

A raw payload inside a message or a platform event is left out only together with the whole of it,
which happens when nothing less is small enough.
-/
structure RawPayloadsGone (policy : PersistenceSnapshotPolicy) (event : List (String × Value)) :
    Prop where
  /-- A limit of zero, or one that is no number, is none. -/
  limit : ∀ limit ∈ policy.maxSnapshotBytes, limit.truthy = true
  message : policy.includeRawPayloads = false →
    ((Value.obj event).get "message").get "rawPlatformPayload" ≠ .undefined →
    ∀ count ≤ 4, fitsLimit isoText policy.maxSnapshotBytes
      (trimmedBy (snapshotSource isoText policy event) count) = false
  externalEvent : policy.includeRawPayloads = false →
    ((Value.obj event).get "externalEvent").get "rawPayload" ≠ .undefined →
    ∀ count ≤ 3, fitsLimit isoText policy.maxSnapshotBytes
      (trimmedBy (snapshotSource isoText policy event) count) = false

@[simp] theorem get_deleteProperty (key other : String) (value : Value) :
    (deleteProperty key value).get other = if other = key then .undefined else value.get other := by
  cases value with
  | obj fields =>
    simp only [deleteProperty, Value.get, Value.fields, lookup_eraseKey]
    split <;> rfl
  | _ => simp [deleteProperty, Value.get, Value.fields]

theorem jsonForm_deleteProperty (key : String) (value : Value) :
    jsonForm isoText (deleteProperty key value) = deleteProperty key (jsonForm isoText value) := by
  cases value with
  | obj fields => simp [deleteProperty, jsonForm, jsonFields_eraseKey]
  | num number => cases number <;> simp [deleteProperty, jsonForm]
  | _ => simp [deleteProperty, jsonForm]

variable {key : String}

theorem get_keepLastStep (value : Value) (apart : key ≠ "routing") :
    (keepLastStep value).get key = value.get key := by
  simp only [keepLastStep]
  split
  · have skipped : (key == "routing") = false := by simpa using apart
    rw [Value.get_extend]
    simp [List.lookup_cons, skipped]
  · rfl

variable {kept : Value}

theorem trimUntil_eq_some {fits : Value → Bool} {steps : List (Value → Value)}
    {candidate : Value} : trimUntil fits steps candidate = some kept ↔
      ∃ count < steps.length,
        kept = (steps.take (count + 1)).foldl (fun candidate trim => trim candidate) candidate ∧
        fits kept = true ∧
        ∀ earlier < count, fits ((steps.take (earlier + 1)).foldl
          (fun candidate trim => trim candidate) candidate) = false := by
  -- The induction is on the steps, each of which either is enough or is followed by the next.
  induction steps generalizing candidate with
  | nil => simp [trimUntil]
  | cons trim rest ih =>
    simp only [trimUntil]
    by_cases enough : fits (trim candidate) = true
    · rw [if_pos enough]
      constructor
      · intro same
        obtain rfl := Option.some.inj same
        exact ⟨0, by simp, by simp, enough, by omega⟩
      · intro ⟨count, _, same, _, before⟩
        cases count with
        | zero => simpa using same.symm
        | succ count =>
          have first : fits (trim candidate) = false := by simpa using before 0 (by omega)
          simp [enough] at first
    · rw [if_neg enough, ih]
      constructor
      · intro ⟨count, inside, same, fitting, before⟩
        refine ⟨count + 1, by simpa using inside, by simpa using same, fitting, ?_⟩
        intro earlier below
        cases earlier with
        | zero => simpa using enough
        | succ earlier => simpa using before earlier (by omega)
      · intro ⟨count, inside, same, fitting, before⟩
        cases count with
        | zero =>
          -- The first candidate did not fit.
          have first : kept = trim candidate := by simpa using same
          exact absurd (first ▸ fitting) enough
        | succ count =>
          refine ⟨count, by simpa using inside, by simpa using same, fitting, ?_⟩
          intro earlier below
          simpa using before (earlier + 1) (by omega)

theorem trimEventToMaxBytes_eq_some {event : Value} {limit : Option Number}
    (settled : jsonForm isoText event = event) :
    (∃ truncated, trimEventToMaxBytes isoText event limit = some (kept, truncated)) ↔
      ∃ count ≤ trimSteps.length, kept = trimmedBy event count ∧
        fitsLimit isoText limit kept = true ∧
        ∀ earlier < count, fitsLimit isoText limit (trimmedBy event earlier) = false := by
  have whole : trimmedBy event 0 = event := rfl
  -- An event that fits is returned as it is, and nothing else is.
  have untouched (fitting : fitsLimit isoText limit event = true) :
      (∃ truncated, some (event, false) = some (kept, truncated)) ↔
        ∃ count ≤ trimSteps.length, kept = trimmedBy event count ∧
          fitsLimit isoText limit kept = true ∧
          ∀ earlier < count, fitsLimit isoText limit (trimmedBy event earlier) = false := by
    constructor
    · intro ⟨truncated, same⟩
      obtain ⟨rfl, rfl⟩ : event = kept ∧ false = truncated := by simpa using same
      exact ⟨0, by omega, rfl, fitting, by omega⟩
    · intro ⟨count, _, same, _, before⟩
      cases count with
      | zero => exact ⟨false, by rw [same, whole]⟩
      | succ count =>
        have first := before 0 (by omega)
        rw [whole, fitting] at first
        exact absurd first (by decide)
  cases limit with
  | none => exact untouched rfl
  | some limit =>
    simp only [trimEventToMaxBytes]
    by_cases absent : limit.truthy = false
    · rw [if_pos (by simp [absent])]
      exact untouched (by simp [fitsLimit, absent])
    · have there : limit.truthy = true := by simpa using absent
      have same (candidate : Value) :
          fitsLimit isoText (some limit) candidate = withinBytes isoText limit candidate := by
        simp [fitsLimit, there]
      rw [if_neg (by simp [there])]
      by_cases enough : withinBytes isoText limit event = true
      · rw [if_pos enough]
        exact untouched (by rw [same, enough])
      · rw [if_neg enough, settled]
        constructor
        · intro ⟨truncated, found⟩
          obtain ⟨candidate, trimmed, paired⟩ := Option.map_eq_some_iff.mp found
          obtain ⟨rfl, -⟩ := Prod.mk.inj paired
          obtain ⟨count, inside, rfl, fitting, before⟩ := trimUntil_eq_some.mp trimmed
          refine ⟨count + 1, by omega, rfl, (same _).trans fitting, ?_⟩
          intro earlier below
          cases earlier with
          | zero => rw [same, whole]; simpa using enough
          | succ earlier => rw [same]; exact before earlier (by omega)
        · intro ⟨count, inside, is, fitting, before⟩
          simp only [same] at fitting before
          cases count with
          | zero =>
            rw [whole] at is
            exact absurd (is ▸ fitting) enough
          | succ count =>
            refine ⟨true, ?_⟩
            rw [trimUntil_eq_some.mpr ⟨count, by omega, is, fitting,
              fun earlier below => before (earlier + 1) (by omega)⟩]
            rfl

variable {count : Nat}

theorem get_message_trimmedBy (event : Value) (inside : count ≤ trimSteps.length) :
    (trimmedBy event count).get "message" =
      if count ≤ 4 then event.get "message" else .undefined := by
  replace inside : count ≤ 8 := inside
  interval_cases count <;> simp [trimmedBy, trimSteps, get_keepLastStep]

theorem get_externalEvent_trimmedBy (event : Value) (inside : count ≤ trimSteps.length) :
    (trimmedBy event count).get "externalEvent" =
      if count ≤ 3 then event.get "externalEvent" else .undefined := by
  replace inside : count ≤ 8 := inside
  interval_cases count <;> simp [trimmedBy, trimSteps, get_keepLastStep]

theorem get_kept_trimmedBy (event : Value) (inside : count ≤ trimSteps.length)
    (named : key ∈ ["correlationId", "type", "v", "ingress", "identity"]) :
    (trimmedBy event count).get key = event.get key := by
  replace inside : count ≤ 8 := inside
  simp only [List.mem_cons, List.not_mem_nil, or_false] at named
  obtain rfl | rfl | rfl | rfl | rfl := named <;>
    interval_cases count <;> simp [trimmedBy, trimSteps, get_keepLastStep]

theorem jsonForm_snapshotSource (policy : PersistenceSnapshotPolicy)
    (event : List (String × Value)) :
    jsonForm isoText (snapshotSource isoText policy event) =
      snapshotSource isoText policy event := by
  unfold snapshotSource
  split <;> simp [jsonForm_deleteProperty]

theorem get_snapshotSource (policy : PersistenceSnapshotPolicy)
    (event : List (String × Value)) (apart : key ≠ "payload") :
    (snapshotSource isoText policy event).get key =
      jsonForm isoText ((Value.obj event).get key) := by
  unfold snapshotSource
  split <;> simp [apart]

theorem get_payload_trimmedBy {policy : PersistenceSnapshotPolicy}
    (event : List (String × Value)) (without : policy.includeRawPayloads = false)
    (inside : count ≤ trimSteps.length) :
    (trimmedBy (snapshotSource isoText policy event) count).get "payload" = .undefined := by
  replace inside : count ≤ 8 := inside
  interval_cases count <;>
    simp [trimmedBy, trimSteps, get_keepLastStep, snapshotSource, without]

theorem buildPersistenceSnapshotEvent_eq_some {policy : PersistenceSnapshotPolicy}
    {params : SnapshotParams} (nowIso : String) :
    (∃ snapshot, buildPersistenceSnapshotEvent isoText policy params nowIso = some snapshot ∧
        snapshot.event = kept) ↔
      shouldPublishSnapshot policy params.kind = true ∧
        ∃ count ≤ trimSteps.length,
          kept = trimmedBy (snapshotSource isoText policy params.event) count ∧
          fitsLimit isoText policy.maxSnapshotBytes kept = true ∧
          ∀ earlier < count, fitsLimit isoText policy.maxSnapshotBytes
            (trimmedBy (snapshotSource isoText policy params.event) earlier) = false := by
  rw [← trimEventToMaxBytes_eq_some isoText (jsonForm_snapshotSource isoText policy params.event)]
  have source : (if policy.includeRawPayloads = true then jsonForm isoText (.obj params.event)
      else deleteProperty "payload" (jsonForm isoText (.obj params.event))) =
      snapshotSource isoText policy params.event := rfl
  simp only [buildPersistenceSnapshotEvent, source]
  by_cases published : shouldPublishSnapshot policy params.kind = true
  · rw [if_neg (by simp [published])]
    cases trimEventToMaxBytes isoText (snapshotSource isoText policy params.event)
        policy.maxSnapshotBytes with
    | none => simp
    | some result =>
      obtain ⟨event, truncated⟩ := result
      simp [published]
  · rw [if_pos (by simpa using published)]
    simp [published]

variable {limit : Number}

theorem withinBytes_of_fitsLimit {maxSnapshotBytes : Option Number} {event : Value}
    (fitting : fitsLimit isoText maxSnapshotBytes event = true)
    (limited : limit ∈ maxSnapshotBytes) (there : limit.truthy = true) :
    withinBytes isoText limit event = true := by
  obtain rfl : maxSnapshotBytes = some limit := limited
  simpa [fitsLimit, there] using fitting

theorem withinBytes_of_falsy (fields : List (String × Value))
    (absent : limit.truthy = false) : withinBytes isoText limit (.obj fields) = false := by
  have positive : (0 : ℚ) < jsonBytes isoText (.obj fields) := by
    exact_mod_cast jsonBytes_obj_pos isoText fields
  cases limit with
  | finite value =>
    obtain rfl : value = 0 := by simpa [Number.truthy] using absent
    have above : ¬ (jsonBytes isoText (.obj fields) : ℚ) ≤ 0 := not_le.mpr positive
    simp only [withinBytes, Number.le_finite, above, decide_false]
  | infinity negative => simp [Number.truthy] at absent
  | nan => rfl

/--
Every published snapshot keeps its promises exactly when no limit counts as none, and the raw
payloads inside the event's parts are gone with these.
-/
theorem buildPersistenceSnapshotEvent_iff (policy : PersistenceSnapshotPolicy)
    (params : SnapshotParams) (nowIso : String) :
    (∀ snapshot, buildPersistenceSnapshotEvent isoText policy params nowIso = some snapshot →
        SnapshotSound isoText policy params.event snapshot) ↔
      (shouldPublishSnapshot policy params.kind = true →
        RawPayloadsGone isoText policy params.event) := by
  set source := snapshotSource isoText policy params.event with sourceIs
  constructor
  · intro sound published
    -- Whichever stage fits, one no later than it is published.
    have first {count : Nat} (inside : count ≤ trimSteps.length)
        (fitting : fitsLimit isoText policy.maxSnapshotBytes (trimmedBy source count) = true) :
        ∃ stage ≤ count, ∃ snapshot : PersistenceSnapshotEvent,
          snapshot.event = trimmedBy source stage ∧
          SnapshotSound isoText policy params.event snapshot := by
      have some : ∃ stage, fitsLimit isoText policy.maxSnapshotBytes (trimmedBy source stage) =
          true := ⟨count, fitting⟩
      have early : Nat.find some ≤ count := Nat.find_min' some fitting
      obtain ⟨snapshot, built, is⟩ := (buildPersistenceSnapshotEvent_eq_some isoText
        nowIso).mpr ⟨published, Nat.find some, early.trans inside, rfl,
          Nat.find_spec some, fun earlier below => by simpa using Nat.find_min some below⟩
      exact ⟨Nat.find some, early, snapshot, is, sound snapshot built⟩
    constructor
    case limit =>
      intro limit limited
      by_contra falsy
      have absent : limit.truthy = false := by simpa using falsy
      obtain ⟨stage, none, snapshot, is, sound⟩ := first (Nat.zero_le _)
        (by rw [show policy.maxSnapshotBytes = some limit from limited]; simp [fitsLimit, absent])
      obtain rfl : stage = 0 := Nat.le_zero.mp none
      -- The whole event is published, which no such limit allows.
      have within := sound.bounded limit limited
      have object : ∃ fields, source = .obj fields := by
        rw [sourceIs, snapshotSource]
        split <;> exact ⟨_, rfl⟩
      obtain ⟨fields, isObject⟩ := object
      rw [is, show trimmedBy source 0 = source from rfl, isObject,
        withinBytes_of_falsy isoText fields absent] at within
      exact absurd within (by decide)
    case message =>
      intro without raw count few
      by_contra fitting
      have inside : count ≤ trimSteps.length := few.trans (by decide)
      obtain ⟨stage, early, snapshot, is, sound⟩ := first inside (by simpa using fitting)
      have gone := (sound.withheld without).2.1
      rw [is, get_message_trimmedBy source (early.trans inside), if_pos (early.trans few),
        get_snapshotSource isoText policy params.event (by decide), get_jsonForm,
        jsonForm_eq_undefined] at gone
      exact raw gone
    case externalEvent =>
      intro without raw count few
      by_contra fitting
      have inside : count ≤ trimSteps.length := few.trans (by decide)
      obtain ⟨stage, early, snapshot, is, sound⟩ := first inside (by simpa using fitting)
      have gone := (sound.withheld without).2.2
      rw [is, get_externalEvent_trimmedBy source (early.trans inside), if_pos (early.trans few),
        get_snapshotSource isoText policy params.event (by decide), get_jsonForm,
        jsonForm_eq_undefined] at gone
      exact raw gone
  · intro condition snapshot built
    obtain ⟨published, count, inside, is, fitting, before⟩ :=
      (buildPersistenceSnapshotEvent_eq_some isoText nowIso).mp ⟨snapshot, built, rfl⟩
    have gone := condition published
    constructor
    case bounded =>
      intro limit limited
      exact withinBytes_of_fitsLimit isoText fitting limited (gone.limit limit limited)
    case kept =>
      intro key named
      rw [is, get_kept_trimmedBy _ inside named]
      apply get_snapshotSource
      simp only [List.mem_cons, List.not_mem_nil, or_false] at named
      obtain rfl | rfl | rfl | rfl | rfl := named <;> decide
    case withheld =>
      intro without
      rw [is] at fitting ⊢
      refine ⟨get_payload_trimmedBy isoText params.event without inside, ?_, ?_⟩
      · rw [get_message_trimmedBy _ inside]
        split
        case isTrue few =>
          rw [get_snapshotSource isoText policy params.event (by decide), get_jsonForm,
            jsonForm_eq_undefined]
          by_contra raw
          -- A message with a raw payload is not among the stages that fit.
          rw [gone.message without raw count few] at fitting
          exact absurd fitting (by decide)
        case isFalse => rfl
      · rw [get_externalEvent_trimmedBy _ inside]
        split
        case isTrue few =>
          rw [get_snapshotSource isoText policy params.event (by decide), get_jsonForm,
            jsonForm_eq_undefined]
          by_contra raw
          rw [gone.externalEvent without raw count few] at fitting
          exact absurd fitting (by decide)
        case isFalse => rfl

/-- A final snapshot of a chat message, where raw payloads are not included. -/
def chatSnapshot : SnapshotParams where
  kind := .final
  sourceService := "egress"
  sourceTopic := "internal.egress.v1"
  event := [("v", .str "2"), ("correlationId", .str "c-1"), ("type", .str "chat.message.v1"),
    ("message", .obj [("id", .str "m-1"), ("text", .str "hi"),
      ("rawPlatformPayload", .obj [("email", .str "a@b.example")])])]

def privatePolicy : PersistenceSnapshotPolicy where
  mode := .finalOnly
  includeRawPayloads := false
  ttlDays := .finite 7

/-- The raw payload of a chat message is published although raw payloads are not included. -/
theorem buildPersistenceSnapshotEvent_fails :
    ¬ ∀ (isoText : Int → String) (policy : PersistenceSnapshotPolicy) (params : SnapshotParams)
      (nowIso : String) (snapshot : PersistenceSnapshotEvent),
      buildPersistenceSnapshotEvent isoText policy params nowIso = some snapshot →
        SnapshotSound isoText policy params.event snapshot := by
  intro always
  have sound := always (fun _ => "") privatePolicy chatSnapshot "now" _ rfl
  have gone := (sound.withheld rfl).2.1
  exact absurd gone (by decide)

end

end BitBrat
