import BitBrat.Types.Event
import Mathlib.Data.List.Induction

/-! Events derived from other events, and what they still tell of the events before them. -/

namespace BitBrat

open Js

/-- The text form of values: how they are written, and what a text is read as, if it can be. -/
structure JsonText where
  stringify : Value → String
  parse : String → Option Value

structure DerivedEventOptions where
  type : String
  source : String
  annotations : Option (List Value) := none
  message : Option (Option Message) := none
  payload : Value := .undefined
  qos : Value := .undefined
  ingress : Option Ingress := none
  identity : Option (Value × Option String) := none
  egress : Option Egress := none

/-- What a call draws: two identifiers, which are never empty, and the time. -/
structure DerivedDraws where
  correlationId : String
  annotationId : String
  timestamp : String
  identified : correlationId ≠ ""

/-- What an event is derived from, as its annotation records it. -/
def origin (original : Event) (options : DerivedEventOptions) (timestamp : String) : Value :=
  .obj [("correlationId", .str original.correlationId), ("type", .str original.type),
    ("source", .str options.source), ("derivedAt", .str timestamp)]

def createDerivedEvent (json : JsonText) (original : Event) (options : DerivedEventOptions)
    (draws : DerivedDraws) : Event :=
  let derivedFrom : Value := .obj [
    ("kind", .str "derived_from"),
    ("value", .str (json.stringify (origin original options draws.timestamp))),
    ("source", .str options.source), ("id", .str draws.annotationId),
    ("createdAt", .str draws.timestamp)]
  { correlationId := draws.correlationId
    type := options.type
    ingress := options.ingress.or original.ingress
    externalId := match options.identity with
      | some (_, externalId) => externalId
      | none => original.externalId
    egress := options.egress.or original.egress
    message := match options.message with
      | some message => message
      | none => original.message
    annotations := some (derivedFrom :: options.annotations.getD [])
    routing := some { stage := "initial", slip := [], history := [] }
    rest := .obj [
      ("identity", match options.identity with
        | some (identity, _) => identity
        | none => original.rest.get "identity"),
      ("payload", if options.payload = .undefined then .obj [] else options.payload),
      ("qos", if options.qos = .undefined then original.rest.get "qos" else options.qos)] }

def derivedFromAnnotation (event : Event) : Option Value :=
  (event.annotations.getD []).find? fun annotation => annotation.get "kind" = .str "derived_from"

def isDerivedEvent (event : Event) : Bool := ( derivedFromAnnotation event).isSome

/-- The correlation id that the annotation of an event records, if there is one to be read. -/
def recordedOrigin (json : JsonText) (event : Event) : Option Value :=
  match derivedFromAnnotation event with
  | none => none
  | some annotation =>
    match annotation.get "value" with
    | .str text =>
      -- An empty text or one that cannot be read counts as no record.
      match (nonEmpty text).bind json.parse with
      | none => none
      | some parsed =>
        let correlationId := parsed.get "correlationId"
        if correlationId.truthy then some correlationId else none
    | _ => none

def getOriginalCorrelationId (json : JsonText) (event : Event) : Value :=
  (recordedOrigin json event).getD (.str event.correlationId)

def getDerivationChain (json : JsonText) (event : Event) : List Value :=
  (recordedOrigin json event).toList ++ [.str event.correlationId]

structure Derivation where
  options : DerivedEventOptions
  draws : DerivedDraws

def Derivation.apply (json : JsonText) (original : Event) (derivation : Derivation) : Event :=
  createDerivedEvent json original derivation.options derivation.draws

def lastDerived (json : JsonText) (root : Event) (derivations : List Derivation) : Event :=
  derivations.foldl (Derivation.apply json) root

def lineage (json : JsonText) : Event → List Derivation → List Event
  | event, [] => [event]
  | event, derivation :: rest => event :: lineage json (derivation.apply json event) rest

/-- An event that nothing is derived from, and that can be referred to. -/
structure IsRoot (event : Event) : Prop where
  identified : event.correlationId ≠ ""
  underived : isDerivedEvent event = false

structure ReadsBack (json : JsonText) (value : Value) : Prop where
  written : json.stringify value ≠ ""
  parsed : json.parse (json.stringify value) = some value

section

variable {json : JsonText}

theorem recordedOrigin_createDerivedEvent {original : Event} {derivation : Derivation}
    (identified : original.correlationId ≠ "")
    (readsBack : ReadsBack json
      (origin original derivation.options derivation.draws.timestamp)) :
    recordedOrigin json (derivation.apply json original) =
      some (.str original.correlationId) := by
  -- The record stands in front of the annotations that are asked for.
  have first : derivedFromAnnotation (derivation.apply json original) = some (.obj [
      ("kind", .str "derived_from"),
      ("value", .str (json.stringify
        (origin original derivation.options derivation.draws.timestamp))),
      ("source", .str derivation.options.source), ("id", .str derivation.draws.annotationId),
      ("createdAt", .str derivation.draws.timestamp)]) :=
    List.find?_cons_of_pos (by rfl)
  have text : (nonEmpty (json.stringify
      (origin original derivation.options derivation.draws.timestamp))).bind json.parse =
        some (origin original derivation.options derivation.draws.timestamp) := by
    rw [nonEmpty, if_neg readsBack.written, Option.bind_some, readsBack.parsed]
  have truthy : (Value.str original.correlationId).truthy = true := by
    simpa [Value.truthy] using identified
  unfold recordedOrigin
  rw [first]
  simp only [Value.get_obj_cons, String.reduceEq, ↓reduceIte, text]
  simp only [origin, Value.get_obj_cons, ↓reduceIte, truthy]

private theorem IsRoot.recordedOrigin_eq {root : Event} (isRoot : IsRoot root) :
    recordedOrigin json root = none := by
  have absent := isRoot.underived
  unfold isDerivedEvent at absent
  unfold recordedOrigin
  rw [Option.isSome_eq_false_iff.mp absent |> Option.isNone_iff_eq_none.mp]

private theorem IsRoot.lastDerived_identified {root : Event} (isRoot : IsRoot root)
    (derivations : List Derivation) : (lastDerived json root derivations).correlationId ≠ "" := by
  cases derivations using List.reverseRecOn with
  | nil => exact isRoot.identified
  | append_singleton early derivation =>
    unfold lastDerived
    rw [List.foldl_append]
    exact derivation.draws.identified

theorem lineage_eq (root : Event) (derivations : List Derivation) :
    ∃ early : List Event, early.length = derivations.length ∧
      lineage json root derivations = early ++ [lastDerived json root derivations] := by
  induction derivations generalizing root with
  | nil => exact ⟨[], rfl, rfl⟩
  | cons derivation rest ih =>
    obtain ⟨early, length, split⟩ := ih (derivation.apply json root)
    refine ⟨root :: early, by simp [length], ?_⟩
    unfold lineage
    rw [split]
    rfl

theorem lineage_append (root : Event) (early : List Derivation) (derivation : Derivation) :
    lineage json root (early ++ [derivation]) =
      lineage json root early ++ [derivation.apply json (lastDerived json root early)] := by
  induction early generalizing root with
  | nil => rfl
  | cons first rest ih =>
    rw [List.cons_append, lineage, ih, lineage, List.cons_append]
    rfl

/-- An event knows of the last two events of its chain, and the first one of its direct origin. -/
theorem derivationChain_eq {root : Event} (isRoot : IsRoot root) (derivations : List Derivation)
    (readsBack : ∀ event ∈ lineage json root derivations, ∀ derivation ∈ derivations,
      ReadsBack json (origin event derivation.options derivation.draws.timestamp)) :
    getDerivationChain json (lastDerived json root derivations) =
        ((lineage json root derivations).map fun event => Value.str event.correlationId).drop
          (derivations.length - 1) ∧
      (derivations.length ≤ 1 →
        getOriginalCorrelationId json (lastDerived json root derivations) =
          .str root.correlationId) := by
  cases derivations using List.reverseRecOn with
  | nil =>
    have nothing : recordedOrigin json root = none := isRoot.recordedOrigin_eq
    unfold getDerivationChain getOriginalCorrelationId lastDerived lineage
    rw [List.foldl_nil, nothing]
    exact ⟨rfl, fun _ => rfl⟩
  | append_singleton early derivation =>
    let parent := lastDerived json root early
    have self : lastDerived json root (early ++ [derivation]) = derivation.apply json parent := by
      unfold lastDerived
      rw [List.foldl_append]
      rfl
    obtain ⟨before, length, split⟩ := @lineage_eq json root early
    have member : parent ∈ lineage json root (early ++ [derivation]) := by
      rw [lineage_append, split]
      simp [parent]
    have recorded : recordedOrigin json (derivation.apply json parent) =
        some (.str parent.correlationId) :=
      recordedOrigin_createDerivedEvent (isRoot.lastDerived_identified early)
        (readsBack parent member derivation (by simp))
    constructor
    · -- In front of these two stand as many events as there are earlier derivations.
      have places : (early ++ [derivation]).length - 1 =
          (before.map fun event => Value.str event.correlationId).length := by
        simp [length]
      unfold getDerivationChain
      rw [self, recorded, lineage_append, split, places, List.append_assoc, List.map_append,
        List.drop_left]
      rfl
    · intro short
      have direct : early = [] := by
        rw [List.length_append] at short
        exact List.eq_nil_of_length_eq_zero (by simpa using short)
      unfold getOriginalCorrelationId
      rw [self, recorded]
      simp [parent, direct, lastDerived]

end

def recordText (record : Value) : String :=
  let properties := record.fields.map fun field =>
    "\"" ++ field.1 ++ "\":\"" ++ field.2.toText ++ "\""
  "\x7b" ++ ",".intercalate properties ++ "\x7d"

/-- The text form of records of plain texts, of which the given ones are read. -/
def recordJson (records : List Value) : JsonText where
  stringify := recordText
  parse text := records.find? fun record => recordText record = text

def chatRequest : Event := { correlationId := "original-1", type := "chat.message.v1" }

def progressReport (correlationId : String) (identified : correlationId ≠ "") : Derivation where
  options := { type := "chat.progress.v1", source := "feedback-middleware" }
  draws := { correlationId, annotationId := "a", timestamp := "2026-07-31T12:00:00.000Z",
             identified }

def reportJson : JsonText :=
  recordJson ([("original-1", "chat.message.v1"), ("derived-1", "chat.progress.v1"),
      ("derived-2", "chat.progress.v1")].map fun event =>
    .obj [("correlationId", .str event.1), ("type", .str event.2),
      ("source", .str "feedback-middleware"), ("derivedAt", .str "2026-07-31T12:00:00.000Z")])

theorem reportJson_readsBack {first : Derivation}
    (report : first = progressReport "derived-1" (by decide)) :
    ∀ event ∈ [chatRequest, first.apply reportJson chatRequest],
      ReadsBack reportJson (origin event first.options first.draws.timestamp) := by
  subst report
  intro event member
  rcases List.mem_pair.mp member with rfl | rfl
  · exact ⟨by decide +kernel, by decide +kernel⟩
  · exact ⟨by decide +kernel, by decide +kernel⟩

/-- A report knows of the request. -/
theorem derivationChain_report :
    let derivations := [progressReport "derived-1" (by decide)]
    let last := lastDerived reportJson chatRequest derivations
    getDerivationChain reportJson last = [.str "original-1", .str "derived-1"] ∧
      getOriginalCorrelationId reportJson last = .str "original-1" := by
  have settled := @derivationChain_eq reportJson chatRequest ⟨by decide, by decide⟩
    [progressReport "derived-1" (by decide)] (fun event member derivation inside => by
      rw [List.mem_singleton.mp inside]
      exact reportJson_readsBack rfl event member)
  exact ⟨settled.1, settled.2 (by decide)⟩

/-- A report on a report knows of the request no more. -/
theorem derivationChain_forgets :
    let derivations := [progressReport "derived-1" (by decide),
      progressReport "derived-2" (by decide)]
    let last := lastDerived reportJson chatRequest derivations
    IsRoot chatRequest ∧
      getOriginalCorrelationId reportJson last ≠ .str chatRequest.correlationId ∧
      getDerivationChain reportJson last ≠
        (lineage reportJson chatRequest derivations).map fun event => .str event.correlationId := by
  refine ⟨⟨by decide, by decide⟩, by decide +kernel, by decide +kernel⟩

end BitBrat
