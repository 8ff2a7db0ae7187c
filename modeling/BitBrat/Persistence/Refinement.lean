import BitBrat.Persistence.Plan

/-! The two repositories: when the flat tables mirror the nested collections. -/

namespace BitBrat

open Js

/-- Optional documents that are missing together, or alike. -/
def Alike (left right : Option Value) : Prop := Option.Rel Value.Same left right

theorem Alike.cases {left right : Option Value} (alike : Alike left right) :
    (left = none ∧ right = none) ∨
      ∃ value other, left = some value ∧ right = some other ∧ Value.Same value other :=
  rel_cases alike

theorem Alike.shape_eq {left right : Option Value} (alike : Alike left right)
    (path : List String) :
    left.map (fun value => (value.atPath path).shape) =
      right.map fun value => (value.atPath path).shape := by
  rcases alike.cases with ⟨rfl, rfl⟩ | ⟨value, other, rfl, rfl, same⟩
  · rfl
  · rw [Option.map_some, Option.map_some, same path]

def Database.ownedSnapshot (flat : Database) (correlationId snapshotId : String) : Option Value :=
  (flat.snapshots.get? ("", snapshotId)).filter fun snapshot =>
    snapshot.get "correlationId" = .str correlationId

/-- The flat tables hold the documents of the nested collections, and no others. -/
structure Mirrors (nested flat : Database) : Prop where
  events : ∀ id, Alike (nested.events.get? id) (flat.events.get? id)
  sources : ∀ id, Alike (nested.sources.get? id) (flat.sources.get? id)
  snapshots : ∀ correlationId snapshotId,
    Alike (nested.snapshots.get? (correlationId, snapshotId))
      (flat.ownedSnapshot correlationId snapshotId)
  owned : ∀ key doc, flat.snapshots.get? key = some doc →
    key.1 = "" ∧ ∃ correlationId, doc.get "correlationId" = .str correlationId

theorem mirrors_empty : Mirrors .empty .empty where
  events _ := .none
  sources _ := .none
  snapshots _ _ := .none
  owned _ _ found := by cases found

def Spares (stored patch : Value) : Prop :=
  ∀ key, patch.get key ≠ .undefined → Value.Covered (stored.get key) (patch.get key)

theorem merge_same_iff {stored other patch : Value} (same : Value.Same stored other) :
    Value.Same (Backend.firestore.merge stored (stripUndefinedDeep patch))
        (Backend.documentStore.merge other (stripUndefinedDeep patch)) ↔
      Spares stored (stripUndefinedDeep patch) := by
  have merged (key : String) :
      Value.Same ((Backend.firestore.merge stored (stripUndefinedDeep patch)).get key)
          ((Backend.documentStore.merge other (stripUndefinedDeep patch)).get key) ↔
        ((stripUndefinedDeep patch).get key ≠ .undefined →
          Value.Covered (stored.get key) ((stripUndefinedDeep patch).get key)) := by
    rw [get_merge, get_merge]
    by_cases silent : patch.get key = .undefined
    · -- What the patch does not name is read from the stored documents.
      simp [silent, same.get key]
    · rw [if_neg silent, if_neg silent, get_strip, Value.deepMerge_same_iff]
      simp [silent]
  constructor
  · intro alike key
    exact (merged key).mp (alike.get key)
  · intro spares
    obtain ⟨left, leftObject⟩ := merge_eq_obj .firestore stored (stripUndefinedDeep patch)
    obtain ⟨right, rightObject⟩ := merge_eq_obj .documentStore other (stripUndefinedDeep patch)
    rw [leftObject, rightObject] at merged ⊢
    exact .of_get fun key => (merged key).mpr (spares key)

theorem setMerged_alike {left right : OrderedMap String Value} {id : String} {patch : Value}
    (alike : ∀ other, Alike (left.get? other) (right.get? other))
    (spares : ∀ stored, left.get? id = some stored → Spares stored (stripUndefinedDeep patch))
    (other : String) :
    Alike ((Backend.firestore.setMerged left id (stripUndefinedDeep patch)).get? other)
      ((Backend.documentStore.setMerged right id (stripUndefinedDeep patch)).get? other) := by
  unfold Backend.setMerged
  -- A missing document is created, and a stored one is merged into.
  rcases (alike id).cases with ⟨missing, absent⟩ | ⟨stored, held, found, present, same⟩
  · simp only [missing, absent, OrderedMap.get?_set]
    split
    · exact .some (.refl _)
    · exact alike other
  · simp only [found, present, OrderedMap.get?_set]
    split
    · exact .some ((merge_same_iff same).mpr (spares stored found))
    · exact alike other

section Writes

variable {nested flat : Database} {correlationId : String}

/-- A snapshot names its event, and its identifier is not used by another event. -/
def Claimable (nested : Database) (correlationId : String) (snapshot : Value) : Prop :=
  snapshot.get "correlationId" = .str correlationId ∧
    ∀ other, other ≠ correlationId → nested.snapshots.get? (other, snapshotIdOf snapshot) = none

theorem Mirrors.write (mirrors : Mirrors nested flat) {aggregate other : Value}
    (same : Value.Same aggregate other) {fields : List (String × Value)}
    (claimable : Claimable nested correlationId (.obj fields)) :
    Mirrors
      (nested.write .firestore correlationId aggregate (snapshotIdOf (.obj fields)) (.obj fields))
      (flat.write .documentStore correlationId other (snapshotIdOf (.obj fields))
        (.obj fields)) := by
  obtain ⟨named, unclaimed⟩ := claimable
  have tagged : (Backend.documentStore.snapshotDoc correlationId (.obj fields)).get
      "correlationId" = .str correlationId := by
    simp [Backend.snapshotDoc, Value.get_extend]
  -- The column that the flat table adds says what the snapshot already says.
  have alike : Value.Same (Backend.firestore.snapshotDoc correlationId (.obj fields))
      (Backend.documentStore.snapshotDoc correlationId (.obj fields)) := by
    refine Same.strip ?_
    rw [Value.extend_cons, Value.extend_nil]
    refine .of_get fun key => ?_
    rw [Value.fields_obj, Value.fields_obj, Value.get_setEntry]
    split
    · rename_i here
      rw [here, named]
    · rfl
  refine ⟨fun id => ?_, mirrors.sources, fun event id => ?_, fun key doc found => ?_⟩
  · simp only [Database.write, OrderedMap.get?_set]
    split
    · exact .some (Same.strip same)
    · exact mirrors.events id
  · have before := mirrors.snapshots event id
    simp only [Database.ownedSnapshot, Database.write, Backend.snapshotKey,
      OrderedMap.get?_set, Prod.mk.injEq, true_and] at before ⊢
    by_cases sameId : id = snapshotIdOf (.obj fields)
    · by_cases sameEvent : event = correlationId
      · simp only [sameId, sameEvent, and_self, if_true, Option.filter_some, tagged, decide_true]
        exact .some alike
      · have apart : correlationId ≠ event := Ne.symm sameEvent
        simp only [sameId, sameEvent, false_and, if_false, if_true, Option.filter_some, tagged,
          Value.str.injEq, apart, decide_false, unclaimed event sameEvent]
        exact .none
    · simpa only [sameId, and_false, if_false] using before
  · simp only [Database.write, OrderedMap.get?_set] at found
    split at found
    · rename_i here
      cases found
      exact ⟨by rw [here]; rfl, correlationId, tagged⟩
    · exact mirrors.owned key doc found

private theorem Mirrors.findSnapshot_isSome (mirrors : Mirrors nested flat)
    (correlationId key : String) :
    (nested.findSnapshot .firestore correlationId (.str key)).isSome =
      (flat.findSnapshot .documentStore correlationId (.str key)).isSome := by
  -- The key is a text, and so the same in alike snapshots.
  have keyed {value other : Value} (same : Value.Same value other)
      (holds : value.get "idempotencyKey" = .str key) : other.get "idempotencyKey" = .str key := by
    have plain : (value.get "idempotencyKey").isObject = false := by rw [holds]; rfl
    rw [← (same.get "idempotencyKey").eq_of_not_object plain, holds]
  rw [Bool.eq_iff_iff, Database.findSnapshot, Database.findSnapshot, List.find?_isSome,
    List.find?_isSome]
  constructor
  · rintro ⟨⟨⟨event, id⟩, doc⟩, member, hit⟩
    simp only [Backend.belongs, decide_eq_true_eq] at hit
    obtain ⟨rfl, holds⟩ := hit
    have found := lookup_of_mem nested.snapshots.distinct member
    have alike := mirrors.snapshots event id
    rcases alike.cases with ⟨missing, _⟩ | ⟨value, other, read, present, same⟩
    · cases missing.symm.trans found
    · cases read.symm.trans found
      -- The flat table holds the snapshot too, tagged with its event.
      obtain ⟨stored, tagged⟩ := Option.filter_eq_some_iff.mp present
      exact ⟨(("", id), other), mem_of_lookup stored, by
        simpa [Backend.belongs, keyed same holds] using tagged⟩
  · rintro ⟨⟨⟨space, id⟩, doc⟩, member, hit⟩
    simp only [Backend.belongs, decide_eq_true_eq] at hit
    obtain ⟨tagged, holds⟩ := hit
    have stored := lookup_of_mem flat.snapshots.distinct member
    obtain ⟨rfl, _⟩ := mirrors.owned _ doc stored
    have present : flat.ownedSnapshot correlationId id = some doc :=
      Option.filter_eq_some_iff.mpr ⟨stored, by simpa using tagged⟩
    have alike := mirrors.snapshots correlationId id
    rcases alike.cases with ⟨_, missing⟩ | ⟨value, other, read, same, likeness⟩
    · cases missing.symm.trans present
    · cases same.symm.trans present
      exact ⟨((correlationId, id), value), mem_of_lookup read, by
        simpa [Backend.belongs] using keyed likeness.symm holds⟩

theorem Mirrors.aggregateOr (mirrors : Mirrors nested flat) (correlationId : String)
    (initial : Value) :
    Value.Same (nested.aggregateOr correlationId initial)
      (flat.aggregateOr correlationId initial) := by
  unfold Database.aggregateOr
  -- Both databases hold the aggregate, or neither does.
  rcases (mirrors.events correlationId).cases with
    ⟨missing, absent⟩ | ⟨aggregate, other, found, present, same⟩
  · rw [missing, absent]
  · rw [found, present]
    exact same

end Writes

theorem nextSequence_same {aggregate other : Value} (same : Value.Same aggregate other) :
    nextSequence aggregate = nextSequence other := by
  have read : Value.Same ((aggregate.get "snapshotCount").or (.num (.finite 0)))
      ((other.get "snapshotCount").or (.num (.finite 0))) :=
    (same.get "snapshotCount").or (.refl _)
  unfold nextSequence
  revert read
  generalize (aggregate.get "snapshotCount").or (.num (.finite 0)) = left
  generalize (other.get "snapshotCount").or (.num (.finite 0)) = right
  intro read
  -- Only a number decides, and a number is only like itself.
  by_cases plain : left.isObject = false
  · rw [read.eq_of_not_object plain]
  · have root := read.shape_eq
    cases left <;> cases right <;> simp_all [Value.shape, Value.isObject]

theorem buildSnapshot_same {aggregate other : Value} (same : Value.Same aggregate other)
    (snapshotEvent expireAt : Value) :
    buildSnapshot snapshotEvent expireAt aggregate =
      buildSnapshot snapshotEvent expireAt other := by
  simp only [buildSnapshot, nextSequence_same same]

theorem deriveAggregateStatus_same {status other : Value} (same : Value.Same status other)
    (kind : Value) :
    Value.Same (deriveAggregateStatus kind status) (deriveAggregateStatus kind other) := by
  -- A status is compared with texts only.
  have text (name : String) : status = .str name ↔ other = .str name := by
    constructor <;> intro named
    · rw [← same.eq_of_not_object (by rw [named]; rfl), named]
    · rw [← same.symm.eq_of_not_object (by rw [named]; rfl), named]
  unfold deriveAggregateStatus
  simp only [text]
  split_ifs <;> first | exact same | exact .refl _

theorem applySnapshotToAggregate_same {aggregate other : Value}
    (same : Value.Same aggregate other) (snapshot : Value) (count : Number) :
    Value.Same (applySnapshotToAggregate aggregate snapshot count)
      (applySnapshotToAggregate other snapshot count) := by
  have delivery : Value.Same ((snapshot.get "delivery").or (aggregate.get "delivery"))
      ((snapshot.get "delivery").or (other.get "delivery")) :=
    .or (.refl _) (same.get "delivery")
  have deadletter : Value.Same ((snapshot.get "deadletter").or (aggregate.get "deadletter"))
      ((snapshot.get "deadletter").or (other.get "deadletter")) :=
    .or (.refl _) (same.get "deadletter")
  unfold applySnapshotToAggregate
  -- Every field is taken from the snapshot, or from alike fields of the aggregates.
  refine Same.strip (.extend same.get ?_)
  repeat' constructor
  · exact deriveAggregateStatus_same (same.get "status") _
  · dsimp only
    split
    · exact .or (.or (delivery.get "deliveredAt") (deadletter.get "at")) (.refl _)
    · exact same.get "finalizedAt"
  · exact .or (.refl _) (same.get "latestStage")
  · exact .or (.refl _) (same.get "latestStepId")
  · exact .refl _
  · dsimp only
    split
    · exact .refl _
    · exact same.get "finalSnapshotId"
  · exact .refl _
  · exact .refl _
  · exact delivery
  · exact deadletter
  · exact .refl _
  · exact .or (.refl _) (same.get "expireAt")

inductive RepositoryOperation where
  | upsertIngressEvent (event : Value)
  | applySnapshotEvent (message : Value)
  | applyFinalization (message : Value)
  | upsertSourceState (event : Value)

structure RepositoryRequest where
  operation : RepositoryOperation
  clock : Clock
  /-- The identifier of an event that enters is a text, if it has one. -/
  typed : ∀ event, operation = .upsertIngressEvent event →
    (event.get "correlationId").truthy → (event.get "correlationId").isString

/-- Carry out an operation; one that throws leaves everything as it was. -/
def RepositoryRequest.perform (backend : Backend) (database : Database)
    (request : RepositoryRequest) : Database :=
  database.settle <|
    match request.operation with
    | .upsertIngressEvent event => upsertIngressEvent backend request.clock event database
    | .applySnapshotEvent message => applySnapshotEvent backend request.clock message database
    | .applyFinalization message => applyFinalization backend request.clock message database
    | .upsertSourceState event => .ok (upsertSourceState backend request.clock event database)

def Plan.Claims (nested : Database) (correlationId : String) : Plan → Prop
  | upsertIngressEvent _ snapshot =>
    nested.events.get? correlationId = none → Claimable nested correlationId snapshot
  | applySnapshotEvent idempotencyKey initialAggregate buildSnapshot =>
    nested.findSnapshot .firestore correlationId idempotencyKey = none →
      Claimable nested correlationId
        (buildSnapshot (nested.aggregateOr correlationId initialAggregate))

/-- What the nested collections must hold before an operation. -/
def Faithful (nested : Database) (request : RepositoryRequest) : Prop :=
  match request.operation with
  | .upsertIngressEvent event => ∀ plan, ingressPlan request.clock event = some plan →
    plan.Claims nested (event.get "correlationId").toText
  | .applySnapshotEvent message => ∀ plan, snapshotPlan request.clock message = some plan →
    plan.Claims nested (snapshotCorrelationId message)
  | .applyFinalization message => ∀ aggregate expireAt,
    nested.events.get? ((message.get "correlationId").or (.str "")).toText = some aggregate →
    finalizationExpireAt request.clock message = .ok expireAt →
      Spares aggregate (finalizationPatch request.clock message expireAt)
  | .upsertSourceState event => ∀ source,
    nested.sources.get? (sourceDocId (sourcePatch request.clock event)) = some source →
      Spares source (sourcePatch request.clock event)

section Requests

variable {nested flat : Database}

theorem Mirrors.perform (mirrors : Mirrors nested flat) {correlationId : String} {plan : Plan}
    (sound : plan.Sound correlationId) (claims : plan.Claims nested correlationId) :
    Mirrors (plan.perform .firestore correlationId nested)
      (plan.perform .documentStore correlationId flat) := by
  cases plan with
  | upsertIngressEvent aggregate snapshot =>
    obtain ⟨clock, event, expireAt, _, same⟩ := sound
    obtain ⟨rfl, rfl⟩ := Prod.mk.inj same
    simp only [Plan.perform]
    rcases (mirrors.events correlationId).cases with
      ⟨missing, absent⟩ | ⟨stored, other, found, present, _⟩
    · rw [missing, absent]
      exact mirrors.write (.refl _) (claims missing)
    · rw [found, present]
      exact mirrors
  | applySnapshotEvent idempotencyKey initial build =>
    obtain ⟨snapshotEvent, expireAt, normalized, rfl, rfl, rfl⟩ := sound
    obtain ⟨key, keyed⟩ := normalized.key
    have together := mirrors.findSnapshot_isSome correlationId key
    rw [← keyed] at together
    simp only [Plan.perform]
    cases searched : nested.findSnapshot .firestore correlationId
        (snapshotEvent.get "idempotencyKey") with
    | some entry =>
      rw [searched, Option.isSome_some, eq_comm, Option.isSome_iff_exists] at together
      obtain ⟨hit, seen⟩ := together
      rw [applySnapshotEvent_of_seen _ _ searched, applySnapshotEvent_of_seen _ _ seen]
      exact mirrors
    | none =>
      rw [searched, Option.isSome_none, eq_comm, Option.isSome_eq_false_iff,
        Option.isNone_iff_eq_none] at together
      have same := mirrors.aggregateOr correlationId (initialAggregate snapshotEvent expireAt)
      rw [applySnapshotEvent_of_unseen _ _ searched, applySnapshotEvent_of_unseen _ _ together]
      -- Alike aggregates take the same snapshot, and are alike after it.
      rw [← buildSnapshot_same same]
      exact mirrors.write (applySnapshotToAggregate_same same _ _) (claims searched)

private theorem Mirrors.finalize (mirrors : Mirrors nested flat) {clock : Clock} {message : Value}
    (spares : ∀ aggregate expireAt,
      nested.events.get? ((message.get "correlationId").or (.str "")).toText = some aggregate →
      finalizationExpireAt clock message = .ok expireAt →
        Spares aggregate (finalizationPatch clock message expireAt)) :
    Mirrors (nested.settle (applyFinalization .firestore clock message nested))
      (flat.settle (applyFinalization .documentStore clock message flat)) := by
  unfold applyFinalization
  dsimp only
  split
  · exact mirrors
  · cases dated : finalizationExpireAt clock message with
    | error reason => exact mirrors
    | ok expireAt =>
      -- Only the aggregate is merged into.
      refine ⟨setMerged_alike mirrors.events fun stored found => ?_, mirrors.sources,
        mirrors.snapshots, mirrors.owned⟩
      have kept := spares stored expireAt found dated
      simpa only [finalizationPatch, strip_strip] using kept

theorem Mirrors.source (mirrors : Mirrors nested flat) {clock : Clock} {event : Value}
    (spares : ∀ source,
      nested.sources.get? (sourceDocId (sourcePatch clock event)) = some source →
        Spares source (sourcePatch clock event)) :
    Mirrors (upsertSourceState .firestore clock event nested)
      (upsertSourceState .documentStore clock event flat) := by
  unfold upsertSourceState
  dsimp only
  split
  · -- Only the source is merged into.
    refine ⟨mirrors.events, setMerged_alike mirrors.sources fun stored found => ?_,
      mirrors.snapshots, mirrors.owned⟩
    rw [strip_sourcePatch]
    exact spares stored found
  · exact mirrors

theorem Mirrors.step (mirrors : Mirrors nested flat) {request : RepositoryRequest}
    (faithful : Faithful nested request) :
    Mirrors (request.perform .firestore nested) (request.perform .documentStore flat) := by
  obtain ⟨operation, clock, typed⟩ := request
  cases operation with
  | upsertIngressEvent event =>
    cases planned : ingressPlan clock event with
    -- An operation that throws changes neither database.
    | none =>
      simpa only [RepositoryRequest.perform, settle_of_ingressPlan_none _ _ planned] using mirrors
    | some plan =>
      obtain ⟨correlationId, addressed⟩ := addressed_of_ingressPlan planned (typed event rfl)
      have claims := faithful plan planned
      rw [addressed, Value.toText] at claims
      simpa only [RepositoryRequest.perform, settle_upsertIngressEvent _ _ addressed, planned,
        Option.elim_some] using mirrors.perform (sound_ingressPlan addressed planned) claims
  | applySnapshotEvent message =>
    simp only [RepositoryRequest.perform, settle_applySnapshotEvent _ _ rfl]
    cases planned : snapshotPlan clock message with
    | none => exact mirrors
    | some plan => exact mirrors.perform (sound_snapshotPlan rfl planned) (faithful plan planned)
  | applyFinalization message => exact mirrors.finalize faithful
  | upsertSourceState event => exact mirrors.source faithful

end Requests

/--
In every run whose operations spare what they meet, the flat tables mirror the nested collections.

The run starts with empty databases, and concerns any events and sources.
-/
theorem backends_mirror (requests : List RepositoryRequest)
    (faithful : Machine.Along (RepositoryRequest.perform .firestore) Faithful .empty requests) :
    Mirrors (Machine.run (RepositoryRequest.perform .firestore) .empty requests)
      (Machine.run (RepositoryRequest.perform .documentStore) .empty requests) :=
  Machine.run_simulation (fun _ _ _ mirrors spares => mirrors.step spares) mirrors_empty faithful

def noon : Clock := { now := 1735689600000, nowIso := "t0", parseDate := fun _ => none }

def routedIngress : Value :=
  .obj [("correlationId", .str "c-1"), ("type", .str "chat"),
    ("routing", .obj [("stage", .str "analysis")])]

def sourceStatus : Value :=
  .obj [("type", .str "system.source.status"),
    ("payload", .obj [("platform", .str "twitch"), ("id", .str "42"),
      ("metrics", .obj [("messages", .num (.finite 7))])])]

def annotatedFinal : Value :=
  .obj [("correlationId", .str "c-1"), ("annotations", .arr [.str "greeting"])]

def ingressRequest : RepositoryRequest where
  operation := .upsertIngressEvent routedIngress
  clock := noon
  typed := by
    rintro event ⟨⟩ _
    decide +kernel

/-- An event that enters and a source that reports are stored alike. -/
theorem backends_mirror_entering :
    let requests : List RepositoryRequest :=
      [ingressRequest, ⟨.upsertSourceState sourceStatus, noon, nofun⟩]
    Mirrors (Machine.run (RepositoryRequest.perform .firestore) .empty requests)
      (Machine.run (RepositoryRequest.perform .documentStore) .empty requests) := by
  refine backends_mirror _ ⟨fun plan planned => ?_, fun source found => ?_, trivial⟩
  · obtain ⟨expireAt, rfl⟩ := exists_of_ingressPlan planned
    refine fun _ => ⟨?_, fun _ _ => rfl⟩
    simp only [normalizeIngressEvent, buildSnapshotDoc, get_strip, Value.get_obj_cons]
    exact strip_str _
  · -- Nothing is known of the source before it reports.
    have known := congrArg Option.isNone found
    rw [Option.isNone_some] at known
    exact absurd known (by decide +kernel)

/-- A finalization with annotations drops the rest of the projection from the flat table only. -/
theorem finalization_not_mirrored :
    let requests : List RepositoryRequest :=
      [ingressRequest, ⟨.applyFinalization annotatedFinal, noon, nofun⟩]
    ¬ Mirrors (Machine.run (RepositoryRequest.perform .firestore) .empty requests)
      (Machine.run (RepositoryRequest.perform .documentStore) .empty requests) := by
  intro requests mirrors
  have shapes := (mirrors.events "c-1").shape_eq ["currentProjection", "routing"]
  exact absurd shapes (by decide +kernel)

end BitBrat
