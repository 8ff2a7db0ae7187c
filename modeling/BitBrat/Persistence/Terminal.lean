import BitBrat.Machine.Run
import BitBrat.Persistence.Model

/-! A finished event: which later snapshots leave it finished as it was, and when it finished. -/

namespace BitBrat

open Js

structure Applied where
  snapshot : Value
  nextSnapshotCount : Number

/-- An aggregate as a store holds it, without undefined properties. -/
structure StoredAggregate where
  document : Value
  stripped : stripUndefinedDeep document = document

/-- The snapshot is one of the two kinds that do not finish an event. -/
def Applied.Unfinished (applied : Applied) : Prop :=
  applied.snapshot.get "kind" = .str "initial" ∨ applied.snapshot.get "kind" = .str "update"

structure LateSnapshot where
  applied : Applied
  unfinished : applied.Unfinished

def StoredAggregate.apply (aggregate : StoredAggregate) (applied : Applied) : StoredAggregate where
  document :=
    applySnapshotToAggregate aggregate.document applied.snapshot applied.nextSnapshotCount
  stripped := strip_strip _

def StoredAggregate.Terminal (aggregate : StoredAggregate) : Prop :=
  aggregate.document.get "status" = .str "FINALIZED" ∨
    aggregate.document.get "status" = .str "ERROR"

structure TerminalKept (terminal later : StoredAggregate) : Prop where
  status : later.document.get "status" = terminal.document.get "status"
  finalizedAt : later.document.get "finalizedAt" = terminal.document.get "finalizedAt"
  finalSnapshotId :
    later.document.get "finalSnapshotId" = terminal.document.get "finalSnapshotId"
  delivery : Value.Same (later.document.get "delivery") (terminal.document.get "delivery")

/-- The snapshot is an update that carries no delivery other than the one already held. -/
def Harmless (terminal : StoredAggregate) (applied : Applied) : Prop :=
  applied.snapshot.get "kind" = .str "update" ∧
    ((applied.snapshot.get "delivery").truthy →
      Value.Same (stripUndefinedDeep (applied.snapshot.get "delivery"))
        (terminal.document.get "delivery"))

private theorem StoredAggregate.strip_get (aggregate : StoredAggregate) (key : String) :
    stripUndefinedDeep (aggregate.document.get key) = aggregate.document.get key := by
  rw [← get_strip, aggregate.stripped]

theorem get_status_apply (aggregate : StoredAggregate) (applied : Applied) :
    (aggregate.apply applied).document.get "status" =
      deriveAggregateStatus (applied.snapshot.get "kind") (aggregate.document.get "status") := by
  -- A derived status is a text, or the stored status, which is stripped already.
  have derived : stripUndefinedDeep
      (deriveAggregateStatus (applied.snapshot.get "kind") (aggregate.document.get "status")) =
      deriveAggregateStatus (applied.snapshot.get "kind") (aggregate.document.get "status") := by
    unfold deriveAggregateStatus
    split_ifs <;> simp [aggregate.strip_get]
  simp [StoredAggregate.apply, applySnapshotToAggregate, Value.get_extend, List.lookup_cons,
    derived]

theorem get_finalizedAt_apply (aggregate : StoredAggregate) (applied : Applied) :
    (aggregate.apply applied).document.get "finalizedAt" =
      stripUndefinedDeep
        (if applied.snapshot.get "kind" = .str "final" ∨
            applied.snapshot.get "kind" = .str "deadletter" then
          ((((applied.snapshot.get "delivery").or (aggregate.document.get "delivery")).get
            "deliveredAt").or
            (((applied.snapshot.get "deadletter").or (aggregate.document.get "deadletter")).get
              "at")).or (applied.snapshot.get "capturedAt")
        else aggregate.document.get "finalizedAt") := by
  simp [StoredAggregate.apply, applySnapshotToAggregate, Value.get_extend, List.lookup_cons]

theorem get_finalSnapshotId_apply (aggregate : StoredAggregate) (applied : Applied) :
    (aggregate.apply applied).document.get "finalSnapshotId" =
      stripUndefinedDeep
        (if applied.snapshot.get "kind" = .str "final" then applied.snapshot.get "snapshotId"
        else aggregate.document.get "finalSnapshotId") := by
  simp [StoredAggregate.apply, applySnapshotToAggregate, Value.get_extend, List.lookup_cons]

theorem get_delivery_apply (aggregate : StoredAggregate) (applied : Applied) :
    (aggregate.apply applied).document.get "delivery" =
      stripUndefinedDeep
        ((applied.snapshot.get "delivery").or (aggregate.document.get "delivery")) := by
  simp [StoredAggregate.apply, applySnapshotToAggregate, Value.get_extend, List.lookup_cons]

theorem terminalKept_apply_iff {terminal current : StoredAggregate}
    (ended : terminal.Terminal) (kept : TerminalKept terminal current) {applied : Applied}
    (unfinished : applied.Unfinished) :
    TerminalKept terminal (current.apply applied) ↔ Harmless terminal applied := by
  have notFinal : applied.snapshot.get "kind" ≠ .str "final" := by
    rcases unfinished with initial | update <;> simp [*]
  have notDead : applied.snapshot.get "kind" ≠ .str "deadletter" := by
    rcases unfinished with initial | update <;> simp [*]
  constructor
  · intro after
    constructor
    · -- An initial snapshot would reset the status.
      rcases unfinished with initial | update
      · have reset := after.status
        rw [get_status_apply, initial] at reset
        rcases ended with final | error <;> simp_all [deriveAggregateStatus]
      · exact update
    · intro carried
      have delivered := after.delivery
      rwa [get_delivery_apply, Value.or_of_truthy carried] at delivered
  · intro harmless
    constructor
    · rw [get_status_apply, harmless.1, kept.status]
      rcases ended with final | error <;> simp [deriveAggregateStatus, *]
    · rw [get_finalizedAt_apply, if_neg (by simp [notFinal, notDead]), current.strip_get]
      exact kept.finalizedAt
    · rw [get_finalSnapshotId_apply, if_neg notFinal, current.strip_get]
      exact kept.finalSnapshotId
    · rw [get_delivery_apply]
      cases carried : (applied.snapshot.get "delivery").truthy with
      | true =>
        rw [Value.or_of_truthy carried]
        exact harmless.2 carried
      | false =>
        rw [Value.or_of_falsy carried, current.strip_get]
        exact kept.delivery

theorem along_terminalKept_iff {terminal : StoredAggregate} (ended : terminal.Terminal)
    (lates : List LateSnapshot) :
    Machine.Along (fun current late => current.apply late.applied)
        (fun current late => TerminalKept terminal (current.apply late.applied)) terminal lates ↔
      ∀ late ∈ lates, Harmless terminal late.applied := by
  have kept : TerminalKept terminal terminal := ⟨rfl, rfl, rfl, .refl _⟩
  -- What was kept so far is the invariant of the run.
  refine (Machine.along_congr (TerminalKept terminal) ?_ ?_ kept lates).trans
    Machine.along_iff_forall
  · intro current late kept harmless
    exact (terminalKept_apply_iff ended kept late.unfinished).mpr harmless
  · intro current late kept
    exact terminalKept_apply_iff ended kept late.unfinished

def ownTimes (snapshot : Value) : List Value :=
  [(snapshot.get "delivery").get "deliveredAt", (snapshot.get "deadletter").get "at",
    snapshot.get "capturedAt"].map stripUndefinedDeep

/-- No time that the aggregate carried before passes for the time of the snapshot. -/
structure OwnTimeRead (aggregate : StoredAggregate) (snapshot : Value) : Prop where
  /-- A snapshot without delivery meets no earlier delivery with a time of its own. -/
  delivery : (snapshot.get "delivery").truthy = false →
    ((aggregate.document.get "delivery").get "deliveredAt").truthy →
    (aggregate.document.get "delivery").get "deliveredAt" ∈ ownTimes snapshot
  /-- Where no delivery has a time, the same holds of the dead letter. -/
  deadletter :
    (((snapshot.get "delivery").or (aggregate.document.get "delivery")).get
      "deliveredAt").truthy = false →
    (snapshot.get "deadletter").truthy = false →
    ((aggregate.document.get "deadletter").get "at").truthy →
    (aggregate.document.get "deadletter").get "at" ∈ ownTimes snapshot

private theorem StoredAggregate.strip_get_get (aggregate : StoredAggregate) (key inner : String) :
    stripUndefinedDeep ((aggregate.document.get key).get inner) =
      (aggregate.document.get key).get inner := by
  rw [← get_strip, aggregate.strip_get]

theorem finalizedAt_mem_ownTimes_iff (aggregate : StoredAggregate) {applied : Applied}
    (finishing : applied.snapshot.get "kind" = .str "final" ∨
      applied.snapshot.get "kind" = .str "deadletter") :
    (aggregate.apply applied).document.get "finalizedAt" ∈ ownTimes applied.snapshot ↔
      OwnTimeRead aggregate applied.snapshot := by
  rw [get_finalizedAt_apply, if_pos finishing]
  have deliveredAt := aggregate.strip_get_get "delivery" "deliveredAt"
  have diedAt := aggregate.strip_get_get "deadletter" "at"
  -- The snapshot's own times are listed first to last as they are tried.
  have first : stripUndefinedDeep ((applied.snapshot.get "delivery").get "deliveredAt") ∈
      ownTimes applied.snapshot := by simp [ownTimes]
  have second : stripUndefinedDeep ((applied.snapshot.get "deadletter").get "at") ∈
      ownTimes applied.snapshot := by simp [ownTimes]
  have third : stripUndefinedDeep (applied.snapshot.get "capturedAt") ∈
      ownTimes applied.snapshot := by simp [ownTimes]
  cases delivered : (((applied.snapshot.get "delivery").or
      (aggregate.document.get "delivery")).get "deliveredAt").truthy with
  | true =>
    have dated : ((((applied.snapshot.get "delivery").or (aggregate.document.get "delivery")).get
        "deliveredAt").or (((applied.snapshot.get "deadletter").or
          (aggregate.document.get "deadletter")).get "at")).truthy = true := by
      rw [Value.or_of_truthy delivered]
      exact delivered
    rw [Value.or_of_truthy dated, Value.or_of_truthy delivered]
    cases carried : (applied.snapshot.get "delivery").truthy with
    | true =>
      rw [Value.or_of_truthy carried]
      refine iff_of_true first ⟨fun absent => ?_, fun undated => ?_⟩
      · rw [carried] at absent
        cases absent
      · rw [delivered] at undated
        cases undated
    | false =>
      -- The delivery read is the one that the aggregate carried before.
      rw [Value.or_of_falsy carried] at delivered ⊢
      rw [deliveredAt]
      constructor
      · intro own
        refine ⟨fun _ _ => own, fun undated => ?_⟩
        rw [Value.or_of_falsy carried, delivered] at undated
        cases undated
      · intro read
        exact read.delivery carried delivered
  | false =>
    rw [Value.or_of_falsy delivered]
    -- An earlier delivery has no time here, or it would have been read.
    have noEarlier : (applied.snapshot.get "delivery").truthy = false →
        ((aggregate.document.get "delivery").get "deliveredAt").truthy = false := by
      intro absent
      rwa [Value.or_of_falsy absent] at delivered
    cases died : (((applied.snapshot.get "deadletter").or
        (aggregate.document.get "deadletter")).get "at").truthy with
    | true =>
      rw [Value.or_of_truthy died]
      cases carried : (applied.snapshot.get "deadletter").truthy with
      | true =>
        rw [Value.or_of_truthy carried]
        refine iff_of_true second ⟨fun absent dated => ?_, fun _ undead => ?_⟩
        · rw [noEarlier absent] at dated
          cases dated
        · rw [carried] at undead
          cases undead
      | false =>
        rw [Value.or_of_falsy carried] at died ⊢
        rw [diedAt]
        constructor
        · intro own
          refine ⟨fun absent dated => ?_, fun _ _ _ => own⟩
          rw [noEarlier absent] at dated
          cases dated
        · intro read
          exact read.deadletter delivered carried died
    | false =>
      rw [Value.or_of_falsy died]
      refine iff_of_true third ⟨fun absent dated => ?_, fun _ undead dated => ?_⟩
      · rw [noEarlier absent] at dated
        cases dated
      · rw [Value.or_of_falsy undead, dated] at died
        cases died

def sentAggregate : StoredAggregate where
  document := .obj
    [("status", .str "FINALIZED"), ("finalizedAt", .str "2025-01-01T00:00:02Z"),
     ("finalSnapshotId", .str "c-1-000002-final"),
     ("delivery", .obj
       [("status", .str "SENT"), ("deliveredAt", .str "2025-01-01T00:00:02Z")])]
  stripped := by decide +kernel

def routedSnapshot : Applied where
  snapshot := .obj
    [("snapshotId", .str "c-1-000003-update"), ("kind", .str "update"),
     ("capturedAt", .str "2025-01-01T00:00:03Z"),
     ("delivery", .obj
       [("status", .str "ROUTED"), ("deliveredAt", .str "2025-01-01T00:00:01Z")])]
  nextSnapshotCount := .finite 3

def deadSnapshot : Applied where
  snapshot := .obj
    [("snapshotId", .str "c-1-000004-deadletter"), ("kind", .str "deadletter"),
     ("capturedAt", .str "2025-01-01T00:00:09Z"),
     ("deadletter", .obj [("at", .str "2025-01-01T00:00:09Z")])]
  nextSnapshotCount := .finite 4

end BitBrat
