import BitBrat.Machine.Run
import BitBrat.Persistence.Merge

/-! The snapshot ledger of one event: what it says, and the one way in which it grows. -/

namespace BitBrat

open Js

def countValue (count : Nat) : Value := .num (.finite (count : ℚ))

structure Ledger (database : Database) (correlationId : String) : Prop where
  counted : ∀ aggregate, database.events.get? correlationId = some aggregate →
    aggregate.get "snapshotCount" = countValue database.snapshots.size
  unstarted : database.events.get? correlationId = none → database.snapshots.size = 0
  numbered : (database.snapshots.entries.map fun entry => entry.2.get "sequence") =
    (List.range database.snapshots.size).map fun index => countValue (index + 1)
  identified : (database.snapshots.entries.map fun entry => entry.2.get "snapshotId").Nodup
  keyed : (database.snapshots.entries.map fun entry => entry.2.get "idempotencyKey").Nodup
  /-- The aggregate names the snapshot with the highest number. -/
  latest : ∀ aggregate, database.events.get? correlationId = some aggregate →
    ∀ last, database.snapshots.entries.getLast? = some last →
      aggregate.get "latestSnapshotId" = last.2.get "snapshotId"

structure Shelved (backend : Backend) (database : Database) (correlationId : String) : Prop where
  owned : ∀ entry ∈ database.snapshots.entries, backend.belongs correlationId entry
  /-- A snapshot is stored under the identifier made of its number. -/
  placed : ∀ (index : Nat) entry, database.snapshots.entries[index]? = some entry → ∃ kind,
    entry.1 = backend.snapshotKey correlationId
      (buildSnapshotId correlationId (.finite ((index + 1 : Nat) : ℚ)) kind) ∧
    entry.2.get "snapshotId" =
      .str (buildSnapshotId correlationId (.finite ((index + 1 : Nat) : ℚ)) kind)

theorem ledger_empty (backend : Backend) (correlationId : String) :
    Ledger .empty correlationId ∧ Shelved backend .empty correlationId := by
  -- There is neither an aggregate nor a snapshot that could say otherwise.
  constructor
  · constructor
    · intro aggregate found
      cases found
    · intro _
      rfl
    · rfl
    · exact List.nodup_nil
    · exact List.nodup_nil
    · intro aggregate found
      cases found
  · constructor
    · intro entry member
      cases member
    · intro index entry found
      cases found

variable {correlationId : String}

theorem buildSnapshotId_injective {first second : Nat} {kind other : Value}
    (same : buildSnapshotId correlationId (.finite (first : ℚ)) kind =
      buildSnapshotId correlationId (.finite (second : ℚ)) other) : first = second := by
  simp only [buildSnapshotId, Number.toText_natCast] at same
  exact padded_injective same

variable {backend : Backend}

theorem snapshotKey_injective {first second : String}
    (same : backend.snapshotKey correlationId first = backend.snapshotKey correlationId second) :
    first = second := by
  cases backend <;> exact congrArg Prod.snd same

theorem get_snapshotDoc (backend : Backend) (correlationId : String) (snapshot : Value)
    {key : String} (other : key ≠ "correlationId") :
    (backend.snapshotDoc correlationId snapshot).get key =
      stripUndefinedDeep (snapshot.get key) := by
  have skipped : (key == "correlationId") = false := by simpa using other
  cases backend with
  | firestore => simp [Backend.snapshotDoc]
  | documentStore => simp [Backend.snapshotDoc, Value.get_extend, List.lookup_cons, skipped]

theorem belongs_snapshotDoc (backend : Backend) (correlationId snapshotId : String)
    (snapshot : Value) :
    backend.belongs correlationId
      (backend.snapshotKey correlationId snapshotId,
        backend.snapshotDoc correlationId snapshot) := by
  cases backend with
  | firestore => simp [Backend.belongs, Backend.snapshotKey]
  | documentStore =>
    simp [Backend.belongs, Backend.snapshotDoc, Value.get_extend]

/-- A snapshot that carries the next number, and the aggregate that counts it. -/
structure NextEntry (database : Database) (correlationId : String) (aggregate snapshot : Value) :
    Prop where
  sequence : snapshot.get "sequence" = countValue (database.snapshots.size + 1)
  named : ∃ kind, snapshot.get "snapshotId" =
    .str (buildSnapshotId correlationId
      (.finite ((database.snapshots.size + 1 : Nat) : ℚ)) kind)
  unused : ∀ entry ∈ database.snapshots.entries,
    entry.2.get "idempotencyKey" ≠ stripUndefinedDeep (snapshot.get "idempotencyKey")
  counted : aggregate.get "snapshotCount" = countValue (database.snapshots.size + 1)
  latest : aggregate.get "latestSnapshotId" = snapshot.get "snapshotId"

variable {database : Database} {aggregate snapshot : Value}

theorem next_key_unused (shelved : Shelved backend database correlationId)
    (next : NextEntry database correlationId aggregate snapshot) :
    backend.snapshotKey correlationId (snapshotIdOf snapshot) ∉
      database.snapshots.entries.map Prod.fst := by
  intro member
  -- A stored snapshot under this key would carry the same number.
  obtain ⟨entry, stored, same⟩ := List.mem_map.mp member
  obtain ⟨index, within, found⟩ := List.getElem_of_mem stored
  obtain ⟨kind, placed, _⟩ := shelved.placed index entry (by simp [within, found])
  obtain ⟨nextKind, named⟩ := next.named
  have text : snapshotIdOf snapshot = buildSnapshotId correlationId
      (.finite ((database.snapshots.size + 1 : Nat) : ℚ)) nextKind := by
    simp only [snapshotIdOf, named, Value.toText]
  rw [placed, text] at same
  have numbers := buildSnapshotId_injective (snapshotKey_injective same)
  simp only [OrderedMap.size] at numbers
  omega

theorem write_entries (shelved : Shelved backend database correlationId)
    (next : NextEntry database correlationId aggregate snapshot) :
    (database.write backend correlationId aggregate (snapshotIdOf snapshot)
        snapshot).snapshots.entries =
      database.snapshots.entries ++
        [(backend.snapshotKey correlationId (snapshotIdOf snapshot),
          backend.snapshotDoc correlationId snapshot)] :=
  setEntry_of_not_mem _ (next_key_unused shelved next)

theorem numbered_append {entries : List ((String × String) × Value)}
    (numbered : (entries.map fun entry => entry.2.get "sequence") =
      (List.range entries.length).map fun index => countValue (index + 1))
    {added : (String × String) × Value}
    (next : added.2.get "sequence" = countValue (entries.length + 1)) :
    ((entries ++ [added]).map fun entry => entry.2.get "sequence") =
      (List.range (entries ++ [added]).length).map fun index => countValue (index + 1) := by
  -- The range of the numbers grows by the next one.
  rw [List.map_append, numbered, List.length_append, List.length_singleton, List.range_succ,
    List.map_append]
  simp [next]

theorem Ledger.write (ledger : Ledger database correlationId)
    (shelved : Shelved backend database correlationId)
    (next : NextEntry database correlationId aggregate snapshot) :
    Ledger (database.write backend correlationId aggregate (snapshotIdOf snapshot) snapshot)
        correlationId ∧
      Shelved backend
        (database.write backend correlationId aggregate (snapshotIdOf snapshot) snapshot)
        correlationId := by
  have entries := write_entries shelved next
  have written (key : String) (other : key ≠ "correlationId") :=
    get_snapshotDoc backend correlationId snapshot other
  obtain ⟨kind, named⟩ := next.named
  have text : snapshotIdOf snapshot = buildSnapshotId correlationId
      (.finite ((database.snapshots.size + 1 : Nat) : ℚ)) kind := by
    simp only [snapshotIdOf, named, Value.toText]
  have counted : (database.write backend correlationId aggregate (snapshotIdOf snapshot)
      snapshot).snapshots.size = database.snapshots.size + 1 := by
    simp only [OrderedMap.size, entries, List.length_append, List.length_singleton]
  have held : (database.write backend correlationId aggregate (snapshotIdOf snapshot)
      snapshot).events.get? correlationId = some (stripUndefinedDeep aggregate) :=
    OrderedMap.get?_set_self _ _ _
  refine ⟨⟨?_, ?_, ?_, ?_, ?_, ?_⟩, ?_, ?_⟩
  · intro found same
    rw [held] at same
    cases same
    rw [get_strip, next.counted, counted]
    exact strip_num _
  · intro absent
    rw [held] at absent
    cases absent
  · have stored : (backend.snapshotDoc correlationId snapshot).get "sequence" =
        countValue (database.snapshots.entries.length + 1) := by
      rw [written "sequence" (by decide), next.sequence]
      exact strip_num _
    simp only [OrderedMap.size, entries]
    exact numbered_append ledger.numbered stored
  · rw [entries, List.map_append, List.map_singleton]
    refine List.Nodup.append ledger.identified (List.nodup_singleton _) ?_
    intro id before new
    -- An identifier that is already stored was made of a smaller number.
    obtain ⟨entry, member, same⟩ := List.mem_map.mp before
    obtain ⟨index, within, found⟩ := List.getElem_of_mem member
    obtain ⟨other, _, placed⟩ := shelved.placed index entry (by simp [within, found])
    rw [List.mem_singleton.mp new, written "snapshotId" (by decide), named, strip_str,
      placed] at same
    have numbers := buildSnapshotId_injective (Value.str.inj same)
    simp only [OrderedMap.size] at numbers
    omega
  · rw [entries, List.map_append, List.map_singleton]
    refine List.Nodup.append ledger.keyed (List.nodup_singleton _) ?_
    intro key before new
    obtain ⟨entry, member, same⟩ := List.mem_map.mp before
    rw [List.mem_singleton.mp new, written "idempotencyKey" (by decide)] at same
    exact next.unused entry member same
  · intro found same last atEnd
    rw [held] at same
    cases same
    rw [entries, List.getLast?_concat] at atEnd
    cases atEnd
    rw [get_strip, next.latest, written "snapshotId" (by decide)]
  · intro entry member
    rw [entries, List.mem_append, List.mem_singleton] at member
    rcases member with before | new
    · exact shelved.owned entry before
    · rw [new]
      exact belongs_snapshotDoc backend correlationId _ snapshot
  · intro index entry found
    rw [entries] at found
    by_cases within : index < database.snapshots.entries.length
    · rw [List.getElem?_append_left within] at found
      exact shelved.placed index entry found
    · have position : index = database.snapshots.entries.length := by
        obtain ⟨inside, _⟩ := List.getElem?_eq_some_iff.mp found
        rw [List.length_append, List.length_singleton] at inside
        omega
      subst position
      rw [List.getElem?_concat_length] at found
      cases found
      refine ⟨kind, ?_, ?_⟩
      · rw [text]
        rfl
      · rw [written "snapshotId" (by decide), named, strip_str]
        rfl

theorem exists_key_of_write (shelved : Shelved backend database correlationId)
    (next : NextEntry database correlationId aggregate snapshot) :
    ∃ entry ∈ (database.write backend correlationId aggregate (snapshotIdOf snapshot)
        snapshot).snapshots.entries,
      entry.2.get "idempotencyKey" = stripUndefinedDeep (snapshot.get "idempotencyKey") := by
  rw [write_entries shelved next]
  exact ⟨_, List.mem_append_right _ (List.mem_singleton_self _),
    get_snapshotDoc backend correlationId snapshot (by decide)⟩

end BitBrat
