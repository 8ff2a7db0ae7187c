import BitBrat.Backup.PgBackup
import BitBrat.Machine.Run

/-! What the backup of the tables holds, and what its restore writes. -/

namespace BitBrat

open Js Machine

variable {server : PostgresServer}

namespace PostgresServer

def rowAt (tables : PgTables server) (relation id : String) : Option (Jsonb server) :=
  (tables relation).bind (·.get? id)

variable {tables : PgTables server} {collection : String} {found : String × PgTable server}

theorem table_eq_ok : server.table tables collection = .ok found ↔
      server.relationOf collection = .ok found.1 ∧ tables found.1 = some found.2 := by
  -- The two lookups may fail one after the other.
  obtain ⟨relation, table⟩ := found
  simp only [PostgresServer.table]
  cases named : server.relationOf collection with
  | error reason => simp [bind, Except.bind]
  | ok name =>
    simp only [bind, Except.bind]
    cases stored : tables name with
    | none =>
      simp only [reduceCtorEq, Except.ok.injEq, false_iff, not_and]
      intro same
      simp [← same, stored]
    | some held =>
      simp only [Except.ok.injEq, Prod.mk.injEq]
      constructor
      · rintro ⟨rfl, rfl⟩
        exact ⟨rfl, stored⟩
      · rintro ⟨rfl, there⟩
        exact ⟨rfl, Option.some.inj (stored.symm.trans there)⟩

theorem relation_of_table {relation : String} (there : server.table tables collection = .ok found)
    (named : server.relationOf collection = .ok relation) : found.1 = relation :=
  Except.ok.inj ((table_eq_ok.mp there).1.symm.trans named)

theorem get_of_table (there : server.table tables collection = .ok found) (id : String) :
    server.get tables collection id = .ok ((rowAt tables found.1 id).map (·.1)) := by
  obtain ⟨-, stored⟩ := table_eq_ok.mp there
  simp [PostgresServer.get, there, rowAt, stored, bind, Except.bind]

theorem set_eq_ok {after : PgTables server} {id data : Value} :
    server.set tables collection id data = .ok after ↔
      ∃ found : String × PgTable server, ∃ row : Jsonb server,
        server.table tables collection = .ok found ∧ server.jsonb data = .ok row.1 ∧
          after = Function.update tables found.1
            (some (found.2.set (server.textParam id) row)) := by
  simp only [PostgresServer.set]
  cases there : server.table tables collection with
  | error reason => simp [bind, Except.bind]
  | ok found =>
    obtain ⟨relation, table⟩ := found
    simp only [bind, Except.bind, Except.ok.injEq]
    split
    case h_1 reason failed => simp [failed]
    case h_2 held written =>
      constructor
      · intro same
        exact ⟨_, ⟨held, server.jsonb_held data held written⟩, rfl, written,
          (Except.ok.inj same).symm⟩
      · rintro ⟨_, ⟨value, isHeld⟩, rfl, stored, rfl⟩
        cases written.symm.trans stored
        rfl

theorem rowAt_update {relation : String} {table : PgTable server}
    (stored : tables relation = some table) (id : String) (row : Jsonb server)
    (other otherId : String) :
    rowAt (Function.update tables relation (some (table.set id row))) other otherId =
      if other = relation ∧ otherId = id then some row else rowAt tables other otherId := by
  by_cases same : other = relation
  · subst same
    simp [rowAt, stored, OrderedMap.get?_set]
  · simp [rowAt, same]

theorem table_of_some {others : PgTables server}
    (there : server.table tables collection = .ok found) (exist : (others found.1).isSome) :
    ∃ table, server.table others collection = .ok (found.1, table) := by
  obtain ⟨table, stored⟩ := Option.isSome_iff_exists.mp exist
  exact ⟨table, table_eq_ok.mpr ⟨(table_eq_ok.mp there).1, stored⟩⟩

end PostgresServer

open PostgresServer

theorem get_rowDocument (row : String × Jsonb server) :
    (server.rowDocument row).get "id" = .str row.1 := by
  simp [rowDocument, Value.get_setEntry]

variable {row : String × Jsonb server}

theorem rowDocument_of_own (own : row.2.1.get "id" = .str row.1) :
    server.rowDocument row = row.2.1 := by
  -- Only the data that is an object has a property.
  obtain ⟨id, data, held⟩ := row
  cases data with
  | obj fields =>
    have found : fields.lookup "id" = some (.str id) := by
      cases entry : fields.lookup "id" with
      | none => simp [Value.get, entry] at own
      | some value => simpa [Value.get, entry] using own
    simp [rowDocument, spreadFields, setEntry_of_lookup found]
  | _ => simp [Value.get, Value.fields] at own

theorem restoredId_rowDocument (named : row.1 ≠ "") (drawn : String) :
    restoredId (server.rowDocument row) drawn = .str row.1 := by
  have truthy : (Value.str row.1).truthy = true := by simp [named]
  rw [restoredId, get_rowDocument, Value.or_of_truthy truthy, Value.or_of_truthy truthy]

theorem restoredId_unnamed (unnamed : row.1 = "") {drawn : String} (draws : drawn ≠ "") :
    server.textParam (restoredId (server.rowDocument row) drawn) ≠ "" := by
  have falsy : (Value.str "").truthy = false := by simp
  apply server.textParam_ne
  rw [restoredId, get_rowDocument, unnamed, Value.or_of_falsy falsy]
  -- Another id is taken if it is truthy, and what is drawn otherwise.
  unfold Value.or
  split
  case isTrue truthy => exact truthy
  case isFalse => simp [draws]

theorem writeDocument_rowDocument (tables : PgTables server) (collection : String)
    (row : String × Jsonb server) (drawn : String) :
    writeDocument server tables collection (server.rowDocument row) drawn =
      server.set tables collection (restoredId (server.rowDocument row) drawn)
        (server.rowDocument row) := rfl

section Runs

variable {data : OrderedMap String (List Value)} {options : PgRestoreOptions}
  {random : String → Nat → String}

def KeptByWrites (data : OrderedMap String (List Value)) (random : String → Nat → String)
    (inv : PgTables server → Prop) : Prop :=
  ∀ entry ∈ data.entries, ∀ doc ∈ entry.2, ∀ index before after, inv before →
    writeDocument server before entry.1 doc (random entry.1 index) = .ok after → inv after

variable {inv : PgTables server → Prop} {entry : String × List Value}

theorem KeptByWrites.restoreDocument (kept : KeptByWrites data random inv)
    (listed : entry ∈ data.entries) {doc : Value × Nat} (member : doc ∈ entry.2.zipIdx)
    {state : PgRestore server} (holds : inv state.tables) :
    inv (restoreDocument server entry.1 (random entry.1) state doc).tables := by
  unfold BitBrat.restoreDocument
  split
  case h_1 after written =>
    exact kept entry listed doc.1 (List.fst_mem_of_mem_zipIdx member) doc.2 _ _ holds written
  case h_2 => exact holds

theorem KeptByWrites.restoreCollection (kept : KeptByWrites data random inv)
    (listed : entry ∈ data.entries) {state : PgRestore server} (holds : inv state.tables) :
    inv (restoreCollection server options random state entry).tables := by
  unfold BitBrat.restoreCollection
  split
  case isTrue => exact holds
  case isFalse =>
    exact run_invariant (fun state : PgRestore server => inv state.tables)
      (fun _ _ held member => kept.restoreDocument listed member held) holds
      (along_iff_forall.mpr fun _ member => member)

theorem KeptByWrites.restoreFromJson (kept : KeptByWrites data random inv)
    {tables : PgTables server} (holds : inv tables) :
    inv (restoreFromJson server tables data options random).tables :=
  run_invariant (fun state : PgRestore server => inv state.tables)
    (fun _ _ held listed => kept.restoreCollection listed held) holds
    (along_iff_forall.mpr fun _ listed => listed)

theorem restoreFromJson_reaches {goal : PgTables server → Prop}
    (preserved : KeptByWrites data random inv) (kept : KeptByWrites data random goal)
    (real : options.dryRun = false) (listed : entry ∈ data.entries) {doc : Value}
    (member : doc ∈ entry.2) (reached : ∀ index before, inv before → ∃ after,
      writeDocument server before entry.1 doc (random entry.1 index) = .ok after ∧ goal after)
    {tables : PgTables server} (holds : inv tables) :
    goal (restoreFromJson server tables data options random).tables := by
  obtain ⟨index, inside⟩ := List.mem_iff_getElem?.mp member
  have place : (doc, index) ∈ entry.2.zipIdx := List.mk_mem_zipIdx_iff_getElem?.mpr inside
  -- The collection of the document reaches the goal, as the document itself does.
  refine run_reaches (fun state : PgRestore server => inv state.tables)
    (fun state : PgRestore server => goal state.tables) (· ∈ data.entries)
    (fun _ _ held listed => preserved.restoreCollection listed held)
    (fun _ _ _ held listed => kept.restoreCollection listed held) ?_ holds
    (fun _ listed => listed) listed
  intro state held
  simp only [BitBrat.restoreCollection, real, Bool.false_eq_true, ↓reduceIte]
  refine run_reaches (fun state : PgRestore server => inv state.tables)
    (fun state : PgRestore server => goal state.tables) (· ∈ entry.2.zipIdx)
    (fun _ _ held member => preserved.restoreDocument listed member held)
    (fun _ _ _ held member => kept.restoreDocument listed member held) ?_ held
    (fun _ member => member) place
  intro state held
  obtain ⟨after, written, arrived⟩ := reached index state.tables held
  simp only [BitBrat.restoreDocument, written]
  exact arrived

end Runs

variable {tables : PgTables server}

theorem getAll_eq_ok {collection : String} {docs : List Value} :
    server.getAll tables collection = .ok docs ↔
      ∃ found, server.table tables collection = .ok found ∧
        docs = found.2.entries.map server.rowDocument := by
  simp only [PostgresServer.getAll]
  cases server.table tables collection with
  | error reason => simp [bind, Except.bind]
  | ok found => simp [bind, Except.bind, eq_comm]

theorem mem_entries_iff {relation : String} {table : PgTable server}
    (stored : tables relation = some table) (row : String × Jsonb server) :
    row ∈ table.entries ↔ rowAt tables relation row.1 = some row.2 := by
  simp only [rowAt, stored, Option.bind_some]
  exact ⟨lookup_of_mem table.distinct, mem_of_lookup⟩

theorem get?_assignCollection (data : OrderedMap String (List Value)) (collection : String)
    (docs : List Value) (other : String) :
    (assignCollection data collection docs).get? other =
      if other = collection ∧ collection ≠ "__proto__" then some docs else data.get? other := by
  unfold assignCollection
  split
  case isTrue proto => simp [proto]
  case isFalse proper => simp [OrderedMap.get?_set, proper]

theorem backupCollections_eq_ok (rest : List String) (data : OrderedMap String (List Value))
    (totalDocuments : Nat) {result : OrderedMap String (List Value) × Nat}
    (done : backupCollections server tables rest data totalDocuments = .ok result)
    (collection : String) (docs : List Value) : result.1.get? collection = some docs ↔
      if collection ∈ rest ∧ collection ≠ "__proto__" then
        server.getAll tables collection = .ok docs
      else data.get? collection = some docs := by
  -- A collection that is named again is read again, with the same documents.
  induction rest generalizing data totalDocuments with
  | nil =>
    cases done
    simp
  | cons first rest ih =>
    rw [backupCollections] at done
    cases read : server.getAll tables first with
    | error reason => simp [read, bind, Except.bind] at done
    | ok held =>
      simp only [read, bind, Except.bind] at done
      rw [ih _ _ done, get?_assignCollection]
      by_cases later : collection ∈ rest ∧ collection ≠ "__proto__"
      · simp [later]
      · by_cases here : collection = first
        · subst here
          by_cases proto : collection = "__proto__"
          · simp [proto]
          · have last : collection ∉ rest := fun member => later ⟨member, proto⟩
            simp [proto, last, read]
        · rw [if_neg later, if_neg (by simp [here]), if_neg (by simpa [here] using later)]

theorem backupCollections_of_tables (rest : List String)
    (exist : ∀ collection ∈ rest, ∃ found, server.table tables collection = .ok found)
    (data : OrderedMap String (List Value)) (totalDocuments : Nat) :
    ∃ result, backupCollections server tables rest data totalDocuments = .ok result := by
  induction rest generalizing data totalDocuments with
  | nil => exact ⟨_, rfl⟩
  | cons first rest ih =>
    obtain ⟨found, there⟩ := exist first List.mem_cons_self
    have read := getAll_eq_ok.mpr ⟨found, there, rfl⟩
    rw [backupCollections, read]
    exact ih (fun collection member => exist collection (List.mem_cons_of_mem _ member)) _ _

section Backups

variable {tables : PgTables server} {options : PgBackupOptions} {timestamp : String}
  {backup : BackupToJsonResult}

theorem backupToJson_of_tables
    (exist : ∀ collection ∈ options.read, ∃ found, server.table tables collection = .ok found)
    (timestamp : String) :
    ∃ backup, backupToJson server tables options timestamp = .ok backup := by
  obtain ⟨⟨data, totalDocuments⟩, done⟩ :=
    backupCollections_of_tables options.read exist OrderedMap.empty 0
  rw [backupToJson, done]
  exact ⟨_, rfl⟩

theorem mem_backup (stored : backupToJson server tables options timestamp = .ok backup)
    (entry : String × List Value) :
    entry ∈ backup.data.entries ↔ entry.1 ∈ options.read ∧ entry.1 ≠ "__proto__" ∧
      server.getAll tables entry.1 = .ok entry.2 := by
  unfold backupToJson at stored
  cases done : backupCollections server tables options.read OrderedMap.empty 0 with
  | error reason => simp [done, bind, Except.bind] at stored
  | ok result =>
    simp only [done, bind, Except.bind, Except.ok.injEq] at stored
    have spec := backupCollections_eq_ok options.read OrderedMap.empty 0 done entry.1 entry.2
    have listed : entry ∈ backup.data.entries ↔ result.1.get? entry.1 = some entry.2 := by
      rw [← stored]
      exact ⟨lookup_of_mem result.1.distinct, mem_of_lookup⟩
    rw [listed, spec]
    split
    case isTrue named => simp [named]
    case isFalse unnamed => simpa using fun member proper _ => unnamed ⟨member, proper⟩

theorem row_of_backup (stored : backupToJson server tables options timestamp = .ok backup)
    {entry : String × List Value} (listed : entry ∈ backup.data.entries) {doc : Value}
    (member : doc ∈ entry.2) :
    entry.1 ∈ options.read ∧ entry.1 ≠ "__proto__" ∧ ∃ relation row,
      server.relationOf entry.1 = .ok relation ∧ rowAt tables relation row.1 = some row.2 ∧
        doc = server.rowDocument row := by
  obtain ⟨asked, proper, read⟩ := (mem_backup stored entry).mp listed
  obtain ⟨found, there, docs⟩ := getAll_eq_ok.mp read
  obtain ⟨named, held⟩ := table_eq_ok.mp there
  rw [docs] at member
  obtain ⟨row, inside, rfl⟩ := List.mem_map.mp member
  exact ⟨asked, proper, found.1, row, named, (mem_entries_iff held row).mp inside, rfl⟩

theorem backup_of_row (stored : backupToJson server tables options timestamp = .ok backup)
    {collection relation : String} (asked : collection ∈ options.read)
    (proper : collection ≠ "__proto__") (named : server.relationOf collection = .ok relation)
    {row : String × Jsonb server} (held : rowAt tables relation row.1 = some row.2) :
    ∃ docs, (collection, docs) ∈ backup.data.entries ∧ server.rowDocument row ∈ docs := by
  obtain ⟨table, there, -⟩ := Option.bind_eq_some_iff.mp held
  have read := getAll_eq_ok.mpr ⟨(relation, table), table_eq_ok.mpr ⟨named, there⟩, rfl⟩
  exact ⟨_, (mem_backup stored _).mpr ⟨asked, proper, read⟩,
    List.mem_map_of_mem ((mem_entries_iff there row).mpr held)⟩

end Backups

end BitBrat
