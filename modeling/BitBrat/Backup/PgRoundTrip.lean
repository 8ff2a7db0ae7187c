import BitBrat.Backup.PgRestore

/-! Which backups of the tables are restored as they were. -/

namespace BitBrat

open Js PostgresServer

variable {server : PostgresServer}

def HasTables (server : PostgresServer) (tables : PgTables server) (collections : List String) :
    Prop :=
  ∀ collection ∈ collections, ∃ found, server.table tables collection = .ok found

/-- The database with the same tables, and nothing in them. -/
def emptied (tables : PgTables server) : PgTables server := fun relation =>
  (tables relation).map fun _ => OrderedMap.empty

def SameRows (server : PostgresServer) (collections : List String)
    (left right : PgTables server) : Prop :=
  ∀ collection ∈ collections, ∀ id, server.get left collection id = server.get right collection id

/-- A backup is restored as it was into empty tables, and in place of what others hold. -/
def PgRoundTrip (server : PostgresServer) (tables : PgTables server) (options : PgBackupOptions)
    (target : PgTables server) : Prop :=
  ∀ timestamp random, ∃ backup, backupToJson server tables options timestamp = .ok backup ∧
    (∀ mode, SameRows server options.read
      (restoreFromJson server (emptied tables) backup.data { mode } random).tables tables) ∧
    SameRows server options.read
      (restoreFromJson server target backup.data { mode := some .overwrite } random).tables tables

/-- Every row of the collections has an id, which its data names. -/
def OwnRows (server : PostgresServer) (tables : PgTables server) (collections : List String) :
    Prop :=
  ∀ collection ∈ collections, ∀ id data,
    server.get tables collection id = .ok (some data) → id ≠ "" ∧ data.get "id" = .str id

/-- Every row has its id in its data, and no other row is in the way. -/
structure PgReproducible (server : PostgresServer) (tables : PgTables server)
    (options : PgBackupOptions) (target : PgTables server) : Prop where
  /-- A row is in a collection whose name can be a property. -/
  backedUp : ∀ collection ∈ options.read, ∀ id data,
    server.get tables collection id = .ok (some data) →
      ∃ proper ∈ options.read, proper ≠ "__proto__" ∧
        server.relationOf proper = server.relationOf collection
  own : OwnRows server tables options.read
  covered : ∀ collection ∈ options.read, ∀ id,
    server.get tables collection id = .ok none → server.get target collection id = .ok none

section

variable {tables target : PgTables server} {options : PgBackupOptions} {timestamp : String}
  {backup : BackupToJsonResult} {random : String → Nat → String}

variable {collection : String} {found : String × PgTable server}

theorem get_eq_some_iff (there : server.table tables collection = .ok found) (id : String)
    (data : Value) : server.get tables collection id = .ok (some data) ↔
      ∃ row, rowAt tables found.1 id = some row ∧ row.1 = data := by
  rw [get_of_table there, Except.ok.injEq, Option.map_eq_some_iff]

theorem get_eq_none_iff (there : server.table tables collection = .ok found) (id : String) :
    server.get tables collection id = .ok none ↔ rowAt tables found.1 id = none := by
  rw [get_of_table there, Except.ok.injEq, Option.map_eq_none_iff]

theorem HasTables.set {collections : List String} (has : HasTables server tables collections)
    {after : PgTables server} {id data : Value}
    (written : server.set tables collection id data = .ok after) :
    HasTables server after collections := by
  obtain ⟨found, row, -, -, rfl⟩ := set_eq_ok.mp written
  intro other member
  obtain ⟨held, there⟩ := has other member
  -- The relation that was written to has a table, and so has every other.
  have exist : (Function.update tables found.1
      (some (found.2.set (server.textParam id) row)) held.1).isSome := by
    by_cases same : held.1 = found.1
    · simp [same]
    · simp [same, (table_eq_ok.mp there).2]
  obtain ⟨table, now⟩ := table_of_some there exist
  exact ⟨_, now⟩

theorem HasTables.emptied {collections : List String} (has : HasTables server tables collections) :
    HasTables server (emptied tables) collections := by
  intro collection member
  obtain ⟨found, there⟩ := has collection member
  have exist : (BitBrat.emptied tables found.1).isSome := by
    simp [BitBrat.emptied, (table_eq_ok.mp there).2]
  obtain ⟨table, now⟩ := table_of_some there exist
  exact ⟨_, now⟩

@[simp] theorem rowAt_emptied (relation id : String) :
    rowAt (emptied tables) relation id = none := by
  simp only [rowAt, emptied]
  cases tables relation <;> simp

theorem writeDocument_own {row : String × Jsonb server} (named : row.1 ≠ "")
    (own : row.2.1.get "id" = .str row.1) {before : PgTables server}
    (there : server.table before collection = .ok found) (drawn : String) :
    writeDocument server before collection (server.rowDocument row) drawn =
      .ok (Function.update before found.1 (some (found.2.set row.1 row.2))) := by
  rw [writeDocument_rowDocument, restoredId_rowDocument named, rowDocument_of_own own]
  exact set_eq_ok.mpr ⟨found, row.2, there, row.2.2, by rw [server.textParam_str]⟩

section

variable (stored : backupToJson server tables options timestamp = .ok backup)
include stored

theorem hasTables_kept :
    KeptByWrites backup.data random fun now => HasTables server now options.read := by
  intro entry listed doc member index before after holds written
  obtain ⟨-, -, -, row, -, -, rfl⟩ := row_of_backup stored listed member
  exact holds.set written

variable (has : HasTables server tables options.read) (own : OwnRows server tables options.read)
include has own

theorem row_kept (relation id : String) :
    KeptByWrites backup.data random fun (now : PgTables server) =>
      rowAt now relation id = rowAt tables relation id := by
  intro entry listed doc member index before after holds written
  obtain ⟨asked, -, place, row, named, held, rfl⟩ := row_of_backup stored listed member
  obtain ⟨found, there⟩ := has entry.1 asked
  have read : server.get tables entry.1 row.1 = .ok (some row.2.1) :=
    (get_eq_some_iff there row.1 row.2.1).mpr
      ⟨row.2, relation_of_table there named ▸ held, rfl⟩
  obtain ⟨proper, names⟩ := own entry.1 asked row.1 row.2.1 read
  obtain ⟨now, -, thereNow, -, -⟩ := set_eq_ok.mp
    ((writeDocument_rowDocument before entry.1 row _).symm.trans written)
  rw [writeDocument_own proper names thereNow, Except.ok.injEq] at written
  rw [← written, rowAt_update (table_eq_ok.mp thereNow).2]
  split
  case isTrue here => rw [here.1, here.2, relation_of_table thereNow named, held]
  case isFalse => exact holds

theorem row_restored {restore : PgRestoreOptions} (real : restore.dryRun = false)
    (hasTarget : HasTables server target options.read) {collection : String}
    (asked : collection ∈ options.read) (proper : collection ≠ "__proto__") {relation : String}
    (named : server.relationOf collection = .ok relation) {row : String × Jsonb server}
    (held : rowAt tables relation row.1 = some row.2) :
    rowAt (restoreFromJson server target backup.data restore random).tables relation row.1 =
      rowAt tables relation row.1 := by
  obtain ⟨docs, listed, member⟩ := backup_of_row stored asked proper named held
  obtain ⟨found, there⟩ := has collection asked
  have read : server.get tables collection row.1 = .ok (some row.2.1) :=
    (get_eq_some_iff there row.1 row.2.1).mpr
      ⟨row.2, relation_of_table there named ▸ held, rfl⟩
  obtain ⟨nonempty, names⟩ := own collection asked row.1 row.2.1 read
  -- Its document is written once, and from then on the row is what it was.
  refine restoreFromJson_reaches (hasTables_kept stored)
    (row_kept stored has own relation row.1) real listed member ?_ hasTarget
  intro index before hasBefore
  obtain ⟨now, thereNow⟩ := hasBefore collection asked
  refine ⟨_, writeDocument_own nonempty names thereNow _, ?_⟩
  rw [rowAt_update (table_eq_ok.mp thereNow).2,
    if_pos ⟨(relation_of_table thereNow named).symm, rfl⟩, held]

theorem sameRows_of_own
    (backedUp : ∀ collection ∈ options.read, ∀ id data,
      server.get tables collection id = .ok (some data) →
        ∃ proper ∈ options.read, proper ≠ "__proto__" ∧
          server.relationOf proper = server.relationOf collection)
    (hasTarget : HasTables server target options.read)
    (covered : ∀ collection ∈ options.read, ∀ id,
      server.get tables collection id = .ok none → server.get target collection id = .ok none)
    {restore : PgRestoreOptions} (real : restore.dryRun = false) :
    SameRows server options.read
      (restoreFromJson server target backup.data restore random).tables tables := by
  intro collection asked id
  obtain ⟨found, there⟩ := has collection asked
  have named := (table_eq_ok.mp there).1
  have hasAfter : HasTables server
      (restoreFromJson server target backup.data restore random).tables options.read :=
    (hasTables_kept stored).restoreFromJson hasTarget
  obtain ⟨now, thereNow⟩ := hasAfter collection asked
  rw [get_of_table there, get_of_table thereNow, relation_of_table thereNow named]
  refine congrArg (fun row : Option (Jsonb server) => Except.ok (row.map (·.1))) ?_
  cases held : rowAt tables found.1 id with
  | none =>
    -- No write makes a row that was not there.
    obtain ⟨place, thereTarget⟩ := hasTarget collection asked
    have absent := (get_eq_none_iff thereTarget id).mp
      (covered collection asked id ((get_eq_none_iff there id).mpr held))
    rw [relation_of_table thereTarget named, ← held] at absent
    rw [(row_kept stored has own found.1 id).restoreFromJson absent, held]
  | some row =>
    obtain ⟨proper, askedProper, isProper, sameRelation⟩ := backedUp collection asked id row.1
      ((get_eq_some_iff there id row.1).mpr ⟨row, held, rfl⟩)
    have holds : rowAt tables found.1 (id, row).1 = some (id, row).2 := held
    rw [← held]
    exact row_restored stored has own real hasTarget askedProper isProper
      (sameRelation.trans named) holds

end

variable {restore : PgRestoreOptions} {id : String}

theorem row_origin {data : OrderedMap String (List Value)} {relation : String}
    {row : Jsonb server}
    (held : rowAt (restoreFromJson server (emptied tables) data restore random).tables relation id =
      some row) : ∃ entry ∈ data.entries, ∃ doc ∈ entry.2, ∃ index,
      server.relationOf entry.1 = .ok relation ∧
        id = server.textParam (restoredId doc (random entry.1 index)) ∧
        server.jsonb doc = .ok row.1 := by
  have kept : KeptByWrites data random fun (now : PgTables server) =>
      ∀ relation id row, rowAt now relation id = some row →
        ∃ entry ∈ data.entries, ∃ doc ∈ entry.2, ∃ index,
          server.relationOf entry.1 = .ok relation ∧
            id = server.textParam (restoredId doc (random entry.1 index)) ∧
            server.jsonb doc = .ok row.1 := by
    intro entry listed doc member index before after holds written relation id row now
    have set : server.set before entry.1 (restoredId doc (random entry.1 index)) doc =
        .ok after := by
      cases doc <;> first | exact written | cases written
    obtain ⟨found, fresh, there, stored, rfl⟩ := set_eq_ok.mp set
    rw [rowAt_update (table_eq_ok.mp there).2] at now
    split at now
    case isTrue here =>
      cases now
      exact ⟨entry, listed, doc, member, index, here.1 ▸ (table_eq_ok.mp there).1, here.2, stored⟩
    case isFalse => exact holds relation id row now
  exact kept.restoreFromJson (by simp) relation id row held

theorem row_stays {data : OrderedMap String (List Value)} {relation : String}
    (there : rowAt target relation id ≠ none) :
    rowAt (restoreFromJson server target data restore random).tables relation id ≠ none := by
  have kept : KeptByWrites data random fun (now : PgTables server) =>
      rowAt now relation id ≠ none := by
    intro entry listed doc member index before after holds written
    have set : server.set before entry.1 (restoredId doc (random entry.1 index)) doc =
        .ok after := by
      cases doc <;> first | exact written | cases written
    obtain ⟨found, fresh, there, stored, rfl⟩ := set_eq_ok.mp set
    rw [rowAt_update (table_eq_ok.mp there).2]
    split
    case isTrue => simp
    case isFalse => exact holds
  exact kept.restoreFromJson there

theorem source_of_restored
    (stored : backupToJson server tables options timestamp = .ok backup)
    (has : HasTables server tables options.read) (same : SameRows server options.read
      (restoreFromJson server (emptied tables) backup.data restore random).tables tables)
    (asked : collection ∈ options.read) (there : server.table tables collection = .ok found)
    {data : Value} (read : server.get tables collection id = .ok (some data)) :
    ∃ proper ∈ options.read, proper ≠ "__proto__" ∧ server.relationOf proper = .ok found.1 ∧
      ∃ row index, rowAt tables found.1 row.1 = some row.2 ∧
        id = server.textParam (restoredId (server.rowDocument row) (random proper index)) ∧
        server.jsonb (server.rowDocument row) = .ok data := by
  have hasAfter : HasTables server
      (restoreFromJson server (emptied tables) backup.data restore random).tables options.read :=
    (hasTables_kept stored).restoreFromJson has.emptied
  obtain ⟨now, thereNow⟩ := hasAfter collection asked
  rw [← same collection asked id, get_eq_some_iff thereNow,
    relation_of_table thereNow (table_eq_ok.mp there).1] at read
  obtain ⟨fresh, held, rfl⟩ := read
  obtain ⟨entry, listed, doc, member, index, named, under, written⟩ := row_origin held
  obtain ⟨askedEntry, proper, relation, row, namedEntry, source, rfl⟩ :=
    row_of_backup stored listed member
  cases named.symm.trans namedEntry
  exact ⟨entry.1, askedEntry, proper, named, row, index, source, under, written⟩

theorem reproducible_of_roundTrip (has : HasTables server tables options.read)
    (hasTarget : HasTables server target options.read)
    (law : PgRoundTrip server tables options target) :
    PgReproducible server tables options target := by
  -- Every id that is drawn is a letter, which is no row's missing id.
  obtain ⟨backup, stored, intoEmpty, intoTarget⟩ := law "" fun _ _ => "x"
  have named : ∀ collection ∈ options.read, ∀ id data,
      server.get tables collection id = .ok (some data) → id ≠ "" := by
    intro collection asked id data read
    obtain ⟨found, there⟩ := has collection asked
    obtain ⟨-, -, -, -, row, -, -, under, -⟩ :=
      source_of_restored stored has (intoEmpty none) asked there read
    rw [under]
    by_cases unnamed : row.1 = ""
    · exact restoredId_unnamed unnamed (by decide)
    · rwa [restoredId_rowDocument unnamed, server.textParam_str]
  constructor
  · intro collection asked id data read
    obtain ⟨found, there⟩ := has collection asked
    obtain ⟨proper, askedProper, isProper, relation, -⟩ :=
      source_of_restored stored has (intoEmpty none) asked there read
    exact ⟨proper, askedProper, isProper, relation.trans (table_eq_ok.mp there).1.symm⟩
  · intro collection asked id data read
    refine ⟨named collection asked id data read, ?_⟩
    obtain ⟨found, there⟩ := has collection asked
    obtain ⟨-, -, -, -, row, -, held, under, written⟩ :=
      source_of_restored stored has (intoEmpty none) asked there read
    have isNamed : row.1 ≠ "" := named collection asked row.1 row.2.1
      ((get_eq_some_iff there row.1 row.2.1).mpr ⟨row.2, held, rfl⟩)
    rw [restoredId_rowDocument isNamed, server.textParam_str] at under
    rw [under]
    exact server.get_jsonb _ _ _ _ written (get_rowDocument row)
  · intro collection asked id absent
    obtain ⟨found, there⟩ := has collection asked
    obtain ⟨place, thereTarget⟩ := hasTarget collection asked
    have hasAfter : HasTables server (restoreFromJson server target backup.data
        { mode := some .overwrite } fun _ _ => "x").tables options.read :=
      (hasTables_kept stored).restoreFromJson hasTarget
    obtain ⟨now, thereNow⟩ := hasAfter collection asked
    rw [← intoTarget collection asked id, get_eq_none_iff thereNow,
      relation_of_table thereNow (table_eq_ok.mp thereTarget).1] at absent
    rw [get_eq_none_iff thereTarget]
    by_contra present
    exact row_stays present absent

/-- A backup is restored as it was exactly if every row has its id, and no other is there. -/
theorem pgRoundTrip_iff (server : PostgresServer) (tables : PgTables server)
    (options : PgBackupOptions) (target : PgTables server)
    (has : HasTables server tables options.read)
    (hasTarget : HasTables server target options.read) :
    PgRoundTrip server tables options target ↔ PgReproducible server tables options target := by
  constructor
  · exact reproducible_of_roundTrip has hasTarget
  · intro meets timestamp random
    obtain ⟨backup, stored⟩ := backupToJson_of_tables has timestamp
    refine ⟨backup, stored, ?_, ?_⟩
    · intro mode
      apply sameRows_of_own stored has meets.own meets.backedUp has.emptied _ rfl
      intro collection asked id _
      obtain ⟨found, there⟩ := has.emptied collection asked
      exact (get_eq_none_iff there id).mpr (rowAt_emptied _ _)
    · exact sameRows_of_own stored has meets.own meets.backedUp hasTarget meets.covered rfl

end

def plainServer : PostgresServer where
  relation := .ok
  textParam
    | .str text => text
    | value => "=" ++ value.toText
  jsonb := .ok
  textParam_str _ := rfl
  textParam_ne := by
    -- Only a text is sent without a mark.
    rintro (_ | _ | _ | _ | text | _ | _ | _) truthy
    case str => simpa using truthy
    all_goals simp
  jsonb_held _ _ _ := rfl
  get_jsonb := by
    rintro value _ key text ⟨⟩ named
    exact named

def eventsTable (rows : OrderedMap String (Jsonb plainServer)) : PgTables plainServer := fun name =>
  if name = "events" then some rows else none

def namedRow : OrderedMap String (Jsonb plainServer) :=
  ⟨[("e1", ⟨.obj [("id", .str "e1"), ("kind", .str "chat")], rfl⟩)], by simp⟩

theorem pgRoundTrip_of_namedRow :
    PgRoundTrip plainServer (eventsTable namedRow) { collections := some ["events"] }
      (eventsTable namedRow) := by
  have has : HasTables plainServer (eventsTable namedRow) ["events"] := by
    intro collection asked
    cases List.mem_singleton.mp asked
    exact ⟨("events", namedRow), rfl⟩
  refine (pgRoundTrip_iff plainServer _ { collections := some ["events"] } _ has has).mpr ?_
  constructor
  · intro collection asked _ _ _
    exact ⟨collection, asked, by cases List.mem_singleton.mp asked; decide, rfl⟩
  · intro collection asked id data read
    cases List.mem_singleton.mp asked
    have there : plainServer.table (eventsTable namedRow) "events" =
        .ok ("events", namedRow) := rfl
    obtain ⟨row, held, rfl⟩ := (get_eq_some_iff there id data).mp read
    have listed : (id, row) ∈ namedRow.entries := (mem_entries_iff rfl (id, row)).mpr held
    cases List.mem_singleton.mp listed
    exact ⟨by decide, rfl⟩
  · exact fun _ _ _ absent => absent

def unnamedRow : OrderedMap String (Jsonb plainServer) :=
  ⟨[("e1", ⟨.obj [("kind", .str "chat")], rfl⟩)], by simp⟩

/-- The id of a row is restored into its data as well. -/
theorem id_restored_into_data :
    plainServer.table (eventsTable unnamedRow) "events" = .ok ("events", unnamedRow) ∧
      ¬ PgRoundTrip plainServer (eventsTable unnamedRow) { collections := some ["events"] }
        (eventsTable OrderedMap.empty) := by
  refine ⟨rfl, ?_⟩
  intro law
  obtain ⟨backup, stored, intoEmpty, -⟩ := law "" fun _ _ => "x"
  cases stored
  have same := intoEmpty none "events" (List.mem_singleton.mpr rfl) "e1"
  cases same

end BitBrat
