import BitBrat.Js.Value

/-! The tables of the document store on PostgreSQL, and their backup as JSON. -/

namespace BitBrat

open Js

structure PostgresServer where
  relation : String → Except String String
  textParam : Value → String
  /-- What a column of JSON values holds after a value was written to it. -/
  jsonb : Value → Except String Value
  textParam_str : ∀ text, textParam (.str text) = text
  textParam_ne : ∀ value, value.truthy = true → textParam value ≠ ""
  /-- A value that such a column holds is written back as it is. -/
  jsonb_held : ∀ value held, jsonb value = .ok held → jsonb held = .ok held
  get_jsonb : ∀ value held key text,
    jsonb value = .ok held → value.get key = .str text → held.get key = .str text

abbrev Jsonb (server : PostgresServer) := { data : Value // server.jsonb data = .ok data }

abbrev PgTable (server : PostgresServer) := OrderedMap String (Jsonb server)

abbrev PgTables (server : PostgresServer) := String → Option (PgTable server)

def isCollectionChar (char : Char) : Bool := char.isAlphanum || char = '_' || char = '-'

def sanitizeCollectionName (name : String) : Except String String :=
  if name.toList ≠ [] ∧ name.toList.all isCollectionChar then .ok name
  else .error ("Invalid collection name: " ++ name)

namespace PostgresServer

variable (server : PostgresServer)

def relationOf (collection : String) : Except String String := do
  let name ← sanitizeCollectionName collection
  server.relation name

/-- The table of a collection, with the name of its relation. -/
def table (tables : PgTables server) (collection : String) :
    Except String (String × PgTable server) := do
  let relation ← server.relationOf collection
  match tables relation with
  | some table => .ok (relation, table)
  | none => .error ("relation \"" ++ relation ++ "\" does not exist")

/-- The data of the document with an id, if there is one. -/
def get (tables : PgTables server) (collection id : String) : Except String (Option Value) := do
  let (_, table) ← server.table tables collection
  .ok ((table.get? id).map (·.1))

/-- What is under an index or a name of a value, when it is spread into an object. -/
def spreadFields : Value → List (String × Value)
  | .obj fields => fields
  | .arr items => items.zipIdx.map fun item => (toString item.2, item.1)
  | .str text =>
    text.toList.zipIdx.map fun char => (toString char.2, .str (String.singleton char.1))
  | _ => []

/-- A row as a query returns it, with the id of the table merged into the data. -/
def rowDocument (row : String × Jsonb server) : Value :=
  .obj (setEntry "id" (.str row.1) (spreadFields row.2.1))

def getAll (tables : PgTables server) (collection : String) : Except String (List Value) := do
  let (_, table) ← server.table tables collection
  .ok (table.entries.map server.rowDocument)

def set (tables : PgTables server) (collection : String) (id data : Value) :
    Except String (PgTables server) := do
  let (relation, table) ← server.table tables collection
  match written : server.jsonb data with
  | .error reason => .error reason
  | .ok held =>
    let row : Jsonb server := ⟨held, server.jsonb_held data held written⟩
    .ok (Function.update tables relation (some (table.set (server.textParam id) row)))

end PostgresServer

def DEFAULT_COLLECTIONS : List String :=
  ["events", "routing_rules", "snapshots", "sources", "state", "mutation_log", "context_packs",
    "service_registry", "auth_users", "auth_scopes", "user_state", "global_state", "sessions",
    "conversation_history", "llm_responses", "integration_configs", "metrics"]

structure PgBackupOptions where
  collections : Option (List String) := none
  compress : Bool := false

def PgBackupOptions.read (options : PgBackupOptions) : List String :=
  options.collections.getD DEFAULT_COLLECTIONS

structure PgBackupMetadata where
  timestamp : String
  collections : Nat
  totalDocuments : Nat
  format : String := "json"
  compressed : Bool

structure BackupToJsonResult where
  data : OrderedMap String (List Value)
  metadata : PgBackupMetadata

/-- Assign a property of an object, where the name of the prototype sets none. -/
def assignCollection (data : OrderedMap String (List Value)) (collection : String)
    (docs : List Value) : OrderedMap String (List Value) :=
  if collection = "__proto__" then data else data.set collection docs

def backupCollections (server : PostgresServer) (tables : PgTables server) :
    List String → OrderedMap String (List Value) → Nat →
      Except String (OrderedMap String (List Value) × Nat)
  | [], data, totalDocuments => .ok (data, totalDocuments)
  | collection :: rest, data, totalDocuments => do
    let docs ← server.getAll tables collection
    backupCollections server tables rest (assignCollection data collection docs)
      (totalDocuments + docs.length)

def backupToJson (server : PostgresServer) (tables : PgTables server) (options : PgBackupOptions)
    (timestamp : String) : Except String BackupToJsonResult := do
  let (data, totalDocuments) ← backupCollections server tables options.read OrderedMap.empty 0
  .ok {
    data
    metadata := {
      timestamp
      collections := options.read.length
      totalDocuments
      compressed := options.compress } }

inductive RestoreMode where
  | merge
  | overwrite
  deriving DecidableEq

structure PgRestoreOptions where
  dryRun : Bool := false
  mode : Option RestoreMode := none

/-- A database during a restore, and how many documents were written to it or failed. -/
structure PgRestore (server : PostgresServer) where
  tables : PgTables server
  restored : Nat := 0
  errors : Nat := 0

section

variable (server : PostgresServer)

/-- The id that a document is restored under, which is drawn when the document names none. -/
def restoredId (doc : Value) (drawn : String) : Value :=
  ((doc.get "id").or (doc.get "_id")).or (.str drawn)

def writeDocument (tables : PgTables server) (collection : String) (doc : Value)
    (drawn : String) : Except String (PgTables server) :=
  match doc with
  | .undefined => .error "Cannot read properties of undefined (reading 'id')"
  | .null => .error "Cannot read properties of null (reading 'id')"
  | doc => server.set tables collection (restoredId doc drawn) doc

/-- Restore one document, where a failure is only counted. -/
def restoreDocument (collection : String) (random : Nat → String) (state : PgRestore server)
    (doc : Value × Nat) : PgRestore server :=
  match writeDocument server state.tables collection doc.1 (random doc.2) with
  | .ok tables => { state with tables, restored := state.restored + 1 }
  | .error _ => { state with errors := state.errors + 1 }

/-- Restore the documents of one collection, over what is there in either mode. -/
def restoreCollection (options : PgRestoreOptions) (random : String → Nat → String)
    (state : PgRestore server) (entry : String × List Value) : PgRestore server :=
  if options.dryRun then { state with restored := state.restored + entry.2.length }
  -- Overwriting clears nothing, as the store cannot.
  else entry.2.zipIdx.foldl (restoreDocument server entry.1 (random entry.1)) state

/-- Restore a backup, where every id that is missing is drawn at random. -/
def restoreFromJson (tables : PgTables server) (data : OrderedMap String (List Value))
    (options : PgRestoreOptions) (random : String → Nat → String) : PgRestore server :=
  data.entries.foldl (restoreCollection server options random) { tables }

end

end BitBrat
