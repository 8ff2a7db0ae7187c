import BitBrat.Backup.Serializer
import BitBrat.Machine.Returns

/-! The import of a backup into a database. -/

namespace BitBrat

open Js Machine

def BACKUP_FORMAT : String := "bitbrat.config-backup"

def SCHEMA_VERSION : Nat := 1

inductive BackupDocumentNode where
  | mk (id : String) (data : Value) (subcollections : List (String × List BackupDocumentNode))
    (missing : Bool)

structure BackupEnvelope where
  format : Value
  schemaVersion : Value
  registryVersion : Value
  /-- The documents of each collection, if there is a map of them. -/
  collections : Option (OrderedMap String (List BackupDocumentNode))

inductive ImportMode where
  | merge
  | overwrite
  | skip
  deriving DecidableEq

structure ImportOptions where
  mode : Option ImportMode := none
  collections : List String := []
  includeSecrets : Bool := false
  confirm : Bool := false

structure CollectionImportStats where
  created : Nat := 0
  updated : Nat := 0
  skipped : Nat := 0
  deriving DecidableEq

structure ImportResult where
  dryRun : Bool
  mode : ImportMode
  perCollection : List (String × CollectionImportStats)
  totalOps : Nat
  warnings : List String

abbrev FirestoreDatabase := String → Option (List (String × FirestoreValue))

structure DocumentWrite where
  path : String
  data : List (String × FirestoreValue)
  merge : Bool

mutual

/-- Fields put over a value: maps are put together, and anything else is replaced. -/
def mergeValue (stored : FirestoreValue) : FirestoreValue → FirestoreValue
  | .map (entry :: rest) =>
    match stored with
    | .map fields => .map (mergeFields fields (entry :: rest))
    | _ => .map (entry :: rest)
  -- An empty map replaces what is there, like any value that is no map.
  | other => other

def mergeFields (stored : List (String × FirestoreValue)) :
    List (String × FirestoreValue) → List (String × FirestoreValue)
  | [] => stored
  | (key, value) :: rest =>
    mergeFields (setEntry key (mergeValue ((stored.lookup key).getD .null) value) stored) rest

end

def FirestoreDatabase.write (db : FirestoreDatabase) (write : DocumentWrite) :
    FirestoreDatabase := fun path =>
  if path = write.path then
    match db path with
    | some stored => some (if write.merge then mergeFields stored write.data else write.data)
    | none => some write.data
  else db path

def FirestoreDatabase.perform (db : FirestoreDatabase) (writes : List DocumentWrite) :
    FirestoreDatabase :=
  writes.foldl FirestoreDatabase.write db

structure ImportEnv where
  sdk : FirestoreSdk
  db : FirestoreDatabase
  /-- Whether a read finds that a queued write has been performed. -/
  arrived : Nat → Nat → Bool
  mode : ImportMode
  dryRun : Bool

structure ImportState where
  queue : List DocumentWrite := []
  reads : Nat := 0
  totalOps : Nat := 0
  stats : CollectionImportStats := {}
  perCollection : List (String × CollectionImportStats) := []
  warnings : List String := []

abbrev Import := Program String ImportState

section

variable (env : ImportEnv)

def resolveDocument (docPath : String) : Import String :=
  ofExcept (match env.sdk.doc docPath with
    | some ref => .ok ref
    | none => .error "Value for argument \"documentPath\" must point to a document")

def ImportEnv.performed (state : ImportState) : List DocumentWrite :=
  (state.queue.zipIdx.filter fun queued => env.arrived state.reads queued.2).map Prod.fst

def ImportEnv.exists (state : ImportState) (ref : String) : Bool :=
  (env.db.perform (env.performed state) ref).isSome

/-- The write that data amounts to, if the database library takes it. -/
def acceptWrite (sdk : FirestoreSdk) (ref : String) (data : FirestoreValue) (merge : Bool) :
    Except String DocumentWrite :=
  match data with
  | .map fields =>
    if sdk.accepts fields then .ok { path := ref, data := fields, merge }
    else .error "Value for argument \"data\" is not a valid Firestore document."
  | _ => .error "Value for argument \"data\" is not a valid Firestore document."

/-- Give a write to the sink, which only counts it in a dry run. -/
def sinkSet (ref : String) (data : FirestoreValue) (merge : Bool) : Import Unit := do
  modify fun state => { state with totalOps := state.totalOps + 1 }
  if env.dryRun then pure ()
  else
    let write ← ofExcept (acceptWrite env.sdk ref data merge)
    modify fun state => { state with queue := state.queue ++ [write] }

def countDocument (change : CollectionImportStats → CollectionImportStats) : Import Unit :=
  modify fun state => { state with stats := change state.stats }

/-- Write the document of a node, unless it is to be skipped. -/
def importData (ref : String) (data : Value) : Import Unit := do
  let state ← get
  let there := env.exists state ref
  modify fun state => { state with reads := state.reads + 1 }
  if env.mode = .skip ∧ there then
    countDocument fun stats => { stats with skipped := stats.skipped + 1 }
  else
    let decoded ← ofExcept (decodeDocumentData env.sdk data)
    sinkSet env ref decoded (env.mode = .merge)
    if there then countDocument fun stats => { stats with updated := stats.updated + 1 }
    else countDocument fun stats => { stats with created := stats.created + 1 }

def forbiddenSubcollection (subId docPath : String) : String :=
  "Refusing to import forbidden subcollection '" ++ subId ++ "' under " ++ docPath ++ "."

mutual

/-- Import a document and what is below it, parents first. -/
def importNode (collectionPath : String) : BackupDocumentNode → Import Unit
  | .mk id data subcollections missing => do
    let docPath := collectionPath ++ "/" ++ id
    let ref ← resolveDocument env docPath
    -- A parent that is only a path is not written.
    if missing then pure () else importData env ref data
    importSubcollections docPath subcollections

def importSubcollections (docPath : String) :
    List (String × List BackupDocumentNode) → Import Unit
  | [] => pure ()
  | (subId, childNodes) :: rest => do
    if FORBIDDEN_PREFIXES.contains subId then
      ofExcept (.error (forbiddenSubcollection subId docPath))
    else importNodes (docPath ++ "/" ++ subId) childNodes
    importSubcollections docPath rest

def importNodes (collectionPath : String) : List BackupDocumentNode → Import Unit
  | [] => pure ()
  | node :: rest => do
    importNode collectionPath node
    importNodes collectionPath rest

end

end

/-- The collections of a backup, if it is one of this version. -/
def validateEnvelope (envelope : Option BackupEnvelope) :
    Except String (BackupEnvelope × OrderedMap String (List BackupDocumentNode)) :=
  match envelope with
  | none => .error "Backup file is not a valid JSON object."
  | some envelope =>
    if envelope.format ≠ .str BACKUP_FORMAT then
      .error ("Unexpected backup format '" ++ envelope.format.toText ++ "'; expected '" ++
        BACKUP_FORMAT ++ "'.")
    else if envelope.schemaVersion ≠ .num (.finite SCHEMA_VERSION) then
      .error ("Incompatible backup schemaVersion " ++ envelope.schemaVersion.toText ++
        "; this brat supports " ++ toString SCHEMA_VERSION ++ ".")
    else match envelope.collections with
      | none => .error "Backup envelope is missing a \"collections\" map."
      | some collections => .ok (envelope, collections)

def assertEnvelopeSafe (collections : OrderedMap String (List BackupDocumentNode)) :
    Except String Unit :=
  match (collections.entries.map Prod.fst).find? isForbiddenPath with
  | some path => .error ("Backup file contains a forbidden (log/event) collection path '" ++ path ++
      "'. Refusing to import.")
  | none => .ok ()

def registryVersionWarnings (envelope : BackupEnvelope) : List String :=
  match envelope.registryVersion with
  | .num version =>
    if version ≠ .finite REGISTRY_VERSION then
      ["Backup registryVersion " ++ version.toText ++ " != current " ++ toString REGISTRY_VERSION ++
        "; proceeding (values are re-validated)."]
    else []
  | _ => []

def importPaths (collections : OrderedMap String (List BackupDocumentNode))
    (options : ImportOptions) : List String :=
  let paths := collections.entries.map Prod.fst
  if options.collections = [] then paths else paths.filter options.collections.contains

def skippedSensitive (path : String) : String :=
  "Skipped sensitive collection '" ++ path ++ "' (use --include-secrets to import it)."

def importCollection (env : ImportEnv) (registry : List BackupCollectionSpec)
    (includeSecrets : Bool) (collections : OrderedMap String (List BackupDocumentNode))
    (path : String) : Import Unit :=
  if isForbiddenPath path then
    ofExcept (.error ("Refusing to import forbidden collection path '" ++ path ++ "'."))
  else if (findSpec path registry).any (·.sensitive) && !includeSecrets then
    modify fun state => { state with warnings := state.warnings ++ [skippedSensitive path] }
  else do
    modify fun state => { state with stats := {} }
    importNodes env path ((collections.get? path).getD [])
    modify fun state =>
      { state with perCollection := setEntry path state.stats state.perCollection }

def importEnv (sdk : FirestoreSdk) (db : FirestoreDatabase) (arrived : Nat → Nat → Bool)
    (options : ImportOptions) : ImportEnv where
  sdk := sdk
  db := db
  arrived := arrived
  mode := options.mode.getD .merge
  dryRun := !options.confirm

def importResult (env : ImportEnv) (state : ImportState) : ImportResult where
  dryRun := env.dryRun
  mode := env.mode
  perCollection := state.perCollection
  totalOps := state.totalOps
  warnings := state.warnings

def importConfig (sdk : FirestoreSdk) (db : FirestoreDatabase) (arrived : Nat → Nat → Bool)
    (envelope : Option BackupEnvelope) (options : ImportOptions)
    (registry : List BackupCollectionSpec) : Import ImportResult := do
  let (envelope, collections) ← ofExcept (validateEnvelope envelope)
  ofExcept (assertRegistrySafe registry)
  ofExcept (assertEnvelopeSafe collections)
  let env := importEnv sdk db arrived options
  modify fun state => { state with warnings := state.warnings ++ registryVersionWarnings envelope }
  (importPaths collections options).forM
    (importCollection env registry options.includeSecrets collections)
  let state ← get
  pure (importResult env state)

end BitBrat
