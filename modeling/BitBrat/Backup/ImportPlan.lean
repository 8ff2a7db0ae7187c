import BitBrat.Backup.Import

/-! An import as a list of things to do, one after the other. -/

namespace BitBrat

open Js Machine

inductive ImportItem where
  /-- A document is read, and written unless it is skipped. -/
  | document (docPath : String) (data : Value)
  | parent (docPath : String)
  | barred (message : String)
  | leftOut (path : String)
  | opened
  | closed (path : String)

mutual

def nodeItems (collectionPath : String) : BackupDocumentNode → List ImportItem
  | .mk id data subcollections missing =>
    let docPath := collectionPath ++ "/" ++ id
    (if missing then .parent docPath else .document docPath data) ::
      subcollectionItems docPath subcollections

def subcollectionItems (docPath : String) :
    List (String × List BackupDocumentNode) → List ImportItem
  | [] => []
  | (subId, childNodes) :: rest =>
    (if FORBIDDEN_PREFIXES.contains subId then [.barred (forbiddenSubcollection subId docPath)]
      else nodesItems (docPath ++ "/" ++ subId) childNodes) ++ subcollectionItems docPath rest

def nodesItems (collectionPath : String) : List BackupDocumentNode → List ImportItem
  | [] => []
  | node :: rest => nodeItems collectionPath node ++ nodesItems collectionPath rest

end

def collectionItems (registry : List BackupCollectionSpec) (includeSecrets : Bool)
    (collections : OrderedMap String (List BackupDocumentNode)) (path : String) :
    List ImportItem :=
  if isForbiddenPath path then
    [.barred ("Refusing to import forbidden collection path '" ++ path ++ "'.")]
  else if (findSpec path registry).any (·.sensitive) && !includeSecrets then [.leftOut path]
  else .opened :: nodesItems path ((collections.get? path).getD []) ++ [.closed path]

def importItems (registry : List BackupCollectionSpec)
    (collections : OrderedMap String (List BackupDocumentNode)) (options : ImportOptions) :
    List ImportItem :=
  (importPaths collections options).flatMap
    (collectionItems registry options.includeSecrets collections)

section

variable (env : ImportEnv)

def runItem : ImportItem → Import Unit
  | .document docPath data => do
    let ref ← resolveDocument env docPath
    importData env ref data
  | .parent docPath => do
    let _ ← resolveDocument env docPath
  | .barred message => ofExcept (.error message)
  | .leftOut path =>
    modify fun state => { state with warnings := state.warnings ++ [skippedSensitive path] }
  | .opened => modify fun state => { state with stats := {} }
  | .closed path =>
    modify fun state =>
      { state with perCollection := setEntry path state.stats state.perCollection }

def runItems (items : List ImportItem) : Import Unit := items.forM (runItem env)

@[simp] theorem runItems_nil : runItems env [] = pure () := rfl

@[simp] theorem runItems_cons (item : ImportItem) (rest : List ImportItem) :
    runItems env (item :: rest) = (do runItem env item; runItems env rest) := rfl

theorem runItems_append (first second : List ImportItem) :
    runItems env (first ++ second) = (do runItems env first; runItems env second) := by
  simp [runItems, List.forM_append]

mutual

theorem importNode_eq (collectionPath : String) : ∀ node : BackupDocumentNode,
    importNode env collectionPath node = runItems env (nodeItems collectionPath node)
  | .mk id data subcollections missing => by
    have below := importSubcollections_eq (collectionPath ++ "/" ++ id) subcollections
    unfold importNode nodeItems
    cases missing with
    | true => simp [runItem, below]
    | false => simp [runItem, below]

theorem importSubcollections_eq (docPath : String) :
    ∀ subcollections : List (String × List BackupDocumentNode),
      importSubcollections env docPath subcollections =
        runItems env (subcollectionItems docPath subcollections)
  | [] => by simp [importSubcollections, subcollectionItems]
  | (subId, childNodes) :: rest => by
    have first := importNodes_eq (docPath ++ "/" ++ subId) childNodes
    have later := importSubcollections_eq docPath rest
    unfold importSubcollections subcollectionItems
    rw [runItems_append, later, first]
    split
    · simp [runItem]
    · rfl

theorem importNodes_eq (collectionPath : String) : ∀ nodes : List BackupDocumentNode,
    importNodes env collectionPath nodes = runItems env (nodesItems collectionPath nodes)
  | [] => by simp [importNodes, nodesItems]
  | node :: rest => by
    have first := importNode_eq collectionPath node
    have later := importNodes_eq collectionPath rest
    unfold importNodes nodesItems
    rw [runItems_append, later, first]

end

theorem importCollection_eq (registry : List BackupCollectionSpec) (includeSecrets : Bool)
    (collections : OrderedMap String (List BackupDocumentNode)) (path : String) :
    importCollection env registry includeSecrets collections path =
      runItems env (collectionItems registry includeSecrets collections path) := by
  unfold importCollection collectionItems
  split
  · simp [runItem]
  · split
    · simp [runItem]
    · rw [List.cons_append, runItems_cons, runItems_append, importNodes_eq]
      simp [runItem]

theorem importCollections_eq (registry : List BackupCollectionSpec)
    (collections : OrderedMap String (List BackupDocumentNode)) (options : ImportOptions) :
    (importPaths collections options).forM
        (importCollection env registry options.includeSecrets collections) =
      runItems env (importItems registry collections options) := by
  unfold importItems
  induction importPaths collections options with
  | nil => rfl
  | cons path rest ih =>
    rw [List.flatMap_cons, runItems_append, ← ih, ← importCollection_eq]
    rfl

end

def CollectionImportStats.count (stats : CollectionImportStats) (there : Bool) :
    CollectionImportStats :=
  if there then { stats with updated := stats.updated + 1 }
  else { stats with created := stats.created + 1 }

/-- The state after a document that can be written, and that was or was not there. -/
def ImportEnv.afterDocument (env : ImportEnv) (ref : String)
    (fields : List (String × FirestoreValue)) (there : Bool) (state : ImportState) : ImportState :=
  if env.mode = .skip ∧ there then
    { state with
      reads := state.reads + 1
      stats := { state.stats with skipped := state.stats.skipped + 1 } }
  else
    { state with
      queue := if env.dryRun then state.queue
        else state.queue ++ [{ path := ref, data := fields, merge := env.mode = .merge }]
      reads := state.reads + 1
      totalOps := state.totalOps + 1
      stats := state.stats.count there }

theorem exec_document {env : ImportEnv} {docPath ref : String} {data : Value}
    {fields : List (String × FirestoreValue)} (known : env.sdk.doc docPath = some ref)
    (decodes : decodeDocumentData env.sdk data = .ok (.map fields))
    (accepted : env.sdk.accepts fields = true) (state : ImportState) :
    exec (runItem env (.document docPath data)) state =
      (.ok (), env.afterDocument ref fields (env.exists state ref) state) := by
  simp only [runItem, resolveDocument, known, exec_bind, exec_ofExcept, importData, exec_get,
    exec_modify, ImportEnv.afterDocument]
  by_cases skip : env.mode = .skip ∧ env.exists state ref
  · rw [if_pos skip, if_pos skip]
    rfl
  · rw [if_neg skip, if_neg skip]
    simp only [exec_bind, exec_ofExcept, decodes, sinkSet, exec_modify, acceptWrite, accepted,
      ↓reduceIte]
    -- A dry run counts what a real run queues.
    cases env.dryRun
    all_goals
      simp only [Bool.false_eq_true, ↓reduceIte, exec_bind, exec_ofExcept, exec_modify, exec_pure,
        CollectionImportStats.count]
      split <;> rfl

end BitBrat
