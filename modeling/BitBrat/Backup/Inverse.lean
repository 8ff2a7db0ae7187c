import BitBrat.Backup.ExportedItems
import BitBrat.Backup.SettledImport

/-! Whether an import gives back the database that was exported. -/

namespace BitBrat

open Js Machine

/-- The documents that an export reads, with the fields that it keeps of them. -/
def AllowedDocument (tree : FirestoreTree) (specs : List BackupCollectionSpec) (path : String)
    (fields : List (String × FirestoreValue)) : Prop :=
  ∃ spec ∈ specs, ∃ id below stored,
    path = joinPath (collectionSegments spec.path ++ id :: below) ∧
      tree.stored (collectionSegments spec.path ++ id :: below) = some stored ∧
        FollowsBelow spec (shouldRecurse spec) below ∧
          fields = keptFields spec.stripFields below stored

def exportedDocuments (tree : FirestoreTree) (specs : List BackupCollectionSpec) :
    List (String × List (String × FirestoreValue)) :=
  specs.flatMap fun spec => (visitedDocuments (specVisits tree spec)).map fun document =>
    (joinPath document.1, document.2)

section

variable {sdk : FirestoreSdk} {tree : FirestoreTree} (formed : tree.WellFormed sdk)
  {registry specs : List BackupCollectionSpec} (proper : IsRegistry specs)

theorem joinPath_injective {left right : List String} (leftPath : IsDocumentPath left)
    (rightPath : IsDocumentPath right) (same : joinPath left = joinPath right) : left = right := by
  have segments := congrArg collectionSegments same
  unfold joinPath at segments
  rwa [collectionSegments_joined leftPath.nonempty leftPath.segments,
    collectionSegments_joined rightPath.nonempty rightPath.segments] at segments

include formed proper

variable {spec : BackupCollectionSpec}

theorem mem_specVisits (member : spec ∈ specs) (path : List String)
    (fields : List (String × FirestoreValue)) :
    (path, fields) ∈ visitedDocuments (specVisits tree spec) ↔
      ∃ id below stored, path = collectionSegments spec.path ++ id :: below ∧
        tree.stored (collectionSegments spec.path ++ id :: below) = some stored ∧
          FollowsBelow spec (shouldRecurse spec) below ∧
            fields = keptFields spec.stripFields below stored := by
  obtain ⟨distinct, fine⟩ := wellFormed_listDocuments formed spec.path
  have odd := (proper.path spec member).odd
  simp only [stored_listDocuments tree spec.path _ _ odd]
  exact mem_documentsVisits (shouldRecurse spec) spec.stripFields _ path fields _ distinct fine

theorem mem_exportedDocuments (path : String) (fields : List (String × FirestoreValue)) :
    (path, fields) ∈ exportedDocuments tree specs ↔ AllowedDocument tree specs path fields := by
  simp only [exportedDocuments, List.mem_flatMap, List.mem_map, AllowedDocument]
  constructor
  · rintro ⟨spec, member, ⟨segments, kept⟩, visited, same⟩
    cases same
    obtain ⟨id, below, stored, rfl, found⟩ :=
      (mem_specVisits formed proper member segments kept).mp visited
    exact ⟨spec, member, id, below, stored, rfl, found⟩
  · rintro ⟨spec, member, id, below, stored, rfl, found⟩
    exact ⟨spec, member, (_, fields),
      (mem_specVisits formed proper member _ fields).mpr ⟨id, below, stored, rfl, found⟩, rfl⟩

omit formed proper in
theorem mem_visitedDocuments {visits : List Visit} {path : List String}
    {fields : List (String × FirestoreValue)} (member : (path, fields) ∈ visitedDocuments visits) :
    Visit.document path fields ∈ visits := by
  obtain ⟨visit, held, same⟩ := List.mem_filterMap.mp member
  cases visit with
  | document other kept =>
    cases same
    exact held
  | parent other => cases same

theorem isDocumentPath_of_mem (member : spec ∈ specs) :
    ∀ visit ∈ specVisits tree spec, IsDocumentPath visit.path :=
  isDocumentPath_of_documentsVisit spec (shouldRecurse spec) spec.stripFields
    (proper.path spec member) _ (wellFormed_listDocuments formed spec.path).2

theorem path_of_mem (member : spec ∈ specs) {path : List String}
    {fields : List (String × FirestoreValue)}
    (visited : (path, fields) ∈ visitedDocuments (specVisits tree spec)) :
    IsDocumentPath path ∧ collectionSegments spec.path <+: path := by
  refine ⟨isDocumentPath_of_mem formed proper member _ (mem_visitedDocuments visited), ?_⟩
  obtain ⟨id, below, stored, rfl, -⟩ := (mem_specVisits formed proper member path fields).mp visited
  exact List.prefix_append _ _

theorem nodup_exportedDocuments : ((exportedDocuments tree specs).map Prod.fst).Nodup := by
  -- The induction is on the collections, the paths of which are apart.
  induction specs with
  | nil => exact List.nodup_nil
  | cons spec rest ih =>
    have later := proper.of_sublist (List.sublist_cons_self spec rest)
    have here : spec ∈ spec :: rest := List.mem_cons_self
    unfold exportedDocuments
    rw [List.flatMap_cons, List.map_append, List.map_map]
    refine List.Nodup.append ?_ (ih later) ?_
    · obtain ⟨ids, fine⟩ := wellFormed_listDocuments formed spec.path
      have distinct : ((visitedDocuments (specVisits tree spec)).map Prod.fst).Nodup :=
        nodup_documentsVisits _ _ _ _ ids fine
      refine List.Nodup.map_on ?_ (List.Nodup.of_map _ distinct)
      rintro ⟨left, fields⟩ first ⟨right, others⟩ second same
      have paths : left = right := joinPath_injective (path_of_mem formed proper here first).1
        (path_of_mem formed proper here second).1 same
      subst paths
      exact Prod.ext rfl (List.inj_on_of_nodup_map distinct first second rfl ▸ rfl)
    · intro path first second
      obtain ⟨⟨left, fields⟩, visited, same⟩ := List.mem_map.mp first
      obtain ⟨⟨joined, kept⟩, listed, rfl⟩ := List.mem_map.mp second
      obtain ⟨other, member, visitedOther⟩ := List.mem_flatMap.mp listed
      obtain ⟨⟨right, others⟩, visitedOther, sameOther⟩ := List.mem_map.mp visitedOther
      obtain ⟨leftPath, leftPrefix⟩ := path_of_mem formed proper here visited
      obtain ⟨rightPath, rightPrefix⟩ := path_of_mem formed later member visitedOther
      cases sameOther
      have paths : left = right := joinPath_injective leftPath rightPath same
      subst paths
      -- Two collections with a common document are one below the other.
      obtain ⟨notLeft, notRight⟩ := (List.pairwise_cons.mp proper.apart).1 other member
      rcases List.prefix_or_prefix_of_prefix leftPrefix rightPrefix with below | above
      · exact notLeft below
      · exact notRight above

omit formed proper in
theorem fieldsWellFormed_filter (keep : String × FirestoreValue → Bool) :
    ∀ fields : List (String × FirestoreValue), FieldsWellFormed sdk fields →
      FieldsWellFormed sdk (fields.filter keep) := by
  intro fields formed
  induction fields with
  | nil => trivial
  | cons entry rest ih =>
    obtain ⟨fine, others⟩ := formed
    rw [List.filter_cons]
    split
    · exact ⟨fine, ih others⟩
    · exact ih others

omit proper in
theorem wellFormed_of_allowed {path : String} {fields : List (String × FirestoreValue)}
    (allowed : AllowedDocument tree specs path fields) :
    (FirestoreValue.map fields).WellFormed sdk ∧ sdk.accepts fields = true := by
  obtain ⟨spec, -, id, below, stored, -, found, -, rfl⟩ := allowed
  obtain ⟨⟨distinct, fine⟩, accepted⟩ :
      (FirestoreValue.map stored).WellFormed sdk ∧ sdk.accepts stored = true := by
    cases segments : collectionSegments spec.path ++ id :: below with
    | nil => simp at segments
    | cons collectionId rest =>
      rw [segments] at found
      exact wellFormed_documentAt (wellFormed_of_lookup formed.2 collectionId).2 found
  unfold keptFields
  split
  · exact ⟨⟨distinct.sublist (List.filter_sublist.map _), fieldsWellFormed_filter _ _ fine⟩,
      sdk.accepts_filter _ _ accepted⟩
  · exact ⟨⟨distinct, fine⟩, accepted⟩

def exportedItems (sdk : FirestoreSdk) (tree : FirestoreTree) (specs : List BackupCollectionSpec) :
    List ImportItem := specs.flatMap (specItems sdk tree)

theorem allowed_of_visited (member : spec ∈ specs) {path : List String}
    {fields : List (String × FirestoreValue)}
    (visited : .document path fields ∈ specVisits tree spec) :
    AllowedDocument tree specs (joinPath path) fields := by
  have document : (path, fields) ∈ visitedDocuments (specVisits tree spec) :=
    List.mem_filterMap.mpr ⟨_, visited, rfl⟩
  have listed : (joinPath path, fields) ∈ exportedDocuments tree specs :=
    List.mem_flatMap.mpr ⟨spec, member, List.mem_map_of_mem document⟩
  exact (mem_exportedDocuments formed proper _ fields).mp listed

omit proper in
theorem decodes_of_allowed {path : String} {fields : List (String × FirestoreValue)}
    (allowed : AllowedDocument tree specs path fields) :
    decodeDocumentData sdk (encodeDocumentData sdk fields) = .ok (.map fields) ↔
      (FirestoreValue.map fields).Restorable := by
  rw [encodeDocumentData_eq]
  exact decodeValue_encodeValue _ (wellFormed_of_allowed formed allowed).1

section

variable (kept : ∀ path fields, AllowedDocument tree specs path fields →
  (FirestoreValue.map fields).Restorable)

include kept

theorem ready_exportedItems : ∀ item ∈ exportedItems sdk tree specs, item.Ready sdk := by
  intro item member
  obtain ⟨spec, held, among⟩ := List.mem_flatMap.mp member
  simp only [specItems, List.cons_append, List.mem_cons, List.mem_append, List.mem_map,
    List.not_mem_nil, or_false] at among
  rcases among with rfl | ⟨visit, visited, rfl⟩ | rfl
  · trivial
  · have isPath := isDocumentPath_of_mem formed proper held visit visited
    have known : sdk.doc (joinPath visit.path) = some (joinPath visit.path) :=
      sdk.doc_joined _ isPath.nonempty isPath.even isPath.segments
    cases visit with
    | parent path => exact known
    | document path fields =>
      have allowed := allowed_of_visited formed proper held visited
      exact ⟨known, fields, (decodes_of_allowed formed allowed).mpr (kept _ fields allowed),
        (wellFormed_of_allowed formed allowed).2⟩
  · trivial

theorem documents_exportedItems :
    (exportedItems sdk tree specs).filterMap (·.document? sdk) = exportedDocuments tree specs := by
  have visits : ∀ visits : List Visit, (∀ path fields, .document path fields ∈ visits →
      decodeDocumentData sdk (encodeDocumentData sdk fields) = .ok (.map fields)) →
      (visits.map (Visit.item sdk)).filterMap (·.document? sdk) =
        (visitedDocuments visits).map fun document => (joinPath document.1, document.2) := by
    intro visits decodes
    induction visits with
    | nil => rfl
    | cons visit rest ih =>
      have later := ih fun path fields member => decodes path fields (List.mem_cons_of_mem _ member)
      cases visit with
      | parent path => simpa [Visit.item, ImportItem.document?] using later
      | document path fields =>
        have own := decodes path fields List.mem_cons_self
        simpa [Visit.item, ImportItem.document?, own] using later
  unfold exportedItems exportedDocuments
  rw [List.filterMap_flatMap]
  apply List.flatMap_congr
  intro spec member
  have inner := visits (specVisits tree spec) fun path fields visited =>
    (decodes_of_allowed formed (allowed_of_visited formed proper member visited)).mpr
      (kept _ fields (allowed_of_visited formed proper member visited))
  simp only [specItems, List.cons_append, List.filterMap_cons, List.filterMap_append,
    ImportItem.document?, List.filterMap_nil, List.append_nil]
  exact inner

end

end

def importOptions (options : ExportOptions) (mode : Option ImportMode) (confirm : Bool) :
    ImportOptions where
  mode := mode
  includeSecrets := options.includeSecrets
  confirm := confirm

def emptyDatabase : FirestoreDatabase := fun _ => none

def importInto (sdk : FirestoreSdk) (db : FirestoreDatabase) (arrived : Nat → Nat → Bool)
    (envelope : BackupEnvelope) (options : ExportOptions) (mode : Option ImportMode)
    (registry : List BackupCollectionSpec) : FirestoreDatabase :=
  db.perform
    (runImport sdk db arrived (some envelope) (importOptions options mode true) registry).2.queue

def reportedCounts (run : Except String ImportResult × ImportState) :
    Except String (List (String × CollectionImportStats) × Nat) :=
  run.1.map fun result => (result.perCollection, result.totalOps)

/-- The import of a backup gives back what was exported, a second one changes nothing, and a dry
run reports what a real one does. -/
structure InverseLaw (sdk : FirestoreSdk) (tree : FirestoreTree) (options : ExportOptions)
    (registry : List BackupCollectionSpec) (envelope : BackupEnvelope) : Prop where
  exact : ∀ arrived mode path fields,
    importInto sdk emptyDatabase arrived envelope options mode registry path = some fields ↔
      AllowedDocument tree (allowedSpecs options registry) path fields
  again : ∀ arrived mode later second,
    let imported := importInto sdk emptyDatabase arrived envelope options mode registry
    importInto sdk imported later envelope options second registry = imported
  dry : ∀ db arrived mode later,
    reportedCounts (runImport sdk db arrived (some envelope) (importOptions options mode false)
        registry) =
      reportedCounts (runImport sdk db later (some envelope) (importOptions options mode true)
        registry)

section

variable {sdk : FirestoreSdk} {tree : FirestoreTree} (formed : tree.WellFormed sdk)
  {registry : List BackupCollectionSpec} (proper : IsRegistry registry)
  {options : ExportOptions} {result : ExportResult}
  (exported : exportConfig sdk tree options registry = .ok result)

theorem IsRegistry.allowedSpecs {registry : List BackupCollectionSpec}
    (proper : IsRegistry registry) (options : ExportOptions) :
    IsRegistry (allowedSpecs options registry) :=
  proper.of_sublist (List.filter_sublist.trans List.filter_sublist)

include formed proper exported

section

variable (kept : ∀ path fields, AllowedDocument tree (allowedSpecs options registry) path fields →
  (FirestoreValue.map fields).Restorable)

include kept

theorem runImport_exported (db : FirestoreDatabase) (arrived : Nat → Nat → Bool)
    (mode : Option ImportMode) (confirm : Bool) : ∃ warnings,
      let env := importEnv sdk db arrived (importOptions options mode confirm)
      let state := (exportedItems sdk tree (allowedSpecs options registry)).foldl
        (ImportItem.settle env) { warnings }
      runImport sdk db arrived (some result.envelope) (importOptions options mode confirm)
          registry =
        (.ok (importResult env state), state) := by
  have items : checkedItems (some result.envelope) (importOptions options mode confirm) registry =
      .ok (exportedItems sdk tree (allowedSpecs options registry)) :=
    checkedItems_exportConfig formed proper exported mode confirm
  have run := runImport_eq sdk db arrived (some result.envelope)
    (importOptions options mode confirm) registry
  rw [items] at run
  obtain ⟨warnings, ran⟩ := run
  let env := importEnv sdk db arrived (importOptions options mode confirm)
  have properAllowed := proper.allowedSpecs options
  have settled : exec (runItems env (exportedItems sdk tree (allowedSpecs options registry)))
      { warnings } = (.ok (), (exportedItems sdk tree (allowedSpecs options registry)).foldl
        (ImportItem.settle env) { warnings }) := by
    apply exec_readyItems (ready_exportedItems formed properAllowed kept)
    · change (((exportedItems sdk tree _).filterMap (·.document? sdk)).map Prod.fst).Nodup
      rw [documents_exportedItems formed properAllowed kept]
      exact nodup_exportedDocuments formed properAllowed
    · intro write member
      cases member
  refine ⟨warnings, ?_⟩
  rw [ran]
  change (Except.map _ (exec (runItems env _) { warnings }).1, (exec (runItems env _) _).2) = _
  rw [settled]
  rfl

theorem queue_exported (db : FirestoreDatabase) (arrived : Nat → Nat → Bool)
    (mode : Option ImportMode) :
    (runImport sdk db arrived (some result.envelope) (importOptions options mode true)
      registry).2.queue = (exportedDocuments tree (allowedSpecs options registry)).filterMap
        (importEnv sdk db arrived (importOptions options mode true)).writeOf := by
  obtain ⟨warnings, ran⟩ := runImport_exported formed proper exported kept db arrived mode true
  rw [ran, queue_foldl_settle rfl, List.nil_append]
  change ((exportedItems sdk tree _).filterMap (·.document? sdk)).filterMap _ = _
  rw [documents_exportedItems formed (proper.allowedSpecs options) kept]

theorem importInto_exported (arrived : Nat → Nat → Bool) (mode : Option ImportMode)
    (path : String) (fields : List (String × FirestoreValue)) :
    importInto sdk emptyDatabase arrived result.envelope options mode registry path = some fields ↔
      AllowedDocument tree (allowedSpecs options registry) path fields := by
  have properAllowed := proper.allowedSpecs options
  have distinct := nodup_exportedDocuments formed properAllowed
  let env := importEnv sdk emptyDatabase arrived (importOptions options mode true)
  let write (document : String × List (String × FirestoreValue)) : DocumentWrite :=
    { path := document.1, data := document.2, merge := env.mode = .merge }
  -- Nothing is there to be skipped.
  have queue : (runImport sdk emptyDatabase arrived (some result.envelope)
      (importOptions options mode true) registry).2.queue =
        (exportedDocuments tree (allowedSpecs options registry)).map write := by
    rw [queue_exported formed proper exported kept, ← List.filterMap_eq_map]
    apply List.filterMap_congr
    intro document _
    exact if_neg (by simp [ImportEnv.stored, importEnv, emptyDatabase])
  rw [← mem_exportedDocuments formed properAllowed, importInto, queue]
  have paths : (((exportedDocuments tree (allowedSpecs options registry)).map write).map
      (·.path)).Nodup := by
    rw [List.map_map]
    exact distinct
  have written (document : String × List (String × FirestoreValue))
      (member : document ∈ exportedDocuments tree (allowedSpecs options registry)) :
      emptyDatabase.perform ((exportedDocuments tree (allowedSpecs options registry)).map write)
        document.1 = some document.2 :=
    perform_of_mem paths (List.mem_map_of_mem (f := write) member) rfl
  constructor
  · intro found
    by_cases listed : path ∈ (exportedDocuments tree (allowedSpecs options registry)).map Prod.fst
    · obtain ⟨document, member, rfl⟩ := List.mem_map.mp listed
      rw [written document member] at found
      cases found
      exact member
    · -- No document has this path.
      rw [perform_of_apart] at found
      · cases found
      · intro other member same
        obtain ⟨document, held, rfl⟩ := List.mem_map.mp member
        exact listed (same ▸ List.mem_map_of_mem held)
  · intro member
    exact written (path, fields) member

theorem inverseLaw_of_kept : InverseLaw sdk tree options registry result.envelope where
  exact := importInto_exported formed proper exported kept
  again := by
    intro arrived mode later second imported
    apply perform_of_idle
    intro write member
    rw [queue_exported formed proper exported kept] at member
    obtain ⟨⟨path, fields⟩, listed, wrote⟩ := List.mem_filterMap.mp member
    have allowed :=
      (mem_exportedDocuments formed (proper.allowedSpecs options) path fields).mp listed
    have there : imported path = some fields :=
      (importInto_exported formed proper exported kept arrived mode path fields).mpr allowed
    obtain ⟨distinct, fine⟩ := (wellFormed_of_allowed formed allowed).1
    have merged : mergeFields fields fields = fields := mergeFields_stored fields fields fine
      fun field held => lookup_of_mem distinct held
    unfold ImportEnv.writeOf at wrote
    split at wrote
    · cases wrote
    · cases wrote
      funext other
      by_cases same : other = path
      · subst same
        simp [FirestoreDatabase.write, there, merged]
      · simp [FirestoreDatabase.write, same]
  dry := by
    intro db arrived mode later
    obtain ⟨left, dryRun⟩ := runImport_exported formed proper exported kept db arrived mode false
    obtain ⟨right, realRun⟩ := runImport_exported formed proper exported kept db later mode true
    let env := importEnv sdk db later (importOptions options mode true)
    let dry := importEnv sdk db arrived (importOptions options mode false)
    have start : SameCounts { warnings := left } { warnings := right } := ⟨rfl, rfl, rfl, rfl⟩
    have sameSdk : dry.sdk = env.sdk := rfl
    obtain ⟨-, totalOps, -, perCollection⟩ := sameCounts_foldl_settle sameSdk rfl rfl
      (exportedItems sdk tree (allowedSpecs options registry)) start
    rw [dryRun, realRun]
    simp only [reportedCounts, Except.map, importResult]
    exact congrArg Except.ok (Prod.ext perCollection totalOps)

end

theorem kept_of_inverseLaw (law : InverseLaw sdk tree options registry result.envelope)
    {path : String} {fields : List (String × FirestoreValue)}
    (allowed : AllowedDocument tree (allowedSpecs options registry) path fields) :
    (FirestoreValue.map fields).Restorable := by
  have properAllowed := proper.allowedSpecs options
  -- An import that replaces documents shows what it decodes.
  have there := (law.exact (fun _ _ => false) (some .overwrite) path fields).mpr allowed
  let env := importEnv sdk emptyDatabase (fun _ _ => false)
    (importOptions options (some .overwrite) true)
  have run := runImport_eq sdk emptyDatabase (fun _ _ => false) (some result.envelope)
    (importOptions options (some .overwrite) true) registry
  have items : checkedItems (some result.envelope)
      (importOptions options (some .overwrite) true) registry =
        .ok (exportedItems sdk tree (allowedSpecs options registry)) :=
    checkedItems_exportConfig formed proper exported (some .overwrite) true
  rw [items] at run
  obtain ⟨warnings, ran⟩ := run
  have real : env.dryRun = false := rfl
  obtain ⟨writes, -⟩ := exec_runItems real
    (exportedItems sdk tree (allowedSpecs options registry)) { warnings }
  rw [importInto, ran] at there
  change emptyDatabase.perform (exec (runItems env _) { warnings }).2.queue path = _ at there
  -- Every write comes from a document that was visited.
  have source : ∀ write ∈ (exec (runItems env (exportedItems sdk tree
      (allowedSpecs options registry))) { warnings }).2.queue,
      write.merge = false ∧ ∃ visited, AllowedDocument tree (allowedSpecs options registry)
        write.path visited ∧ decodeDocumentData sdk (encodeDocumentData sdk visited) =
          .ok (.map write.data) := by
    intro write member
    rcases writes write member with old | ⟨item, among, wrote⟩
    · cases old
    · obtain ⟨spec, held, inside⟩ := List.mem_flatMap.mp among
      simp only [specItems, List.cons_append, List.mem_cons, List.mem_append, List.mem_map,
        List.not_mem_nil, or_false] at inside
      rcases inside with rfl | ⟨visit, visited, rfl⟩ | rfl
      · cases wrote
      · have isPath := isDocumentPath_of_mem formed properAllowed held visit visited
        have known : sdk.doc (joinPath visit.path) = some (joinPath visit.path) :=
          sdk.doc_joined _ isPath.nonempty isPath.even isPath.segments
        cases visit with
        | parent other =>
          simp only [Visit.path] at known
          simp [ImportItem.initially, ImportItem.outcome, Visit.item, written, env, importEnv,
            known] at wrote
        | document other kept =>
          have allowed := allowed_of_visited formed properAllowed held visited
          obtain ⟨refers, decodes, plain⟩ := written_document wrote
          have samePath : joinPath other = write.path := Option.some.inj (known.symm.trans refers)
          exact ⟨plain, kept, samePath ▸ allowed, decodes⟩
      · cases wrote
  rcases mem_of_perform (fun write member => (source write member).1) there with
    before | ⟨write, member, rfl, rfl⟩
  · cases before
  · obtain ⟨-, visited, same, decodes⟩ := source write member
    -- There is one document with this path.
    have equal : visited = write.data := by
      have distinct := nodup_exportedDocuments formed properAllowed
      have first := (mem_exportedDocuments formed properAllowed _ _).mpr same
      have second := (mem_exportedDocuments formed properAllowed _ _).mpr allowed
      exact congrArg Prod.snd (List.inj_on_of_nodup_map distinct first second rfl)
    rw [equal] at decodes
    exact (decodes_of_allowed formed allowed).mp decodes

end

theorem isRegistry_config : IsRegistry CONFIG_BACKUP_REGISTRY where
  path := by
    have all : ∀ spec ∈ CONFIG_BACKUP_REGISTRY,
        (collectionSegments spec.path).length % 2 = 1 ∧
        (∀ segment ∈ collectionSegments spec.path, IsSegment segment) ∧
        (collectionIds (collectionSegments spec.path)).any FORBIDDEN_PREFIXES.contains =
          false := by
      decide +kernel
    intro spec member
    obtain ⟨odd, segments, allowed⟩ := all spec member
    exact ⟨odd, segments, allowed⟩
  joined := by decide +kernel
  apart := by decide +kernel

/-- The import of a backup gives back what was exported exactly if a backup keeps all of it. -/
theorem inverseLaw_iff (sdk : FirestoreSdk) (tree : FirestoreTree) (formed : tree.WellFormed sdk)
    (options : ExportOptions) (result : ExportResult)
    (exported : exportConfig sdk tree options CONFIG_BACKUP_REGISTRY = .ok result) :
    InverseLaw sdk tree options CONFIG_BACKUP_REGISTRY result.envelope ↔
      ∀ path fields,
        AllowedDocument tree (allowedSpecs options CONFIG_BACKUP_REGISTRY) path fields →
          (FirestoreValue.map fields).Restorable := by
  constructor
  · intro law path fields allowed
    exact kept_of_inverseLaw formed isRegistry_config exported law allowed
  · intro kept
    exact inverseLaw_of_kept formed isRegistry_config exported kept

def sampleTree : FirestoreTree :=
  [("configs", [.mk "routingRules" none
      [("rules", [.mk "r1" (some [("__type", .str "rule")]) []])]]),
    ("users", [.mk "ada" (some [("at", .timestamp { seconds := 1, nanoseconds := 5000000 })])
      [("events", [.mk "e1" (some []) []])]])]

theorem inverseLaw_of_sampleTree :
    ∃ result, exportConfig plainSdk sampleTree {} CONFIG_BACKUP_REGISTRY = .ok result ∧
      InverseLaw plainSdk sampleTree {} CONFIG_BACKUP_REGISTRY result.envelope := by
  have formed : sampleTree.WellFormed plainSdk := by
    refine ⟨by decide, ?_⟩
    simp [sampleTree, CollectionsWellFormed, DocumentsWellFormed, FirestoreDocument.WellFormed,
      FirestoreValue.WellFormed, FieldsWellFormed, plainSdk, IsSegment, FirestoreDocument.id]
  refine ⟨_, rfl, ?_⟩
  refine (inverseLaw_iff plainSdk sampleTree formed {} _ rfl).mpr ?_
  intro path fields allowed
  have listed := (mem_exportedDocuments formed (isRegistry_config.allowedSpecs {}) path fields).mpr
    allowed
  have documents : exportedDocuments sampleTree (allowedSpecs {} CONFIG_BACKUP_REGISTRY) =
      [("users/ada", [("at", .timestamp { seconds := 1, nanoseconds := 5000000 })]),
        ("configs/routingRules/rules/r1", [("__type", .str "rule")])] := rfl
  rw [documents] at listed
  simp only [List.mem_cons, Prod.mk.injEq, List.not_mem_nil, or_false] at listed
  rcases listed with ⟨-, rfl⟩ | ⟨-, rfl⟩
  · exact ⟨rfl, by decide, rfl, trivial⟩
  · exact ⟨rfl, by decide, trivial, trivial⟩

def nanosecondTree : FirestoreTree := [("users", [.mk "ada" (some [("at", oneNanosecond)]) []])]

/-- The nanosecond of a document is not given back. -/
theorem nanosecond_not_restored :
    nanosecondTree.WellFormed plainSdk ∧
      ∃ result, exportConfig plainSdk nanosecondTree {} CONFIG_BACKUP_REGISTRY = .ok result ∧
        ¬ InverseLaw plainSdk nanosecondTree {} CONFIG_BACKUP_REGISTRY result.envelope := by
  have formed : nanosecondTree.WellFormed plainSdk := by
    refine ⟨by decide, ?_⟩
    simp [nanosecondTree, CollectionsWellFormed, DocumentsWellFormed, FirestoreDocument.WellFormed,
      FirestoreValue.WellFormed, FieldsWellFormed, plainSdk, IsSegment, FirestoreDocument.id,
      oneNanosecond]
  refine ⟨formed, _, rfl, ?_⟩
  intro law
  have listed : ("users/ada", [("at", oneNanosecond)]) ∈
      exportedDocuments nanosecondTree (allowedSpecs {} CONFIG_BACKUP_REGISTRY) :=
    List.mem_singleton.mpr rfl
  have allowed := (mem_exportedDocuments formed (isRegistry_config.allowedSpecs {}) _ _).mp listed
  obtain ⟨-, -, whole, -⟩ := kept_of_inverseLaw formed isRegistry_config rfl law allowed
  change (0 + 1) % 1000000 = 0 at whole
  cases whole

end BitBrat
