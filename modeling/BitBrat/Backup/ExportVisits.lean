import BitBrat.Backup.ImportPlan

/-! The export of a database into a backup. -/

namespace BitBrat

open Js

/-- A document of a database with what is below it, or a parent that is only a path. -/
inductive FirestoreDocument where
  | mk (id : String) (data : Option (List (String × FirestoreValue)))
    (collections : List (String × List FirestoreDocument))

def FirestoreDocument.id : FirestoreDocument → String
  | .mk id _ _ => id

/-- The collections of a database, with all documents that are there or have something below. -/
abbrev FirestoreTree := List (String × List FirestoreDocument)

structure ExportOptions where
  collections : List String := []
  includeSecrets : Bool := false

structure ExportResult where
  envelope : BackupEnvelope
  documentCount : Nat

/-- The subcollections are exported unless the registry says otherwise. -/
def shouldRecurse (spec : BackupCollectionSpec) : Bool := spec.recurseSubcollections ≠ some false

/-- The fields of a document without those that are not exported. -/
def applyStripFields (data : List (String × FirestoreValue)) (stripFields : List String) :
    List (String × FirestoreValue) :=
  data.filter fun field => !stripFields.contains field.1

section

variable (sdk : FirestoreSdk) (spec : BackupCollectionSpec)

def skipsSubcollection (docPath subId : String) : Bool :=
  spec.subcollections.any (fun allowed => !allowed.contains subId) ||
    FORBIDDEN_PREFIXES.contains subId || isForbiddenPath (docPath ++ "/" ++ subId)

mutual

/-- Export a document and what is below it, and count the documents that exist. -/
def exportDocument (recurse : Bool) (stripFields : List String) (collectionPath : String) :
    FirestoreDocument → Nat → Option BackupDocumentNode × Nat
  | .mk id data collections, counter =>
    let docPath := collectionPath ++ "/" ++ id
    let (subcollections, counter) :=
      if recurse then exportSubcollections docPath collections counter else ([], counter)
    match data with
    | some fields =>
      (some (.mk id (encodeDocumentData sdk (applyStripFields fields stripFields)) subcollections
        false), counter + 1)
    | none =>
      -- A parent without anything to export below it is dropped.
      if subcollections.isEmpty then (none, counter)
      else (some (.mk id (.obj []) subcollections true), counter)

def exportSubcollections (docPath : String) :
    List (String × List FirestoreDocument) → Nat → List (String × List BackupDocumentNode) × Nat
  | [], counter => ([], counter)
  | (subId, docs) :: rest, counter =>
    if skipsSubcollection spec docPath subId then exportSubcollections docPath rest counter
    else
      let (childNodes, counter) :=
        exportCollectionDocs true [] (docPath ++ "/" ++ subId) docs counter
      let (others, counter) := exportSubcollections docPath rest counter
      -- An assignment to the name of the prototype sets no property.
      (if childNodes.isEmpty || subId = "__proto__" then others else (subId, childNodes) :: others,
        counter)

def exportCollectionDocs (recurse : Bool) (stripFields : List String) (collectionPath : String) :
    List FirestoreDocument → Nat → List BackupDocumentNode × Nat
  | [], counter => ([], counter)
  | doc :: rest, counter =>
    let (node, counter) := exportDocument recurse stripFields collectionPath doc counter
    let (others, counter) :=
      exportCollectionDocs recurse stripFields collectionPath rest counter
    (node.toList ++ others, counter)

end

end

/-- The documents of a collection of a database, by the segments below the first collection. -/
def documentsBelow (docs : List FirestoreDocument) : List String → List FirestoreDocument
  | id :: collectionId :: rest =>
    match docs.find? (·.id = id) with
    | some (.mk _ _ collections) => documentsBelow ((collections.lookup collectionId).getD []) rest
    | none => []
  | _ => docs

/-- The documents of a collection of a database, by its path. -/
def listDocuments (tree : FirestoreTree) (path : String) : List FirestoreDocument :=
  match collectionSegments path with
  | [] => []
  | collectionId :: rest => documentsBelow ((tree.lookup collectionId).getD []) rest

def exportSpecs (options : ExportOptions) (registry : List BackupCollectionSpec) :
    Except String (List BackupCollectionSpec) :=
  if options.collections = [] then .ok registry
  else
    let unknown := options.collections.filter fun path => !registry.any (·.path = path)
    if unknown ≠ [] then
      .error ("Unknown collection(s) not in the backup registry: " ++ ", ".intercalate unknown)
    else .ok (registry.filter fun spec => options.collections.contains spec.path)

def exportCollections (sdk : FirestoreSdk) (tree : FirestoreTree) (includeSecrets : Bool) :
    List BackupCollectionSpec → OrderedMap String (List BackupDocumentNode) → Nat →
      Except String (OrderedMap String (List BackupDocumentNode) × Nat)
  | [], collections, counter => .ok (collections, counter)
  | spec :: rest, collections, counter =>
    if spec.sensitive && !includeSecrets then
      exportCollections sdk tree includeSecrets rest collections counter
    else if isForbiddenPath spec.path then
      .error ("Refusing to export forbidden collection path '" ++ spec.path ++ "'")
    else
      let (nodes, counter) := exportCollectionDocs sdk spec (shouldRecurse spec) spec.stripFields
        spec.path (listDocuments tree spec.path) counter
      exportCollections sdk tree includeSecrets rest (collections.set spec.path nodes) counter

def exportConfig (sdk : FirestoreSdk) (tree : FirestoreTree) (options : ExportOptions)
    (registry : List BackupCollectionSpec) : Except String ExportResult := do
  assertRegistrySafe registry
  let specs ← exportSpecs options registry
  let (collections, documentCount) ←
    exportCollections sdk tree options.includeSecrets specs OrderedMap.empty 0
  .ok {
    envelope := {
      format := .str BACKUP_FORMAT
      schemaVersion := .num (.finite SCHEMA_VERSION)
      registryVersion := .num (.finite REGISTRY_VERSION)
      collections := some collections }
    documentCount }

/-! What an export visits, as a list, and what an import makes of it. -/

def IsSegment (segment : String) : Prop := segment ≠ "" ∧ '/' ∉ segment.toList

instance (segment : String) : Decidable (IsSegment segment) :=
  inferInstanceAs (Decidable (_ ∧ _))

mutual

def FirestoreDocument.WellFormed (sdk : FirestoreSdk) : FirestoreDocument → Prop
  | .mk id data collections =>
    IsSegment id ∧
      (∀ fields, data = some fields →
        (FirestoreValue.map fields).WellFormed sdk ∧ sdk.accepts fields = true) ∧
      (collections.map Prod.fst).Nodup ∧ CollectionsWellFormed sdk collections

/-- Collections as a database can hold them, apart from each other. -/
def CollectionsWellFormed (sdk : FirestoreSdk) : List (String × List FirestoreDocument) → Prop
  | [] => True
  | (collectionId, docs) :: rest =>
    IsSegment collectionId ∧ collectionId ≠ "__proto__" ∧
      (docs.map FirestoreDocument.id).Nodup ∧ DocumentsWellFormed sdk docs ∧
      CollectionsWellFormed sdk rest

/-- Documents as a collection can hold them, apart from each other. -/
def DocumentsWellFormed (sdk : FirestoreSdk) : List FirestoreDocument → Prop
  | [] => True
  | doc :: rest => doc.WellFormed sdk ∧ DocumentsWellFormed sdk rest

end

def joinPath (segments : List String) : String := "/".intercalate segments

structure IsCollectionPath (path : List String) : Prop where
  odd : path.length % 2 = 1
  segments : ∀ segment ∈ path, IsSegment segment
  allowed : (collectionIds path).any FORBIDDEN_PREFIXES.contains = false

/-- A document that is exported with its fields, or a parent that is only a path. -/
inductive Visit where
  | document (path : List String) (fields : List (String × FirestoreValue))
  | parent (path : List String)

def Visit.path : Visit → List String
  | .document path _ => path
  | .parent path => path

structure IsDocumentPath (path : List String) : Prop where
  nonempty : path ≠ []
  even : path.length % 2 = 0
  segments : ∀ segment ∈ path, IsSegment segment

def Visit.item (sdk : FirestoreSdk) : Visit → ImportItem
  | .document path fields => .document (joinPath path) (encodeDocumentData sdk fields)
  | .parent path => .parent (joinPath path)

def visitedDocuments (visits : List Visit) : List (List String × List (String × FirestoreValue)) :=
  visits.filterMap fun
    | .document path fields => some (path, fields)
    | .parent _ => none

@[simp] theorem visitedDocuments_nil : visitedDocuments [] = [] := rfl

@[simp] theorem visitedDocuments_document (path : List String)
    (fields : List (String × FirestoreValue)) (rest : List Visit) :
    visitedDocuments (.document path fields :: rest) = (path, fields) :: visitedDocuments rest :=
  rfl

@[simp] theorem visitedDocuments_parent (path : List String) (rest : List Visit) :
    visitedDocuments (.parent path :: rest) = visitedDocuments rest := rfl

@[simp] theorem visitedDocuments_append (first second : List Visit) :
    visitedDocuments (first ++ second) = visitedDocuments first ++ visitedDocuments second :=
  List.filterMap_append

def follows (spec : BackupCollectionSpec) (subId : String) : Bool :=
  spec.subcollections.all (·.contains subId) && !FORBIDDEN_PREFIXES.contains subId

section

variable (spec : BackupCollectionSpec)

mutual

def documentVisits (recurse : Bool) (stripFields base : List String) :
    FirestoreDocument → List Visit
  | .mk id data collections =>
    let path := base ++ [id]
    let below := if recurse then collectionsVisits path collections else []
    match data with
    | some fields => .document path (applyStripFields fields stripFields) :: below
    | none => if below.isEmpty then [] else .parent path :: below

def collectionsVisits (path : List String) : List (String × List FirestoreDocument) → List Visit
  | [] => []
  | (subId, docs) :: rest =>
    (if follows spec subId then documentsVisits true [] (path ++ [subId]) docs else []) ++
      collectionsVisits path rest

def documentsVisits (recurse : Bool) (stripFields base : List String) :
    List FirestoreDocument → List Visit
  | [] => []
  | doc :: rest =>
    documentVisits recurse stripFields base doc ++ documentsVisits recurse stripFields base rest

end

end

theorem collectionIds_append : ∀ {path : List String} (rest : List String),
    path.length % 2 = 0 → collectionIds (path ++ rest) = collectionIds path ++ collectionIds rest
  | [], rest, _ => rfl
  | [_], _, odd => by cases odd
  | collectionId :: id :: path, rest, even => by
    have later : path.length % 2 = 0 := by
      simp only [List.length_cons] at even
      omega
    simp only [List.cons_append, collectionIds, collectionIds_append rest later]

theorem collectionIds_document : ∀ {path : List String} (id : String),
    path.length % 2 = 1 → collectionIds (path ++ [id]) = collectionIds path
  | [], _, odd => by cases odd
  | [_], _, _ => rfl
  | collectionId :: id :: path, last, odd => by
    have later : path.length % 2 = 1 := by
      simp only [List.length_cons] at odd
      omega
    simp only [List.cons_append, collectionIds, collectionIds_document last later]

theorem joinPath_append {path : List String} (nonempty : path ≠ []) (segment : String) :
    joinPath (path ++ [segment]) = joinPath path ++ "/" ++ segment := by
  unfold joinPath
  rw [String.intercalate_append_of_ne_nil nonempty (List.cons_ne_nil _ _),
    String.intercalate_singleton]

namespace IsCollectionPath

variable {base : List String} (path : IsCollectionPath base)

include path

theorem ne_nil : base ≠ [] := by
  rintro rfl
  cases path.odd

theorem append {id subId : String} (document : IsSegment id) (collection : IsSegment subId)
    (allowed : FORBIDDEN_PREFIXES.contains subId = false) :
    IsCollectionPath (base ++ [id] ++ [subId]) where
  odd := by
    have := path.odd
    simp only [List.length_append, List.length_singleton]
    omega
  segments := by
    intro segment member
    simp only [List.mem_append, List.mem_singleton] at member
    rcases member with (held | rfl) | rfl
    · exact path.segments segment held
    · exact document
    · exact collection
  allowed := by
    have even : (base ++ [id]).length % 2 = 0 := by
      have := path.odd
      simp only [List.length_append, List.length_singleton]
      omega
    rw [collectionIds_append [subId] even, collectionIds_document id path.odd, List.any_append,
      path.allowed]
    simpa [collectionIds] using allowed

theorem document {id : String} (document : IsSegment id) : IsDocumentPath (base ++ [id]) where
  nonempty := by simp
  even := by
    have := path.odd
    simp only [List.length_append, List.length_singleton]
    omega
  segments := by
    intro segment member
    simp only [List.mem_append, List.mem_singleton] at member
    rcases member with held | rfl
    · exact path.segments segment held
    · exact document

private theorem skipsSubcollection (spec : BackupCollectionSpec) {id subId : String}
    (document : IsSegment id) (collection : IsSegment subId) :
    skipsSubcollection spec (joinPath (base ++ [id])) subId = !follows spec subId := by
  have nonempty : base ++ [id] ≠ [] := by simp
  unfold BitBrat.skipsSubcollection follows
  cases forbidden : FORBIDDEN_PREFIXES.contains subId with
  | true => simp
  | false =>
    -- The path to the subcollection has no forbidden collection either.
    have longer := path.append document collection forbidden
    have segments : collectionSegments (joinPath (base ++ [id] ++ [subId])) =
        base ++ [id] ++ [subId] := collectionSegments_joined longer.ne_nil longer.segments
    have notForbidden : isForbiddenPath (joinPath (base ++ [id] ++ [subId])) = false := by
      rw [isForbiddenPath, segments, longer.allowed]
    rw [← joinPath_append nonempty, notForbidden]
    cases spec.subcollections <;> simp

end IsCollectionPath

section

variable {sdk : FirestoreSdk} (spec : BackupCollectionSpec)

theorem nodesItems_append (collectionPath : String)
    (first second : List BackupDocumentNode) : nodesItems collectionPath (first ++ second) =
      nodesItems collectionPath first ++ nodesItems collectionPath second := by
  induction first with
  | nil => rfl
  | cons node rest ih => simp [nodesItems, ih]

theorem nodesItems_eq_nil {collectionPath : String} {nodes : List BackupDocumentNode} :
    nodesItems collectionPath nodes = [] ↔ nodes = [] := by
  cases nodes with
  | nil => simp [nodesItems]
  | cons node rest =>
    obtain ⟨id, data, subcollections, missing⟩ := node
    simp [nodesItems, nodeItems]

mutual

theorem exportDocument_items (recurse : Bool) (stripFields : List String)
    {base : List String} (path : IsCollectionPath base) :
    ∀ (doc : FirestoreDocument) (counter : Nat),
      doc.WellFormed sdk →
      let exported := exportDocument sdk spec recurse stripFields (joinPath base) doc counter
      let visits := documentVisits spec recurse stripFields base doc
      nodesItems (joinPath base) exported.1.toList = visits.map (Visit.item sdk) ∧
        exported.2 = counter + (visitedDocuments visits).length
  | .mk id data collections, counter, formed => by
    obtain ⟨document, -, -, below⟩ := formed
    have docPath : joinPath base ++ "/" ++ id = joinPath (base ++ [id]) :=
      (joinPath_append path.ne_nil id).symm
    obtain ⟨same, empty, counted⟩ : _ ∧ _ ∧ _ :=
      exportSubcollections_items path document collections counter below
    simp only [exportDocument, documentVisits, docPath]
    cases recurse with
    | false =>
      cases data with
      | none => simp [nodesItems]
      | some fields =>
        simp [nodesItems, nodeItems, subcollectionItems, docPath, Visit.item]
    | true =>
      simp only [↓reduceIte]
      cases data with
      | some fields =>
        simp only [Option.toList_some, nodesItems, nodeItems, docPath, same]
        simp [Visit.item, counted, Nat.add_assoc]
      | none =>
        by_cases nothing : collectionsVisits spec (base ++ [id]) collections = []
        · -- The parent is dropped.
          have alsoNothing := empty.mpr nothing
          rw [nothing] at counted
          simp [alsoNothing, nothing, nodesItems, counted]
        · have something := mt empty.mp nothing
          simp only [List.isEmpty_iff, something, nothing, ↓reduceIte, Option.toList_some,
            nodesItems, nodeItems, docPath, same]
          simp [Visit.item, counted]

theorem exportSubcollections_items {base : List String} (path : IsCollectionPath base)
    {id : String} (document : IsSegment id) :
    ∀ (collections : List (String × List FirestoreDocument)) (counter : Nat),
      CollectionsWellFormed sdk collections →
      let exported := exportSubcollections sdk spec (joinPath (base ++ [id])) collections counter
      let visits := collectionsVisits spec (base ++ [id]) collections
      subcollectionItems (joinPath (base ++ [id])) exported.1 = visits.map (Visit.item sdk) ∧
        (exported.1 = [] ↔ visits = []) ∧
        exported.2 = counter + (visitedDocuments visits).length
  | [], counter, _ => by
    simp [exportSubcollections, collectionsVisits, subcollectionItems, visitedDocuments]
  | (subId, docs) :: rest, counter, formed => by
    obtain ⟨collection, ordinary, -, fine, others⟩ := formed
    have docPath : base ++ [id] ≠ [] := by simp
    simp only [exportSubcollections, collectionsVisits,
      path.skipsSubcollection spec document collection]
    cases followed : follows spec subId with
    | false => simpa using exportSubcollections_items path document rest counter others
    | true =>
      have allowed : FORBIDDEN_PREFIXES.contains subId = false := by
        simp only [follows, Bool.and_eq_true, Bool.not_eq_true'] at followed
        exact followed.2
      obtain ⟨first, counted⟩ : _ ∧ _ := exportCollectionDocs_items true []
        (path.append document collection allowed) docs counter fine
      rw [joinPath_append docPath] at first counted
      simp only [Bool.not_true, Bool.false_eq_true, ↓reduceIte, ordinary, decide_false,
        Bool.or_false]
      generalize exportCollectionDocs sdk spec true [] (joinPath (base ++ [id]) ++ "/" ++ subId)
        docs counter = exported at first counted
      obtain ⟨nodes, count⟩ := exported
      obtain ⟨later, empty, more⟩ : _ ∧ _ ∧ _ :=
        exportSubcollections_items path document rest count others
      simp only at first counted later empty more ⊢
      generalize documentsVisits spec true [] (base ++ [id] ++ [subId]) docs = visits
        at first counted
      have none : nodes = [] ↔ visits = [] := by
        rw [← nodesItems_eq_nil, first, List.map_eq_nil_iff]
      refine ⟨?_, ?_, ?_⟩
      · by_cases nothing : nodes = []
        · -- A subcollection without anything to export is left out.
          simp [nothing, none.mp nothing, later]
        · simp only [List.isEmpty_iff, nothing, ↓reduceIte, subcollectionItems, allowed,
            Bool.false_eq_true, first, later, List.map_append]
      · by_cases nothing : nodes = []
        · simp [nothing, none.mp nothing, empty]
        · simp [nothing, mt none.mpr nothing]
      · rw [more, counted, visitedDocuments_append, List.length_append]
        omega

theorem exportCollectionDocs_items (recurse : Bool) (stripFields : List String)
    {base : List String} (path : IsCollectionPath base) :
    ∀ (docs : List FirestoreDocument) (counter : Nat), DocumentsWellFormed sdk docs →
      let exported :=
        exportCollectionDocs sdk spec recurse stripFields (joinPath base) docs counter
      let visits := documentsVisits spec recurse stripFields base docs
      nodesItems (joinPath base) exported.1 = visits.map (Visit.item sdk) ∧
        exported.2 = counter + (visitedDocuments visits).length
  | [], counter, _ => by
    simp [exportCollectionDocs, documentsVisits, nodesItems, visitedDocuments]
  | doc :: rest, counter, formed => by
    obtain ⟨first, others⟩ := formed
    obtain ⟨same, counted⟩ := exportDocument_items recurse stripFields path doc counter first
    obtain ⟨later, more⟩ := exportCollectionDocs_items recurse stripFields path rest
      (exportDocument sdk spec recurse stripFields (joinPath base) doc counter).2 others
    simp only [exportCollectionDocs, documentsVisits]
    rw [nodesItems_append, same, later, List.map_append]
    refine ⟨rfl, ?_⟩
    rw [more, counted, visitedDocuments_append, List.length_append]
    omega

end

mutual

theorem isDocumentPath_of_documentVisit (recurse : Bool) (stripFields : List String)
    {base : List String} (path : IsCollectionPath base) : ∀ doc : FirestoreDocument,
      doc.WellFormed sdk → ∀ visit ∈ documentVisits spec recurse stripFields base doc,
        IsDocumentPath visit.path
  | .mk id data collections, formed, visit, member => by
    obtain ⟨document, -, -, fine⟩ := formed
    have own : IsDocumentPath (base ++ [id]) := path.document document
    have below : visit ∈
        (if recurse then collectionsVisits spec (base ++ [id]) collections else []) →
        IsDocumentPath visit.path := by
      intro among
      split at among
      · exact isDocumentPath_of_collectionsVisit path document collections fine visit among
      · cases among
    simp only [documentVisits] at member
    generalize (if recurse then collectionsVisits spec (base ++ [id]) collections else []) = visits
      at member below
    cases data with
    | some fields =>
      rcases List.mem_cons.mp member with rfl | later
      · exact own
      · exact below later
    | none =>
      simp only at member
      split at member
      · cases member
      · rcases List.mem_cons.mp member with rfl | later
        · exact own
        · exact below later

theorem isDocumentPath_of_collectionsVisit {base : List String}
    (path : IsCollectionPath base) {id : String} (document : IsSegment id) :
    ∀ collections : List (String × List FirestoreDocument),
      CollectionsWellFormed sdk collections →
      ∀ visit ∈ collectionsVisits spec (base ++ [id]) collections, IsDocumentPath visit.path
  | [], _, _, member => by simp [collectionsVisits] at member
  | (subId, docs) :: rest, formed, visit, member => by
    obtain ⟨collection, -, -, fine, others⟩ := formed
    simp only [collectionsVisits, List.mem_append] at member
    rcases member with here | later
    · split at here
      · rename_i followed
        have allowed : FORBIDDEN_PREFIXES.contains subId = false := by
          simp only [follows, Bool.and_eq_true, Bool.not_eq_true'] at followed
          exact followed.2
        exact isDocumentPath_of_documentsVisit true []
          (path.append document collection allowed) docs fine visit here
      · cases here
    · exact isDocumentPath_of_collectionsVisit path document rest others visit later

theorem isDocumentPath_of_documentsVisit (recurse : Bool) (stripFields : List String)
    {base : List String} (path : IsCollectionPath base) : ∀ docs : List FirestoreDocument,
      DocumentsWellFormed sdk docs → ∀ visit ∈ documentsVisits spec recurse stripFields base docs,
        IsDocumentPath visit.path
  | [], _, _, member => by simp [documentsVisits] at member
  | doc :: rest, formed, visit, member => by
    obtain ⟨first, others⟩ := formed
    simp only [documentsVisits, List.mem_append] at member
    rcases member with here | later
    · exact isDocumentPath_of_documentVisit recurse stripFields path doc first visit here
    · exact isDocumentPath_of_documentsVisit recurse stripFields path rest others visit later

end

end

end BitBrat
