import BitBrat.Backup.ExportVisits

/-! Which documents of a database are exported, and under which paths. -/

namespace BitBrat

open Js

/-- The fields of a document, by the segments of its path below a collection. -/
def documentAt (docs : List FirestoreDocument) :
    List String → Option (List (String × FirestoreValue))
  | [] => none
  | [id] =>
    match docs.find? (·.id = id) with
    | some (.mk _ data _) => data
    | none => none
  | id :: collectionId :: rest =>
    match docs.find? (·.id = id) with
    | some (.mk _ _ collections) => documentAt ((collections.lookup collectionId).getD []) rest
    | none => none

/-- All subcollections on the way to a document are followed, if there are any. -/
def FollowsBelow (spec : BackupCollectionSpec) (recurse : Bool) (below : List String) : Prop :=
  (below = [] ∨ recurse = true) ∧ (collectionIds below).all (follows spec) = true

/-- What is exported of the fields of a document, of which only the top ones are stripped. -/
def keptFields (stripFields below : List String) (stored : List (String × FirestoreValue)) :
    List (String × FirestoreValue) :=
  if below = [] then applyStripFields stored stripFields else stored

theorem applyStripFields_nil (stored : List (String × FirestoreValue)) :
    applyStripFields stored [] = stored :=
  List.filter_eq_self.mpr fun _ _ => rfl

theorem documentAt_cons (doc : FirestoreDocument) (rest : List FirestoreDocument)
    (id : String) (below : List String) : documentAt (doc :: rest) (id :: below) =
      if doc.id = id then documentAt [doc] (id :: below) else documentAt rest (id :: below) := by
  by_cases same : doc.id = id
  · cases below <;> simp [documentAt, same]
  · cases below <;> simp [documentAt, same]

theorem id_of_documentAt {docs : List FirestoreDocument} {id : String} {below : List String}
    {stored : List (String × FirestoreValue)}
    (found : documentAt docs (id :: below) = some stored) :
    id ∈ docs.map FirestoreDocument.id := by
  -- A path is not looked up below a document that is not there.
  by_contra absent
  have none : docs.find? (·.id = id) = none := by
    simp only [List.find?_eq_none, decide_eq_true_eq]
    intro doc member same
    exact absent (List.mem_map.mpr ⟨doc, member, same⟩)
  cases below <;> simp [documentAt, none] at found

theorem visited_documentVisits (spec : BackupCollectionSpec) (recurse : Bool)
    (stripFields base : List String) (id : String)
    (data : Option (List (String × FirestoreValue)))
    (collections : List (String × List FirestoreDocument)) :
    visitedDocuments (documentVisits spec recurse stripFields base (.mk id data collections)) =
      (data.map fun fields => (base ++ [id], applyStripFields fields stripFields)).toList ++
        if recurse then visitedDocuments (collectionsVisits spec (base ++ [id]) collections)
        else [] := by
  simp only [documentVisits]
  cases data with
  | some fields => cases recurse <;> simp
  | none =>
    cases recurse with
    | false => simp
    | true =>
      by_cases nothing : collectionsVisits spec (base ++ [id]) collections = []
      · simp [nothing]
      · simp [nothing]

section

variable {sdk : FirestoreSdk} {spec : BackupCollectionSpec}

def ExportedAt (spec : BackupCollectionSpec) (recurse : Bool) (stripFields base : List String)
    (docs : List FirestoreDocument) (path : List String)
    (fields : List (String × FirestoreValue)) : Prop :=
  ∃ id below stored, path = base ++ id :: below ∧
    documentAt docs (id :: below) = some stored ∧ FollowsBelow spec recurse below ∧
      fields = keptFields stripFields below stored

mutual

theorem mem_documentVisits (recurse : Bool) (stripFields base : List String)
    (path : List String) (fields : List (String × FirestoreValue)) :
    ∀ doc : FirestoreDocument, doc.WellFormed sdk →
      ((path, fields) ∈ visitedDocuments (documentVisits spec recurse stripFields base doc) ↔
        ExportedAt spec recurse stripFields base [doc] path fields)
  | .mk id data collections, formed => by
    obtain ⟨-, -, distinct, fine⟩ := formed
    have below := mem_collectionsVisits (base ++ [id]) path fields collections distinct fine
    rw [visited_documentVisits, List.mem_append, Option.mem_toList, Option.map_eq_some_iff]
    constructor
    · rintro (⟨stored, rfl, same⟩ | among)
      · -- The document itself is stripped.
        obtain ⟨rfl, rfl⟩ := Prod.mk.inj same
        exact ⟨id, [], stored, rfl, by simp [documentAt, FirestoreDocument.id],
          ⟨.inl rfl, rfl⟩, rfl⟩
      · split at among
        · rename_i recurses
          obtain ⟨subId, rest, rfl, followed, found, all⟩ := below.mp among
          refine ⟨id, subId :: rest, fields, by simp, ?_, ⟨.inr recurses, ?_⟩, rfl⟩
          · simpa [documentAt, FirestoreDocument.id] using found
          · cases rest with
            | nil => simp [documentAt] at found
            | cons last more => simpa [collectionIds, followed] using all
        · cases among
    · rintro ⟨other, rest, stored, rfl, found, ⟨recurses, all⟩, rfl⟩
      have same : other = id := by simpa [FirestoreDocument.id] using id_of_documentAt found
      subst same
      cases rest with
      | nil => exact .inl ⟨stored, by simpa [documentAt, FirestoreDocument.id] using found, rfl⟩
      | cons subId more =>
        right
        have recurses : recurse = true := recurses.resolve_left (List.cons_ne_nil _ _)
        rw [if_pos recurses, below]
        have found : documentAt ((collections.lookup subId).getD []) more = some stored := by
          simpa [documentAt, FirestoreDocument.id] using found
        cases more with
        | nil => simp [documentAt] at found
        | cons last more =>
          simp only [collectionIds, List.all_cons, Bool.and_eq_true] at all
          exact ⟨subId, last :: more, by simp, all.1, by simpa [keptFields] using found, all.2⟩

theorem mem_collectionsVisits (base path : List String)
    (fields : List (String × FirestoreValue)) :
    ∀ collections : List (String × List FirestoreDocument), (collections.map Prod.fst).Nodup →
      CollectionsWellFormed sdk collections →
      ((path, fields) ∈ visitedDocuments (collectionsVisits spec base collections) ↔
        ∃ subId rest, path = base ++ subId :: rest ∧ follows spec subId = true ∧
          documentAt ((collections.lookup subId).getD []) rest = some fields ∧
            (collectionIds rest.tail).all (follows spec) = true)
  | [], _, _ => by
    have none (rest : List String) : documentAt [] rest = none := by
      rcases rest with _ | ⟨id, _ | ⟨subId, rest⟩⟩ <;> simp [documentAt]
    simp [collectionsVisits, none]
  | (subId, docs) :: others, distinct, formed => by
    obtain ⟨-, -, distinctDocs, fine, formedOthers⟩ := formed
    obtain ⟨apart, distinct⟩ := List.nodup_cons.mp distinct
    have here := mem_documentsVisits true [] (base ++ [subId]) path fields docs distinctDocs fine
    have later := mem_collectionsVisits base path fields others distinct formedOthers
    have first : (path, fields) ∈ visitedDocuments (if follows spec subId then
        documentsVisits spec true [] (base ++ [subId]) docs else []) ↔
          follows spec subId = true ∧
            ExportedAt spec true [] (base ++ [subId]) docs path fields := by
      split
      · rename_i followed
        simp [here, followed]
      · rename_i skipped
        simp [skipped]
    simp only [collectionsVisits, visitedDocuments_append, List.mem_append, first, later]
    constructor
    · rintro (⟨followed, id, below, stored, rfl, found, ⟨-, all⟩, rfl⟩ |
        ⟨other, rest, rfl, followed, found, all⟩)
      · refine ⟨subId, id :: below, by simp, followed, ?_, by simpa using all⟩
        rw [List.lookup_cons_self, Option.getD_some, found, keptFields, applyStripFields_nil,
          ite_self]
      · refine ⟨other, rest, rfl, followed, ?_, all⟩
        have different : (other == subId) = false := by
          apply beq_eq_false_iff_ne.mpr
          rintro rfl
          have absent : others.lookup other = none := lookup_eq_none_iff_not_mem.mpr apart
          rw [absent] at found
          rcases rest with _ | ⟨id, _ | ⟨last, rest⟩⟩ <;> simp [documentAt] at found
        rw [List.lookup_cons, different, found]
    · rintro ⟨other, rest, rfl, followed, found, all⟩
      by_cases same : other = subId
      · subst same
        left
        rw [List.lookup_cons_self, Option.getD_some] at found
        cases rest with
        | nil => simp [documentAt] at found
        | cons id below =>
          refine ⟨followed, id, below, fields, by simp, found, ⟨.inr rfl, all⟩, ?_⟩
          rw [keptFields, applyStripFields_nil, ite_self]
      · right
        have different : (other == subId) = false := beq_eq_false_iff_ne.mpr same
        rw [List.lookup_cons, different] at found
        exact ⟨other, rest, rfl, followed, found, all⟩

theorem mem_documentsVisits (recurse : Bool) (stripFields base : List String) (path : List String)
    (fields : List (String × FirestoreValue)) : ∀ docs : List FirestoreDocument,
      (docs.map FirestoreDocument.id).Nodup → DocumentsWellFormed sdk docs →
      ((path, fields) ∈ visitedDocuments (documentsVisits spec recurse stripFields base docs) ↔
        ExportedAt spec recurse stripFields base docs path fields)
  | [], _, _ => by
    simp only [documentsVisits, visitedDocuments_nil, List.not_mem_nil, false_iff]
    rintro ⟨id, below, stored, -, found, -⟩
    simpa using id_of_documentAt found
  | doc :: rest, distinct, formed => by
    obtain ⟨first, others⟩ := formed
    obtain ⟨apart, distinct⟩ := List.nodup_cons.mp distinct
    have here := mem_documentVisits recurse stripFields base path fields doc first
    have later := mem_documentsVisits recurse stripFields base path fields rest distinct others
    simp only [documentsVisits, visitedDocuments_append, List.mem_append, here, later]
    constructor
    · rintro (⟨id, below, stored, same, found, rest'⟩ | ⟨id, below, stored, same, found, rest'⟩)
      · have first : doc.id = id := by simpa [eq_comm] using id_of_documentAt found
        exact ⟨id, below, stored, same, by rw [documentAt_cons, if_pos first, found], rest'⟩
      · have other : doc.id ≠ id := fun same => apart (same ▸ id_of_documentAt found)
        exact ⟨id, below, stored, same, by rw [documentAt_cons, if_neg other, found], rest'⟩
    · rintro ⟨id, below, stored, same, found, rest'⟩
      rw [documentAt_cons] at found
      split at found
      · exact .inl ⟨id, below, stored, same, found, rest'⟩
      · exact .inr ⟨id, below, stored, same, found, rest'⟩

end

theorem append_cons_inj {base left right : List String} {first second : String}
    (same : base ++ first :: left = base ++ second :: right) : first = second :=
  (List.cons.inj (List.append_cancel_left same)).1

mutual

theorem nodup_documentVisits (recurse : Bool) (stripFields base : List String) :
    ∀ doc : FirestoreDocument, doc.WellFormed sdk →
      ((visitedDocuments (documentVisits spec recurse stripFields base doc)).map Prod.fst).Nodup
  | .mk id data collections, formed => by
    obtain ⟨-, -, distinct, fine⟩ := formed
    have below := nodup_collectionsVisits (base ++ [id]) collections distinct fine
    rw [visited_documentVisits]
    cases recurse with
    | false => cases data <;> simp
    | true =>
      cases data with
      | none => simpa using below
      | some stored =>
        -- What is below the document has a longer path.
        simp only [Option.map_some, Option.toList_some, ↓reduceIte, List.singleton_append,
          List.map_cons, List.nodup_cons]
        refine ⟨?_, below⟩
        intro among
        obtain ⟨⟨path, fields⟩, member, same⟩ := List.mem_map.mp among
        obtain ⟨subId, rest, longer, -⟩ :=
          (mem_collectionsVisits _ path fields collections distinct fine).mp member
        rw [longer] at same
        simp at same

theorem nodup_collectionsVisits (base : List String) :
    ∀ collections : List (String × List FirestoreDocument), (collections.map Prod.fst).Nodup →
      CollectionsWellFormed sdk collections →
      ((visitedDocuments (collectionsVisits spec base collections)).map Prod.fst).Nodup
  | [], _, _ => by simp [collectionsVisits]
  | (subId, docs) :: others, distinct, formed => by
    obtain ⟨-, -, distinctDocs, fine, formedOthers⟩ := formed
    obtain ⟨apart, distinct⟩ := List.nodup_cons.mp distinct
    have here := nodup_documentsVisits true [] (base ++ [subId]) docs distinctDocs fine
    have later := nodup_collectionsVisits base others distinct formedOthers
    simp only [collectionsVisits]
    split
    · rw [visitedDocuments_append, List.map_append]
      refine List.Nodup.append here later ?_
      -- The paths go through different subcollections.
      intro path first second
      obtain ⟨⟨left, fields⟩, member, rfl⟩ := List.mem_map.mp first
      obtain ⟨⟨right, others'⟩, memberOther, same⟩ := List.mem_map.mp second
      obtain ⟨id, below, stored, rfl, -⟩ :=
        (mem_documentsVisits true [] _ _ _ docs distinctDocs fine).mp member
      obtain ⟨other, rest, rfl, -, found, -⟩ :=
        (mem_collectionsVisits base _ _ others distinct formedOthers).mp memberOther
      have paths : base ++ other :: rest = base ++ subId :: id :: below := by simpa using same
      have equal : other = subId := append_cons_inj paths
      subst equal
      rw [lookup_eq_none_iff_not_mem.mpr apart] at found
      rcases rest with _ | ⟨id, _ | ⟨last, rest⟩⟩ <;> simp [documentAt] at found
    · simpa using later

theorem nodup_documentsVisits (recurse : Bool) (stripFields base : List String) :
    ∀ docs : List FirestoreDocument, (docs.map FirestoreDocument.id).Nodup →
      DocumentsWellFormed sdk docs →
      ((visitedDocuments (documentsVisits spec recurse stripFields base docs)).map
        Prod.fst).Nodup
  | [], _, _ => by simp [documentsVisits]
  | doc :: rest, distinct, formed => by
    obtain ⟨first, others⟩ := formed
    obtain ⟨apart, distinct⟩ := List.nodup_cons.mp distinct
    have here := nodup_documentVisits recurse stripFields base doc first
    have later := nodup_documentsVisits recurse stripFields base rest distinct others
    rw [documentsVisits, visitedDocuments_append, List.map_append]
    refine List.Nodup.append here later ?_
    -- The paths go through different documents.
    intro path left right
    obtain ⟨⟨path, fields⟩, member, rfl⟩ := List.mem_map.mp left
    obtain ⟨⟨other, fields'⟩, memberOther, same⟩ := List.mem_map.mp right
    obtain ⟨id, below, stored, rfl, found, -⟩ :=
      (mem_documentVisits recurse stripFields base _ _ doc first).mp member
    obtain ⟨id', below', stored', rfl, found', -⟩ :=
      (mem_documentsVisits recurse stripFields base _ _ rest distinct others).mp memberOther
    have equal : id' = id := append_cons_inj same
    have own : id = doc.id := by simpa using id_of_documentAt found
    exact apart (own ▸ equal ▸ id_of_documentAt found')

end

/-- The fields of a document of a database, by the segments of its path. -/
def FirestoreTree.stored (tree : FirestoreTree) :
    List String → Option (List (String × FirestoreValue))
  | [] => none
  | collectionId :: rest => documentAt ((tree.lookup collectionId).getD []) rest

def FirestoreTree.WellFormed (sdk : FirestoreSdk) (tree : FirestoreTree) : Prop :=
  (tree.map Prod.fst).Nodup ∧ CollectionsWellFormed sdk tree

theorem documentAt_documentsBelow : ∀ (docs : List FirestoreDocument) (path : List String)
    (id : String) (below : List String), path.length % 2 = 0 →
      documentAt docs (path ++ id :: below) = documentAt (documentsBelow docs path) (id :: below)
  | _, [], _, _, _ => rfl
  | _, [_], _, _, odd => by cases odd
  | docs, first :: collectionId :: path, id, below, even => by
    have shorter : path.length % 2 = 0 := by
      simp only [List.length_cons] at even
      omega
    simp only [List.cons_append, documentAt, documentsBelow]
    cases docs.find? (·.id = first) with
    | none =>
      cases below <;> simp [documentAt]
    | some doc =>
      obtain ⟨own, data, collections⟩ := doc
      exact documentAt_documentsBelow _ path id below shorter

theorem stored_listDocuments (tree : FirestoreTree) (path id : String) (below : List String)
    (odd : (collectionSegments path).length % 2 = 1) :
    tree.stored (collectionSegments path ++ id :: below) =
      documentAt (listDocuments tree path) (id :: below) := by
  unfold listDocuments
  cases segments : collectionSegments path with
  | nil =>
    rw [segments] at odd
    cases odd
  | cons collectionId rest =>
    rw [segments] at odd
    have even : rest.length % 2 = 0 := by
      simp only [List.length_cons] at odd
      omega
    exact documentAt_documentsBelow _ rest id below even

theorem wellFormed_of_lookup {collections : List (String × List FirestoreDocument)}
    (formed : CollectionsWellFormed sdk collections) (collectionId : String) :
    (((collections.lookup collectionId).getD []).map FirestoreDocument.id).Nodup ∧
      DocumentsWellFormed sdk ((collections.lookup collectionId).getD []) := by
  induction collections with
  | nil => exact ⟨List.nodup_nil, trivial⟩
  | cons entry rest ih =>
    obtain ⟨name, docs⟩ := entry
    obtain ⟨-, -, distinct, fine, others⟩ := formed
    by_cases same : collectionId = name
    · subst same
      simpa using ⟨distinct, fine⟩
    · have different : (collectionId == name) = false := beq_eq_false_iff_ne.mpr same
      rw [List.lookup_cons, different]
      exact ih others

theorem wellFormed_of_mem {docs : List FirestoreDocument}
    (formed : DocumentsWellFormed sdk docs) {doc : FirestoreDocument} (member : doc ∈ docs) :
    doc.WellFormed sdk := by
  induction docs with
  | nil => cases member
  | cons first rest ih =>
    rcases List.mem_cons.mp member with rfl | later
    · exact formed.1
    · exact ih formed.2 later

theorem wellFormed_documentsBelow : ∀ (docs : List FirestoreDocument) (path : List String),
    (docs.map FirestoreDocument.id).Nodup → DocumentsWellFormed sdk docs →
      ((documentsBelow docs path).map FirestoreDocument.id).Nodup ∧
        DocumentsWellFormed sdk (documentsBelow docs path)
  | _, [], distinct, formed => ⟨distinct, formed⟩
  | _, [_], distinct, formed => ⟨distinct, formed⟩
  | docs, id :: collectionId :: path, distinct, formed => by
    simp only [documentsBelow]
    cases found : docs.find? (·.id = id) with
    | none => exact ⟨List.nodup_nil, trivial⟩
    | some doc =>
      obtain ⟨own, data, collections⟩ := doc
      obtain ⟨-, -, -, fine⟩ := wellFormed_of_mem formed (List.mem_of_find?_eq_some found)
      obtain ⟨distinct, fine⟩ := wellFormed_of_lookup fine collectionId
      exact wellFormed_documentsBelow _ path distinct fine

theorem wellFormed_listDocuments {tree : FirestoreTree} (formed : tree.WellFormed sdk)
    (path : String) : ((listDocuments tree path).map FirestoreDocument.id).Nodup ∧
      DocumentsWellFormed sdk (listDocuments tree path) := by
  unfold listDocuments
  cases collectionSegments path with
  | nil => exact ⟨List.nodup_nil, trivial⟩
  | cons collectionId rest =>
    obtain ⟨distinct, fine⟩ := wellFormed_of_lookup formed.2 collectionId
    exact wellFormed_documentsBelow _ rest distinct fine

theorem wellFormed_documentAt {docs : List FirestoreDocument}
    (formed : DocumentsWellFormed sdk docs) {path : List String}
    {stored : List (String × FirestoreValue)} (found : documentAt docs path = some stored) :
    (FirestoreValue.map stored).WellFormed sdk ∧ sdk.accepts stored = true := by
  fun_induction documentAt docs path with
  | case1 => cases found
  | case2 docs id own data collections first =>
    obtain ⟨-, fields, -⟩ := wellFormed_of_mem formed (List.mem_of_find?_eq_some first)
    exact fields stored found
  | case3 => cases found
  | case4 docs id collectionId rest own data collections first ih =>
    obtain ⟨-, -, -, fine⟩ := wellFormed_of_mem formed (List.mem_of_find?_eq_some first)
    exact ih (wellFormed_of_lookup fine collectionId).2 found
  | case5 => cases found

end

end BitBrat
