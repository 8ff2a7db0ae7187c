import Mathlib.Data.List.Sort
import BitBrat.Persistence.PostgresQuery

/-! Context packs that are found by their embeddings, in either of two stores. -/

namespace BitBrat

open Js

inductive PackFormat where
  | markdown | json
  deriving DecidableEq

def PackFormat.toText : PackFormat → String
  | markdown => "markdown"
  | json => "json"

structure ContextPackDocument where
  id : String
  version : String
  title : String
  priority : Option Nat := none
  format : PackFormat := .markdown
  body : Value
  source : String
  bitName : String
  active : Bool := true
  updatedAt : String
  embedding : List ℚ
  embeddingText : String
  deriving DecidableEq

def ContextPackDocument.toData (doc : ContextPackDocument) : Value :=
  .obj (
    [("id", .str doc.id), ("version", .str doc.version), ("title", .str doc.title)] ++
    (doc.priority.map fun priority => ("priority", Value.num (.finite priority))).toList ++
    [("format", .str doc.format.toText), ("body", doc.body), ("source", .str doc.source),
      ("bitName", .str doc.bitName), ("active", .bool doc.active),
      ("updatedAt", .str doc.updatedAt),
      ("embedding", .arr (doc.embedding.map fun number => .num (.finite number))),
      ("embeddingText", .str doc.embeddingText)])

structure VectorSearchOptions where
  collection : String
  embedding : List ℚ
  limit : Nat
  distanceMeasure : Postgres.DistanceMeasure := .cosine
  deriving DecidableEq

/-- A pack that is found, with its distance from the vector that is searched for. -/
structure VectorSearchResult where
  id : Value
  version : Value
  title : Value
  priority : Value
  format : Value
  body : Value
  source : Value
  distance : Number
  deriving DecidableEq

structure ContextPack where
  id : Value
  version : Value
  title : Value
  priority : Value
  format : Value
  body : Value
  source : Value
  deriving DecidableEq

/-- The distance that a document reports, which is one where it reports none. -/
def reportedDistance (data : Value) : Number :=
  match data.get "_distance" with
  | .undefined => .finite 1
  | .null => .finite 1
  | .num distance => distance
  | _ => .nan

def toSearchResult (data : Value) : VectorSearchResult where
  id := data.get "id"
  version := data.get "version"
  title := data.get "title"
  priority := data.get "priority"
  format := data.get "format"
  body := data.get "body"
  source := data.get "source"
  distance := reportedDistance data

structure FindNearest where
  collection : String
  filter : String × Value
  vectorField : String
  vector : List ℚ
  limit : Nat
  distanceMeasure : Postgres.DistanceMeasure

abbrev VectorSearch := VectorSearchOptions → Except String (List VectorSearchResult)

def FirestoreVectorStore.vectorSearch (findNearest : FindNearest → Except String (List Value)) :
    VectorSearch := fun options =>
  (findNearest
    { collection := options.collection, filter := ("active", .bool true)
      vectorField := "embedding", vector := options.embedding, limit := options.limit
      distanceMeasure := options.distanceMeasure }).map (·.map toSearchResult)

def vectorQuery (options : VectorSearchOptions) : Postgres.QueryOptions where
  filters := [{ field := "active", operator := .eq, value := .bool true }]
  orderBy := some (.vector "embedding" false options.embedding .cosine)
  limit := some options.limit

def DocumentStoreVectorStore.vectorSearch (pool : Postgres.Pool) : VectorSearch := fun options =>
  (Postgres.query pool options.collection (vectorQuery options)).map (·.map toSearchResult)

structure VectorContextProviderOptions where
  maxResults : Option Nat := none
  minSimilarity : Option ℚ := none

def VectorContextProviderOptions.limit (options : VectorContextProviderOptions) : Nat :=
  options.maxResults.getD 5

def VectorContextProviderOptions.threshold (options : VectorContextProviderOptions) : ℚ :=
  options.minSimilarity.getD (7 / 10)

namespace VectorContextProvider

def searchOptions (options : VectorContextProviderOptions) (embedding : List ℚ) :
    VectorSearchOptions where
  collection := "context_packs"
  embedding := embedding
  limit := options.limit

def toPack (result : VectorSearchResult) : ContextPack where
  id := result.id
  version := result.version
  title := result.title
  priority := result.priority
  format := result.format
  body := result.body
  source := result.source

/-- The packs that a search provides for the embedding of the query, where it could be embedded. -/
def listPacks (vectorSearch : VectorSearch) (options : VectorContextProviderOptions)
    (embedding : Except String (List ℚ)) : List ContextPack :=
  match embedding.bind fun vector => vectorSearch (searchOptions options vector) with
  | .error _ => []
  | .ok results =>
    (results.filter fun result =>
      !((Number.finite 1).sub result.distance).lt (.finite options.threshold)).map toPack

end VectorContextProvider

/-! Which packs are found by their embeddings, and when the two stores agree on them. -/

/-- A database puts what it finds in the order of the distances, with ties as it likes. -/
structure Ranking where
  rank : List (ContextPackDocument × ℚ) → List (ContextPackDocument × ℚ)
  perm : ∀ found, (rank found).Perm found
  sorted : ∀ found, (rank found).Pairwise fun near far => near.2 ≤ far.2

structure PackTable where
  packs : OrderedMap String ContextPackDocument
  keyed : ∀ entry ∈ packs.entries, entry.1 = entry.2.id

def PackTable.active (table : PackTable) : List ContextPackDocument :=
  (table.packs.entries.map Prod.snd).filter (·.active)

section

variable (cosine : List ℚ → List ℚ → ℚ) (ranking : Ranking) (table : PackTable)
  (options : VectorContextProviderOptions) (embedding : List ℚ)

/-- The active packs with their distances, the nearest first. -/
def ranked : List (ContextPackDocument × ℚ) :=
  ranking.rank (table.active.map fun doc => (doc, cosine doc.embedding embedding))

def nearest : List (ContextPackDocument × ℚ) :=
  (ranked cosine ranking table embedding).take options.limit

def vectorStatement (limit : Nat) : String :=
  "SELECT id, data, (data->'embedding' <=> $1::vector) AS distance\n" ++
    "               FROM context_packs" ++ " WHERE (data->'active')::boolean = $2" ++
    " ORDER BY distance ASC" ++ if limit = 0 then "" else " LIMIT " ++ toString limit

def packRow (found : ContextPackDocument × ℚ) : Postgres.Row where
  id := found.1.id
  data := found.1.toData
  distance := .num (.finite found.2)

/-- What the database answers, if it does: its operator is the distance, and a statement without a
limit has no limit. -/
def PostgresAnswers (pool : Postgres.Pool) : Prop :=
  ∀ rows, pool (vectorStatement options.limit)
      [.str (Postgres.stringifyVector embedding), .bool true] = .ok rows →
    rows = (if options.limit = 0 then ranked cosine ranking table embedding
      else nearest cosine ranking table options embedding).map packRow

/-- What Firestore answers, if it does: the documents with their distances. -/
def FirestoreAnswers (findNearest : FindNearest → Except String (List Value)) : Prop :=
  ∀ docs, findNearest
      { collection := "context_packs", filter := ("active", .bool true)
        vectorField := "embedding", vector := embedding, limit := options.limit
        distanceMeasure := .cosine } = .ok docs →
    docs = (nearest cosine ranking table options embedding).map fun found =>
      .obj (found.1.toData.fields ++ [("_distance", .num (.finite found.2))])

def packResult (doc : ContextPackDocument) (distance : ℚ) : VectorSearchResult :=
  { toSearchResult doc.toData with distance := .finite distance }

open VectorContextProvider in
structure VectorLaw (pool : Postgres.Pool)
    (findNearest : FindNearest → Except String (List Value)) : Prop where
  found : DocumentStoreVectorStore.vectorSearch pool (searchOptions options embedding) =
    .ok ((nearest cosine ranking table options embedding).map fun found =>
      packResult found.1 found.2)
  provided : listPacks (DocumentStoreVectorStore.vectorSearch pool) options (.ok embedding) =
    ((nearest cosine ranking table options embedding).filter fun found =>
      options.threshold ≤ 1 - found.2).map fun found => toPack (toSearchResult found.1.toData)
  agree : ∀ results, FirestoreVectorStore.vectorSearch findNearest
      (searchOptions options embedding) = .ok results →
    listPacks (FirestoreVectorStore.vectorSearch findNearest) options (.ok embedding) =
      listPacks (DocumentStoreVectorStore.vectorSearch pool) options (.ok embedding)

theorem statement_vectorQuery :
    Postgres.statement "context_packs"
        (vectorQuery (VectorContextProvider.searchOptions options embedding)) =
      vectorStatement options.limit := by
  have select : Postgres.selectClause "context_packs"
      (some (.vector "embedding" false embedding .cosine)) =
        "SELECT id, data, (data->'embedding' <=> $1::vector) AS distance\n" ++
          "               FROM context_packs" := by
    show "SELECT id, data, (data->'" ++ "embedding" ++ "' " ++ "<=>" ++
      " $1::vector) AS distance\n               FROM " ++ "context_packs" = _
    decide +kernel
  have conditions : Postgres.whereClause (some (.vector "embedding" false embedding .cosine))
      [{ field := "active", operator := .eq, value := .bool true }] =
        " WHERE (data->'active')::boolean = $2" := by
    show " WHERE " ++ String.intercalate " AND "
      [Postgres.buildWhereClause { field := "active", operator := .eq, value := .bool true } 2] = _
    decide +kernel
  have limit : Postgres.numberClause "LIMIT" (some options.limit) =
      if options.limit = 0 then "" else " LIMIT " ++ toString options.limit := by
    cases options.limit with
    | zero => rfl
    | succ limit =>
      show " " ++ "LIMIT" ++ " " ++ toString (limit + 1) = " LIMIT " ++ toString (limit + 1)
      exact congrArg (· ++ toString (limit + 1)) (by decide +kernel)
  unfold Postgres.statement
  simp only [vectorQuery, VectorContextProvider.searchOptions, select, conditions, limit]
  exact String.append_empty

theorem vectorSearch_document (pool : Postgres.Pool) :
    DocumentStoreVectorStore.vectorSearch pool
        (VectorContextProvider.searchOptions options embedding) =
      (pool (vectorStatement options.limit)
        [.str (Postgres.stringifyVector embedding), .bool true]).map fun rows =>
          rows.map fun row => toSearchResult (Postgres.rowDocument row) := by
  have table : Postgres.sanitizeCollectionName "context_packs" = .ok "context_packs" := by
    decide +kernel
  unfold DocumentStoreVectorStore.vectorSearch Postgres.query
  rw [show (VectorContextProvider.searchOptions options embedding).collection = "context_packs"
    from rfl, table]
  dsimp only
  rw [statement_vectorQuery]
  show Except.map _ (Except.map _ (pool (vectorStatement options.limit)
    [.str (Postgres.stringifyVector embedding), .bool true])) = _
  cases pool (vectorStatement options.limit)
    [.str (Postgres.stringifyVector embedding), .bool true] with
  | error message => rfl
  | ok rows => simp [Except.map, Function.comp_def]

end

theorem toSearchResult_fields (doc : ContextPackDocument) (fields : List (String × Value))
    (same : ∀ key, key ≠ "_distance" → (Value.obj fields).get key = doc.toData.get key) :
    toSearchResult (.obj fields) =
      { toSearchResult doc.toData with distance := reportedDistance (.obj fields) } := by
  simp only [toSearchResult]
  rw [same "id" (by decide), same "version" (by decide), same "title" (by decide),
    same "priority" (by decide), same "format" (by decide), same "body" (by decide),
    same "source" (by decide)]

theorem toSearchResult_packRow (found : ContextPackDocument × ℚ) :
    toSearchResult (Postgres.rowDocument (packRow found)) = packResult found.1 1 := by
  -- The identifier of the row is the one that the document has already.
  have kept : Postgres.rowDocument (packRow found) = found.1.toData := by
    unfold Postgres.rowDocument packRow
    rw [setEntry_of_lookup rfl]
    rfl
  rw [kept]
  -- No property of a pack is a distance.
  have silent : reportedDistance found.1.toData = .finite 1 := by
    unfold reportedDistance ContextPackDocument.toData
    cases found.1.priority <;> rfl
  rw [packResult, ← silent]
  rfl

theorem toSearchResult_snapshot (doc : ContextPackDocument) (distance : ℚ) :
    toSearchResult (.obj (doc.toData.fields ++ [("_distance", .num (.finite distance))])) =
      packResult doc distance := by
  rw [toSearchResult_fields doc, packResult]
  · unfold reportedDistance ContextPackDocument.toData
    cases doc.priority <;> rfl
  · intro key other
    have skipped : (key == "_distance") = false := by simpa using other
    simp only [Value.get, Value.fields]
    rw [List.lookup_append]
    simp [List.lookup_cons, skipped]

theorem listPacks_found {search : VectorSearch} {options : VectorContextProviderOptions}
    {embedding : List ℚ} {found : List (ContextPackDocument × ℚ)}
    {distance : ContextPackDocument × ℚ → ℚ}
    (searched : search (VectorContextProvider.searchOptions options embedding) =
      .ok (found.map fun found => packResult found.1 (distance found))) :
    VectorContextProvider.listPacks search options (.ok embedding) =
      (found.filter fun found => options.threshold ≤ 1 - distance found).map fun found =>
        VectorContextProvider.toPack (toSearchResult found.1.toData) := by
  unfold VectorContextProvider.listPacks
  have results : ((Except.ok embedding : Except String (List ℚ)).bind fun vector =>
      search (VectorContextProvider.searchOptions options vector)) =
        .ok (found.map fun found => packResult found.1 (distance found)) := searched
  rw [results]
  dsimp only
  rw [List.filter_map, List.map_map]
  congr 1
  apply List.filter_congr
  intro pack _
  -- The similarity is not below the threshold just if the threshold is at most the similarity.
  simp only [Function.comp_apply, packResult, Number.sub, Number.neg, Number.add, Number.lt]
  rw [Bool.eq_iff_iff]
  simp [sub_eq_add_neg]

theorem exists_of_map_ok {α β : Type} {change : α → β} {result : Except String α}
    {value : β} (mapped : result.map change = .ok value) : ∃ found, result = .ok found ∧
      change found = value := by
  cases result with
  | error message => cases mapped
  | ok found => exact ⟨found, rfl, Except.ok.inj mapped⟩

section

variable {cosine : List ℚ → List ℚ → ℚ} {ranking : Ranking} {table : PackTable}
  {options : VectorContextProviderOptions} {embedding : List ℚ} {pool : Postgres.Pool}
  {findNearest : FindNearest → Except String (List Value)}

theorem vectorSearch_firestore
    (answers : FirestoreAnswers cosine ranking table options embedding findNearest)
    {results : List VectorSearchResult}
    (found : FirestoreVectorStore.vectorSearch findNearest
      (VectorContextProvider.searchOptions options embedding) = .ok results) :
    results = (nearest cosine ranking table options embedding).map fun found =>
      packResult found.1 found.2 := by
  obtain ⟨docs, answered, same⟩ := exists_of_map_ok found
  rw [← same, answers docs answered, List.map_map]
  apply List.map_congr_left
  intro found _
  exact toSearchResult_snapshot found.1 found.2

theorem vectorSearch_postgres
    (answers : PostgresAnswers cosine ranking table options embedding pool)
    {results : List VectorSearchResult}
    (found : DocumentStoreVectorStore.vectorSearch pool
      (VectorContextProvider.searchOptions options embedding) = .ok results) :
    results = (if options.limit = 0 then ranked cosine ranking table embedding
      else nearest cosine ranking table options embedding).map fun found =>
        packResult found.1 1 := by
  rw [vectorSearch_document] at found
  obtain ⟨rows, answered, same⟩ := exists_of_map_ok found
  rw [← same, answers rows answered, List.map_map]
  apply List.map_congr_left
  intro found _
  exact toSearchResult_packRow found

theorem ranked_eq_nil : ranked cosine ranking table embedding = [] ↔ table.active = [] := by
  unfold ranked
  rw [← List.length_eq_zero_iff, (ranking.perm _).length_eq, List.length_map,
    List.length_eq_zero_iff]

theorem found_iff (answers : PostgresAnswers cosine ranking table options embedding pool) :
    DocumentStoreVectorStore.vectorSearch pool
        (VectorContextProvider.searchOptions options embedding) =
      .ok ((nearest cosine ranking table options embedding).map fun found =>
        packResult found.1 found.2) ↔
    (∃ rows, pool (vectorStatement options.limit)
      [.str (Postgres.stringifyVector embedding), .bool true] = .ok rows) ∧
    (∀ found ∈ nearest cosine ranking table options embedding, found.2 = 1) ∧
    (options.limit = 0 → table.active = []) := by
  constructor
  · intro searched
    have same := vectorSearch_postgres answers searched
    rw [vectorSearch_document] at searched
    obtain ⟨rows, answered, -⟩ := exists_of_map_ok searched
    refine ⟨⟨rows, answered⟩, ?_, ?_⟩
    · intro found member
      have positive : options.limit ≠ 0 := by
        intro nothing
        rw [nearest, nothing] at member
        exact absurd member List.not_mem_nil
      rw [if_neg positive] at same
      have distances := List.map_inj_left.mp same found member
      simpa [packResult] using congrArg VectorSearchResult.distance distances
    · intro nothing
      rw [if_pos nothing, nearest, nothing] at same
      exact ranked_eq_nil.mp (List.map_eq_nil_iff.mp same.symm)
  · rintro ⟨⟨rows, answered⟩, ones, nothing⟩
    have searched := vectorSearch_document options embedding pool
    rw [answered] at searched
    rw [searched]
    have same := vectorSearch_postgres answers searched
    refine congrArg Except.ok (same.trans ?_)
    split
    · rename_i zero
      rw [nearest, ranked_eq_nil.mpr (nothing zero), List.take_nil]
      rfl
    · apply List.map_congr_left
      intro found member
      rw [ones found member]

/-- The document store finds the nearest packs as the claim on it says, and so agrees with
Firestore, just if the database answers, all of them are at the distance one, and none is active
where none is asked for. -/
theorem vectorLaw_iff (postgres : PostgresAnswers cosine ranking table options embedding pool)
    (firestore : FirestoreAnswers cosine ranking table options embedding findNearest) :
    VectorLaw cosine ranking table options embedding pool findNearest ↔
      (∃ rows, pool (vectorStatement options.limit)
        [.str (Postgres.stringifyVector embedding), .bool true] = .ok rows) ∧
      (∀ found ∈ nearest cosine ranking table options embedding, found.2 = 1) ∧
      (options.limit = 0 → table.active = []) := by
  rw [← found_iff postgres]
  refine ⟨fun law => law.found, fun found => ?_⟩
  have provided := listPacks_found found
  refine ⟨found, provided, fun results searched => ?_⟩
  -- Both stores find the same packs at the same distances.
  have same := vectorSearch_firestore firestore searched
  rw [provided, listPacks_found (same ▸ searched)]

end

def unitDistance (left right : List ℚ) : ℚ := 1 - (List.zipWith (· * ·) left right).sum

def stableRanking : Ranking where
  rank found := found.insertionSort fun near far => near.2 ≤ far.2
  perm found := List.perm_insertionSort _ found
  sorted found := by
    have total : Std.Total fun near far : ContextPackDocument × ℚ => near.2 ≤ far.2 :=
      ⟨fun near far => le_total near.2 far.2⟩
    have transitive : IsTrans (ContextPackDocument × ℚ) fun near far => near.2 ≤ far.2 :=
      ⟨fun _ _ _ => le_trans⟩
    exact List.pairwise_insertionSort _ found

def guidePack : ContextPackDocument where
  id := "router.jsonlogic-guide"
  version := "1"
  title := "JsonLogic"
  body := .str "Rules are objects."
  source := "src/types/events.ts"
  bitName := "event-router"
  updatedAt := "2026-01-01T00:00:00.000Z"
  embedding := [1, 0]
  embeddingText := "JsonLogic"

def guideTable : PackTable where
  packs := ⟨[("router.jsonlogic-guide", guidePack)], by decide +kernel⟩
  keyed := by decide +kernel

def guidePool (embedding : List ℚ) : Postgres.Pool := fun _ _ =>
  .ok [packRow (guidePack, unitDistance [1, 0] embedding)]

def guideNearest (embedding : List ℚ) : FindNearest → Except String (List Value) := fun _ =>
  .ok [.obj (guidePack.toData.fields ++
    [("_distance", .num (.finite (unitDistance [1, 0] embedding)))])]

theorem guide_answers (embedding : List ℚ) :
    PostgresAnswers unitDistance stableRanking guideTable {} embedding (guidePool embedding) ∧
      FirestoreAnswers unitDistance stableRanking guideTable {} embedding
        (guideNearest embedding) :=
  ⟨fun _ answered => (Except.ok.inj answered).symm, fun _ answered => (Except.ok.inj answered).symm⟩

/-- A pack that is as near as can be is not found at its distance. -/
theorem not_vectorLaw :
    PostgresAnswers unitDistance stableRanking guideTable {} [1, 0] (guidePool [1, 0]) ∧
      FirestoreAnswers unitDistance stableRanking guideTable {} [1, 0] (guideNearest [1, 0]) ∧
      ¬ VectorLaw unitDistance stableRanking guideTable {} [1, 0] (guidePool [1, 0])
        (guideNearest [1, 0]) := by
  obtain ⟨postgres, firestore⟩ := guide_answers [1, 0]
  refine ⟨postgres, firestore, fun law => ?_⟩
  have ones := ((found_iff postgres).mp law.found).2.1
  have near : (guidePack, (0 : ℚ)) ∈ nearest unitDistance stableRanking guideTable {} [1, 0] := by
    decide +kernel
  exact absurd (ones _ near) (by decide)

/-- A pack that has nothing to do with the query is found at its distance. -/
theorem vectorLaw_guide :
    VectorLaw unitDistance stableRanking guideTable {} [0, 1] (guidePool [0, 1])
      (guideNearest [0, 1]) :=
  (vectorLaw_iff (guide_answers [0, 1]).1 (guide_answers [0, 1]).2).mpr
    ⟨⟨_, rfl⟩, by decide +kernel, fun zero => absurd zero (by decide)⟩

end BitBrat
