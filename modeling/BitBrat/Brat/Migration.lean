import BitBrat.Js.Value

/-! Copying collections of one database to the tables of another, which may take several runs. -/

namespace BitBrat

open Js

def COLLECTION_MAPPING : List (String × String) :=
  [("configs", "routing_rules"), ("users", "auth_users"), ("oauth", "auth_scopes"),
   ("state", "user_state"), ("services", "service_registry")]

def NESTED_COLLECTION_PATHS : List (String × String) := [("configs", "configs/routingRules/rules")]

def postgresTable (collectionName : String) : String :=
  (COLLECTION_MAPPING.lookup collectionName).getD collectionName

def firestorePath (collectionName : String) : String :=
  (NESTED_COLLECTION_PATHS.lookup collectionName).getD collectionName

/-- One run of the migration, and what goes wrong in it. -/
structure MigrationRun where
  dryRun : Bool := false
  /-- The documents of a collection by their identifiers, unless they cannot be fetched. -/
  fetch : String → Except String (List (String × Value))
  /-- The writes that fail, by how many were tried before. -/
  refuses : Nat → Bool := fun _ => false
  /-- The reports of progress that throw. -/
  reportFails : Nat → Nat → Bool := fun _ _ => false

/-- The rows of all tables, and how many writes the run has tried. -/
structure MigrationState where
  rows : OrderedMap (String × String) Value
  tried : Nat := 0

structure MigrationResult where
  migrated : Nat := 0
  skipped : Nat := 0
  errors : Nat := 0
  deriving DecidableEq

structure BulkMigrationResult where
  collections : OrderedMap String MigrationResult := .empty
  totalMigrated : Nat := 0
  totalErrors : Nat := 0

section

variable (asRow : Value → Value) (run : MigrationRun)

def migrateDocument (table : String) (total : Nat) (progress : MigrationState × MigrationResult)
    (doc : String × Value) : MigrationState × MigrationResult :=
  let (state, result) := progress
  if !run.dryRun && run.refuses state.tried then
    ({ state with tried := state.tried + 1 }, { result with errors := result.errors + 1 })
  else
    let migrated := result.migrated + 1
    -- A document whose report throws is counted as migrated, and as an error.
    let errors := if run.reportFails migrated total then result.errors + 1 else result.errors
    (if run.dryRun then state
     else { rows := state.rows.set (table, doc.1) (asRow doc.2), tried := state.tried + 1 },
      { result with migrated, errors })

def migrateCollection (collectionName : String) (state : MigrationState) :
    Except String MigrationResult × MigrationState :=
  match run.fetch (firestorePath collectionName) with
  | .error message => (.error message, state)
  | .ok docs =>
    let (after, result) :=
      docs.foldl (migrateDocument asRow run (postgresTable collectionName) docs.length) (state, {})
    (.ok result, after)

/-- Migrate collections one after the other. One that cannot be fetched ends the run. -/
def migrateAll : List String → BulkMigrationResult → MigrationState →
    Except String BulkMigrationResult × MigrationState
  | [], bulk, state => (.ok bulk, state)
  | collectionName :: rest, bulk, state =>
    match migrateCollection asRow run collectionName state with
    | (.error message, after) => (.error message, after)
    | (.ok result, after) =>
      migrateAll rest
        { collections := bulk.collections.set collectionName result
          totalMigrated := bulk.totalMigrated + result.migrated
          totalErrors := bulk.totalErrors + result.errors } after

end

/-- A run reads the same database, as far as it can read it. -/
def MigrationRun.Reads (run : MigrationRun) (source : String → List (String × Value)) : Prop :=
  ∀ path docs, run.fetch path = .ok docs → docs = source path

def Migrates (source : String → List (String × Value)) (collections : List String)
    (row : String × String) : Prop :=
  ∃ name ∈ collections, ∃ doc ∈ source (firestorePath name), row = (postgresTable name, doc.1)

def completeRun (source : String → List (String × Value)) : MigrationRun where
  fetch path := .ok (source path)

variable {asRow : Value → Value} {source : String → List (String × Value)} {row : String × String}

theorem rows_migrateDocuments (run : MigrationRun) {table : String} {total : Nat}
    {docs : List (String × Value)}
    (apart : ∀ doc ∈ docs, row ≠ (table, doc.1)) (progress : MigrationState × MigrationResult) :
    (docs.foldl (migrateDocument asRow run table total) progress).1.rows.get? row =
      progress.1.rows.get? row := by
  induction docs generalizing progress with
  | nil => rfl
  | cons doc rest ih =>
    have other : row ≠ (table, doc.1) := apart doc List.mem_cons_self
    rw [List.foldl_cons, ih fun later member => apart later (List.mem_cons_of_mem _ member)]
    dsimp only [migrateDocument]
    split
    · rfl
    · cases run.dryRun <;> simp [other]

/-- Whatever goes wrong, a run leaves all rows alone that its collections have no document for. -/
theorem rows_migrateAll (run : MigrationRun) (reads : run.Reads source)
    {collections : List String} (apart : ¬ Migrates source collections row)
    (bulk : BulkMigrationResult) (state : MigrationState) :
    (migrateAll asRow run collections bulk state).2.rows.get? row = state.rows.get? row := by
  induction collections generalizing bulk state with
  | nil => rfl
  | cons name rest ih =>
    have later : ¬ Migrates source rest row := fun ⟨other, member, doc⟩ =>
      apart ⟨other, List.mem_cons_of_mem _ member, doc⟩
    unfold migrateAll migrateCollection
    cases fetched : run.fetch (firestorePath name) with
    | error message => rfl
    | ok docs =>
      have read := reads _ _ fetched
      dsimp only
      rw [ih later]
      exact rows_migrateDocuments run
        (fun doc member same => apart ⟨name, List.mem_cons_self, doc, read ▸ member, same⟩) _

theorem complete_migrateDocuments (asRow : Value → Value)
    (source : String → List (String × Value)) (row : String × String) (table : String) (total : Nat)
    (docs : List (String × Value)) (progress other : MigrationState × MigrationResult)
    (counts : progress.2 = other.2) :
    let migrate := docs.foldl (migrateDocument asRow (completeRun source) table total)
    (migrate progress).2 = (migrate other).2 ∧
      (progress.1.rows.get? row = other.1.rows.get? row ∨ (∃ doc ∈ docs, row = (table, doc.1)) →
        (migrate progress).1.rows.get? row = (migrate other).1.rows.get? row) := by
  induction docs generalizing progress other with
  | nil => exact ⟨counts, fun agree => by simpa using agree⟩
  | cons doc rest ih =>
    have step := ih (migrateDocument asRow (completeRun source) table total progress doc)
      (migrateDocument asRow (completeRun source) table total other doc)
      (by simp [migrateDocument, completeRun, counts])
    refine ⟨step.1, fun agree => step.2 ?_⟩
    -- A row that is written now is the same in both, whatever it was.
    by_cases written : row = (table, doc.1)
    · exact .inl (by simp [migrateDocument, completeRun, written])
    · refine agree.imp (fun same => ?_) fun ⟨later, member, here⟩ => ?_
      · simpa [migrateDocument, completeRun, OrderedMap.get?_set, written] using same
      · exact ⟨later, (List.mem_cons.mp member).resolve_left (written <| · ▸ here), here⟩

theorem complete_migrateAll {collections : List String} (bulk : BulkMigrationResult)
    {state other : MigrationState}
    (agree : state.rows.get? row = other.rows.get? row ∨ Migrates source collections row) :
    let migrate := migrateAll asRow (completeRun source) collections bulk
    (migrate state).1 = (migrate other).1 ∧
      (migrate state).2.rows.get? row = (migrate other).2.rows.get? row := by
  induction collections generalizing bulk state other with
  | nil => exact ⟨rfl, agree.resolve_right fun ⟨_, member, _⟩ => absurd member List.not_mem_nil⟩
  | cons name rest ih =>
    obtain ⟨counts, same⟩ := complete_migrateDocuments asRow source row (postgresTable name)
      (source (firestorePath name)).length (source (firestorePath name)) (state, {}) (other, {}) rfl
    simp only [completeRun] at counts same ih
    simp only [migrateAll, migrateCollection, completeRun, counts]
    refine ih _ ?_
    rcases agree with before | ⟨found, member, doc, listed, here⟩
    · exact .inl (same (.inl before))
    · rcases List.mem_cons.mp member with rfl | later
      · exact .inl (same (.inr ⟨doc, listed, here⟩))
      · exact .inr ⟨found, later, doc, listed, here⟩

/-- After any runs, whatever failed in them and wherever they ended, one complete run of the same
collections reports and leaves what it would have without them. -/
theorem migrateAll_resumed (asRow : Value → Value) (source : String → List (String × Value))
    (collections : List String) (earlier : List (MigrationRun × List String))
    (within : ∀ run ∈ earlier, run.1.Reads source ∧ run.2 ⊆ collections)
    (state : MigrationState) :
    let resumed := migrateAll asRow (completeRun source) collections {}
      (earlier.foldl (fun state run => (migrateAll asRow run.1 run.2 {} state).2) state)
    let clean := migrateAll asRow (completeRun source) collections {} state
    resumed.1 = clean.1 ∧ ∀ row, resumed.2.rows.get? row = clean.2.rows.get? row := by
  intro resumed clean
  -- Before the last run, only rows differ that it writes.
  have before : ∀ row, (earlier.foldl (fun state run =>
        (migrateAll asRow run.1 run.2 {} state).2) state).rows.get? row = state.rows.get? row ∨
      Migrates source collections row := by
    intro row
    by_cases migrates : Migrates source collections row
    · exact .inr migrates
    · left
      clear resumed clean
      induction earlier generalizing state with
      | nil => rfl
      | cons run rest ih =>
        obtain ⟨reads, listed⟩ := within run List.mem_cons_self
        rw [List.foldl_cons, ih fun later member => within later (List.mem_cons_of_mem _ member)]
        exact rows_migrateAll run.1 reads
          (fun ⟨name, member, doc⟩ => migrates ⟨name, listed member, doc⟩) {} state
  exact ⟨(complete_migrateAll {} (before ("", ""))).1,
    fun row => (complete_migrateAll {} (before row)).2⟩

def ruleSource (path : String) : List (String × Value) :=
  if path = "configs/routingRules/rules" then [("first", .null), ("second", .null)] else []

def lossyRun : MigrationRun := { completeRun ruleSource with refuses := (· == 1) }

theorem migrateAll_resumed_rules :
    let migrate := fun run state => migrateAll id run ["configs"] {} state
    let lost := (migrate lossyRun { rows := .empty }).2
    let clean := migrate (completeRun ruleSource) { rows := .empty }
    (migrate (completeRun ruleSource) lost).1 = clean.1 ∧
      ∀ row, (migrate (completeRun ruleSource) lost).2.rows.get? row = clean.2.rows.get? row :=
  migrateAll_resumed id ruleSource ["configs"] [(lossyRun, ["configs"])]
    (fun run member => by
      obtain rfl := List.mem_singleton.mp member
      exact ⟨fun _ _ fetched => (Except.ok.inj fetched).symm, List.Subset.refl _⟩)
    { rows := .empty }

end BitBrat
