import BitBrat.Backup.ImportPlan
import BitBrat.Backup.RoundTrip
import Mathlib.Data.List.TakeWhile

/-! What an import may write, and when it writes nothing else. -/

namespace BitBrat

open Js Machine

section

variable (sdk : FirestoreSdk) (mode : ImportMode) (there : String → Bool)

/-- What one thing comes to in a database with some documents: a write, nothing, or an error. -/
def ImportItem.outcome : ImportItem → Except String (Option DocumentWrite)
  | .document docPath data =>
    match sdk.doc docPath with
    | none => .error "Value for argument \"documentPath\" must point to a document"
    | some ref =>
      if mode = .skip ∧ there ref then .ok none
      else do
        let decoded ← decodeDocumentData sdk data
        .ok (some (← acceptWrite sdk ref decoded (mode = .merge)))
  | .parent docPath =>
    match sdk.doc docPath with
    | none => .error "Value for argument \"documentPath\" must point to a document"
    | some _ => .ok none
  | .barred message => .error message
  | _ => .ok none

end

def written (outcome : Except String (Option DocumentWrite)) : List DocumentWrite :=
  match outcome with
  | .ok write => write.toList
  | .error _ => []

section

variable {env : ImportEnv} (real : env.dryRun = false)

include real in
theorem exec_sinkSet (ref : String) (data : FirestoreValue) (merge : Bool)
    (state : ImportState) : ∃ next, exec (sinkSet env ref data merge) state =
        ((acceptWrite env.sdk ref data merge).map fun _ => (), next) ∧
      next.queue = state.queue ++ written ((acceptWrite env.sdk ref data merge).map some) := by
  simp only [sinkSet, real, Bool.false_eq_true, ↓reduceIte, exec_bind, exec_modify, exec_ofExcept]
  cases acceptWrite env.sdk ref data merge with
  | error message => exact ⟨_, rfl, by simp [written, Except.map]⟩
  | ok write => exact ⟨_, rfl, by simp [written, Except.map]⟩

include real in
theorem exec_runItem (item : ImportItem) (state : ImportState) :
    ∃ next, exec (runItem env item) state =
        ((item.outcome env.sdk env.mode (env.exists state)).map fun _ => (), next) ∧
      next.queue =
        state.queue ++ written (item.outcome env.sdk env.mode (env.exists state)) := by
  cases item with
  | document docPath data =>
    simp only [runItem, resolveDocument, ImportItem.outcome, exec_bind, exec_ofExcept]
    cases env.sdk.doc docPath with
    | none => exact ⟨state, by simp [Except.map], by simp [written]⟩
    | some ref =>
      simp only [importData, exec_bind, exec_get, exec_modify]
      by_cases skip : env.mode = .skip ∧ env.exists state ref
      · rw [if_pos skip, if_pos skip]
        exact ⟨_, rfl, by simp [written]⟩
      · rw [if_neg skip, if_neg skip]
        simp only [exec_bind, exec_ofExcept]
        cases decodeDocumentData env.sdk data with
        | error message => exact ⟨_, rfl, by simp [written, bind, Except.bind]⟩
        | ok decoded =>
          obtain ⟨next, ran, queued⟩ := exec_sinkSet real ref decoded (env.mode = .merge)
            { state with reads := state.reads + 1 }
          simp only [ran]
          cases accepted : acceptWrite env.sdk ref decoded (env.mode = .merge) with
          | error message =>
            rw [accepted] at queued
            exact ⟨next, by simp [accepted, Except.map, bind, Except.bind], by
              simpa [written, accepted, Except.map, bind, Except.bind] using queued⟩
          | ok write =>
            rw [accepted] at queued
            -- The count of the document leaves the queue alone.
            by_cases there : env.exists state ref
            · exact ⟨_, by rw [if_pos there]; simp only [bind, Except.bind, accepted]; rfl, by
                simpa [written, accepted, Except.map, bind, Except.bind] using queued⟩
            · exact ⟨_, by rw [if_neg there]; simp only [bind, Except.bind, accepted]; rfl, by
                simpa [written, accepted, Except.map, bind, Except.bind] using queued⟩
  | parent docPath =>
    simp only [runItem, resolveDocument, ImportItem.outcome, exec_bind, exec_ofExcept]
    cases env.sdk.doc docPath with
    | none => exact ⟨state, by simp [Except.map], by simp [written]⟩
    | some ref => exact ⟨state, by simp [Except.map], by simp [written]⟩
  | barred message =>
    exact ⟨state, by simp [runItem, ImportItem.outcome, Except.map],
      by simp [written, ImportItem.outcome]⟩
  | leftOut path => exact ⟨_, rfl, by simp [written, ImportItem.outcome]⟩
  | opened => exact ⟨_, rfl, by simp [written, ImportItem.outcome]⟩
  | closed path => exact ⟨_, rfl, by simp [written, ImportItem.outcome]⟩

end

/-- The documents of the database before an import. -/
def ImportEnv.stored (env : ImportEnv) (ref : String) : Bool := (env.db ref).isSome

theorem isSome_perform {db : FirestoreDatabase} {ref : String} (there : (db ref).isSome)
    (writes : List DocumentWrite) : (db.perform writes ref).isSome := by
  induction writes generalizing db with
  | nil => exact there
  | cons write rest ih =>
    apply ih
    unfold FirestoreDatabase.write
    split
    · split <;> rfl
    · exact there

theorem exists_of_stored {env : ImportEnv} (state : ImportState) {ref : String}
    (there : env.stored ref = true) : env.exists state ref = true := isSome_perform there _

theorem exists_of_queue_nil (env : ImportEnv) {state : ImportState}
    (none : state.queue = []) : env.exists state = env.stored := by
  funext ref
  simp [ImportEnv.exists, ImportEnv.performed, ImportEnv.stored, none, FirestoreDatabase.perform]

theorem exists_of_unseen {env : ImportEnv} (unseen : env.arrived = fun _ _ => false)
    (state : ImportState) : env.exists state = env.stored := by
  funext ref
  simp [ImportEnv.exists, ImportEnv.performed, ImportEnv.stored, unseen, FirestoreDatabase.perform]

theorem outcome_of_more (sdk : FirestoreSdk) (mode : ImportMode)
    {there more : String → Bool} (le : ∀ ref, there ref = true → more ref = true)
    (item : ImportItem) : item.outcome sdk mode more = item.outcome sdk mode there ∨
      item.outcome sdk mode more = .ok none := by
  cases item with
  | document docPath data =>
    simp only [ImportItem.outcome]
    cases sdk.doc docPath with
    | none => exact .inl rfl
    | some ref =>
      by_cases skip : mode = .skip ∧ more ref
      · simp [skip]
      · have kept : ¬(mode = .skip ∧ there ref) := fun held => skip ⟨held.1, le ref held.2⟩
        simp [skip, kept]
  | _ => exact .inl rfl

/-- What a thing comes to in the database before the import. -/
def ImportItem.initially (env : ImportEnv) (item : ImportItem) :
    Except String (Option DocumentWrite) := item.outcome env.sdk env.mode env.stored

theorem outcome_exists (env : ImportEnv) (state : ImportState) (item : ImportItem) :
    item.outcome env.sdk env.mode (env.exists state) = item.initially env ∨
      item.outcome env.sdk env.mode (env.exists state) = .ok none :=
  outcome_of_more env.sdk env.mode (fun _ => exists_of_stored state) item

section

variable {env : ImportEnv} (real : env.dryRun = false)

include real in
theorem exec_runItems (items : List ImportItem) (state : ImportState) :
    (∀ write ∈ (exec (runItems env items) state).2.queue,
      write ∈ state.queue ∨ ∃ item ∈ items, write ∈ written (item.initially env)) ∧
    ∀ message, (exec (runItems env items) state).1 = .error message →
      ∃ item ∈ items, item.initially env = .error message := by
  -- The induction is on the items, the first of which is done first.
  induction items generalizing state with
  | nil =>
    refine ⟨fun write member => .inl member, ?_⟩
    intro message failed
    cases failed
  | cons item rest ih =>
    obtain ⟨next, ran, queued⟩ := exec_runItem real item state
    have known := outcome_exists env state item
    simp only [runItems_cons, exec_bind, ran]
    have fromItem : ∀ write ∈ next.queue,
        write ∈ state.queue ∨ write ∈ written (item.initially env) := by
      intro write member
      rw [queued, List.mem_append] at member
      rcases known with same | skipped
      · rwa [same] at member
      · rw [skipped] at member
        exact .inl (by simpa [written] using member)
    cases comes : item.outcome env.sdk env.mode (env.exists state) with
    | error message =>
      simp only [Except.map]
      refine ⟨?_, ?_⟩
      · intro write member
        rcases fromItem write member with old | new
        · exact .inl old
        · exact .inr ⟨item, List.mem_cons_self, new⟩
      · intro other same
        cases same
        -- A thing that fails was not skipped.
        rcases known with initially | skipped
        · exact ⟨item, List.mem_cons_self, initially.symm.trans comes⟩
        · rw [comes] at skipped
          cases skipped
    | ok write =>
      simp only [Except.map]
      obtain ⟨writes, fails⟩ := ih next
      refine ⟨?_, ?_⟩
      · intro write member
        rcases writes write member with before | ⟨later, among, wrote⟩
        · rcases fromItem write before with old | new
          · exact .inl old
          · exact .inr ⟨item, List.mem_cons_self, new⟩
        · exact .inr ⟨later, List.mem_cons_of_mem _ among, wrote⟩
      · intro message failed
        obtain ⟨later, among, throws⟩ := fails message failed
        exact ⟨later, List.mem_cons_of_mem _ among, throws⟩

include real in
theorem queue_of_early_error {before : List ImportItem} {bad : ImportItem}
    {message : String} (after : List ImportItem)
    (idle : ∀ item ∈ before, written (item.initially env) = [])
    (fails : bad.initially env = .error message) {state : ImportState} (fresh : state.queue = []) :
    (exec (runItems env (before ++ bad :: after)) state).2.queue = [] := by
  induction before generalizing state with
  | nil =>
    obtain ⟨next, ran, queued⟩ := exec_runItem real bad state
    rw [exists_of_queue_nil env fresh] at ran queued
    change bad.outcome env.sdk env.mode env.stored = .error message at fails
    rw [fails] at ran queued
    simp only [List.nil_append, runItems_cons, exec_bind, ran, Except.map]
    simpa [written, fresh] using queued
  | cons item rest ih =>
    obtain ⟨next, ran, queued⟩ := exec_runItem real item state
    rw [exists_of_queue_nil env fresh] at ran queued
    have nothing : next.queue = [] := by
      rw [queued, fresh]
      exact idle item List.mem_cons_self
    simp only [List.cons_append, runItems_cons, exec_bind, ran]
    cases item.outcome env.sdk env.mode env.stored with
    | error other => exact nothing
    | ok write => exact ih (fun later member => idle later (List.mem_cons_of_mem _ member)) nothing

include real in
theorem exec_runItems_of_unseen (unseen : env.arrived = fun _ _ => false)
    (items : List ImportItem) (state : ImportState) :
    (exec (runItems env items) state).2.queue = state.queue ++
        (items.takeWhile fun item => (item.initially env).isOk).flatMap
          (fun item => written (item.initially env)) ∧
      ((exec (runItems env items) state).1.isOk ↔
        ∀ item ∈ items, (item.initially env).isOk) := by
  induction items generalizing state with
  | nil => simp [Except.isOk, Except.toBool]
  | cons item rest ih =>
    obtain ⟨next, ran, queued⟩ := exec_runItem real item state
    rw [exists_of_unseen unseen] at ran queued
    change next.queue = state.queue ++ written (item.initially env) at queued
    change exec (runItem env item) state = ((item.initially env).map fun _ => (), next) at ran
    simp only [runItems_cons, exec_bind, ran]
    cases comes : item.initially env with
    | error message =>
      rw [comes] at queued
      simp [comes, queued, written, Except.map, Except.isOk, Except.toBool]
    | ok write =>
      obtain ⟨queue, done⟩ := ih next
      rw [comes] at queued
      simp only [Except.map, done, queue, queued]
      simp [comes, Except.isOk, Except.toBool]

end

theorem queue_of_dryRun {env : ImportEnv} (dry : env.dryRun = true)
    (items : List ImportItem) (state : ImportState) :
    (exec (runItems env items) state).2.queue = state.queue := by
  have item (item : ImportItem) (state : ImportState) :
      (exec (runItem env item) state).2.queue = state.queue := by
    cases item with
    | document docPath data =>
      simp only [runItem, resolveDocument, exec_bind, exec_ofExcept]
      cases env.sdk.doc docPath with
      | none => rfl
      | some ref =>
        simp only [importData, exec_bind, exec_get, exec_modify]
        split
        · rfl
        · simp only [exec_bind, exec_ofExcept]
          cases decodeDocumentData env.sdk data with
          | error message => rfl
          | ok decoded =>
            simp only [sinkSet, dry, ↓reduceIte, exec_bind, exec_modify, exec_pure]
            split <;> rfl
    | parent docPath =>
      simp only [runItem, resolveDocument, exec_bind, exec_ofExcept]
      cases env.sdk.doc docPath <;> rfl
    | _ => rfl
  induction items generalizing state with
  | nil => rfl
  | cons first rest ih =>
    have same := item first state
    simp only [runItems_cons, exec_bind]
    split
    · rename_i next ran
      rw [ran] at same
      exact (ih next).trans same
    · rename_i ran
      rw [ran] at same
      exact same

/-- A path in a collection that the registry marks sensitive, or below one of its documents. -/
def LiesInSensitive (registry : List BackupCollectionSpec) (path : String) : Prop :=
  ∃ spec ∈ registry, spec.sensitive = true ∧
    collectionSegments spec.path <+: collectionSegments path

/-- A run of an import from the start, with what it writes. -/
def runImport (sdk : FirestoreSdk) (db : FirestoreDatabase) (arrived : Nat → Nat → Bool)
    (envelope : Option BackupEnvelope) (options : ImportOptions)
    (registry : List BackupCollectionSpec) : Except String ImportResult × ImportState :=
  exec (importConfig sdk db arrived envelope options registry) {}

/-- A run that writes no secrets, nothing forbidden, and nothing at all if it throws. -/
structure ImportLaw (registry : List BackupCollectionSpec) (includeSecrets : Bool)
    (run : Except String ImportResult × ImportState) : Prop where
  sensitive : includeSecrets = false → ∀ write ∈ run.2.queue, ¬ LiesInSensitive registry write.path
  forbidden : ∀ write ∈ run.2.queue, isForbiddenPath write.path = false
  atomic : ∀ message, run.1 = .error message → run.2.queue = []

def checkedItems (envelope : Option BackupEnvelope) (options : ImportOptions)
    (registry : List BackupCollectionSpec) : Except String (List ImportItem) := do
  let (_, collections) ← validateEnvelope envelope
  assertRegistrySafe registry
  assertEnvelopeSafe collections
  .ok (importItems registry collections options)

/-- A thing that can be done, and writes at most a document that may be written. -/
def ImportItem.Harmless (registry : List BackupCollectionSpec) (includeSecrets : Bool)
    (outcome : Except String (Option DocumentWrite)) : Prop :=
  outcome.isOk ∧ ∀ write ∈ written outcome, isForbiddenPath write.path = false ∧
    (includeSecrets = false → ¬ LiesInSensitive registry write.path)

/-- Either all things are harmless, or one that fails comes before all that write. -/
def ItemsHarmless (registry : List BackupCollectionSpec) (includeSecrets : Bool) (env : ImportEnv)
    (items : List ImportItem) : Prop :=
  (∀ item ∈ items, ImportItem.Harmless registry includeSecrets (item.initially env)) ∨
    ∃ before bad after message, items = before ++ bad :: after ∧
      (∀ item ∈ before, written (item.initially env) = []) ∧
      bad.initially env = .error message

theorem runImport_eq (sdk : FirestoreSdk) (db : FirestoreDatabase) (arrived : Nat → Nat → Bool)
    (envelope : Option BackupEnvelope) (options : ImportOptions)
    (registry : List BackupCollectionSpec) :
    match checkedItems envelope options registry with
    | .error message => runImport sdk db arrived envelope options registry = (.error message, {})
    | .ok items => ∃ warnings,
      let env := importEnv sdk db arrived options
      let ran := exec (runItems env items) { warnings }
      runImport sdk db arrived envelope options registry =
        (ran.1.map fun _ => importResult env ran.2, ran.2) := by
  unfold checkedItems runImport importConfig
  simp only [exec_bind, exec_ofExcept]
  cases validateEnvelope envelope with
  | error message => rfl
  | ok valid =>
    obtain ⟨envelope, collections⟩ := valid
    simp only [exec_modify, exec_get, exec_pure, bind, Except.bind]
    cases assertRegistrySafe registry with
    | error message => rfl
    | ok _ =>
      cases assertEnvelopeSafe collections with
      | error message => rfl
      | ok _ =>
        simp only [importCollections_eq]
        refine ⟨registryVersionWarnings envelope, ?_⟩
        simp only [List.nil_append]
        cases ran : exec (runItems (importEnv sdk db arrived options)
            (importItems registry collections options))
            { warnings := registryVersionWarnings envelope } with
        | mk outcome state => cases outcome <;> simp [Except.map]

/-- What a backup may be imported for: nothing is written, or all items of it are harmless. -/
def ImportAllowed (sdk : FirestoreSdk) (db : FirestoreDatabase) (envelope : Option BackupEnvelope)
    (options : ImportOptions) (registry : List BackupCollectionSpec) : Prop :=
  options.confirm = false ∨
    match checkedItems envelope options registry with
    | .error _ => True
    | .ok items => ItemsHarmless registry options.includeSecrets
        (importEnv sdk db (fun _ _ => false) options) items

theorem importLaw_of_queue_nil {registry : List BackupCollectionSpec}
    {includeSecrets : Bool} {run : Except String ImportResult × ImportState}
    (none : run.2.queue = []) : ImportLaw registry includeSecrets run where
  sensitive := by simp [none]
  forbidden := by simp [none]
  atomic := fun _ _ => none

theorem importLaw_of_harmless {env : ImportEnv} (real : env.dryRun = false)
    {registry : List BackupCollectionSpec} {includeSecrets : Bool} {items : List ImportItem}
    (harmless : ItemsHarmless registry includeSecrets env items) {state : ImportState}
    (fresh : state.queue = []) (result : ImportState → ImportResult) :
    let ran := exec (runItems env items) state
    ImportLaw registry includeSecrets (ran.1.map fun _ => result ran.2, ran.2) := by
  rcases harmless with each | ⟨before, bad, after, message, rfl, idle, fails⟩
  · obtain ⟨writes, errors⟩ := exec_runItems real items state
    -- Every write comes from an item, and no item fails.
    have fine : ∀ write ∈ (exec (runItems env items) state).2.queue,
        isForbiddenPath write.path = false ∧
          (includeSecrets = false → ¬ LiesInSensitive registry write.path) := by
      intro write member
      rcases writes write member with old | ⟨item, among, wrote⟩
      · simp [fresh] at old
      · exact (each item among).2 write wrote
    refine ⟨fun without write member => (fine write member).2 without,
      fun write member => (fine write member).1, ?_⟩
    intro message failed
    cases ended : (exec (runItems env items) state).1 with
    | error other =>
      obtain ⟨item, among, throws⟩ := errors other ended
      have succeeds := (each item among).1
      rw [throws] at succeeds
      cases succeeds
    | ok _ =>
      simp only [ended] at failed
      cases failed
  · exact importLaw_of_queue_nil (queue_of_early_error real after idle fails fresh)

theorem harmless_of_importLaw {env : ImportEnv} (real : env.dryRun = false)
    (unseen : env.arrived = fun _ _ => false) {registry : List BackupCollectionSpec}
    {includeSecrets : Bool} {items : List ImportItem} {state : ImportState}
    (fresh : state.queue = []) (result : ImportState → ImportResult)
    (law : ImportLaw registry includeSecrets ((exec (runItems env items) state).1.map
      fun _ => result (exec (runItems env items) state).2, (exec (runItems env items) state).2)) :
    ItemsHarmless registry includeSecrets env items := by
  obtain ⟨queue, done⟩ := exec_runItems_of_unseen real unseen items state
  rw [fresh, List.nil_append] at queue
  by_cases all : ∀ item ∈ items, (item.initially env).isOk
  · -- All items are done, so that all their writes are queued.
    left
    have whole : (items.takeWhile fun item => (item.initially env).isOk) = items :=
      List.takeWhile_eq_self_iff.mpr all
    intro item among
    refine ⟨all item among, ?_⟩
    intro write wrote
    have queued : write ∈ (exec (runItems env items) state).2.queue := by
      rw [queue, whole]
      exact List.mem_flatMap.mpr ⟨item, among, wrote⟩
    exact ⟨law.forbidden write queued, fun without => law.sensitive without write queued⟩
  · -- The run throws, so that the items before the first that fails write nothing.
    right
    have stops : (exec (runItems env items) state).1.isOk = false :=
      Bool.eq_false_iff.mpr fun ok => all (done.mp ok)
    have none : (exec (runItems env items) state).2.queue = [] := by
      cases ended : (exec (runItems env items) state).1 with
      | error message => exact law.atomic message (by simp [ended, Except.map])
      | ok _ =>
        rw [ended] at stops
        cases stops
    rw [queue] at none
    obtain ⟨bad, rest, first⟩ : ∃ bad rest,
        (items.dropWhile fun item => (item.initially env).isOk) = bad :: rest := by
      apply List.exists_cons_of_ne_nil
      intro empty
      exact all (List.dropWhile_eq_nil_iff.mp empty)
    have failing : (bad.initially env).isOk = false := by
      have some : (items.dropWhile fun item => (item.initially env).isOk) ≠ [] := by simp [first]
      simpa [first] using List.head_dropWhile_not _ some
    cases fails : bad.initially env with
    | ok write =>
      rw [fails] at failing
      cases failing
    | error message =>
      refine ⟨items.takeWhile fun item => (item.initially env).isOk, bad, rest, message, ?_, ?_,
        fails⟩
      · rw [← first]
        exact List.takeWhile_append_dropWhile.symm
      · exact List.flatMap_eq_nil_iff.mp none

/-- An import keeps the law, whenever its writes are performed, exactly if it is allowed. -/
theorem importLaw_iff (sdk : FirestoreSdk) (db : FirestoreDatabase)
    (envelope : Option BackupEnvelope) (options : ImportOptions)
    (registry : List BackupCollectionSpec) :
    (∀ arrived, ImportLaw registry options.includeSecrets
        (runImport sdk db arrived envelope options registry)) ↔
      ImportAllowed sdk db envelope options registry := by
  have run (arrived : Nat → Nat → Bool) :=
    runImport_eq sdk db arrived envelope options registry
  unfold ImportAllowed
  cases checked : checkedItems envelope options registry with
  | error message =>
    simp only [checked] at run
    simp only [or_true, iff_true]
    intro arrived
    rw [run arrived]
    exact importLaw_of_queue_nil rfl
  | ok items =>
    simp only [checked] at run
    cases confirmed : options.confirm with
    | false =>
      simp only [true_or, iff_true]
      intro arrived
      obtain ⟨warnings, ran⟩ := run arrived
      rw [ran]
      have dry : (importEnv sdk db arrived options).dryRun = true := by simp [importEnv, confirmed]
      exact importLaw_of_queue_nil (queue_of_dryRun dry items _)
    | true =>
      have real (arrived : Nat → Nat → Bool) :
          (importEnv sdk db arrived options).dryRun = false := by simp [importEnv, confirmed]
      simp only [Bool.true_eq_false, false_or]
      constructor
      · intro law
        obtain ⟨warnings, ran⟩ := run fun _ _ => false
        have kept := law fun _ _ => false
        rw [ran] at kept
        exact harmless_of_importLaw (real _) rfl rfl _ kept
      · intro harmless arrived
        obtain ⟨warnings, ran⟩ := run arrived
        rw [ran]
        exact importLaw_of_harmless (real arrived) harmless rfl _

def backupOf (collections : OrderedMap String (List BackupDocumentNode)) : BackupEnvelope where
  format := .str BACKUP_FORMAT
  schemaVersion := .num (.finite SCHEMA_VERSION)
  registryVersion := .num (.finite REGISTRY_VERSION)
  collections := some collections

/-- A token below its gateway, instead of in the collection that the registry names. -/
def nestedToken : OrderedMap String (List BackupDocumentNode) :=
  OrderedMap.empty.set "gateways"
    [.mk "api" (.obj []) [("tokens", [.mk "t1" (.obj []) [] false])] true]

def nestedEvent : OrderedMap String (List BackupDocumentNode) :=
  OrderedMap.empty.set "users" [.mk "ada/events/e1" (.obj []) [] false]

def emptyWrite (path : String) : DocumentWrite := { path, data := [], merge := true }

/-- Tokens are written without being asked for, and events although they are forbidden. -/
theorem token_written :
    (runImport plainSdk (fun _ => none) (fun _ _ => false) (some (backupOf nestedToken))
        { confirm := true } CONFIG_BACKUP_REGISTRY).2.queue =
        [emptyWrite "gateways/api/tokens/t1"] ∧
      LiesInSensitive CONFIG_BACKUP_REGISTRY "gateways/api/tokens/t1" ∧
      (runImport plainSdk (fun _ => none) (fun _ _ => false) (some (backupOf nestedEvent))
        { confirm := true } CONFIG_BACKUP_REGISTRY).2.queue =
        [emptyWrite "users/ada/events/e1"] ∧
      isForbiddenPath "users/ada/events/e1" = true := by
  let env := importEnv plainSdk (fun _ => none) (fun _ _ => false) { confirm := true }
  have decoded : decodeDocumentData plainSdk (.obj []) = .ok (.map []) := by
    simp [decodeDocumentData, decodeValue, decodeFields, escapedFields, bind, Except.bind]
  have document (path : String) (known : documentPath path = some path) (state : ImportState) :
      exec (runItem env (.document path (.obj []))) state =
        (.ok (), env.afterDocument path [] (env.exists state path) state) :=
    exec_document known decoded rfl state
  refine ⟨?_, ?_, ?_, ?_⟩
  · have run := runImport_eq plainSdk (fun _ => none) (fun _ _ => false)
      (some (backupOf nestedToken)) { confirm := true } CONFIG_BACKUP_REGISTRY
    have items : checkedItems (some (backupOf nestedToken)) { confirm := true }
        CONFIG_BACKUP_REGISTRY = .ok [.opened, .parent "gateways/api",
          .document "gateways/api/tokens/t1" (.obj []), .closed "gateways"] := rfl
    rw [items] at run
    obtain ⟨warnings, ran⟩ := run
    have parent (state : ImportState) :
        exec (runItem env (.parent "gateways/api")) state = (.ok (), state) := rfl
    rw [ran]
    change (exec (runItems env _) _).2.queue = _
    simp only [runItems_cons, exec_bind, parent, document _ (by decide : documentPath
      "gateways/api/tokens/t1" = _)]
    rfl
  · exact ⟨{ path := "gateways/api/tokens", sensitive := true }, by decide, rfl, by decide⟩
  · have run := runImport_eq plainSdk (fun _ => none) (fun _ _ => false)
      (some (backupOf nestedEvent)) { confirm := true } CONFIG_BACKUP_REGISTRY
    have items : checkedItems (some (backupOf nestedEvent)) { confirm := true }
        CONFIG_BACKUP_REGISTRY = .ok [.opened, .document "users/ada/events/e1" (.obj []),
          .closed "users"] := rfl
    rw [items] at run
    obtain ⟨warnings, ran⟩ := run
    rw [ran]
    change (exec (runItems env _) _).2.queue = _
    simp only [runItems_cons, exec_bind, document _ (by decide : documentPath
      "users/ada/events/e1" = _)]
    rfl
  · decide

end BitBrat
