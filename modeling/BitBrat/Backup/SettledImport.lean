import BitBrat.Backup.ImportSafety

/-! Imports in which nothing can go wrong: what they count, what they write, and where to. -/

namespace BitBrat

open Js Machine

section

variable {sdk : FirestoreSdk}

mutual

theorem mergeValue_self : ∀ value : FirestoreValue, value.WellFormed sdk →
    mergeValue value value = value
  | .map (entry :: rest), ⟨distinct, formed⟩ => by
    have same := mergeFields_stored (entry :: rest) (entry :: rest) formed
      fun field member => lookup_of_mem distinct member
    simp only [mergeValue, same]
  | .map [], _ | .null, _ | .bool _, _ | .str _, _ | .num _, _ | .timestamp _, _
  | .geoPoint _, _ | .ref _, _ | .bytes _, _ | .arr _, _ => by simp [mergeValue]

theorem mergeFields_stored (stored : List (String × FirestoreValue)) :
    ∀ fields : List (String × FirestoreValue), FieldsWellFormed sdk fields →
      (∀ field ∈ fields, stored.lookup field.1 = some field.2) →
      mergeFields stored fields = stored
  | [], _, _ => by simp [mergeFields]
  | (key, value) :: rest, ⟨formed, others⟩, found => by
    have own : stored.lookup key = some value := found (key, value) List.mem_cons_self
    have same := mergeValue_self value formed
    have later := mergeFields_stored stored rest others
      fun field member => found field (List.mem_cons_of_mem _ member)
    simp only [mergeFields, own, Option.getD_some, same, setEntry_of_lookup own, later]

end

end

variable {db : FirestoreDatabase} {writes : List DocumentWrite}

theorem perform_of_apart {path : String} (apart : ∀ write ∈ writes, write.path ≠ path) :
    db.perform writes path = db path := by
  induction writes generalizing db with
  | nil => rfl
  | cons write rest ih =>
    have other : path ≠ write.path := (apart write List.mem_cons_self).symm
    change (db.write write).perform rest path = db path
    rw [ih fun later member => apart later (List.mem_cons_of_mem _ member)]
    exact if_neg other

theorem perform_of_idle (idle : ∀ write ∈ writes, db.write write = db) :
    db.perform writes = db := by
  induction writes with
  | nil => rfl
  | cons write rest ih =>
    change (db.write write).perform rest = db
    rw [idle write List.mem_cons_self]
    exact ih fun later member => idle later (List.mem_cons_of_mem _ member)

theorem perform_of_mem (distinct : (writes.map (·.path)).Nodup) {write : DocumentWrite}
    (member : write ∈ writes) (fresh : db write.path = none) :
    db.perform writes write.path = some write.data := by
  induction writes generalizing db with
  | nil => cases member
  | cons first rest ih =>
    obtain ⟨apart, distinct⟩ := List.nodup_cons.mp distinct
    change (db.write first).perform rest write.path = _
    rcases List.mem_cons.mp member with rfl | later
    · -- No later write has this path.
      rw [perform_of_apart fun other held same => apart (List.mem_map.mpr ⟨other, held, same⟩)]
      simp [FirestoreDatabase.write, fresh]
    · have other : write.path ≠ first.path :=
        fun same => apart (List.mem_map.mpr ⟨write, later, same⟩)
      exact ih distinct later (by simpa [FirestoreDatabase.write, other] using fresh)

theorem mem_of_perform (replaces : ∀ write ∈ writes, write.merge = false) {path : String}
    {fields : List (String × FirestoreValue)} (found : db.perform writes path = some fields) :
    db path = some fields ∨ ∃ write ∈ writes, write.path = path ∧ write.data = fields := by
  induction writes generalizing db with
  | nil => exact .inl found
  | cons first rest ih =>
    rcases ih (fun later member => replaces later (List.mem_cons_of_mem _ member)) found with
      before | ⟨write, member, wrote⟩
    · by_cases same : path = first.path
      · subst same
        have plain := replaces first List.mem_cons_self
        have stored : some first.data = some fields := by
          simp only [FirestoreDatabase.write, ↓reduceIte, plain, Bool.false_eq_true] at before
          split at before <;> exact before
        exact .inr ⟨first, List.mem_cons_self, rfl, Option.some.inj stored⟩
      · exact .inl (by simpa [FirestoreDatabase.write, same] using before)
    · exact .inr ⟨write, List.mem_cons_of_mem _ member, wrote⟩

theorem written_document {sdk : FirestoreSdk} {mode : ImportMode} {there : String → Bool}
    {docPath : String} {data : Value} {write : DocumentWrite}
    (wrote : write ∈ written ((ImportItem.document docPath data).outcome sdk mode there)) :
    sdk.doc docPath = some write.path ∧
      decodeDocumentData sdk data = .ok (.map write.data) ∧
        write.merge = decide (mode = .merge) := by
  simp only [ImportItem.outcome] at wrote
  cases known : sdk.doc docPath with
  | none => simp [known, written] at wrote
  | some ref =>
    simp only [known] at wrote
    split at wrote
    · simp [written] at wrote
    · cases decodes : decodeDocumentData sdk data with
      | error message => simp [decodes, written, bind, Except.bind] at wrote
      | ok decoded =>
        cases decoded with
        | map fields =>
          by_cases accepted : sdk.accepts fields
          · have same : write = { path := ref, data := fields, merge := mode = .merge } := by
              simpa [decodes, written, bind, Except.bind, acceptWrite, accepted] using wrote
            subst same
            exact ⟨rfl, rfl, rfl⟩
          · simp [decodes, written, bind, Except.bind, acceptWrite, accepted] at wrote
        | _ => simp [decodes, written, bind, Except.bind, acceptWrite] at wrote

def ImportItem.document? (sdk : FirestoreSdk) :
    ImportItem → Option (String × List (String × FirestoreValue))
  | .document docPath data =>
    match decodeDocumentData sdk data with
    | .ok (.map fields) => some (docPath, fields)
    | _ => none
  | _ => none

def ImportItem.Ready (sdk : FirestoreSdk) : ImportItem → Prop
  | .document docPath data => sdk.doc docPath = some docPath ∧
    ∃ fields, decodeDocumentData sdk data = .ok (.map fields) ∧ sdk.accepts fields = true
  | .parent docPath => sdk.doc docPath = some docPath
  | .barred _ => False
  | _ => True

/-- The state after a thing that can be done, if each document is met only once. -/
def ImportItem.settle (env : ImportEnv) (state : ImportState) (item : ImportItem) : ImportState :=
  match item with
  | .leftOut path => { state with warnings := state.warnings ++ [skippedSensitive path] }
  | .opened => { state with stats := {} }
  | .closed path => { state with perCollection := setEntry path state.stats state.perCollection }
  | _ =>
    match item.document? env.sdk with
    | some (ref, fields) => env.afterDocument ref fields (env.stored ref) state
    | none => state

section

variable (env : ImportEnv)

/-- The write of a document, unless it is there and to be skipped. -/
def ImportEnv.writeOf (document : String × List (String × FirestoreValue)) :
    Option DocumentWrite :=
  if env.mode = .skip ∧ env.stored document.1 then none
  else some { path := document.1, data := document.2, merge := env.mode = .merge }

variable {env}

theorem exec_ready {item : ImportItem} (ready : item.Ready env.sdk) {state : ImportState}
    (apart : ∀ document ∈ item.document? env.sdk,
      env.exists state document.1 = env.stored document.1) :
    exec (runItem env item) state = (.ok (), item.settle env state) := by
  cases item with
  | document docPath data =>
    obtain ⟨known, fields, decodes, accepted⟩ := ready
    have own : (ImportItem.document docPath data).document? env.sdk = some (docPath, fields) := by
      simp [ImportItem.document?, decodes]
    have there := apart (docPath, fields) own
    simp only at there
    rw [exec_document known decodes accepted state, there]
    simp only [ImportItem.settle, own]
  | parent docPath =>
    have known : env.sdk.doc docPath = some docPath := ready
    simp only [runItem, resolveDocument, known]
    rfl
  | barred message => cases ready
  | leftOut path => rfl
  | opened => rfl
  | closed path => rfl

theorem queue_settle (item : ImportItem) (state : ImportState) :
    (item.settle env state).queue =
      if env.dryRun then state.queue
      else state.queue ++ ((item.document? env.sdk).bind env.writeOf).toList := by
  have document (found : Option (String × List (String × FirestoreValue))) :
      (match found with
        | some (ref, fields) => env.afterDocument ref fields (env.stored ref) state
        | none => state).queue =
      if env.dryRun then state.queue else state.queue ++ (found.bind env.writeOf).toList := by
    cases found with
    | none => simp
    | some found =>
      obtain ⟨ref, fields⟩ := found
      simp only [ImportEnv.afterDocument, Option.bind_some, ImportEnv.writeOf]
      split <;> simp
  cases item with
  | document docPath data => exact document _
  | parent docPath => exact document none
  | barred message => exact document none
  | _ => simp [ImportItem.settle, ImportItem.document?]

theorem exec_readyItems {items : List ImportItem} (ready : ∀ item ∈ items, item.Ready env.sdk)
    (distinct : ((items.filterMap (·.document? env.sdk)).map Prod.fst).Nodup)
    {state : ImportState}
    (apart : ∀ write ∈ state.queue, write.path ∉
      (items.filterMap (·.document? env.sdk)).map Prod.fst) :
    exec (runItems env items) state = (.ok (), items.foldl (ImportItem.settle env) state) := by
  -- The induction is on the items, and no write in the queue is to a document ahead.
  induction items generalizing state with
  | nil => rfl
  | cons item rest ih =>
    have unseen : ∀ document ∈ item.document? env.sdk,
        env.exists state document.1 = env.stored document.1 := by
      intro document own
      have listed : document ∈ (item :: rest).filterMap (·.document? env.sdk) := by
        rw [List.filterMap_cons_some own]
        exact List.mem_cons_self
      have untouched : env.db.perform (env.performed state) document.1 = env.db document.1 := by
        apply perform_of_apart
        intro write member same
        obtain ⟨queued, held, rfl⟩ := List.mem_map.mp member
        have among : queued.1 ∈ state.queue :=
          List.fst_mem_of_mem_zipIdx (List.mem_of_mem_filter held)
        exact apart _ among (same ▸ List.mem_map_of_mem listed)
      rw [ImportEnv.exists, untouched, ImportEnv.stored]
    have first := exec_ready (ready item List.mem_cons_self) unseen
    have readyRest : ∀ other ∈ rest, other.Ready env.sdk :=
      fun other member => ready other (List.mem_cons_of_mem _ member)
    simp only [runItems_cons, exec_bind, first, List.foldl_cons]
    cases own : item.document? env.sdk with
    | none =>
      rw [List.filterMap_cons_none own] at distinct apart
      apply ih readyRest distinct
      rw [queue_settle, own]
      simpa using apart
    | some document =>
      rw [List.filterMap_cons_some own] at distinct apart
      obtain ⟨only, distinct⟩ := List.nodup_cons.mp distinct
      apply ih readyRest distinct
      intro write member
      rw [queue_settle, own] at member
      -- The write that is queued is to the document itself.
      have cases : write ∈ state.queue ∨ write.path = document.1 := by
        split at member
        · exact .inl member
        · rcases List.mem_append.mp member with old | new
          · exact .inl old
          · simp only [Option.bind_some, ImportEnv.writeOf] at new
            split at new
            · cases new
            · exact .inr (by simp at new; rw [new])
      rcases cases with old | new
      · intro later
        exact apart write old (List.mem_cons_of_mem _ later)
      · rw [new]
        exact only

theorem queue_foldl_settle (real : env.dryRun = false) (items : List ImportItem)
    (state : ImportState) : (items.foldl (ImportItem.settle env) state).queue =
      state.queue ++ (items.filterMap (·.document? env.sdk)).filterMap env.writeOf := by
  induction items generalizing state with
  | nil => simp
  | cons item rest ih =>
    rw [List.foldl_cons, ih, queue_settle, real]
    cases own : item.document? env.sdk with
    | none => simp [own]
    | some document =>
      cases write : env.writeOf document <;> simp [own, write]

end

def SameCounts (left right : ImportState) : Prop :=
  left.reads = right.reads ∧ left.totalOps = right.totalOps ∧ left.stats = right.stats ∧
    left.perCollection = right.perCollection

theorem sameCounts_foldl_settle {env dry : ImportEnv} (sdk : dry.sdk = env.sdk)
    (db : dry.db = env.db) (mode : dry.mode = env.mode) (items : List ImportItem)
    {left right : ImportState} (same : SameCounts left right) :
    SameCounts (items.foldl (ImportItem.settle dry) left)
      (items.foldl (ImportItem.settle env) right) := by
  induction items generalizing left right with
  | nil => exact same
  | cons item rest ih =>
    apply ih
    obtain ⟨reads, totalOps, stats, perCollection⟩ := same
    have stored (ref : String) : dry.stored ref = env.stored ref := by
      rw [ImportEnv.stored, db, ImportEnv.stored]
    have document (found : Option (String × List (String × FirestoreValue))) :
        SameCounts
          (match found with
            | some (ref, fields) => dry.afterDocument ref fields (dry.stored ref) left
            | none => left)
          (match found with
            | some (ref, fields) => env.afterDocument ref fields (env.stored ref) right
            | none => right) := by
      cases found with
      | none => exact ⟨reads, totalOps, stats, perCollection⟩
      | some found =>
        obtain ⟨ref, fields⟩ := found
        simp only [ImportEnv.afterDocument, mode, stored]
        split <;> simp [SameCounts, reads, totalOps, stats, perCollection]
    cases item with
    | document docPath data => simpa only [ImportItem.settle, sdk] using document _
    | parent docPath => exact document none
    | barred message => exact document none
    | leftOut path => exact ⟨reads, totalOps, stats, perCollection⟩
    | opened => exact ⟨reads, totalOps, rfl, perCollection⟩
    | closed path =>
      refine ⟨reads, totalOps, stats, ?_⟩
      simp only [ImportItem.settle, stats, perCollection]

end BitBrat
