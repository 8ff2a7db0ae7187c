import BitBrat.Js.Sort
import BitBrat.Js.Text
import BitBrat.Router.Engine

/-! The rule loader: what is taken from a rule document, and the two ways to refresh the cache. -/

namespace BitBrat

open Js

structure Collation where
  localeCompare : String → String → Ordering
  lawful : Std.TransCmp localeCompare

structure LoaderEnv where
  collation : Collation
  stringify : Value → Option String

abbrev RuleDocument := String × Value

/-- A rule in the cache, whose steps and egress are as the database has them. -/
structure CachedRule extends RuleRecord Value Value where
  numbered : priority ≠ .nan
  deriving DecidableEq

def isObject : Value → Bool
  | .obj _ | .date _ => true
  | _ => false

def textField : Value → Option String
  | .str text => some text
  | _ => none

def sanitizeEnrichments : Value → Option (List Value)
  | .arr items => some (items.filter isObject)
  | _ => none

def sanitizeEnrichmentAnnotations : Value → Option (List Value) := sanitizeEnrichments

def sanitizeEnrichmentCandidates : Value → Option (List Value) := sanitizeEnrichments

/-- The condition of a rule: a text that is not blank, or an object turned into text. -/
def validateLogic (env : LoaderEnv) (logic : Value) : Option String :=
  match logic with
  | .str text => nonEmpty (trimText text)
  | other => if isObject other then env.stringify other else none

/-- The routing of a rule: a stage, and the steps that name themselves and a topic. -/
def validateRouting (routing : Value) : Option (RuleRouting Value) :=
  match isObject routing, routing.get "stage", routing.get "slip" with
  | true, .str stage, .arr slip =>
    some
      { stage
        slip := slip.filter fun step =>
          isObject step && (step.get "id").isString && (step.get "nextTopic").isString }
  | _, _, _ => none

def validateEnrichments (raw : Value) : RuleEnrichments Value :=
  let rawEnrich := if isObject (raw.get "enrichments") then raw.get "enrichments" else .obj []
  { message := textField (rawEnrich.get "message")
    annotations := sanitizeEnrichmentAnnotations
      ((rawEnrich.get "annotations").or (raw.get "annotations"))
    candidates := sanitizeEnrichmentCandidates (rawEnrich.get "candidates")
    randomCandidate := (rawEnrich.get "randomCandidate").truthy
    egress := if isObject (rawEnrich.get "egress") then some (rawEnrich.get "egress") else none }

def validateRule (env : LoaderEnv) (raw : Value) (id : String) : Option CachedRule :=
  if ¬ isObject raw then none
  -- Only enabled rules are cached.
  else if raw.get "enabled" ≠ .bool true then none
  else
    match raw.get "priority" with
    | .num priority =>
      if comparable : priority ≠ .nan then
        match validateLogic env (raw.get "logic"), validateRouting (raw.get "routing") with
        | some logic, some routing =>
          some
            { id
              enabled := true
              priority
              description := textField (raw.get "description")
              logic
              routing
              enrichments := some (validateEnrichments raw)
              metadata := (raw.get "metadata").onlyIf (isObject (raw.get "metadata"))
              numbered := comparable }
        | _, _ => none
      else none
    | _ => none

/-- How two rules are sorted: by priority, and by identifier where the priorities are the same. -/
def compareRules (env : LoaderEnv) (a b : CachedRule) : Ordering :=
  if a.priority ≠ b.priority then (a.priority.sub b.priority).sign
  else env.collation.localeCompare a.id b.id

def sortRules (env : LoaderEnv) (rules : List CachedRule) : List CachedRule :=
  rules.mergeSort fun a b => (compareRules env a b).isLE

/-- The cache after the documents of a Firestore snapshot, in the order of the snapshot. -/
def refreshFromSnapshot (env : LoaderEnv) (docs : List RuleDocument) : List CachedRule :=
  sortRules env (docs.filterMap fun doc => validateRule env doc.2 doc.1)

/-- A cast of a property to a truth value, which fails for anything else that is there. -/
def castBoolean : Value → Except String (Option Bool)
  | .undefined => .ok none
  | .bool flag => .ok (some flag)
  | _ => .error "cannot cast jsonb to type boolean"

def queryEnabled : List RuleDocument → Except String (List Value)
  | [] => .ok []
  | (id, data) :: rest => do
    let enabled ← castBoolean (data.get "enabled")
    let rows ← queryEnabled rest
    -- A row is the document with its identifier written over it.
    pure (if enabled = some true then data.extend [("id", .str id)] :: rows else rows)

/-- The cache after a query of the document store; a query that fails leaves the earlier one. -/
def refresh (env : LoaderEnv) (docs : List RuleDocument) (cache : List CachedRule) :
    List CachedRule :=
  match queryEnabled docs with
  | .ok rows =>
    sortRules env (rows.filterMap fun row =>
      validateRule env row ((row.get "id").or (.str "")).toText)
  | .error _ => cache

/-! The order of the rule cache: when it depends on nothing but the documents. -/

/-- The rules of the enabled valid documents, in the order of the documents. -/
def validRules (env : LoaderEnv) (documents : List RuleDocument) : List CachedRule :=
  documents.filterMap fun doc => validateRule env doc.2 doc.1

/-- The cache holds the enabled valid documents, by priority and then by identifier. -/
structure Serves (env : LoaderEnv) (documents : List RuleDocument) (cache : List CachedRule) :
    Prop where
  exact : cache.Perm (validRules env documents)
  sorted : cache.Pairwise fun a b =>
    a.priority.lt b.priority = true ∨
      a.priority = b.priority ∧ env.collation.localeCompare a.id b.id ≠ .gt

/-- For every order of arrival, both refreshes serve the documents, and serve the same list. -/
def OrderKept (env : LoaderEnv) (table : OrderedMap String Value) : Prop :=
  ∀ (arrival other : List RuleDocument) (earlier : List CachedRule),
    arrival.Perm table.entries → other.Perm table.entries →
      Serves env table.entries (refreshFromSnapshot env arrival) ∧
      Serves env table.entries (refresh env other earlier) ∧
      refreshFromSnapshot env arrival = refresh env other earlier

theorem validateRule_congr {env : LoaderEnv} {raw other : Value} {id : String}
    (shaped : isObject raw = isObject other)
    (read : ∀ key, key ≠ "id" → raw.get key = other.get key) :
    validateRule env raw id = validateRule env other id := by
  simp only [validateRule, validateEnrichments, shaped, read "enabled" (by decide),
    read "priority" (by decide), read "logic" (by decide), read "routing" (by decide),
    read "description" (by decide), read "metadata" (by decide),
    read "enrichments" (by decide), read "annotations" (by decide)]

theorem of_validateRule {env : LoaderEnv} {raw : Value} {id : String} {rule : CachedRule}
    (valid : validateRule env raw id = some rule) :
    raw.get "enabled" = .bool true ∧ rule.id = id := by
  -- Each check that fails ends the validation.
  unfold validateRule at valid
  split at valid
  · cases valid
  · split at valid
    · cases valid
    · rename_i enabled
      split at valid
      · split at valid
        · split at valid
          · cases valid
            exact ⟨by simpa using enabled, rfl⟩
          · cases valid
        · cases valid
      · cases valid

def BooleanEnabled (data : Value) : Prop :=
  data.get "enabled" = .undefined ∨ ∃ flag, data.get "enabled" = .bool flag

theorem castBoolean_ok_iff {data : Value} :
    (∃ enabled, castBoolean (data.get "enabled") = .ok enabled) ↔ BooleanEnabled data := by
  unfold BooleanEnabled
  cases data.get "enabled" <;> simp [castBoolean]

theorem queryEnabled_cons (id : String) (data : Value) (rest : List RuleDocument) :
    queryEnabled ((id, data) :: rest) =
      (castBoolean (data.get "enabled")).bind fun enabled =>
        (queryEnabled rest).bind fun rows =>
          .ok (if enabled = some true then data.extend [("id", .str id)] :: rows else rows) := rfl

theorem queryEnabled_ok_iff {docs : List RuleDocument} :
    (∃ rows, queryEnabled docs = .ok rows) ↔ ∀ doc ∈ docs, BooleanEnabled doc.2 := by
  induction docs with
  | nil => simp [queryEnabled]
  | cons doc rest ih =>
    obtain ⟨id, data⟩ := doc
    rw [List.forall_mem_cons, ← ih, ← castBoolean_ok_iff]
    -- One document that cannot be cast fails the query of them all.
    rw [queryEnabled_cons]
    cases castBoolean (data.get "enabled") <;> cases queryEnabled rest <;> simp [Except.bind]

theorem validateRule_row (env : LoaderEnv) {data : Value} {id : String}
    (enabled : data.get "enabled" = .bool true) :
    validateRule env (data.extend [("id", .str id)])
        (((data.extend [("id", .str id)]).get "id").or (.str "")).toText =
      validateRule env data id := by
  have named : (((data.extend [("id", .str id)]).get "id").or (.str "")).toText = id := by
    rw [Value.get_extend]
    by_cases blank : id = ""
    · subst blank
      rfl
    · have holds : (Value.str id).truthy = true := by simpa using blank
      simp [Value.or_of_truthy holds, Value.toText]
  rw [named]
  refine validateRule_congr ?_ fun key other => ?_
  · -- A document with a property is an object.
    cases data <;> simp_all [isObject, Value.extend, Value.get, Value.fields]
  · have skipped : (key == "id") = false := by simpa using other
    simp [Value.get_extend, List.lookup_cons, skipped]

theorem rules_of_query (env : LoaderEnv) {docs : List RuleDocument} {rows : List Value}
    (queried : queryEnabled docs = .ok rows) :
    rows.filterMap (fun row => validateRule env row ((row.get "id").or (.str "")).toText) =
      validRules env docs := by
  unfold validRules
  induction docs generalizing rows with
  | nil =>
    cases queried
    rfl
  | cons doc rest ih =>
    obtain ⟨id, data⟩ := doc
    rw [queryEnabled_cons] at queried
    cases cast : castBoolean (data.get "enabled") with
    | error reason =>
      rw [cast] at queried
      cases queried
    | ok enabled =>
      cases later : queryEnabled rest with
      | error reason =>
        rw [cast, later] at queried
        cases queried
      | ok others =>
        rw [cast, later] at queried
        simp only [Except.bind, Except.ok.injEq] at queried
        subst queried
        by_cases on : enabled = some true
        · have truly : data.get "enabled" = .bool true := by
            rw [on] at cast
            cases read : data.get "enabled" <;> simp_all [castBoolean]
          rw [if_pos on, List.filterMap_cons, List.filterMap_cons, validateRule_row env truly,
            ih later]
        · -- A document that is not selected holds no rule.
          have invalid : validateRule env data id = none := by
            rw [Option.eq_none_iff_forall_ne_some]
            intro rule valid
            rw [(of_validateRule valid).1] at cast
            cases cast
            exact on rfl
          rw [if_neg on, ih later]
          simp [invalid]

section Order

variable (env : LoaderEnv)

theorem compareRules_isLE_iff (a b : CachedRule) :
    (compareRules env a b).isLE = true ↔
      a.priority.lt b.priority = true ∨
        a.priority = b.priority ∧ env.collation.localeCompare a.id b.id ≠ .gt := by
  unfold compareRules
  -- The identifiers are only compared where the priorities are equal.
  by_cases same : a.priority = b.priority
  · rw [if_neg (by simpa using same), same, Number.lt_irrefl]
    cases env.collation.localeCompare a.id b.id <;> simp
  · rw [if_pos same, Number.sign_sub same a.numbered b.numbered]
    cases a.priority.lt b.priority <;> simp [same]

theorem compareRules_total (a b : CachedRule) :
    ((compareRules env a b).isLE || (compareRules env b a).isLE) = true := by
  have := env.collation.lawful
  rw [Bool.or_eq_true, compareRules_isLE_iff, compareRules_isLE_iff]
  by_cases same : a.priority = b.priority
  · -- The collation is oriented, so that one of the two orders holds.
    have swapped : env.collation.localeCompare b.id a.id =
        (env.collation.localeCompare a.id b.id).swap := Std.OrientedCmp.eq_swap
    rw [swapped, same]
    cases env.collation.localeCompare a.id b.id <;> simp
  · rcases Number.lt_or_lt same a.numbered b.numbered with below | above
    · exact .inl (.inl below)
    · exact .inr (.inl above)

theorem compareRules_trans (a b c : CachedRule) (left : (compareRules env a b).isLE = true)
    (right : (compareRules env b c).isLE = true) : (compareRules env a c).isLE = true := by
  have := env.collation.lawful
  rw [compareRules_isLE_iff] at left right ⊢
  -- A strict step on either side decides, and two ties leave it to the collation.
  rcases left with below | ⟨same, named⟩
  · rcases right with above | ⟨other, _⟩
    · exact .inl (Number.lt_trans below above)
    · exact .inl (other ▸ below)
  · rcases right with above | ⟨other, others⟩
    · exact .inl (same ▸ above)
    · refine .inr ⟨same.trans other, ?_⟩
      exact Ordering.ne_gt_iff_isLE.mpr (Std.TransCmp.isLE_trans
        (Ordering.ne_gt_iff_isLE.mp named) (Ordering.ne_gt_iff_isLE.mp others))

variable {env} {table : OrderedMap String Value}

theorem ids_validRules (documents : List RuleDocument) :
    ((validRules env documents).map (·.id)).Sublist (documents.map Prod.fst) := by
  unfold validRules
  -- The induction is on the documents, each of which is served once or dropped.
  induction documents with
  | nil => exact List.Sublist.slnil
  | cons doc rest ih =>
    rw [List.filterMap_cons]
    split
    · exact ih.cons doc.1
    · rename_i rule valid
      rw [List.map_cons, List.map_cons, (of_validateRule valid).2]
      exact ih.cons_cons doc.1

theorem nodup_ids (table : OrderedMap String Value) :
    ((validRules env table.entries).map (·.id)).Nodup :=
  table.distinct.sublist (ids_validRules table.entries)

theorem serves_sortRules {arrival documents : List RuleDocument}
    (same : arrival.Perm documents) :
    Serves env documents (sortRules env (validRules env arrival)) := by
  constructor
  · exact (List.mergeSort_perm _ _).trans (same.filterMap _)
  · refine (List.pairwise_mergeSort (compareRules_trans env) (compareRules_total env) _).imp ?_
    intro a b ordered
    exact (compareRules_isLE_iff env a b).mp ordered

theorem refresh_of_boolean {docs : List RuleDocument}
    (boolean : ∀ doc ∈ docs, BooleanEnabled doc.2) (earlier : List CachedRule) :
    refresh env docs earlier = sortRules env (validRules env docs) := by
  obtain ⟨rows, queried⟩ := queryEnabled_ok_iff.mpr boolean
  rw [refresh, queried]
  exact congrArg (sortRules env) (rules_of_query env queried)

theorem refresh_of_not_boolean {docs : List RuleDocument}
    (broken : ¬ ∀ doc ∈ docs, BooleanEnabled doc.2) (earlier : List CachedRule) :
    refresh env docs earlier = earlier := by
  cases queried : queryEnabled docs with
  | error reason => rw [refresh, queried]
  | ok rows => exact absurd (queryEnabled_ok_iff.mp ⟨rows, queried⟩) broken

theorem tie_iff (a b : CachedRule) :
    (compareRules env a b).isLE = true ∧ (compareRules env b a).isLE = true ↔
      a.priority = b.priority ∧ env.collation.localeCompare a.id b.id = .eq := by
  have := env.collation.lawful
  have swapped : env.collation.localeCompare b.id a.id =
      (env.collation.localeCompare a.id b.id).swap := Std.OrientedCmp.eq_swap
  rw [compareRules_isLE_iff, compareRules_isLE_iff, swapped]
  by_cases same : a.priority = b.priority
  · rw [same, Number.lt_irrefl]
    cases env.collation.localeCompare a.id b.id <;> simp
  · -- Different priorities are in order one way only.
    have one_way : ¬ (a.priority.lt b.priority = true ∧ b.priority.lt a.priority = true) := by
      rintro ⟨below, above⟩
      have loop := Number.lt_trans below above
      rw [Number.lt_irrefl] at loop
      cases loop
    simpa [same, Ne.symm same] using one_way

theorem sortRules_eq_of_perm {arrival other : List RuleDocument}
    (left : arrival.Perm table.entries) (right : other.Perm table.entries)
    (untied : ∀ a ∈ validRules env table.entries, ∀ b ∈ validRules env table.entries,
      a.id ≠ b.id → a.priority = b.priority → env.collation.localeCompare a.id b.id ≠ .eq) :
    sortRules env (validRules env arrival) = sortRules env (validRules env other) := by
  refine mergeSort_eq_of_perm (compareRules_trans env) (compareRules_total env)
    ((left.trans right.symm).filterMap _) ?_
  intro a inside b within up down
  have members : (validRules env arrival).Perm (validRules env table.entries) := left.filterMap _
  rw [members.mem_iff] at inside within
  obtain ⟨same, tied⟩ := (tie_iff a b).mp ⟨up, down⟩
  by_contra apart
  refine untied a inside b within (fun named => apart ?_) same tied
  -- One identifier belongs to one document.
  exact List.inj_on_of_nodup_map (nodup_ids table) inside within named

def foreignRule : CachedRule where
  id := "foreign"
  enabled := true
  priority := .finite 0
  logic := "true"
  routing := { stage := "initial", slip := [] }
  numbered := by decide

/--
Both refreshes serve the documents in one order, for every order of arrival,
exactly when every property `enabled` can be cast and no two rules tie.
-/
theorem orderKept_iff (env : LoaderEnv) (table : OrderedMap String Value) :
    OrderKept env table ↔
      (∀ doc ∈ table.entries, BooleanEnabled doc.2) ∧
      ∀ a ∈ validRules env table.entries, ∀ b ∈ validRules env table.entries,
        a.id ≠ b.id → a.priority = b.priority →
          env.collation.localeCompare a.id b.id ≠ .eq := by
  constructor
  · intro kept
    have boolean : ∀ doc ∈ table.entries, BooleanEnabled doc.2 := by
      by_contra broken
      -- A query that fails serves whatever was cached before.
      obtain ⟨_, _, bare⟩ := kept table.entries table.entries [] (.refl _) (.refl _)
      obtain ⟨_, _, full⟩ := kept table.entries table.entries [foreignRule] (.refl _) (.refl _)
      rw [refresh_of_not_boolean broken] at bare full
      rw [bare] at full
      cases full
    refine ⟨boolean, fun a inside b within apart same tied => ?_⟩
    obtain ⟨first, firstIn, firstValid⟩ := List.mem_filterMap.mp inside
    obtain ⟨second, secondIn, secondValid⟩ := List.mem_filterMap.mp within
    have differ : second ≠ first := by
      rintro rfl
      rw [firstValid] at secondValid
      cases secondValid
      exact apart rfl
    have remains : second ∈ table.entries.erase first :=
      (List.mem_erase_of_ne differ).mpr secondIn
    have split := (List.perm_cons_erase firstIn).trans ((List.perm_cons_erase remains).cons first)
    have swapped := (List.Perm.swap first second _).trans split.symm
    -- The two documents arrive in one order here, and in the other order there.
    obtain ⟨_, _, agree⟩ := kept _ _ [] split.symm swapped
    rw [refresh_of_boolean fun doc member => boolean doc (swapped.mem_iff.mp member)] at agree
    obtain ⟨up, down⟩ := (tie_iff a b).mpr ⟨same, tied⟩
    have unique : (validRules env table.entries).Nodup := .of_map _ (nodup_ids table)
    have listed : validRules env (first :: second :: (table.entries.erase first).erase second) =
        a :: b :: validRules env ((table.entries.erase first).erase second) := by
      simp [validRules, firstValid, secondValid]
    have perm : (validRules env table.entries).Perm _ := split.filterMap _
    rw [← validRules, listed] at perm
    refine mergeSort_ne_of_tie (compareRules_trans env) (compareRules_total env)
      (perm.nodup_iff.mp unique) up down ?_
    simpa [refreshFromSnapshot, sortRules, validRules, firstValid, secondValid] using agree
  · rintro ⟨boolean, untied⟩ arrival other earlier left right
    have cast : ∀ doc ∈ other, BooleanEnabled doc.2 :=
      fun doc member => boolean doc (right.mem_iff.mp member)
    rw [refresh_of_boolean cast]
    exact ⟨serves_sortRules left, serves_sortRules right, sortRules_eq_of_perm left right untied⟩

end Order

def plainEnv : LoaderEnv where
  collation := { localeCompare := compare, lawful := inferInstance }
  stringify _ := none

def flagTable : OrderedMap String Value where
  entries :=
    [("greet", .obj
      [("enabled", .bool true), ("priority", .num (.finite 1)), ("logic", .str "true"),
        ("routing", .obj [("stage", .str "initial"), ("slip", .arr [])])]),
     ("draft", .obj [("enabled", .str "true")])]
  distinct := by decide

/-- One flag that is a text keeps the document store from serving any rule. -/
theorem flag_not_served :
    ¬ OrderKept plainEnv flagTable ∧
      (refreshFromSnapshot plainEnv flagTable.entries).map (·.id) = ["greet"] ∧
      refresh plainEnv flagTable.entries [] = [] := by
  have served : (refreshFromSnapshot plainEnv flagTable.entries).map (·.id) = ["greet"] := by
    decide +kernel
  have missed : refresh plainEnv flagTable.entries [] = [] := rfl
  -- The query compares the flag with a text, and the snapshot with the truth value.
  refine ⟨fun kept => ?_, served, missed⟩
  obtain ⟨_, _, same⟩ := kept flagTable.entries flagTable.entries [] (.refl _) (.refl _)
  rw [same, missed] at served
  cases served

end BitBrat
