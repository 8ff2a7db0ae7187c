import BitBrat.Js.Sort
import BitBrat.Persistence.PostgresEval

/-! Typed queries: which documents a query means, and when the statement selects these. -/

namespace BitBrat

namespace Postgres

open Js

section

variable {ν τ : Type} [LinearOrder ν] [LinearOrder τ] (db : Database ν τ)

def Database.dateIn (text : String) : Option τ :=
  if isDateString (.str text) then db.timestampIn text else none

/-- Whether a property has the type of a value: truth value, number, date or other text. -/
def Database.hasType (value property : Value) : Bool :=
  match property, value with
  | .bool _, .bool _ => true
  | .num (.finite _), .num (.finite _) => true
  | .str left, .str right => (db.dateIn left).isSome || (db.dateIn right).isNone
  | _, _ => false

/-- Whether a property has the type of the value of a filter, and compares to it as asked. -/
def Database.satisfies (filter : TypedFilter) (data : Value) : Bool :=
  match data.get filter.field, filter.value with
  | .bool left, .bool right => filter.sign.holds left right
  | .num (.finite left), .num (.finite right) => filter.sign.holds left right
  | .str left, .str right =>
    match db.dateIn right with
    | some time => compares filter.sign (db.dateIn left) (some time)
    | none => filter.sign.holds left right
  | _, _ => false

/-- Whether one document comes before another by a property that both have of one type. -/
def Database.typedLt (field : String) (left right : Row) : Bool :=
  match left.data.get field, right.data.get field with
  | .bool left, .bool right => left < right
  | .num (.finite left), .num (.finite right) => left < right
  | .str left, .str right =>
    match db.dateIn left, db.dateIn right with
    | some left, some right => left < right
    | none, none => left < right
    | _, _ => false
  | _, _ => false

def Database.mayPrecede (orderBy : Option (String × Bool)) (earlier later : Row) : Bool :=
  match orderBy with
  | none => true
  | some (field, descending) =>
    if descending then !db.typedLt field earlier later else !db.typedLt field later earlier

/--
A query returns the documents that satisfy its filters, in their order and up to its limit.

Documents are left out only when as many as the limit stand in front of them.
-/
def TypedLaw (table : Table) (query : TypedQuery) : Prop :=
  ∃ documents cut : List Row,
    (documents ++ cut).Perm (table.rows.filter fun row =>
      query.filters.all fun filter => db.satisfies filter row.data) ∧
    documents.Pairwise (fun earlier later => db.mayPrecede query.orderBy earlier later = true) ∧
    (∀ earlier ∈ documents, ∀ later ∈ cut, db.mayPrecede query.orderBy earlier later = true) ∧
    (match query.limit with
      | none => cut = []
      | some count => documents.length ≤ count ∧ (cut ≠ [] → documents.length = count)) ∧
    db.query table query = .ok (documents.map rowDocument)

def Database.strict (filter : TypedFilter) : Bool :=
  match filter.value, filter.cast with
  | .bool _, .boolean => true
  | .str text, .text => (db.dateIn text).isNone
  | .str text, .timestamp => (db.dateIn text).isSome
  | _, _ => false

def Database.Passes (query : TypedQuery) (row : Row) : Prop :=
  ∀ filter ∈ query.filters, db.holds filter.clause row.data = true

def Database.Typed (query : TypedQuery) (row : Row) : Prop :=
  ∀ filter ∈ query.filters, db.hasType filter.value (row.data.get filter.field) = true

structure Faithful (table : Table) (query : TypedQuery) : Prop where
  /-- The parameters can be read in the types of their clauses. -/
  readable : ∀ filter ∈ query.filters, db.readable filter.clause = true
  evaluates : ∀ row ∈ table.rows, db.Evaluates row.data (db.plan query.clauses)
  /-- No document passes whose properties are of other types. -/
  typed : ∀ row ∈ table.rows, db.Passes query row → db.Typed query row
  /-- Equal numbers and dates have equal texts, and texts are in the order of numbers. -/
  decided : query.limit ≠ some 0 → ∀ row ∈ table.rows, db.Typed query row →
    (∀ filter ∈ query.filters, db.strict filter = true → db.satisfies filter row.data = true) →
    ((∀ filter ∈ query.filters, db.strict filter = false →
        db.holds filter.clause row.data = true) ↔
      ∀ filter ∈ query.filters, db.strict filter = false → db.satisfies filter row.data = true)
  ordered : ∀ field descending, query.orderBy = some (field, descending) →
    ∀ earlier ∈ table.rows, db.Passes query earlier → ∀ later ∈ table.rows, db.Passes query later →
      StandsBefore (fun left right => db.textLe field descending left right = true) table.rows
        earlier later →
      db.mayPrecede query.orderBy earlier later = true
  /-- A limit of zero, which the statement does not have, cuts nothing. -/
  limited : query.limit = some 0 → ∀ row ∈ table.rows, ¬ db.Passes query row

def Uncut (table : Table) (query : TypedQuery) : Prop :=
  ∀ count, query.limit = some count → count = 0 ∨ table.rows.length ≤ count

omit [LinearOrder ν] in
theorem hasType_of_satisfies {filter : TypedFilter} {data : Value}
    (satisfies : db.satisfies filter data = true) :
    db.hasType filter.value (data.get filter.field) = true := by
  obtain ⟨field, sign, value⟩ := filter
  unfold Database.satisfies at satisfies
  unfold Database.hasType
  generalize data.get field = property at satisfies ⊢
  split at satisfies
  · rfl
  · rfl
  · rename_i left right _
    -- Only a date compares to a date.
    cases date : db.dateIn right with
    | none => simp
    | some time =>
      simp only [date] at satisfies
      cases other : db.dateIn left with
      | none => simp [other, compares] at satisfies
      | some _ => simp
  · cases satisfies

omit [LinearOrder ν] [LinearOrder τ] in
theorem timestampIn_of_dateIn {text : String} {time : τ}
    (date : db.dateIn text = some time) : db.timestampIn text = some time := by
  unfold Database.dateIn at date
  split at date
  · exact date
  · cases date

theorem holds_eq_satisfies {filter : TypedFilter} {data : Value}
    (strict : db.strict filter = true)
    (typed : db.hasType filter.value (data.get filter.field) = true) :
    db.holds filter.clause data = db.satisfies filter data := by
  have clause : filter.clause.cast = filter.cast := rfl
  unfold Database.hasType at typed
  unfold Database.strict at strict
  unfold Database.holds Database.satisfies
  rw [clause]
  -- The value decides what the statement casts to, and the property is of its type.
  split at typed
  · cases cast : filter.cast <;> simp_all [TypedFilter.clause]
  · cases cast : filter.cast <;> simp_all
  · rename_i left right property value
    have field : db.fieldText data filter.field = some left := by
      rw [Database.fieldText, property]
    cases cast : filter.cast with
    | boolean => simp_all
    | numeric => simp_all
    | text =>
      have undated : db.dateIn right = none := by simpa [value, cast] using strict
      simp [TypedFilter.clause, field, value, undated, compares, Database.valueText, Value.toText]
    | timestamp =>
      obtain ⟨time, date⟩ : ∃ time, db.dateIn right = some time :=
        Option.isSome_iff_exists.mp (by simpa [value, cast] using strict)
      obtain ⟨other, date_left⟩ : ∃ other, db.dateIn left = some other :=
        Option.isSome_iff_exists.mp (by simpa [date] using typed)
      simp [TypedFilter.clause, field, value, date, date_left, Database.valueText, Value.toText,
        timestampIn_of_dateIn db date, timestampIn_of_dateIn db date_left]
  · cases typed

variable {table : Table} {query : TypedQuery}

theorem passes_iff_of_faithful (faithful : Faithful db table query)
    (unlimited : query.limit ≠ some 0) {row : Row} (member : row ∈ table.rows) :
    db.Passes query row ↔ ∀ filter ∈ query.filters, db.satisfies filter row.data = true := by
  constructor
  · intro passes
    have typed := faithful.typed row member passes
    have strict : ∀ filter ∈ query.filters, db.strict filter = true →
        db.satisfies filter row.data = true := by
      intro filter listed strict
      rw [← holds_eq_satisfies db strict (typed filter listed)]
      exact passes filter listed
    have loose := (faithful.decided unlimited row member typed strict).mp
      fun filter listed _ => passes filter listed
    intro filter listed
    cases is_strict : db.strict filter with
    | true => exact strict filter listed is_strict
    | false => exact loose filter listed is_strict
  · intro satisfies
    have typed : db.Typed query row := fun filter listed =>
      hasType_of_satisfies db (satisfies filter listed)
    have loose := (faithful.decided unlimited row member typed
      fun filter listed _ => satisfies filter listed).mpr fun filter listed _ =>
        satisfies filter listed
    intro filter listed
    cases is_strict : db.strict filter with
    | true =>
      rw [holds_eq_satisfies db is_strict (typed filter listed)]
      exact satisfies filter listed
    | false => exact loose filter listed is_strict

theorem decided_of_passes_iff {row : Row}
    (same : db.Passes query row ↔ ∀ filter ∈ query.filters, db.satisfies filter row.data = true)
    (typed : db.Typed query row) (strict : ∀ filter ∈ query.filters, db.strict filter = true →
      db.satisfies filter row.data = true) : (∀ filter ∈ query.filters, db.strict filter = false →
        db.holds filter.clause row.data = true) ↔
      ∀ filter ∈ query.filters, db.strict filter = false →
        db.satisfies filter row.data = true := by
  constructor
  · intro loose filter listed _
    refine same.mp ?_ filter listed
    intro other other_listed
    cases is_strict : db.strict other with
    | true =>
      rw [holds_eq_satisfies db is_strict (typed other other_listed)]
      exact strict other other_listed is_strict
    | false => exact loose other other_listed is_strict
  · intro loose filter listed _
    refine same.mpr ?_ filter listed
    intro other other_listed
    cases is_strict : db.strict other with
    | true => exact strict other other_listed is_strict
    | false => exact loose other other_listed is_strict

theorem keyLe_total (left right : Option (List Char)) :
    keyLe left right = true ∨ keyLe right left = true := by
  cases left with
  | none => exact .inr (by cases right <;> rfl)
  | some left =>
    cases right with
    | none => exact .inl rfl
    | some right => simpa [keyLe] using le_total left right

theorem keyLe_trans {left middle right : Option (List Char)}
    (first : keyLe left middle = true) (second : keyLe middle right = true) :
    keyLe left right = true := by
  cases right with
  | none => cases left <;> rfl
  | some right =>
    cases middle with
    | none => cases second
    | some middle =>
      cases left with
      | none => cases first
      | some left =>
        simp only [keyLe, decide_eq_true_eq] at first second ⊢
        exact first.trans second

instance (field : String) (descending : Bool) :
    Std.Total fun left right => db.textLe field descending left right = true where
  total left right := by
    unfold Database.textLe
    cases descending with
    | false => exact keyLe_total _ _
    | true => exact (keyLe_total _ _).symm

instance (field : String) (descending : Bool) :
    IsTrans Row fun left right => db.textLe field descending left right = true where
  trans left middle right := by
    unfold Database.textLe
    intro first second
    cases descending with
    | false => exact keyLe_trans first second
    | true => exact keyLe_trans second first

theorem standsBefore_filter {α : Type} {le : α → α → Prop} {keep : α → Bool}
    {items : List α} {earlier later : α} (earlier_kept : keep earlier = true)
    (later_kept : keep later = true) :
    StandsBefore le (items.filter keep) earlier later ↔ StandsBefore le items earlier later := by
  have same : [earlier, later].Sublist (items.filter keep) ↔ [earlier, later].Sublist items := by
    constructor
    · intro kept
      exact kept.trans List.filter_sublist
    · intro whole
      simpa [earlier_kept, later_kept] using whole.filter keep
  unfold StandsBefore
  rw [same]

omit [LinearOrder ν] in
theorem pairwise_sortRows_iff {rows : List Row} (distinct : rows.Nodup)
    (orderBy : Option (String × Bool)) (keep : Row → Bool) :
    (db.sortRows orderBy (rows.filter keep)).Pairwise
        (fun earlier later => db.mayPrecede orderBy earlier later = true) ↔
      ∀ field descending, orderBy = some (field, descending) →
        ∀ earlier ∈ rows, keep earlier = true → ∀ later ∈ rows, keep later = true →
          StandsBefore (fun left right => db.textLe field descending left right = true) rows
            earlier later →
          db.mayPrecede orderBy earlier later = true := by
  cases orderBy with
  | none => simp [Database.mayPrecede, List.pairwise_of_forall]
  | some order =>
    obtain ⟨field, descending⟩ := order
    unfold Database.sortRows
    simp only
    rw [pairwise_insertionSort_iff (distinct.filter keep)]
    constructor
    · intro all field' descending' same earlier earlier_mem earlier_kept later later_mem later_kept
        before
      obtain ⟨rfl, rfl⟩ : field = field' ∧ descending = descending' := by simpa using same
      exact all earlier (List.mem_filter.mpr ⟨earlier_mem, earlier_kept⟩) later
        (List.mem_filter.mpr ⟨later_mem, later_kept⟩)
        ((standsBefore_filter earlier_kept later_kept).mpr before)
    · intro all earlier earlier_mem later later_mem before
      obtain ⟨earlier_mem, earlier_kept⟩ := List.mem_filter.mp earlier_mem
      obtain ⟨later_mem, later_kept⟩ := List.mem_filter.mp later_mem
      exact all field descending rfl earlier earlier_mem earlier_kept later later_mem later_kept
        ((standsBefore_filter earlier_kept later_kept).mp before)

omit [LinearOrder ν] [LinearOrder τ] in
theorem sortRows_perm (orderBy : Option (String × Bool)) (rows : List Row) :
    (db.sortRows orderBy rows).Perm rows := by
  cases orderBy with
  | none => exact List.Perm.refl rows
  | some order => exact List.perm_insertionSort _ rows

theorem all_clauses_iff (query : TypedQuery) (row : Row) :
    (query.clauses.all fun clause => db.holds clause row.data) = true ↔ db.Passes query row := by
  simp [TypedQuery.clauses, Database.Passes]

theorem map_rowDocument_inj (table : Table) {left right : List Row}
    (left_mem : ∀ row ∈ left, row ∈ table.rows) (right_mem : ∀ row ∈ right, row ∈ table.rows)
    (same : left.map rowDocument = right.map rowDocument) : left = right := by
  induction left generalizing right with
  | nil => simpa using same.symm
  | cons row rest ih =>
    cases right with
    | nil => simp at same
    | cons other others =>
      obtain ⟨first, later⟩ : rowDocument row = rowDocument other ∧
          rest.map rowDocument = others.map rowDocument := by simpa using same
      -- Each document carries the identifier of its row.
      have id : row.id = other.id := by
        have read := congrArg (fun document : Value => document.get "id") first
        simpa [rowDocument, Value.get] using read
      have equal : row = other := List.inj_on_of_nodup_map table.distinct
        (left_mem row List.mem_cons_self) (right_mem other List.mem_cons_self) id
      rw [equal, ih (fun row member => left_mem row (List.mem_cons_of_mem _ member))
        (fun row member => right_mem row (List.mem_cons_of_mem _ member)) later]

/-- The rows that pass the clauses of a query, in the order of their texts. -/
def Database.sorted (table : Table) (query : TypedQuery) : List Row :=
  db.sortRows query.orderBy (table.rows.filter fun row =>
    query.clauses.all fun clause => db.holds clause row.data)

theorem Table.nodup (table : Table) : table.rows.Nodup := List.Nodup.of_map _ table.distinct

theorem typedLaw_of_faithful (faithful : Faithful db table query) :
    TypedLaw db table query := by
  have readable : ∀ clause ∈ query.clauses, db.readable clause = true := by
    intro clause listed
    obtain ⟨filter, filter_listed, rfl⟩ := List.mem_map.mp listed
    exact faithful.readable filter filter_listed
  have selected : db.query table query =
      .ok ((limitRows query.limit (db.sorted table query)).map rowDocument) := by
    have chosen := (select_eq_ok db).mpr ⟨readable, faithful.evaluates, rfl⟩
    rw [Database.query, chosen]
    rfl
  by_cases unlimited : query.limit = some 0
  · -- Nothing passes, and nothing is asked for.
    have nothing : db.sorted table query = [] := by
      have empty : (table.rows.filter fun row =>
          query.clauses.all fun clause => db.holds clause row.data) = [] := by
        rw [List.filter_eq_nil_iff]
        intro row member passes
        exact faithful.limited unlimited row member ((all_clauses_iff db query row).mp passes)
      rw [Database.sorted, empty]
      exact (sortRows_perm db query.orderBy []).eq_nil
    refine ⟨[], _, List.Perm.refl _, List.Pairwise.nil, by simp, ?_, ?_⟩
    · simp [unlimited]
    · rw [selected, nothing, unlimited]
      rfl
  · have same : (table.rows.filter fun row =>
        query.clauses.all fun clause => db.holds clause row.data) =
        table.rows.filter fun row =>
          query.filters.all fun filter => db.satisfies filter row.data := by
      apply List.filter_congr
      intro row member
      rw [Bool.eq_iff_iff, all_clauses_iff,
        passes_iff_of_faithful db faithful unlimited member, List.all_eq_true]
    have perm : (db.sorted table query).Perm (table.rows.filter fun row =>
        query.filters.all fun filter => db.satisfies filter row.data) := by
      rw [← same]
      exact sortRows_perm db query.orderBy _
    have ordered : (db.sorted table query).Pairwise
        (fun earlier later => db.mayPrecede query.orderBy earlier later = true) := by
      refine (pairwise_sortRows_iff db table.nodup query.orderBy _).mpr ?_
      intro field descending by_field earlier earlier_mem earlier_passes later later_mem
        later_passes before
      exact faithful.ordered field descending by_field earlier earlier_mem
        ((all_clauses_iff db query earlier).mp earlier_passes) later later_mem
        ((all_clauses_iff db query later).mp later_passes) before
    cases limit : query.limit with
    | none =>
      refine ⟨db.sorted table query, [], by simpa using perm, ordered, by simp, ?_, ?_⟩
      · rw [limit]
      · rw [selected, limit]
        rfl
    | some count =>
      have cut : limitRows (some count) (db.sorted table query) =
          (db.sorted table query).take count := by
        cases count with
        | zero => exact absurd limit unlimited
        | succ count => rfl
      have split := List.take_append_drop count (db.sorted table query)
      rw [← split, List.pairwise_append] at ordered
      refine ⟨_, _, split.symm ▸ perm, ordered.1, ordered.2.2, ?_, ?_⟩
      · rw [limit]
        refine ⟨List.length_take_le _ _, ?_⟩
        intro more
        have longer : count < (db.sorted table query).length := by
          simpa [List.drop_eq_nil_iff] using more
        rw [List.length_take]
        omega
      · rw [selected, limit, cut]

theorem faithful_of_typedLaw (uncut : Uncut table query) (law : TypedLaw db table query) :
    Faithful db table query := by
  obtain ⟨documents, cut, perm, ordered, across, limited, returned⟩ := law
  unfold Database.query at returned
  cases selected : db.select table query with
  | error error => simp [selected, Except.map] at returned
  | ok chosen =>
    obtain ⟨readable, evaluates, sorted_eq⟩ := (select_eq_ok db).mp selected
    have sorted_eq : chosen = limitRows query.limit (db.sorted table query) := sorted_eq
    have documents_eq : chosen.map rowDocument = documents.map rowDocument := by
      simpa [selected, Except.map] using returned
    have readable' : ∀ filter ∈ query.filters, db.readable filter.clause = true :=
      fun filter listed => readable filter.clause (List.mem_map_of_mem listed)
    have passing (row : Row) (member : row ∈ table.rows) (passes : db.Passes query row) :
        row ∈ db.sorted table query :=
      (sortRows_perm db query.orderBy _).mem_iff.mpr
        (List.mem_filter.mpr ⟨member, (all_clauses_iff db query row).mpr passes⟩)
    by_cases zero : query.limit = some 0
    · -- A limit of zero is left out of the statement, which then has to select nothing.
      rw [zero] at limited
      have none_asked : documents = [] := List.length_eq_zero_iff.mp (by omega)
      have none_chosen : db.sorted table query = [] := by
        rw [none_asked, sorted_eq, zero] at documents_eq
        simpa [limitRows] using documents_eq
      have none_passes : ∀ row ∈ table.rows, ¬ db.Passes query row := by
        intro row member passes
        have listed := passing row member passes
        rw [none_chosen] at listed
        cases listed
      exact {
        readable := readable'
        evaluates
        typed := fun row member passes => absurd passes (none_passes row member)
        decided := fun unlimited => absurd zero unlimited
        ordered := fun _ _ _ earlier member passes => absurd passes (none_passes earlier member)
        limited := fun _ => none_passes }
    · have fewer : (documents ++ cut).length ≤ table.rows.length := by
        rw [perm.length_eq]
        exact List.length_filter_le _ _
      have nothing_cut : cut = [] := by
        cases limit : query.limit with
        | none => simpa [limit] using limited
        | some count =>
          rw [limit] at limited
          by_contra more
          have full := limited.2 more
          have some_cut : 0 < cut.length := List.length_pos_iff.mpr more
          rw [List.length_append] at fewer
          rcases uncut count limit with none_left | enough
          · exact zero (by rw [limit, none_left])
          · omega
      have all_chosen : limitRows query.limit (db.sorted table query) = db.sorted table query := by
        cases limit : query.limit with
        | none => rfl
        | some count =>
          rcases uncut count limit with none_left | enough
          · exact absurd (by rw [limit, none_left]) zero
          · cases count with
            | zero => rfl
            | succ count =>
              apply List.take_of_length_le
              rw [Database.sorted, (sortRows_perm db query.orderBy _).length_eq]
              exact (List.length_filter_le _ _).trans enough
      rw [nothing_cut, List.append_nil] at perm
      -- The documents that are returned are the rows that pass, in their order.
      have same : db.sorted table query = documents := by
        rw [sorted_eq, all_chosen] at documents_eq
        refine map_rowDocument_inj table ?_ ?_ documents_eq
        · intro row listed
          exact (List.mem_filter.mp ((sortRows_perm db query.orderBy _).mem_iff.mp listed)).1
        · intro row listed
          exact (List.mem_filter.mp (perm.mem_iff.mp listed)).1
      have agree (row : Row) (member : row ∈ table.rows) : db.Passes query row ↔
          ∀ filter ∈ query.filters, db.satisfies filter row.data = true := by
        constructor
        · intro passes
          have listed := passing row member passes
          rw [same] at listed
          exact List.all_eq_true.mp (List.mem_filter.mp (perm.mem_iff.mp listed)).2
        · intro satisfies
          have listed : row ∈ documents :=
            perm.mem_iff.mpr (List.mem_filter.mpr ⟨member, List.all_eq_true.mpr satisfies⟩)
          rw [← same] at listed
          exact (all_clauses_iff db query row).mp
            (List.mem_filter.mp ((sortRows_perm db query.orderBy _).mem_iff.mp listed)).2
      rw [← same] at ordered
      have pairs := (pairwise_sortRows_iff db table.nodup query.orderBy _).mp ordered
      exact {
        readable := readable'
        evaluates
        typed := fun row member passes filter listed =>
          hasType_of_satisfies db ((agree row member).mp passes filter listed)
        decided := fun _ row member typed strict =>
          decided_of_passes_iff db (agree row member) typed strict
        ordered := fun field descending by_field earlier earlier_mem earlier_passes later later_mem
            later_passes before =>
          pairs field descending by_field earlier earlier_mem
            ((all_clauses_iff db query earlier).mpr earlier_passes) later later_mem
            ((all_clauses_iff db query later).mpr later_passes) before
        limited := fun limit => absurd limit zero }

/--
The document store returns what a query means where the statement is faithful to the types. -/
theorem query_typedLaw_iff (table : Table) (query : TypedQuery) :
    (Faithful db table query → TypedLaw db table query) ∧
      (Uncut table query → TypedLaw db table query → Faithful db table query) :=
  ⟨typedLaw_of_faithful db, faithful_of_typedLaw db⟩

end

def peopleTable : Table where
  rows :=
    [{ id := "u-1", data := .obj [("name", .str "ada")] },
      { id := "u-2", data := .obj [("name", .str "bob")] }]
  distinct := by decide

def notBob : TypedQuery where
  filters := [{ field := "name", sign := .ne, value := .str "bob" }]

/-- A comparison of names selects what it means. -/
theorem query_typedLaw_iff_example :
    Faithful wholeNumbers peopleTable notBob ∧ TypedLaw wholeNumbers peopleTable notBob := by
  have faithful : Faithful wholeNumbers peopleTable notBob := {
    readable := by decide
    evaluates := by
      intro row _
      exact ⟨rfl, fun _ => trivial⟩
    typed := by
      intro row member _ filter listed
      obtain rfl := List.mem_singleton.mp listed
      simp only [peopleTable, List.mem_cons, List.not_mem_nil, or_false] at member
      rcases member with rfl | rfl <;> rfl
    decided := by
      intro _ row _ _ _
      have all_strict : ∀ filter ∈ notBob.filters, wholeNumbers.strict filter = true := by decide
      have none_loose : ∀ filter ∈ notBob.filters, wholeNumbers.strict filter ≠ false := by decide
      exact iff_of_true (fun filter listed loose => absurd loose (none_loose filter listed))
        fun filter listed loose => absurd loose (none_loose filter listed)
    ordered := by
      intro field descending by_field
      cases by_field
    limited := by
      intro limit
      cases limit }
  exact ⟨faithful, (query_typedLaw_iff wholeNumbers peopleTable notBob).1 faithful⟩

def amountTable : Table where
  rows :=
    [{ id := "a-1", data := .obj [("amount", .num (.finite 9))] },
      { id := "a-2", data := .obj [("amount", .num (.finite 10))] }]
  distinct := by decide

/-- Numbers are in the order of their texts. -/
theorem query_typedLaw_fails :
    wholeNumbers.query amountTable { orderBy := some ("amount", false) } =
        .ok [.obj [("amount", .num (.finite 10)), ("id", .str "a-2")],
          .obj [("amount", .num (.finite 9)), ("id", .str "a-1")]] ∧
      ¬ TypedLaw wholeNumbers amountTable { orderBy := some ("amount", false) } := by
  refine ⟨rfl, ?_⟩
  intro law
  have faithful := faithful_of_typedLaw wholeNumbers (fun count limit => by cases limit) law
  have passes (row : Row) :
      wholeNumbers.Passes { orderBy := some ("amount", false) } row := by
    intro filter listed
    cases listed
  -- The text of ten stands in front of the text of nine.
  have placed := faithful.ordered "amount" false rfl
    { id := "a-2", data := .obj [("amount", .num (.finite 10))] } (by simp [amountTable])
    (passes _) { id := "a-1", data := .obj [("amount", .num (.finite 9))] }
    (by simp [amountTable]) (passes _) ⟨by decide, fun tied => absurd tied (by decide)⟩
  exact absurd placed (by decide)

end Postgres

end BitBrat
