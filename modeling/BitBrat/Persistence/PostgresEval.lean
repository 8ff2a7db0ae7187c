import Mathlib.Data.List.Sort
import Mathlib.Data.String.Basic
import BitBrat.Persistence.PostgresQuery

/-! What the database returns for the statement of a query: casts, comparisons and orders. -/

namespace BitBrat

namespace Postgres

open Js

inductive Sign where
  | eq | ne | lt | le | gt | ge
  deriving DecidableEq

def Sign.text : Sign → String
  | .eq => "="
  | .ne => "!="
  | .lt => "<"
  | .le => "<="
  | .gt => ">"
  | .ge => ">="

def Sign.holds {α : Type} [LinearOrder α] (sign : Sign) (left right : α) : Bool :=
  match sign with
  | .eq => left = right
  | .ne => left ≠ right
  | .lt => left < right
  | .le => left ≤ right
  | .gt => right < left
  | .ge => right ≤ left

def Sign.operator : Sign → Comparison
  | .eq => .eq
  | .ne => .ne
  | .lt => .lt
  | .le => .le
  | .gt => .gt
  | .ge => .ge

inductive Cast where
  | text | boolean | numeric | timestamp
  deriving DecidableEq

structure Clause where
  field : String
  cast : Cast
  sign : Sign
  value : Value

/-- A clause as it stands in a statement, with the number of its parameter. -/
def Clause.render (clause : Clause) (paramIndex : Nat) : String :=
  let param := "$" ++ toString paramIndex
  let sign := " " ++ clause.sign.text ++ " "
  let json := "data->'" ++ clause.field ++ "'"
  let text := "data->>'" ++ clause.field ++ "'"
  match clause.cast with
  | .text => text ++ sign ++ param
  | .boolean => "(" ++ json ++ ")::boolean" ++ sign ++ param
  | .numeric => "(" ++ text ++ ")::numeric" ++ sign ++ param
  | .timestamp => "(" ++ text ++ ")::timestamp" ++ sign ++ param ++ "::timestamp"

structure TypedFilter where
  field : String
  sign : Sign
  value : Value

def TypedFilter.toFilter (filter : TypedFilter) : QueryFilter :=
  { field := filter.field, operator := filter.sign.operator, value := filter.value }

/-- The type that a filter is compared in, which its operator and its value decide. -/
def TypedFilter.cast (filter : TypedFilter) : Cast :=
  match filter.sign with
  | .eq | .ne => if isBoolean filter.value then .boolean else .text
  | _ => if isDateString filter.value then .timestamp else .numeric

def TypedFilter.clause (filter : TypedFilter) : Clause :=
  { field := filter.field, cast := filter.cast, sign := filter.sign, value := filter.value }

theorem buildWhereClause_eq (filter : TypedFilter) (paramIndex : Nat) :
    buildWhereClause filter.toFilter paramIndex = filter.clause.render paramIndex := by
  obtain ⟨field, sign, value⟩ := filter
  unfold buildWhereClause Clause.render
  simp only [TypedFilter.toFilter, TypedFilter.clause, TypedFilter.cast]
  -- The value decides the cast of an equality, and that of an order.
  cases sign with
  | eq | ne =>
    by_cases boolean : isBoolean value = true <;>
      simp [Sign.operator, Sign.text, boolean, String.append_assoc]
  | lt | le | gt | ge =>
    by_cases date : isDateString value = true <;>
      simp [Sign.operator, Sign.text, date, String.append_assoc]

/-- A query with typed filters, an order by one property, and a limit. -/
structure TypedQuery where
  filters : List TypedFilter := []
  orderBy : Option (String × Bool) := none
  limit : Option Nat := none

def TypedQuery.options (query : TypedQuery) : QueryOptions :=
  { filters := query.filters.map TypedFilter.toFilter
    orderBy := query.orderBy.map fun (name, descending) => .field name descending
    limit := query.limit }

/-- The clauses of a query, in the order in which they are written. -/
def TypedQuery.clauses (query : TypedQuery) : List Clause := query.filters.map TypedFilter.clause

def TypedQuery.render (query : TypedQuery) (table : String) : String :=
  "SELECT id, data FROM " ++ table ++
    (if query.clauses = [] then ""
      else " WHERE " ++ String.intercalate " AND "
        (query.clauses.mapIdx fun index clause => clause.render (index + 1))) ++
    (match query.orderBy with
      | some (name, descending) => " ORDER BY data->>'" ++ name ++ "' " ++ direction descending
      | none => "") ++
    numberClause "LIMIT" query.limit

theorem whereClause_eq (orderBy : Option (String × Bool)) (filters : List TypedFilter) :
    whereClause (orderBy.map fun (name, descending) => OrderBy.field name descending)
        (filters.map TypedFilter.toFilter) =
      if filters.map TypedFilter.clause = [] then ""
      else " WHERE " ++ String.intercalate " AND "
        ((filters.map TypedFilter.clause).mapIdx
          fun index clause => clause.render (index + 1)) := by
  have order : orderParams (orderBy.map fun (name, descending) => OrderBy.field name descending) =
      [] := by cases orderBy <;> rfl
  have clauses : (filters.map TypedFilter.toFilter).mapIdx
      (fun index filter => buildWhereClause filter (index + 1)) =
        (filters.map TypedFilter.clause).mapIdx fun index clause => clause.render (index + 1) := by
    apply List.ext_getElem
    · simp
    · intro index _ _
      simp [buildWhereClause_eq]
  unfold whereClause
  simp only [order, List.length_nil, Nat.zero_add, clauses, List.map_eq_nil_iff]

theorem statement_eq_render (query : TypedQuery) (table : String) :
    statement table query.options = query.render table := by
  obtain ⟨filters, orderBy, limit⟩ := query
  unfold statement TypedQuery.render
  simp only [TypedQuery.options, TypedQuery.clauses, whereClause_eq]
  cases orderBy with
  | none => exact String.append_empty
  | some order => exact String.append_empty

/-- A table: its rows in the order in which they are met, each under an identifier of its own. -/
structure Table where
  rows : List Row
  distinct : (rows.map (·.id)).Nodup

structure Database (ν τ : Type) where
  jsonText : ℚ → String
  compositeText : Value → String
  paramText : Number → String
  numericIn : String → Option ν
  timestampIn : String → Option τ
  /-- The order in which the clauses of a statement are evaluated. -/
  plan : List Clause → List Clause
  plan_perm : ∀ clauses, (plan clauses).Perm clauses

section

variable {ν τ : Type} [LinearOrder ν] [LinearOrder τ] (db : Database ν τ)

/-- The text of a property, which a missing and an empty one do not have. -/
def Database.fieldText (data : Value) (field : String) : Option String :=
  match data.get field with
  | .undefined | .null => none
  | .bool flag => some (if flag then "true" else "false")
  | .num (.finite value) => some (db.jsonText value)
  | .str text => some text
  | .arr items => some (db.compositeText (.arr items))
  | .obj fields => some (db.compositeText (.obj fields))
  -- No document has such a property.
  | .num _ | .date _ => none

def Database.valueText : Value → String
  | .num value => db.paramText value
  | value => value.toText

def Database.readable (clause : Clause) : Bool :=
  match clause.cast with
  | .text => true
  | .boolean => isBoolean clause.value
  | .numeric => (db.numericIn (db.valueText clause.value)).isSome
  | .timestamp => (db.timestampIn (db.valueText clause.value)).isSome

/-- Whether the property of a clause can be cast to its type, where it is there. -/
def Database.castable (clause : Clause) (data : Value) : Bool :=
  match clause.cast with
  | .text => true
  | .boolean =>
    match data.get clause.field with
    | .undefined => true
    | value => isBoolean value
  | .numeric => (db.fieldText data clause.field).all fun text => (db.numericIn text).isSome
  | .timestamp => (db.fieldText data clause.field).all fun text => (db.timestampIn text).isSome

/-- Whether a comparison of operands is true, which no comparison with nothing is. -/
def compares {α : Type} [LinearOrder α] (sign : Sign) (left right : Option α) : Bool :=
  match left, right with
  | some left, some right => sign.holds left right
  | _, _ => false

def Database.holds (clause : Clause) (data : Value) : Bool :=
  match clause.cast with
  | .text =>
    compares clause.sign (db.fieldText data clause.field) (some (db.valueText clause.value))
  | .boolean =>
    match data.get clause.field, clause.value with
    | .bool left, .bool right => clause.sign.holds left right
    | _, _ => false
  | .numeric =>
    compares clause.sign ((db.fieldText data clause.field).bind db.numericIn)
      (db.numericIn (db.valueText clause.value))
  | .timestamp =>
    compares clause.sign ((db.fieldText data clause.field).bind db.timestampIn)
      (db.timestampIn (db.valueText clause.value))

/-- Whether a document passes the clauses, of which none is looked at behind one that fails. -/
def Database.passes (data : Value) : List Clause → Except String Bool
  | [] => .ok true
  | clause :: rest =>
    if !db.castable clause data then .error "invalid input syntax"
    else if db.holds clause data then passes data rest
    else .ok false

def Database.filterRows (clauses : List Clause) : List Row → Except String (List Row)
  | [] => .ok []
  | row :: rest =>
    match db.passes row.data clauses with
    | .error error => .error error
    | .ok kept =>
      (filterRows clauses rest).map fun later => if kept then row :: later else later

/-- The order of texts, in which nothing counts as the greatest text. -/
def keyLe (left right : Option (List Char)) : Bool :=
  match left, right with
  | _, none => true
  | none, some _ => false
  | some left, some right => left ≤ right

/-- Whether one row stands in front of another by the text of a property, or may stand there. -/
def Database.textLe (field : String) (descending : Bool) (left right : Row) : Bool :=
  let key (row : Row) := (db.fieldText row.data field).map String.toList
  if descending then keyLe (key right) (key left) else keyLe (key left) (key right)

/-- The rows in the order of a query, where rows with the same text stay as they are met. -/
def Database.sortRows (orderBy : Option (String × Bool)) (rows : List Row) : List Row :=
  match orderBy with
  | none => rows
  | some (field, descending) =>
    rows.insertionSort fun left right => db.textLe field descending left right

/-- The rows up to a limit, where a limit of zero is none. -/
def limitRows (limit : Option Nat) (rows : List Row) : List Row :=
  match limit with
  | none | some 0 => rows
  | some count => rows.take count

def Database.select (table : Table) (query : TypedQuery) : Except String (List Row) :=
  -- The parameters are read before any row is.
  if query.clauses.all db.readable then
    (db.filterRows (db.plan query.clauses) table.rows).map fun found =>
      limitRows query.limit (db.sortRows query.orderBy found)
  else .error "invalid input syntax"

def Database.query (table : Table) (query : TypedQuery) : Except String (List Value) :=
  (db.select table query).map (·.map rowDocument)

theorem query_eq_of_pool {pool : Pool} {name : String} {table : Table} {query : TypedQuery}
    (named : sanitizeCollectionName name = .ok name)
    (runs : pool (query.render name) (query.filters.map (·.value)) = db.select table query) :
    Postgres.query pool name query.options = db.query table query := by
  have params : orderParams query.options.orderBy ++ query.options.filters.map (·.value) =
      query.filters.map (·.value) := by
    obtain ⟨filters, orderBy, limit⟩ := query
    cases orderBy <;> simp [TypedQuery.options, orderParams, TypedFilter.toFilter]
  unfold Postgres.query Database.query
  simp only [named, params, statement_eq_render, runs]

/-- No cast fails of those that are reached while a document passes clauses. -/
def Database.Evaluates (data : Value) : List Clause → Prop
  | [] => True
  | clause :: rest =>
    db.castable clause data = true ∧ (db.holds clause data = true → Evaluates data rest)

theorem passes_of_evaluates {data : Value} {clauses : List Clause}
    (evaluates : db.Evaluates data clauses) :
    db.passes data clauses = .ok (clauses.all fun clause => db.holds clause data) := by
  induction clauses with
  | nil => rfl
  | cons clause rest ih =>
    obtain ⟨castable, later⟩ := evaluates
    rw [Database.passes, castable, List.all_cons]
    -- Behind a clause that fails, nothing is evaluated.
    cases holds : db.holds clause data with
    | false => rfl
    | true => simpa using ih (later holds)

theorem evaluates_of_passes {data : Value} {clauses : List Clause} {kept : Bool}
    (passes : db.passes data clauses = .ok kept) : db.Evaluates data clauses := by
  induction clauses with
  | nil => trivial
  | cons clause rest ih =>
    rw [Database.passes] at passes
    cases castable : db.castable clause data with
    | false => simp [castable] at passes
    | true =>
      refine ⟨castable, ?_⟩
      intro holds
      exact ih (by simpa [castable, holds] using passes)

theorem filterRows_eq_ok {clauses : List Clause} {rows found : List Row} :
    db.filterRows clauses rows = .ok found ↔
      (∀ row ∈ rows, db.Evaluates row.data clauses) ∧
        found = rows.filter fun row => clauses.all fun clause => db.holds clause row.data := by
  induction rows generalizing found with
  | nil => simp [Database.filterRows, eq_comm]
  | cons row rest ih =>
    rw [Database.filterRows, List.forall_mem_cons]
    cases passes : db.passes row.data clauses with
    | error error =>
      -- The first row already fails.
      refine iff_of_false (by simp) ?_
      rintro ⟨⟨evaluates, _⟩, _⟩
      rw [passes_of_evaluates db evaluates] at passes
      cases passes
    | ok kept =>
      -- No cast fails in the first row, so that the rest decides.
      have evaluates := evaluates_of_passes db passes
      rw [passes_of_evaluates db evaluates] at passes
      obtain rfl : _ = kept := by simpa using passes
      cases later : db.filterRows clauses rest with
      | error error =>
        refine iff_of_false (by simp [Except.map]) ?_
        rintro ⟨⟨_, others⟩, _⟩
        rw [ih.mpr ⟨others, rfl⟩] at later
        cases later
      | ok others =>
        obtain ⟨evaluate_others, rfl⟩ := ih.mp later
        simp only [Except.map, Except.ok.injEq, List.filter_cons]
        constructor
        · intro same
          exact ⟨⟨evaluates, evaluate_others⟩, same.symm⟩
        · intro same
          exact same.2.symm

theorem select_eq_ok {table : Table} {query : TypedQuery} {chosen : List Row} :
    db.select table query = .ok chosen ↔
      (∀ clause ∈ query.clauses, db.readable clause = true) ∧
        (∀ row ∈ table.rows, db.Evaluates row.data (db.plan query.clauses)) ∧
        chosen = limitRows query.limit (db.sortRows query.orderBy
          (table.rows.filter fun row => query.clauses.all fun clause =>
            db.holds clause row.data)) := by
  -- The order in which clauses are evaluated does not decide which rows pass them.
  have planned (row : Row) : ((db.plan query.clauses).all fun clause => db.holds clause row.data) =
      query.clauses.all fun clause => db.holds clause row.data :=
    (db.plan_perm query.clauses).all_eq
  unfold Database.select
  by_cases readable : query.clauses.all db.readable = true
  · rw [if_pos readable]
    cases filtered : db.filterRows (db.plan query.clauses) table.rows with
    | error error =>
      -- An error says that a cast fails in some row.
      refine iff_of_false (by simp [Except.map]) ?_
      rintro ⟨_, evaluate, _⟩
      rw [(filterRows_eq_ok db).mpr ⟨evaluate, rfl⟩] at filtered
      cases filtered
    | ok found =>
      obtain ⟨evaluate, rfl⟩ := (filterRows_eq_ok db).mp filtered
      simp only [planned, Except.map, Except.ok.injEq]
      constructor
      · intro same
        exact ⟨List.all_eq_true.mp readable, evaluate, same.symm⟩
      · intro same
        exact same.2.2.symm
  · rw [if_neg readable]
    refine iff_of_false (by simp) ?_
    intro selected
    exact readable (List.all_eq_true.mpr selected.1)

end

/-- A database that reads whole numbers, and evaluates clauses as they are written. -/
def wholeNumbers : Database Nat Nat where
  jsonText value := toString value.num
  compositeText _ := "\x7b\x7d"
  paramText value := value.toText
  numericIn text := if text.toList.all Char.isDigit then text.toNat? else none
  timestampIn _ := none
  plan clauses := clauses
  plan_perm clauses := List.Perm.refl clauses

end Postgres

end BitBrat
