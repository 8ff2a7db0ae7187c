import BitBrat.Js.Value

/-! Queries of the document store, and the statements that they become. -/

namespace BitBrat

namespace Postgres

open Js

inductive Comparison where
  | eq | ne | lt | le | gt | ge | isIn | arrayContains | arrayContainsAny
  deriving DecidableEq

structure QueryFilter where
  field : String
  operator : Comparison
  value : Value

inductive DistanceMeasure where
  | cosine | l2 | innerProduct
  deriving DecidableEq

/-- The order of the documents: by a property, or by their distance from a vector. -/
inductive OrderBy where
  | field (name : String) (descending : Bool)
  | vector (name : String) (descending : Bool) (vector : List ℚ) (measure : DistanceMeasure)

structure QueryOptions where
  filters : List QueryFilter := []
  orderBy : Option OrderBy := none
  limit : Option Nat := none
  offset : Option Nat := none

/-- A row as the database returns it, with the distance where one is selected. -/
structure Row where
  id : String
  data : Value
  distance : Value := .undefined

/-- A connection pool: statements with their parameters, and what comes back. -/
abbrev Pool := String → List Value → Except String (List Row)

/-- Whether a text has a shape, in which the letter d stands for a digit. -/
def matchesShape : List Char → List Char → Bool
  | [], [] => true
  | 'd' :: shape, char :: rest => char.isDigit && matchesShape shape rest
  | mark :: shape, char :: rest => mark = char && matchesShape shape rest
  | _, _ => false

/-- Whether a value is the text of a date, with or without a time. -/
def isDateString : Value → Bool
  | .str text =>
    ["dddd-dd-dd", "dddd-dd-ddTdd:dd:dd", "dddd-dd-ddTdd:dd:ddZ", "dddd-dd-ddTdd:dd:dd.ddd",
      "dddd-dd-ddTdd:dd:dd.dddZ"].any fun shape => matchesShape shape.toList text.toList
  | _ => false

def isBoolean : Value → Bool
  | .bool _ => true
  | _ => false

def buildWhereClause (filter : QueryFilter) (paramIndex : Nat) : String :=
  let param := "$" ++ toString paramIndex
  let json := "data->'" ++ filter.field ++ "'"
  let text := "data->>'" ++ filter.field ++ "'"
  -- Truth values are compared as such, and everything else by its text.
  let equality (sign : String) :=
    if isBoolean filter.value then "(" ++ json ++ ")::boolean " ++ sign ++ " " ++ param
    else text ++ " " ++ sign ++ " " ++ param
  let order (sign : String) :=
    if isDateString filter.value then
      "(" ++ text ++ ")::timestamp " ++ sign ++ " " ++ param ++ "::timestamp"
    else "(" ++ text ++ ")::numeric " ++ sign ++ " " ++ param
  match filter.operator with
  | .eq => equality "="
  | .ne => equality "!="
  | .lt => order "<"
  | .le => order "<="
  | .gt => order ">"
  | .ge => order ">="
  | .isIn => text ++ " = ANY(" ++ param ++ ")"
  | .arrayContains => json ++ " @> " ++ param ++ "::jsonb"
  | .arrayContainsAny => json ++ " ?| " ++ param

def getDistanceOperator : DistanceMeasure → String
  | .cosine => "<=>"
  | .l2 => "<->"
  | .innerProduct => "<#>"

/-- The name of a collection, if it may be the name of a table. -/
def sanitizeCollectionName (name : String) : Except String String :=
  if name ≠ "" && name.toList.all (fun char => char.isAlphanum || char = '_' || char = '-') then
    .ok name
  else .error ("Invalid collection name: " ++ name)

def stringifyVector (vector : List ℚ) : String :=
  "[" ++ String.intercalate "," (vector.map fun number => (Number.finite number).toText) ++ "]"

def selectClause (table : String) : Option OrderBy → String
  | some (.vector field _ _ measure) =>
    "SELECT id, data, (data->'" ++ field ++ "' " ++ getDistanceOperator measure ++
      " $1::vector) AS distance\n               FROM " ++ table
  | _ => "SELECT id, data FROM " ++ table

def orderParams : Option OrderBy → List Value
  | some (.vector _ _ vector _) => [.str (stringifyVector vector)]
  | _ => []

def direction (descending : Bool) : String := if descending then "DESC" else "ASC"

def orderClause : Option OrderBy → String
  | some (.vector _ descending _ _) => " ORDER BY distance " ++ direction descending
  | some (.field name descending) => " ORDER BY data->>'" ++ name ++ "' " ++ direction descending
  | none => ""

/-- A clause for a number, which there is none for without the number or for zero. -/
def numberClause (keyword : String) : Option Nat → String
  | some 0 => ""
  | some number => " " ++ keyword ++ " " ++ toString number
  | none => ""

def whereClause (orderBy : Option OrderBy) (filters : List QueryFilter) : String :=
  if filters = [] then ""
  else " WHERE " ++ String.intercalate " AND "
    (filters.mapIdx fun index filter =>
      buildWhereClause filter ((orderParams orderBy).length + index + 1))

def statement (table : String) (options : QueryOptions) : String :=
  selectClause table options.orderBy ++ whereClause options.orderBy options.filters ++
    orderClause options.orderBy ++ numberClause "LIMIT" options.limit ++
    numberClause "OFFSET" options.offset

/-- The document of a row, under the identifier of the row. -/
def rowDocument (row : Row) : Value :=
  -- The distance of the row is not a part of the document.
  .obj (setEntry "id" (.str row.id) row.data.fields)

def query (pool : Pool) (collection : String) (options : QueryOptions) :
    Except String (List Value) :=
  match sanitizeCollectionName collection with
  | .error message => .error message
  | .ok table =>
    (pool (statement table options)
      (orderParams options.orderBy ++ options.filters.map (·.value))).map (·.map rowDocument)

end Postgres

end BitBrat
