import BitBrat.Js.OrderedMap
import Mathlib.Algebra.Order.Ring.Rat

/-! Script values: reading properties, truthiness, defaulting, and text conversion. -/

namespace Js

inductive Number where
  | finite (value : ℚ)
  | infinity (negative : Bool)
  | nan
  deriving DecidableEq

namespace Number

def truthy : Number → Bool
  | finite value => value ≠ 0
  | infinity _ => true
  | nan => false

/-- Addition, where opposite infinities have no sum. -/
def add : Number → Number → Number
  | finite left, finite right => finite (left + right)
  | infinity left, infinity right => if left = right then infinity left else nan
  | infinity side, finite _ => infinity side
  | finite _, infinity side => infinity side
  | _, _ => nan

def neg : Number → Number
  | finite value => finite (-value)
  | infinity negative => infinity (!negative)
  | nan => nan

def sub (left right : Number) : Number := left.add right.neg

/-- The strict order of comparisons, in which not-a-number takes no part. -/
def lt : Number → Number → Bool
  | finite left, finite right => left < right
  | finite _, infinity negative => !negative
  | infinity negative, finite _ => negative
  | infinity left, infinity right => left && !right
  | _, _ => false

def fractionDigits (value : ℚ) : Nat :=
  -- A denominator below a power of two divides the same power of ten whenever it divides any.
  ((List.range (Nat.log2 value.den + 1)).find? fun digits => 10 ^ digits % value.den = 0).getD 0

def toText : Number → String
  | finite value =>
    if value.den = 1 then toString value.num
    else
      let digits := fractionDigits value
      let scaled := value.num.natAbs * 10 ^ digits / value.den
      let fraction := toString (scaled % 10 ^ digits)
      let padding := String.ofList (List.replicate (digits - fraction.length) '0')
      (if value < 0 then "-" else "") ++ toString (scaled / 10 ^ digits) ++ "." ++ padding ++
        fraction
  | infinity negative => if negative then "-Infinity" else "Infinity"
  | nan => "NaN"

@[simp] theorem toText_natCast (number : Nat) :
    (finite (number : ℚ)).toText = toString number := by
  -- A whole number has denominator one.
  have whole : (number : ℚ).den = 1 := Rat.den_natCast number
  simp only [toText, whole, ↓reduceIte, Rat.num_natCast]
  rfl

end Number

inductive Value where
  | undefined
  | null
  | bool (flag : Bool)
  | num (value : Number)
  | str (text : String)
  | arr (items : List Value)
  | obj (fields : List (String × Value))
  | date (ms : Int)

namespace Value

def beq : Value → Value → Bool
  | undefined, undefined => true
  | null, null => true
  | bool left, bool right => left == right
  | num left, num right => left == right
  | str left, str right => left == right
  | arr left, arr right => beqItems left right
  | obj left, obj right => beqFields left right
  | date left, date right => left == right
  | _, _ => false
where
  beqItems : List Value → List Value → Bool
    | [], [] => true
    | left :: lefts, right :: rights => beq left right && beqItems lefts rights
    | _, _ => false
  beqFields : List (String × Value) → List (String × Value) → Bool
    | [], [] => true
    | (key, left) :: lefts, (other, right) :: rights =>
      key == other && beq left right && beqFields lefts rights
    | _, _ => false

mutual

private theorem beq_iff_eq : ∀ left right : Value, beq left right = true ↔ left = right
  | undefined, right => by cases right <;> simp [beq]
  | null, right => by cases right <;> simp [beq]
  | bool left, right => by cases right <;> simp [beq]
  | num left, right => by cases right <;> simp [beq]
  | str left, right => by cases right <;> simp [beq]
  | date left, right => by cases right <;> simp [beq]
  | arr left, right => by
    -- Equal arrays are equal item by item.
    cases right with
    | arr right => simpa [beq] using beqItems_iff_eq left right
    | _ => simp [beq]
  | obj left, right => by
    -- Equal objects are equal property by property.
    cases right with
    | obj right => simpa [beq] using beqFields_iff_eq left right
    | _ => simp [beq]

theorem beqItems_iff_eq : ∀ left right : List Value,
    beq.beqItems left right = true ↔ left = right
  | [], right => by cases right <;> simp [beq.beqItems]
  | head :: tail, right => by
    cases right with
    | nil => simp [beq.beqItems]
    | cons other rest => simp [beq.beqItems, beq_iff_eq head other, beqItems_iff_eq tail rest]

theorem beqFields_iff_eq : ∀ left right : List (String × Value),
    beq.beqFields left right = true ↔ left = right
  | [], right => by cases right <;> simp [beq.beqFields]
  | (key, value) :: tail, right => by
    cases right with
    | nil => simp [beq.beqFields]
    | cons entry rest =>
      obtain ⟨other, stored⟩ := entry
      simp [beq.beqFields, beq_iff_eq value stored, beqFields_iff_eq tail rest]

end

instance : DecidableEq Value := fun left right =>
  decidable_of_iff (beq left right = true) (beq_iff_eq left right)

instance : Inhabited Value := ⟨undefined⟩

/-- The properties of a plain object, and none of anything else. -/
def fields : Value → List (String × Value)
  | obj fields => fields
  | _ => []

/-- Optional chaining: a property of an object, and nothing of any other value. -/
def get (value : Value) (key : String) : Value :=
  (value.fields.lookup key).getD undefined

def item (value : Value) (index : Nat) : Value :=
  match value with
  | arr items => items.getD index undefined
  | _ => undefined

def truthy : Value → Bool
  | undefined => false
  | null => false
  | bool flag => flag
  | num value => value.truthy
  | str text => text ≠ ""
  | _ => true

/-- The left operand when it is truthy, and the right one otherwise. -/
def or (left right : Value) : Value := if left.truthy then left else right

/-- The left operand unless it is absent or empty, and the right one then. -/
def coalesce : Value → Value → Value
  | undefined, right => right
  | null, right => right
  | left, _ => left

def isObject : Value → Bool
  | obj _ => true
  | _ => false

def isArray : Value → Bool
  | arr _ => true
  | _ => false

def isString : Value → Bool
  | str _ => true
  | _ => false

/-- The value itself when the test holds, and nothing otherwise. -/
def onlyIf (value : Value) (test : Bool) : Value := if test then value else undefined

/-- Copy an object's properties and write the given ones over them, in order. -/
def extend (base : Value) (updates : List (String × Value)) : Value :=
  obj (updates.foldl (fun fields update => setEntry update.1 update.2 fields) base.fields)

def toText : Value → String
  | undefined => "undefined"
  | null => "null"
  | bool flag => if flag then "true" else "false"
  | num value => value.toText
  | str text => text
  | arr items => String.intercalate "," (itemTexts items)
  | obj _ => "[object Object]"
  | date _ => "[object Object]"
where
  /-- Missing and empty items of an array convert to no text. -/
  itemTexts : List Value → List String
    | [] => []
    | item :: rest =>
      (match item with
        | undefined => ""
        | null => ""
        | other => toText other) :: itemTexts rest

@[simp] theorem fields_obj (entries : List (String × Value)) : (obj entries).fields = entries := rfl

@[simp] theorem get_undefined (key : String) : undefined.get key = undefined := rfl

@[simp] theorem get_null (key : String) : null.get key = undefined := rfl

@[simp] theorem get_str (text key : String) : (str text).get key = undefined := rfl

@[simp] theorem get_obj_nil (key : String) : (obj []).get key = undefined := rfl

theorem get_obj_cons (name key : String) (value : Value) (rest : List (String × Value)) :
    (obj ((name, value) :: rest)).get key = if key = name then value else (obj rest).get key := by
  by_cases same : key = name
  · subst same; simp [get]
  · have skipped : (key == name) = false := by simpa using same
    simp [get, List.lookup_cons, skipped, same]

theorem get_setEntry (name key : String) (value : Value) (entries : List (String × Value)) :
    (obj (setEntry name value entries)).get key =
      if key = name then value else (obj entries).get key := by
  simp only [get, fields_obj, lookup_setEntry]
  split <;> rfl

@[simp] theorem extend_nil (base : Value) : base.extend [] = obj base.fields := rfl

theorem extend_cons (base : Value) (name : String) (value : Value)
    (updates : List (String × Value)) :
    base.extend ((name, value) :: updates) =
      (obj (setEntry name value base.fields)).extend updates := rfl

@[simp] theorem get_obj_fields (value : Value) (key : String) :
    (obj value.fields).get key = value.get key := rfl

theorem get_extend (base : Value) (updates : List (String × Value)) (key : String) :
    (base.extend updates).get key = (updates.reverse.lookup key).getD (base.get key) := by
  -- The induction is on the writes, each of which overrides the ones before it.
  induction updates generalizing base with
  | nil => simp
  | cons update rest ih =>
    obtain ⟨name, value⟩ := update
    rw [extend_cons, ih, get_setEntry, List.reverse_cons, List.lookup_append]
    cases rest.reverse.lookup key with
    | some found => simp
    | none =>
      by_cases same : key = name
      · subst same; simp
      · have skipped : (key == name) = false := by simpa using same
        simp [List.lookup_cons, skipped, same]

@[simp] theorem truthy_str (text : String) : (str text).truthy = decide (text ≠ "") := rfl

@[simp] theorem truthy_undefined : undefined.truthy = false := rfl

@[simp] theorem truthy_obj (entries : List (String × Value)) : (obj entries).truthy = true := rfl

theorem or_of_truthy {left : Value} (holds : left.truthy = true) (right : Value) :
    left.or right = left := by
  simp [or, holds]

theorem or_of_falsy {left : Value} (fails : left.truthy = false) (right : Value) :
    left.or right = right := by
  simp [or, fails]

end Value

end Js
