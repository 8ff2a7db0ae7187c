import BitBrat.Js.Text
import BitBrat.Js.Value
import Mathlib.Data.List.TakeWhile

/-! The number that a text converts to. -/

namespace Js

/-- The value of decimal digits, where there is one and nothing else. -/
def digitsValue (digits : List Char) : Option Nat :=
  if digits ≠ [] ∧ digits.all Char.isDigit then some (Nat.ofDigitChars 10 digits 0) else none

def signed : List Char → Bool × List Char
  | '-' :: rest => (true, rest)
  | '+' :: rest => (false, rest)
  | rest => (false, rest)

/-- The power of ten that an exponent stands for, where there is one to read. -/
def exponentValue : List Char → Option Int
  | [] => some 0
  | mark :: rest =>
    if mark.toLower = 'e' then
      let (negative, digits) := signed rest
      (digitsValue digits).map fun size => if negative then -size else (size : Int)
    else none

def decimalValue (chars : List Char) : Option ℚ :=
  let whole := chars.takeWhile Char.isDigit
  let rest := chars.dropWhile Char.isDigit
  let (fraction, exponent) :=
    match rest with
    | '.' :: rest => (rest.takeWhile Char.isDigit, rest.dropWhile Char.isDigit)
    | rest => ([], rest)
  match digitsValue (whole ++ fraction), exponentValue exponent with
  | some digits, some power => some (digits * 10 ^ (power - fraction.length))
  | _, _ => none

def digitValue (char : Char) : Option Nat :=
  if char.isDigit then some (char.toNat - '0'.toNat)
  else if char.toLower ∈ ['a', 'b', 'c', 'd', 'e', 'f'] then
    some (char.toLower.toNat - 'a'.toNat + 10)
  else none

/-- The value of digits to a base, where there is one and nothing else. -/
def basedValue (base : Nat) (digits : List Char) : Option Nat :=
  if digits = [] then none
  else digits.foldlM (fun value char =>
    (digitValue char).bind fun digit =>
      if digit < base then some (base * value + digit) else none) 0

/-- The value of a whole number behind the mark of a base, if there is such a mark. -/
def prefixedValue : List Char → Option (Option Nat)
  | '0' :: mark :: digits =>
    if mark.toLower = 'x' then some (basedValue 16 digits)
    else if mark.toLower = 'o' then some (basedValue 8 digits)
    else if mark.toLower = 'b' then some (basedValue 2 digits)
    else none
  | _ => none

/-- The number that a text converts to, but for the rounding. -/
def Number.ofText (text : String) : Number :=
  let trimmed := trimBlanks text.toList
  if trimmed = [] then .finite 0
  else
    match prefixedValue trimmed with
    | some value => (value.map fun number => Number.finite number).getD .nan
    | none =>
      let (negative, unsigned) := signed trimmed
      if unsigned = "Infinity".toList then .infinity negative
      else
        match decimalValue unsigned with
        | some value => .finite (if negative then -value else value)
        | none => .nan

def Value.toNumber : Value → Number
  | .undefined => .nan
  | .null => .finite 0
  | .bool flag => .finite (if flag then 1 else 0)
  | .num value => value
  | .str text => Number.ofText text
  | .arr items => Number.ofText (Value.arr items).toText
  | .obj _ => .nan
  | .date ms => .finite ms

def Number.le (left right : Number) : Bool := left ≠ .nan && right ≠ .nan && !right.lt left

@[simp] theorem Number.le_finite (left right : ℚ) :
    Number.le (.finite left) (.finite right) = decide (left ≤ right) := by
  by_cases ordered : left ≤ right
  · simp [Number.le, Number.lt, ordered]
  · simp [Number.le, Number.lt, ordered, not_le.mp ordered]

variable {char : Char}

theorem exists_of_isDigit (digit : char.isDigit = true) :
    ∃ value : Fin 10, char = Char.ofNat (48 + value) := by
  obtain ⟨low, high⟩ := Char.isDigit_iff_toNat.mp digit
  have low : 48 ≤ char.toNat := low
  have high : char.toNat ≤ 57 := high
  refine ⟨⟨char.toNat - 48, by omega⟩, ?_⟩
  have code : 48 + (char.toNat - 48) = char.toNat := by omega
  simp [code]

theorem isBlank_of_isDigit (digit : char.isDigit = true) : isBlank char = false := by
  obtain ⟨value, rfl⟩ := exists_of_isDigit digit
  revert value
  decide

theorem plain_of_isDigit (digit : char.isDigit = true) :
    char.toLower ∉ ['x', 'o', 'b'] ∧ char ∉ ['-', '+', 'I'] := by
  obtain ⟨value, rfl⟩ := exists_of_isDigit digit
  revert value
  decide

variable {digits : List Char}

theorem trimBlanks_of_digits (all : ∀ char ∈ digits, char.isDigit = true) :
    trimBlanks digits = digits :=
  trimBlanks_of_dark fun char member => isBlank_of_isDigit (all char member)

theorem prefixedValue_of_digits (all : ∀ char ∈ digits, char.isDigit = true) :
    prefixedValue digits = none := by
  unfold prefixedValue
  split
  · rename_i mark rest
    obtain ⟨unmarked, -⟩ := plain_of_isDigit (all mark (by simp))
    simp only [List.mem_cons, List.not_mem_nil, or_false, not_or] at unmarked
    rw [if_neg unmarked.1, if_neg unmarked.2.1, if_neg unmarked.2.2]
  · rfl

theorem signed_of_digits (all : ∀ char ∈ digits, char.isDigit = true) :
    signed digits = (false, digits) := by
  unfold signed
  split
  · exact absurd (all '-' (by simp)) (by decide)
  · exact absurd (all '+' (by simp)) (by decide)
  · rfl

theorem decimalValue_of_digits (nonempty : digits ≠ [])
    (all : ∀ char ∈ digits, char.isDigit = true) :
    decimalValue digits = some (Nat.ofDigitChars 10 digits 0 : ℚ) := by
  have taken : digits.takeWhile Char.isDigit = digits := List.takeWhile_eq_self_iff.mpr all
  have rest : digits.dropWhile Char.isDigit = [] := List.dropWhile_eq_nil_iff.mpr all
  have value : digitsValue digits = some (Nat.ofDigitChars 10 digits 0) :=
    if_pos ⟨nonempty, List.all_eq_true.mpr all⟩
  unfold decimalValue
  rw [taken, rest]
  simp [value, exponentValue]

theorem Number.ofText_toString (number : Nat) :
    Number.ofText (toString number) = .finite number := by
  have digits : (toString number).toList = Nat.toDigits 10 number := by simp
  have all : ∀ char ∈ Nat.toDigits 10 number, char.isDigit = true :=
    fun char member => Nat.isDigit_of_mem_toDigits (by omega) (by omega) member
  have nonempty : Nat.toDigits 10 number ≠ [] := Nat.toDigits_ne_nil
  have finite : Nat.toDigits 10 number ≠ "Infinity".toList := by
    intro same
    rw [same] at all
    exact absurd (all 'I' (by decide)) (by decide)
  unfold Number.ofText
  rw [digits, trimBlanks_of_digits all, if_neg nonempty, prefixedValue_of_digits all]
  dsimp only
  rw [signed_of_digits all]
  dsimp only
  rw [if_neg finite, decimalValue_of_digits nonempty all, Nat.ofDigitChars_ten_toDigits]
  rfl

end Js
