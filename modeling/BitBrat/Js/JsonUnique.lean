import BitBrat.Js.Json
import BitBrat.Js.NumberText
import Mathlib.Algebra.Order.Field.Rat
import Mathlib.Algebra.Order.Field.Basic

/-! The JSON text of a value stands for no other value. -/

namespace Js

variable {value : ℚ} {size : Nat}

theorem fractionDigits_spec (double : value.den = 2 ^ size) :
    value.den ∣ 10 ^ Number.fractionDigits value := by
  unfold Number.fractionDigits
  cases found : (List.range (Nat.log2 value.den + 1)).find? fun digits =>
      decide (10 ^ digits % value.den = 0) with
  | some digits =>
    have ends := List.find?_some found
    exact Nat.dvd_of_mod_eq_zero (by simpa using ends)
  | none =>
    -- A power of two divides the same power of ten.
    have divides : value.den ∣ 10 ^ size := double ▸ pow_dvd_pow_of_dvd (by omega) size
    have member : size ∈ List.range (Nat.log2 value.den + 1) := by
      rw [double, Nat.log2_two_pow]
      exact List.mem_range.mpr (by omega)
    have never := List.find?_eq_none.mp found size member
    exact absurd (Nat.mod_eq_zero_of_dvd divides) (by simpa using never)

theorem decimalValue_of_point {whole fraction : List Char} (nonempty : whole ≠ [])
    (front : ∀ char ∈ whole, char.isDigit = true)
    (behind : ∀ char ∈ fraction, char.isDigit = true) :
    decimalValue (whole ++ '.' :: fraction) =
      some (Nat.ofDigitChars 10 (whole ++ fraction) 0 / 10 ^ fraction.length : ℚ) := by
  have taken : (whole ++ '.' :: fraction).takeWhile Char.isDigit = whole := by
    rw [List.takeWhile_append_of_pos front]
    simp
  have rest : (whole ++ '.' :: fraction).dropWhile Char.isDigit = '.' :: fraction := by
    rw [List.dropWhile_append_of_pos front]
    simp
  have same : fraction.takeWhile Char.isDigit = fraction := List.takeWhile_eq_self_iff.mpr behind
  have nothing : fraction.dropWhile Char.isDigit = [] := List.dropWhile_eq_nil_iff.mpr behind
  have value : digitsValue (whole ++ fraction) =
      some (Nat.ofDigitChars 10 (whole ++ fraction) 0) := by
    refine if_pos ⟨by simp [nonempty], List.all_eq_true.mpr fun char member => ?_⟩
    rcases List.mem_append.mp member with digit | digit
    · exact front char digit
    · exact behind char digit
  unfold decimalValue
  rw [taken, rest]
  simp only [same, nothing, value, exponentValue]
  rw [zero_sub, zpow_neg, zpow_natCast, div_eq_mul_inv]

def isNumberChar (char : Char) : Bool := char.isDigit || char = '-' || char = '.'

def unsignedText (value : ℚ) : List Char :=
  if value.den = 1 then Nat.toDigits 10 value.num.natAbs
  else
    let digits := Number.fractionDigits value
    let scaled := value.num.natAbs * 10 ^ digits / value.den
    let fraction := Nat.toDigits 10 (scaled % 10 ^ digits)
    Nat.toDigits 10 (scaled / 10 ^ digits) ++
      '.' :: (List.replicate (digits - fraction.length) '0' ++ fraction)

theorem toList_toText (value : ℚ) : (Number.finite value).toText.toList =
    if value < 0 then '-' :: unsignedText value else unsignedText value := by
  by_cases whole : value.den = 1
  · simp only [Number.toText, unsignedText, whole, ↓reduceIte]
    -- A whole number is written as its numerator.
    have sign : value < 0 ↔ value.num < 0 := Rat.num_neg.symm
    simp only [sign]
    cases value.num with
    | ofNat size =>
      have positive : ¬ Int.ofNat size < 0 := by simp
      rw [if_neg positive]
      show (toString size).toList = Nat.toDigits 10 size
      simp
    | negSucc size =>
      rw [if_pos (Int.negSucc_lt_zero size)]
      show ("-" ++ toString (size + 1)).toList = '-' :: Nat.toDigits 10 (size + 1)
      simp
  · have length (number : Nat) : (toString number).length = (Nat.toDigits 10 number).length := by
      rw [← String.length_toList]
      simp
    simp only [Number.toText, unsignedText, whole, ↓reduceIte, String.toList_append, length]
    split <;> simp

theorem decimalValue_unsignedText (double : value.den = 2 ^ size) :
    decimalValue (unsignedText value) = some |value| := by
  have digit (number : Nat) (char : Char) (member : char ∈ Nat.toDigits 10 number) :
      char.isDigit = true := Nat.isDigit_of_mem_toDigits (by omega) (by omega) member
  have absolute : |value| = value.num.natAbs / value.den := by
    rw [Nat.cast_natAbs, Int.cast_abs, ← Nat.abs_cast value.den, ← abs_div, Rat.num_div_den]
  unfold unsignedText
  split
  · rename_i whole
    rw [decimalValue_of_digits Nat.toDigits_ne_nil (digit _), Nat.ofDigitChars_ten_toDigits,
      absolute, whole]
    simp
  · rename_i broken
    have divides := fractionDigits_spec double
    generalize Number.fractionDigits value = digits at divides ⊢
    have positive : 0 < digits := by
      by_contra empty
      obtain rfl : digits = 0 := by omega
      exact broken (Nat.dvd_one.mp (by simpa using divides))
    have exact : value.num.natAbs * 10 ^ digits / value.den * value.den =
        value.num.natAbs * 10 ^ digits := Nat.div_mul_cancel (divides.mul_left _)
    dsimp only
    generalize value.num.natAbs * 10 ^ digits / value.den = scaled at exact ⊢
    have short : (Nat.toDigits 10 (scaled % 10 ^ digits)).length ≤ digits :=
      (Nat.length_toDigits_le_iff (by omega) positive).mpr
        (Nat.mod_lt _ (Nat.pow_pos (by omega)))
    generalize padding : List.replicate
      (digits - (Nat.toDigits 10 (scaled % 10 ^ digits)).length) '0' = zeros
    have length : (zeros ++ Nat.toDigits 10 (scaled % 10 ^ digits)).length = digits := by
      rw [← padding, List.length_append, List.length_replicate]
      omega
    rw [decimalValue_of_point Nat.toDigits_ne_nil (digit _)]
    · have read : Nat.ofDigitChars 10 (Nat.toDigits 10 (scaled / 10 ^ digits) ++
          (zeros ++ Nat.toDigits 10 (scaled % 10 ^ digits))) 0 = scaled := by
        rw [Nat.ofDigitChars_append, Nat.ofDigitChars_ten_toDigits,
          Nat.ofDigitChars_eq_ofDigitChars_zero, length, Nat.ofDigitChars_append, ← padding,
          Nat.ofDigitChars_replicate_zero, mul_zero, Nat.ofDigitChars_ten_toDigits]
        exact Nat.div_add_mod _ _
      have cast : (scaled : ℚ) * value.den = value.num.natAbs * 10 ^ digits := by
        exact_mod_cast exact
      have den : (value.den : ℚ) ≠ 0 := by exact_mod_cast value.den_nz
      rw [read, length, absolute, Option.some_inj, div_eq_div_iff (pow_ne_zero _ (by norm_num)) den]
      exact cast
    · intro char member
      rcases List.mem_append.mp member with zero | other
      · rw [← padding] at zero
        rw [List.eq_of_mem_replicate zero]
        decide
      · exact digit _ char other

theorem digit_or_point_of_mem {char : Char} (member : char ∈ unsignedText value) :
    char.isDigit = true ∨ char = '.' := by
  have digit {number : Nat} (listed : char ∈ Nat.toDigits 10 number) : char.isDigit = true :=
    Nat.isDigit_of_mem_toDigits (by omega) (by omega) listed
  unfold unsignedText at member
  split at member
  · exact .inl (digit member)
  · simp only [List.mem_append, List.mem_cons] at member
    rcases member with whole | point | zero | fraction
    · exact .inl (digit whole)
    · exact .inr point
    · exact .inl (List.eq_of_mem_replicate zero ▸ by decide)
    · exact .inl (digit fraction)

theorem isNumberChar_of_mem {char : Char}
    (member : char ∈ (Number.finite value).toText.toList) : isNumberChar char = true := by
  have unsigned (listed : char ∈ unsignedText value) : isNumberChar char = true := by
    rcases digit_or_point_of_mem listed with digit | rfl
    · simp [isNumberChar, digit]
    · decide
  rw [toList_toText] at member
  split at member
  · rcases List.mem_cons.mp member with rfl | listed
    · decide
    · exact unsigned listed
  · exact unsigned member

theorem toText_ne_nil (value : ℚ) : (Number.finite value).toText.toList ≠ [] := by
  rw [toList_toText]
  split
  · exact List.cons_ne_nil _ _
  · unfold unsignedText
    split
    · exact Nat.toDigits_ne_nil
    · exact List.append_ne_nil_of_right_ne_nil _ (List.cons_ne_nil _ _)

theorem toText_inj {other : ℚ} {more : Nat} (double : value.den = 2 ^ size)
    (second : other.den = 2 ^ more)
    (same : (Number.finite value).toText = (Number.finite other).toText) : value = other := by
  have texts := congrArg String.toList same
  rw [toList_toText, toList_toText] at texts
  have unsigned {number : ℚ} : '-' ∉ unsignedText number := by
    intro member
    rcases digit_or_point_of_mem member with digit | point
    · exact absurd digit (by decide)
    · exact absurd point (by decide)
  have size (equal : unsignedText value = unsignedText other) : |value| = |other| := by
    have read := decimalValue_unsignedText double
    rw [equal, decimalValue_unsignedText second] at read
    exact (Option.some.inj read).symm
  -- The sign tells on which side of zero a number is.
  by_cases negative : value < 0
  · by_cases below : other < 0
    · rw [if_pos negative, if_pos below] at texts
      have equal := size (List.cons.inj texts).2
      rw [abs_of_neg negative, abs_of_neg below] at equal
      exact neg_inj.mp equal
    · rw [if_pos negative, if_neg below] at texts
      exact absurd (texts ▸ List.mem_cons_self) unsigned
  · by_cases below : other < 0
    · rw [if_neg negative, if_pos below] at texts
      exact absurd (texts ▸ List.mem_cons_self) unsigned
    · rw [if_neg negative, if_neg below] at texts
      have equal := size texts
      rwa [abs_of_nonneg (not_lt.mp negative), abs_of_nonneg (not_lt.mp below)] at equal

def controlOf : Char → Char
  | 'b' => Char.ofNat 0x8
  | 't' => Char.ofNat 0x9
  | 'n' => Char.ofNat 0xA
  | 'f' => Char.ofNat 0xC
  | 'r' => Char.ofNat 0xD
  | other => other

def readEscaped : List Char → Option (Char × List Char)
  | '\\' :: 'u' :: _ :: _ :: high :: low :: rest =>
    (digitValue high).bind fun first =>
      (digitValue low).map fun second => (Char.ofNat (16 * first + second), rest)
  | '\\' :: mark :: rest => some (controlOf mark, rest)
  | char :: rest => some (char, rest)
  | [] => none

theorem readEscaped_escapedChar (char : Char) (rest : List Char) :
    readEscaped (escapedChar char ++ rest) = some (char, rest) := by
  have code : char = Char.ofNat char.toNat := (Char.ofNat_toNat char).symm
  unfold escapedChar
  split
  any_goals
    rename_i number
    rw [number] at code
    subst code
    rfl
  split
  · rename_i control
    -- A control character is written by two digits.
    have digits : ∀ value : Fin 32, digitValue (hexDigitOf (value / 16)) = some (value / 16 : Nat) ∧
        digitValue (hexDigitOf (value % 16)) = some (value % 16 : Nat) := by decide
    obtain ⟨high, low⟩ := digits ⟨char.toNat, control⟩
    dsimp only at high low
    simp only [List.cons_append, List.nil_append, readEscaped, high, low, Option.bind_some,
      Option.map_some, Nat.div_add_mod]
    rw [← code]
  · have plain : char ≠ '\\' := by
      rintro rfl
      contradiction
    rw [List.singleton_append]
    unfold readEscaped
    split
    · simp_all
    · simp_all
    · simp_all
    · simp_all

theorem escapedChar_ne_quote (char : Char) (rest behind : List Char) :
    escapedChar char ++ rest ≠ '"' :: behind := by
  intro same
  have read := readEscaped_escapedChar char rest
  rw [same] at read
  -- Only the quote could be read here, and it is written with a backslash.
  obtain ⟨rfl, rfl⟩ := Prod.mk.inj (Option.some.inj read)
  exact absurd (List.cons.inj same).1 (by decide)

theorem flatMap_escapedChar_inj {chars others rest behind : List Char}
    (same : chars.flatMap escapedChar ++ '"' :: rest =
      others.flatMap escapedChar ++ '"' :: behind) : chars = others ∧ rest = behind := by
  induction chars generalizing others with
  | nil =>
    cases others with
    | nil => exact ⟨rfl, (List.cons.inj same).2⟩
    | cons other more =>
      rw [List.flatMap_cons, List.append_assoc] at same
      exact absurd same.symm (escapedChar_ne_quote other _ rest)
  | cons char chars ih =>
    rw [List.flatMap_cons, List.append_assoc] at same
    cases others with
    | nil => exact absurd same (escapedChar_ne_quote char _ behind)
    | cons other more =>
      rw [List.flatMap_cons, List.append_assoc] at same
      have read := congrArg readEscaped same
      rw [readEscaped_escapedChar, readEscaped_escapedChar] at read
      obtain ⟨rfl, later⟩ := Prod.mk.inj (Option.some.inj read)
      obtain ⟨rfl, after⟩ := ih later
      exact ⟨rfl, after⟩

theorem toList_quotedText (text : String) (rest : List Char) :
    (quotedText text).toList ++ rest = '"' :: (text.toList.flatMap escapedChar ++ '"' :: rest) := by
  simp [quotedText]

theorem quotedText_inj {text other : String} {rest behind : List Char}
    (same : (quotedText text).toList ++ rest = (quotedText other).toList ++ behind) :
    text = other ∧ rest = behind := by
  rw [toList_quotedText, toList_quotedText] at same
  obtain ⟨chars, after⟩ := flatMap_escapedChar_inj (List.cons.inj same).2
  exact ⟨String.toList_inj.mp chars, after⟩

mutual

/-- A value that JSON texts are read as: its numbers are doubles, and its objects have each name
once. -/
def IsJson : Value → Prop
  | .null | .bool _ | .str _ => True
  | .num (.finite value) => ∃ size, value.den = 2 ^ size
  | .num _ | .undefined | .date _ => False
  | .arr items => AreJson items
  | .obj fields => (fields.map Prod.fst).Nodup ∧ FieldsAreJson fields

def AreJson : List Value → Prop
  | [] => True
  | item :: rest => IsJson item ∧ AreJson rest

def FieldsAreJson : List (String × Value) → Prop
  | [] => True
  | (_, value) :: rest => IsJson value ∧ FieldsAreJson rest

end

section

variable (isoText : Int → String)

def fieldChars (field : String × Value) : List Char :=
  (quotedText field.1).toList ++ ':' :: (stringify isoText field.2).toList

def afterItem (close : Char) (rest : List Char) : List (List Char) → List Char
  | [] => close :: rest
  | text :: texts => ',' :: (text ++ afterItem close rest texts)

def itemsThenClose (close : Char) (rest : List Char) : List (List Char) → List Char
  | [] => close :: rest
  | text :: texts => text ++ afterItem close rest texts

theorem toList_intercalate_append (close : Char) (rest : List Char) (texts : List String) :
    (String.intercalate "," texts).toList ++ close :: rest =
      itemsThenClose close rest (texts.map String.toList) := by
  cases texts with
  | nil => rfl
  | cons text texts =>
    induction texts generalizing text with
    | nil => simp [itemsThenClose, afterItem]
    | cons second texts ih =>
      have later := ih second
      simp only [String.intercalate_cons_cons, String.toList_append, List.append_assoc, later]
      simp [itemsThenClose, afterItem]

theorem stringifyItems_eq_map {items : List Value} (json : AreJson items) :
    stringifyItems isoText items = items.map (stringify isoText) := by
  induction items with
  | nil => rfl
  | cons item rest ih =>
    obtain ⟨first, later⟩ := json
    have there : item ≠ .undefined := by
      rintro rfl
      exact first
    rw [stringifyItems, if_neg there, ih later, List.map_cons]

theorem stringifyFields_eq_map {fields : List (String × Value)}
    (json : FieldsAreJson fields) :
    (stringifyFields isoText fields).map String.toList = fields.map (fieldChars isoText) := by
  induction fields with
  | nil => rfl
  | cons field rest ih =>
    obtain ⟨key, value⟩ := field
    obtain ⟨first, later⟩ := json
    have there : value ≠ .undefined := by
      rintro rfl
      exact first
    rw [stringifyFields, if_neg there, List.map_cons, ih later, List.map_cons]
    simp [fieldChars]

def form : Value → Nat
  | .undefined => 0
  | .null => 1
  | .bool _ => 2
  | .num _ => 3
  | .str _ => 4
  | .arr _ => 5
  | .obj _ => 6
  | .date _ => 7

def formOf (char : Char) : Nat :=
  if char = 'n' then 1
  else if char = 't' ∨ char = 'f' then 2
  else if isNumberChar char then 3
  else if char = '"' then 4
  else if char = '[' then 5
  else if char = '\x7b' then 6
  else 0

variable {value : Value}

theorem formOf_stringify (json : IsJson value) :
    ∃ char rest, (stringify isoText value).toList = char :: rest ∧ formOf char = form value := by
  match value with
  | .null => exact ⟨'n', ['u', 'l', 'l'], by simp [stringify], rfl⟩
  | .bool true => exact ⟨'t', ['r', 'u', 'e'], by simp [stringify], rfl⟩
  | .bool false => exact ⟨'f', ['a', 'l', 's', 'e'], by simp [stringify], rfl⟩
  | .str text =>
    have quoted := toList_quotedText text []
    rw [List.append_nil] at quoted
    exact ⟨'"', _, quoted, rfl⟩
  | .arr items =>
    have text : (stringify isoText (.arr items)).toList = '[' ::
        ((String.intercalate "," (stringifyItems isoText items)).toList ++ [']']) := by
      simp only [stringify, String.toList_append, List.append_assoc]
      rfl
    exact ⟨'[', _, text, rfl⟩
  | .obj fields =>
    have text : (stringify isoText (.obj fields)).toList = '\x7b' ::
        ((String.intercalate "," (stringifyFields isoText fields)).toList ++ ['\x7d']) := by
      simp only [stringify, String.toList_append, List.append_assoc]
      rfl
    exact ⟨'\x7b', _, text, rfl⟩
  | .num (.finite number) =>
    cases text : (Number.finite number).toText.toList with
    | nil => exact absurd text (toText_ne_nil number)
    | cons char rest =>
      refine ⟨char, rest, text, ?_⟩
      have digit : isNumberChar char = true := isNumberChar_of_mem (text ▸ List.mem_cons_self)
      have letter : char ≠ 'n' ∧ char ≠ 't' ∧ char ≠ 'f' := by
        refine ⟨?_, ?_, ?_⟩ <;> rintro rfl <;> exact absurd digit (by decide)
      simp [formOf, form, letter, digit]

/-- A text ends here: nothing follows it, or what stands behind a value. -/
def Ends : List Char → Prop
  | [] => True
  | char :: _ => isNumberChar char = false

theorem toText_append_inj {value other : ℚ} {size more : Nat}
    (double : value.den = 2 ^ size) (second : other.den = 2 ^ more) {rest behind : List Char}
    (ends : Ends rest) (after : Ends behind) (same : (Number.finite value).toText.toList ++ rest =
      (Number.finite other).toText.toList ++ behind) : value = other ∧ rest = behind := by
  have taken (number : ℚ) {tail : List Char} (ends : Ends tail) :
      ((Number.finite number).toText.toList ++ tail).takeWhile isNumberChar =
        (Number.finite number).toText.toList := by
    rw [List.takeWhile_append_of_pos fun char member => isNumberChar_of_mem member]
    cases tail with
    | nil => simp
    | cons char tail =>
      have stops : isNumberChar char = false := ends
      simp [stops]
  have texts : (Number.finite value).toText.toList = (Number.finite other).toText.toList := by
    rw [← taken value ends, same, taken other after]
  refine ⟨toText_inj double second (String.toList_inj.mp texts), ?_⟩
  rw [texts] at same
  exact List.append_cancel_left same

theorem ends_afterItem (close : Char) (rest : List Char) (texts : List (List Char))
    (stops : isNumberChar close = false) : Ends (afterItem close rest texts) := by
  cases texts with
  | nil => exact stops
  | cons text texts => exact (by decide : isNumberChar ',' = false)

theorem itemsThenClose_of_afterItem {close : Char} {rest behind : List Char}
    {texts others : List (List Char)} (apart : close ≠ ',')
    (same : afterItem close rest texts = afterItem close behind others) :
    itemsThenClose close rest texts = itemsThenClose close behind others := by
  cases texts with
  | nil =>
    cases others with
    | nil => exact same
    | cons other more => exact absurd (List.cons.inj same).1 apart
  | cons text texts =>
    cases others with
    | nil => exact absurd (List.cons.inj same).1.symm apart
    | cons other more => exact (List.cons.inj same).2

theorem stringify_append_ne_close (json : IsJson value) (tail rest : List Char) :
    (stringify isoText value).toList ++ tail ≠ ']' :: rest := by
  intro same
  obtain ⟨char, more, begins, tells⟩ := formOf_stringify isoText json
  rw [begins, List.cons_append] at same
  rw [(List.cons.inj same).1] at tells
  -- The end of a list is of no form.
  have nothing : form value = 0 := tells ▸ by decide
  cases value with
  | undefined => exact json
  | _ => cases nothing

mutual

theorem stringify_append_inj : ∀ {value other : Value}, IsJson value → IsJson other →
    ∀ {rest behind : List Char}, Ends rest → Ends behind →
      (stringify isoText value).toList ++ rest = (stringify isoText other).toList ++ behind →
        value = other ∧ rest = behind
  | value, other, json, second, rest, behind, ends, after, same => by
    have forms : form value = form other := by
      obtain ⟨char, more, begins, tells⟩ := formOf_stringify isoText json
      obtain ⟨char', more', begins', tells'⟩ := formOf_stringify isoText second
      rw [begins, begins', List.cons_append, List.cons_append] at same
      rw [← tells, ← tells', (List.cons.inj same).1]
    match value, other, forms with
    | .null, .null, _ => exact ⟨rfl, List.append_cancel_left same⟩
    | .bool flag, .bool flag', _ =>
      cases flag <;> cases flag' <;> simp_all [stringify]
    | .num (.finite number), .num (.finite number'), _ =>
      obtain ⟨size, double⟩ := json
      obtain ⟨more, double'⟩ := second
      obtain ⟨rfl, rest⟩ := toText_append_inj double double' ends after same
      exact ⟨rfl, rest⟩
    | .str text, .str text', _ =>
      obtain ⟨rfl, rest⟩ := quotedText_inj same
      exact ⟨rfl, rest⟩
    | .arr items, .arr items', _ =>
      have listed (items : List Value) (json : AreJson items) (rest : List Char) :
          (stringify isoText (.arr items)).toList ++ rest = '[' ::
            itemsThenClose ']' rest (items.map fun item => (stringify isoText item).toList) := by
        have texts := toList_intercalate_append ']' rest (stringifyItems isoText items)
        rw [stringifyItems_eq_map isoText json, List.map_map] at texts
        rw [stringify, stringifyItems_eq_map isoText json]
        simp only [String.toList_append, List.append_assoc]
        exact congrArg ('[' :: ·) texts
      rw [listed items json, listed items' second] at same
      obtain ⟨rfl, rest⟩ := itemsThenClose_inj json second (List.cons.inj same).2
      exact ⟨rfl, rest⟩
    | .obj fields, .obj fields', _ =>
      have listed (fields : List (String × Value)) (json : FieldsAreJson fields)
          (rest : List Char) : (stringify isoText (.obj fields)).toList ++ rest = '\x7b' ::
            itemsThenClose '\x7d' rest (fields.map (fieldChars isoText)) := by
        have texts := toList_intercalate_append '\x7d' rest (stringifyFields isoText fields)
        rw [stringifyFields_eq_map isoText json] at texts
        rw [stringify]
        simp only [String.toList_append, List.append_assoc]
        exact congrArg ('\x7b' :: ·) texts
      rw [listed fields json.2, listed fields' second.2] at same
      obtain ⟨rfl, rest⟩ := fieldsThenClose_inj json.2 second.2 (List.cons.inj same).2
      exact ⟨rfl, rest⟩

theorem itemsThenClose_inj : ∀ {items others : List Value}, AreJson items → AreJson others →
    ∀ {rest behind : List Char},
      itemsThenClose ']' rest (items.map fun item => (stringify isoText item).toList) =
        itemsThenClose ']' behind (others.map fun item => (stringify isoText item).toList) →
      items = others ∧ rest = behind
  | [], [], _, _, rest, behind, same => ⟨rfl, (List.cons.inj same).2⟩
  | [], other :: more, _, second, rest, behind, same =>
    absurd same.symm (stringify_append_ne_close isoText second.1 _ rest)
  | item :: items, [], json, _, rest, behind, same =>
    absurd same (stringify_append_ne_close isoText json.1 _ behind)
  | item :: items, other :: others, json, second, rest, behind, same => by
    have stops : isNumberChar ']' = false := by decide
    obtain ⟨rfl, later⟩ := stringify_append_inj json.1 second.1 (ends_afterItem _ _ _ stops)
      (ends_afterItem _ _ _ stops) same
    obtain ⟨rfl, after⟩ := itemsThenClose_inj json.2 second.2
      (itemsThenClose_of_afterItem (by decide) later)
    exact ⟨rfl, after⟩

theorem fieldsThenClose_inj :
    ∀ {fields others : List (String × Value)}, FieldsAreJson fields →
    FieldsAreJson others → ∀ {rest behind : List Char},
      itemsThenClose '\x7d' rest (fields.map (fieldChars isoText)) =
        itemsThenClose '\x7d' behind (others.map (fieldChars isoText)) →
      fields = others ∧ rest = behind
  | [], [], _, _, rest, behind, same => ⟨rfl, (List.cons.inj same).2⟩
  | [], other :: more, _, _, rest, behind, same => by
    simp only [List.map_cons, itemsThenClose, fieldChars, toList_quotedText] at same
    exact absurd (List.cons.inj same).1 (by decide)
  | field :: fields, [], _, _, rest, behind, same => by
    simp only [List.map_cons, itemsThenClose, fieldChars, toList_quotedText] at same
    exact absurd (List.cons.inj same).1 (by decide)
  | (key, value) :: fields, (key', value') :: others, json, second, rest, behind, same => by
    have stops : isNumberChar '\x7d' = false := by decide
    simp only [List.map_cons, itemsThenClose, fieldChars, List.append_assoc] at same
    obtain ⟨rfl, colon⟩ := quotedText_inj same
    obtain ⟨rfl, later⟩ := stringify_append_inj json.1 second.1 (ends_afterItem _ _ _ stops)
      (ends_afterItem _ _ _ stops) (List.cons.inj colon).2
    obtain ⟨rfl, after⟩ := fieldsThenClose_inj json.2 second.2
      (itemsThenClose_of_afterItem (by decide) later)
    exact ⟨rfl, after⟩

end

theorem stringify_inj {other : Value} (json : IsJson value) (second : IsJson other)
    (same : stringify isoText value = stringify isoText other) : value = other :=
  (@stringify_append_inj isoText value other json second [] [] trivial trivial
    (by rw [same])).1

end

end Js
