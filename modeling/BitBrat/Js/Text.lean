import Mathlib.Algebra.GroupWithZero.Nat
import Mathlib.Data.List.Basic

/-! Texts as the code units that their lengths count. -/

namespace Js

/-- The code units of a text, of which a character takes one or two. -/
abbrev CodeUnits := List UInt16

def unitsOfChar (char : Char) : CodeUnits :=
  let code := char.toNat
  if code < 0x10000 then [code.toUInt16]
  else
    let offset := code - 0x10000
    [(0xD800 + offset / 0x400).toUInt16, (0xDC00 + offset % 0x400).toUInt16]

def codeUnits (text : String) : CodeUnits := text.toList.flatMap unitsOfChar

def lineFeed : UInt16 := 0xA

def joinUnits (separator : String) (parts : List CodeUnits) : CodeUnits :=
  (codeUnits separator).intercalate parts

def isBlankUnit (unit : UInt16) : Bool :=
  unit ∈ ([0x9, 0xA, 0xB, 0xC, 0xD, 0x20, 0xA0, 0x1680, 0x2028, 0x2029, 0x202F, 0x205F, 0x3000,
    0xFEFF] : List UInt16) || (0x2000 ≤ unit && unit ≤ 0x200A)

def trimUnits (text : CodeUnits) : CodeUnits :=
  ((text.dropWhile isBlankUnit).reverse.dropWhile isBlankUnit).reverse

theorem joinUnits_cons_cons (separator : String) (first second : CodeUnits)
    (rest : List CodeUnits) :
    joinUnits separator (first :: second :: rest) =
      first ++ codeUnits separator ++ joinUnits separator (second :: rest) := by
  simp [joinUnits, List.intercalate, List.intersperse]

@[simp] theorem joinUnits_singleton (separator : String) (part : CodeUnits) :
    joinUnits separator [part] = part := by
  simp [joinUnits, List.intercalate, List.intersperse]

theorem length_joinUnits (separator : String) (first : CodeUnits) (rest : List CodeUnits) :
    (joinUnits separator (first :: rest)).length =
      first.length + (rest.map fun part => (codeUnits separator).length + part.length).sum := by
  induction rest generalizing first with
  | nil => simp
  | cons second rest ih =>
    rw [joinUnits_cons_cons, List.length_append, List.length_append, ih, List.map_cons,
      List.sum_cons]
    omega

/-! Texts of numbers, padding and trimming. -/

def padStart (width : Nat) (text : String) : String :=
  String.ofList (List.replicate (width - text.toList.length) '0' ++ text.toList)

def trimText (text : String) : String :=
  let led := text.toList.dropWhile Char.isWhitespace
  String.ofList (led.reverse.dropWhile Char.isWhitespace).reverse

def isBlank (char : Char) : Bool :=
  char.val ∈ [0x9, 0xA, 0xB, 0xC, 0xD, 0x20, 0xA0, 0x1680, 0x2028, 0x2029, 0x202F, 0x205F,
    0x3000, 0xFEFF] || (0x2000 ≤ char.val && char.val ≤ 0x200A)

/-- A letter within a line, which a dot of a pattern stands for. -/
def isInline (letter : Char) : Bool :=
  letter ≠ '\n' && letter ≠ '\r' && letter ≠ '\u2028' && letter ≠ '\u2029'

def trimBlanks (chars : List Char) : List Char :=
  ((chars.dropWhile isBlank).reverse.dropWhile isBlank).reverse

theorem trimBlanks_of_dark {chars : List Char} (dark : ∀ char ∈ chars, isBlank char = false) :
    trimBlanks chars = chars := by
  have kept (part : List Char) (all : ∀ char ∈ part, isBlank char = false) :
      part.dropWhile isBlank = part := by
    cases part with
    | nil => rfl
    | cons first rest => simp [all first List.mem_cons_self]
  rw [trimBlanks, kept chars dark,
    kept chars.reverse fun char member => dark char (List.mem_reverse.mp member),
    List.reverse_reverse]

theorem toString_nat_injective : Function.Injective (toString : Nat → String) := by
  intro first second same
  have digits : Nat.toDigits 10 first = Nat.toDigits 10 second := by
    have texts := congrArg String.toList same
    simpa using texts
  -- Reading the digits back gives the number.
  rw [← Nat.ofDigitChars_ten_toDigits (n := first), digits, Nat.ofDigitChars_ten_toDigits]

theorem ofDigitChars_zeros (count : Nat) (digits : List Char) :
    Nat.ofDigitChars 10 (List.replicate count '0' ++ digits) 0 = Nat.ofDigitChars 10 digits 0 := by
  induction count with
  | zero => rfl
  | succ count ih =>
    rw [List.replicate_succ, List.cons_append, ← ih]
    rfl

theorem ofDigitChars_padStart (width number : Nat) :
    Nat.ofDigitChars 10 (padStart width (toString number)).toList 0 = number := by
  simp [padStart, ofDigitChars_zeros]

theorem isDigit_of_mem_toString {number : Nat} {char : Char}
    (member : char ∈ (toString number).toList) : char.isDigit = true := by
  have listed : char ∈ Nat.toDigits 10 number := by simpa using member
  exact Nat.isDigit_of_mem_toDigits (by omega) (by omega) listed

theorem not_mem_toString {char : Char} (other : char.isDigit = false) (number : Nat) :
    char ∉ (toString number).toList := by
  intro member
  rw [isDigit_of_mem_toString member] at other
  cases other

theorem isDigit_of_mem_padStart {width number : Nat} {char : Char}
    (member : char ∈ (padStart width (toString number)).toList) : char.isDigit := by
  simp only [padStart, String.toList_ofList, List.mem_append] at member
  rcases member with zero | digit
  · rw [(List.mem_replicate.mp zero).2]
    rfl
  · exact isDigit_of_mem_toString digit

theorem run_unique {keep : Char → Bool} {first second left right : List Char} {stop : Char}
    (firstKept : ∀ char ∈ first, keep char) (secondKept : ∀ char ∈ second, keep char)
    (stops : keep stop = false)
    (same : first ++ stop :: left = second ++ stop :: right) : first = second := by
  -- Each run is what a scan takes before it meets the other character.
  have scan (run rest : List Char) (kept : ∀ char ∈ run, keep char) :
      (run ++ stop :: rest).takeWhile keep = run := by
    rw [List.takeWhile_append_of_pos kept, List.takeWhile_cons_of_neg (by simp [stops]),
      List.append_nil]
  rw [← scan first left firstKept, same, scan second right secondKept]

theorem append_stop_inj {keep : Char → Bool} {first second left right : List Char} {stop : Char}
    (leftKept : ∀ char ∈ left, keep char) (rightKept : ∀ char ∈ right, keep char)
    (stops : keep stop = false)
    (same : first ++ stop :: left = second ++ stop :: right) : first = second ∧ left = right := by
  -- Read backwards, the last stop is the first one that is met.
  have backwards := congrArg List.reverse same
  simp only [List.reverse_append, List.reverse_cons, List.append_assoc, List.singleton_append]
    at backwards
  have runs : left.reverse = right.reverse :=
    run_unique (by simpa using leftKept) (by simpa using rightKept) stops backwards
  have rest : left = right := List.reverse_injective runs
  subst rest
  exact ⟨List.append_cancel_right same, rfl⟩

/-- Texts joined by a colon are the same only part by part, or where a part has a colon itself. -/
theorem colon_join_cases {first second left right : String}
    (same : first ++ ":" ++ left = second ++ ":" ++ right) :
    (first = second ∧ left = right) ∨
      (∃ middle, second = first ++ ":" ++ middle ∧ left = middle ++ ":" ++ right) ∨
      ∃ middle, first = second ++ ":" ++ middle ∧ right = middle ++ ":" ++ left := by
  have chars : first.toList ++ ':' :: left.toList = second.toList ++ ':' :: right.toList := by
    simpa using congrArg String.toList same
  -- One of the first parts is the beginning of the other, and what follows it starts with a colon.
  rcases List.append_eq_append_iff.mp chars with ⟨gap, longer, rest⟩ | ⟨gap, longer, rest⟩
  · cases gap with
    | nil =>
      simp only [List.append_nil, List.nil_append, List.cons.injEq, true_and] at longer rest
      exact .inl ⟨String.toList_injective longer.symm, String.toList_injective rest⟩
    | cons char middle =>
      simp only [List.cons_append, List.cons.injEq] at rest
      refine .inr (.inl ⟨String.ofList middle, ?_, ?_⟩)
      · apply String.toList_injective
        simp [longer, ← rest.1]
      · apply String.toList_injective
        simp [rest.2]
  · cases gap with
    | nil =>
      simp only [List.append_nil, List.nil_append, List.cons.injEq, true_and] at longer rest
      exact .inl ⟨String.toList_injective longer, String.toList_injective rest.symm⟩
    | cons char middle =>
      simp only [List.cons_append, List.cons.injEq] at rest
      refine .inr (.inr ⟨String.ofList middle, ?_, ?_⟩)
      · apply String.toList_injective
        simp [longer, ← rest.1]
      · apply String.toList_injective
        simp [rest.2]

theorem splitOn_intercalate_segments (separator : Char) {segments : List (List Char)}
    (nonempty : segments ≠ []) :
    ([separator].intercalate segments).splitOn separator =
      segments.flatMap (List.splitOn separator) := by
  -- Every separator between two segments ends a field, whatever the segments hold.
  induction segments with
  | nil => exact absurd rfl nonempty
  | cons segment rest ih =>
    cases rest with
    | nil => simp [List.intercalate]
    | cons next rest =>
      have tail := ih (List.cons_ne_nil next rest)
      have joined : [separator].intercalate (segment :: next :: rest) =
          segment ++ separator :: [separator].intercalate (next :: rest) := by
        simp [List.intercalate, List.intersperse]
      rw [joined, List.flatMap_cons, ← tail]
      exact List.splitOnP_append_cons segment _ (by simp)

theorem of_mem_splitOnP {α : Type} {separates : α → Bool} {list piece : List α}
    (member : piece ∈ list.splitOnP separates) {item : α} (inside : item ∈ piece) :
    item ∈ list ∧ separates item = false := by
  induction list generalizing piece with
  | nil =>
    simp only [List.splitOnP_nil, List.mem_singleton] at member
    simp [member] at inside
  | cons first rest ih =>
    rw [List.splitOnP_cons_eq_if_modifyHead] at member
    have further {piece : List α} (later : piece ∈ rest.splitOnP separates)
        (inside : item ∈ piece) : item ∈ first :: rest ∧ separates item = false :=
      ⟨List.mem_cons_of_mem _ (ih later inside).1, (ih later inside).2⟩
    split at member
    case isTrue =>
      rcases List.mem_cons.mp member with empty | later
      · simp [empty] at inside
      · exact further later inside
    case isFalse here =>
      -- The first piece of the rest is the one that is made longer.
      obtain ⟨head, tail, split⟩ := List.exists_cons_of_ne_nil (List.splitOnP_ne_nil separates rest)
      rw [split, List.modifyHead_cons] at member
      rcases List.mem_cons.mp member with longer | later
      · rw [longer] at inside
        rcases List.mem_cons.mp inside with rfl | within
        · exact ⟨List.mem_cons_self, by simpa using here⟩
        · exact further (split ▸ List.mem_cons_self) within
      · exact further (split ▸ List.mem_cons_of_mem _ later) inside

theorem not_mem_of_mem_splitOn (separator : Char) {text segment : List Char}
    (member : segment ∈ text.splitOn separator) : separator ∉ segment :=
  fun inside => by simpa using (of_mem_splitOnP member inside).2

theorem splitOn_injective (separator : Char) : Function.Injective (List.splitOn separator) := by
  intro left right same
  have joined := congrArg ([separator].intercalate ·) same
  simpa only [List.intercalate_splitOn] using joined

theorem padded_injective {lead left right : String} {width first second : Nat}
    (same : lead ++ "-" ++ padStart width (toString first) ++ "-" ++ left =
      lead ++ "-" ++ padStart width (toString second) ++ "-" ++ right) : first = second := by
  have texts := congrArg String.toList same
  simp only [String.toList_append, List.append_assoc, List.append_cancel_left_eq] at texts
  have digits (number : Nat) : ∀ char ∈ (padStart width (toString number)).toList, char.isDigit :=
    fun _ member => isDigit_of_mem_padStart member
  have runs := run_unique (digits first) (digits second) (by decide) texts
  rw [← ofDigitChars_padStart width first, runs, ofDigitChars_padStart]

end Js
