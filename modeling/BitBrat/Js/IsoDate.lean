import BitBrat.Js.Text

/-! Points in time as texts: what is written reads back. -/

namespace Js

structure CivilDate where
  year : Int
  month : Nat
  day : Nat
  deriving DecidableEq

/-- The day of the calendar that is so many days after the first of January 1970. -/
def CivilDate.ofDays (days : Int) : CivilDate :=
  -- Years start in March here, so that a leap day comes last.
  let shifted := days + 719468
  let ofEra := (shifted % 146097).toNat
  -- The last century of an era, and the last year of four, are longer than the others.
  let century := min (ofEra / 36524) 3
  let ofCentury := ofEra - century * 36524
  let quad := ofCentury / 1461
  let ofQuad := ofCentury - quad * 1461
  let single := min (ofQuad / 365) 3
  let ofYear := ofQuad - single * 365
  let month := (5 * ofYear + 2) / 153
  { year := shifted / 146097 * 400 + (century * 100 + quad * 4 + single : Nat) +
      if month < 10 then 0 else 1
    month := if month < 10 then month + 3 else month - 9
    day := ofYear - (153 * month + 2) / 5 + 1 }

/-- The number of days that a day of the calendar is after the first of January 1970. -/
def CivilDate.toDays (date : CivilDate) : Int :=
  let year := if date.month ≤ 2 then date.year - 1 else date.year
  let ofEra := (year % 400).toNat
  let month := if date.month ≤ 2 then date.month + 9 else date.month - 3
  let ofYear := (153 * month + 2) / 5 + date.day - 1
  year / 400 * 146097 + (ofEra * 365 + ofEra / 4 - ofEra / 100 + ofYear : Nat) - 719468

private theorem CivilDate.toDays_ofDays (days : Int) : (CivilDate.ofDays days).toDays = days := by
  -- The days are taken apart into eras, centuries, four years, and years.
  obtain ⟨era, ofEra, bound, split⟩ : ∃ (era : Int) (ofEra : Nat), ofEra < 146097 ∧
      days + 719468 = era * 146097 + ofEra :=
    ⟨(days + 719468) / 146097, ((days + 719468) % 146097).toNat, by omega, by omega⟩
  have eraEq : (days + 719468) / 146097 = era := by omega
  have ofEraEq : ((days + 719468) % 146097).toNat = ofEra := by omega
  obtain ⟨century, centuryEq⟩ : ∃ century, min (ofEra / 36524) 3 = century := ⟨_, rfl⟩
  have ofCentury : century ≤ 3 ∧ century * 36524 ≤ ofEra ∧ ofEra - century * 36524 ≤ 36524 := by
    omega
  obtain ⟨rest, restEq⟩ : ∃ rest, ofEra - century * 36524 = rest := ⟨_, rfl⟩
  obtain ⟨quad, quadEq⟩ : ∃ quad, rest / 1461 = quad := ⟨_, rfl⟩
  have ofQuad : quad ≤ 24 ∧ quad * 1461 ≤ rest ∧ rest - quad * 1461 ≤ 1460 := by omega
  obtain ⟨left, leftEq⟩ : ∃ left, rest - quad * 1461 = left := ⟨_, rfl⟩
  obtain ⟨single, singleEq⟩ : ∃ single, min (left / 365) 3 = single := ⟨_, rfl⟩
  have ofYear : single ≤ 3 ∧ single * 365 ≤ left ∧ left - single * 365 ≤ 365 := by omega
  obtain ⟨dayOfYear, dayEq⟩ : ∃ dayOfYear, left - single * 365 = dayOfYear := ⟨_, rfl⟩
  obtain ⟨month, monthEq⟩ : ∃ month, (5 * dayOfYear + 2) / 153 = month := ⟨_, rfl⟩
  have ofMonth : month ≤ 11 ∧ (153 * month + 2) / 5 ≤ dayOfYear := by omega
  -- The year of the era is put together from its century, its four years and the single ones.
  obtain ⟨year, yearEq⟩ : ∃ year, century * 100 + quad * 4 + single = year := ⟨_, rfl⟩
  have parts : year < 400 ∧ year / 4 = century * 25 + quad ∧ year / 100 = century := by omega
  have wholeEra : (era * 400 + (year : Int)) / 400 = era := by omega
  have yearOfEra : ((era * 400 + (year : Int)) % 400).toNat = year := by omega
  have total : era * 146097 + (year * 365 + year / 4 - year / 100 +
      ((153 * month + 2) / 5 + (dayOfYear - (153 * month + 2) / 5 + 1) - 1) : Nat) - 719468 =
        days := by
    have inYear : (153 * month + 2) / 5 + (dayOfYear - (153 * month + 2) / 5 + 1) - 1 =
        dayOfYear := by
      omega
    -- The leap days are those of the four years, less those of the centuries.
    have inEra : century * 36524 + quad * 1461 + single * 365 + dayOfYear = ofEra := by omega
    have leaps : year * 365 + (century * 25 + quad) - century + dayOfYear = ofEra := by omega
    rw [parts.2.1, parts.2.2, inYear, leaps]
    omega
  simp only [CivilDate.ofDays, eraEq, ofEraEq, centuryEq, restEq, quadEq, leftEq, singleEq, dayEq,
    monthEq, CivilDate.toDays, yearEq]
  -- The months from January on belong to the year that starts in the March before.
  by_cases spring : month < 10
  · have late : ¬ month + 3 ≤ 2 := by omega
    simp only [if_pos spring, if_neg late, Int.add_zero, Nat.add_sub_cancel, wholeEra, yearOfEra]
    exact total
  · have early : month - 9 ≤ 2 := by omega
    have later : month - 9 + 9 = month := by omega
    simp only [if_neg spring, if_pos early, Int.add_sub_cancel, later, wholeEra, yearOfEra]
    exact total

theorem CivilDate.ofDays_le (days : Int) :
    (CivilDate.ofDays days).month ≤ 12 ∧ (CivilDate.ofDays days).day ≤ 31 := by
  -- The years, the fours of years and the centuries are taken off in turn.
  obtain ⟨ofEra, bound, ofEraEq⟩ : ∃ ofEra : Nat, ofEra < 146097 ∧
      ((days + 719468) % 146097).toNat = ofEra := ⟨_, by omega, rfl⟩
  obtain ⟨century, centuryEq⟩ : ∃ century, min (ofEra / 36524) 3 = century := ⟨_, rfl⟩
  obtain ⟨rest, restEq⟩ : ∃ rest, ofEra - century * 36524 = rest := ⟨_, rfl⟩
  have ofCentury : rest ≤ 36524 := by omega
  obtain ⟨left, leftEq⟩ : ∃ left, rest - rest / 1461 * 1461 = left := ⟨_, rfl⟩
  have ofQuad : left ≤ 1460 := by omega
  obtain ⟨dayOfYear, dayEq⟩ : ∃ dayOfYear, left - min (left / 365) 3 * 365 = dayOfYear := ⟨_, rfl⟩
  have ofYear : dayOfYear ≤ 365 := by omega
  simp only [CivilDate.ofDays, ofEraEq, centuryEq, restEq, leftEq, dayEq]
  constructor
  · split <;> omega
  · omega

/-- The text of a year: one with more digits than four, or before year zero, has a sign. -/
def yearText (year : Int) : String :=
  if 0 ≤ year ∧ year ≤ 9999 then padStart 4 (toString year.natAbs)
  else (if year < 0 then "-" else "+") ++ padStart 6 (toString year.natAbs)

/-- The text of a point in time, given in milliseconds since the epoch. -/
def toISOString (ms : Int) : String :=
  let date := CivilDate.ofDays (ms / 86400000)
  let ofDay := (ms % 86400000).toNat
  let two (number : Nat) := padStart 2 (toString number)
  yearText date.year ++ "-" ++ two date.month ++ "-" ++ two date.day ++ "T" ++
    two (ofDay / 3600000) ++ ":" ++ two (ofDay / 60000 % 60) ++ ":" ++ two (ofDay / 1000 % 60) ++
    "." ++ padStart 3 (toString (ofDay % 1000)) ++ "Z"

/-- Read whether there is a minus, and what follows the sign. -/
def readSign : List Char → Bool × List Char
  | [] => (false, [])
  | char :: rest =>
    if char = '-' then (true, rest)
    else if char = '+' then (false, rest)
    else (false, char :: rest)

def readNumber (stop : Char) (text : List Char) : Option (Nat × List Char) :=
  match text.dropWhile Char.isDigit with
  | char :: rest =>
    if char = stop then some (Nat.ofDigitChars 10 (text.takeWhile Char.isDigit) 0, rest) else none
  | [] => none

def ofISOString (text : String) : Option Int := do
  let (negative, rest) := readSign text.toList
  let (year, rest) ← readNumber '-' rest
  let (month, rest) ← readNumber '-' rest
  let (day, rest) ← readNumber 'T' rest
  let (hours, rest) ← readNumber ':' rest
  let (minutes, rest) ← readNumber ':' rest
  let (seconds, rest) ← readNumber '.' rest
  let (milliseconds, _) ← readNumber 'Z' rest
  let date : CivilDate := { year := if negative then -year else year, month, day }
  some (date.toDays * 86400000 +
    (hours * 3600000 + minutes * 60000 + seconds * 1000 + milliseconds : Nat))

theorem readNumber_padStart (width number : Nat) {stop : Char}
    (other : stop.isDigit = false) (rest : List Char) :
    readNumber stop ((padStart width (toString number)).toList ++ stop :: rest) =
      some (number, rest) := by
  have digits : ∀ char ∈ (padStart width (toString number)).toList, char.isDigit :=
    fun _ member => isDigit_of_mem_padStart member
  have stops : ¬ stop.isDigit = true := Bool.eq_false_iff.mp other
  rw [readNumber, List.dropWhile_append_of_pos digits, List.takeWhile_append_of_pos digits,
    List.dropWhile_cons_of_neg stops, List.takeWhile_cons_of_neg stops, List.append_nil,
    ofDigitChars_padStart]
  simp

theorem padStart_eq_cons (width number : Nat) :
    ∃ digit rest, digit.isDigit = true ∧
      (padStart width (toString number)).toList = digit :: rest := by
  cases digits : (padStart width (toString number)).toList with
  | nil =>
    -- Even zero has a digit.
    have shown : (toString number).toList ≠ [] := by simp
    simp [padStart] at digits
  | cons digit rest =>
    exact ⟨digit, rest, isDigit_of_mem_padStart (digits ▸ List.mem_cons_self), rfl⟩

theorem readSign_yearText (year : Int) (rest : List Char) :
    ∃ negative width, readSign ((yearText year).toList ++ rest) =
        (negative, (padStart width (toString year.natAbs)).toList ++ rest) ∧
      (if negative then -(year.natAbs : Int) else year.natAbs) = year := by
  unfold yearText
  split
  · -- A digit is no sign.
    rename_i range
    obtain ⟨digit, digits, isDigit, equation⟩ := padStart_eq_cons 4 year.natAbs
    have noMinus : digit ≠ '-' := fun same => by rw [same] at isDigit; cases isDigit
    have noPlus : digit ≠ '+' := fun same => by rw [same] at isDigit; cases isDigit
    refine ⟨false, 4, ?_, by rw [if_neg Bool.false_ne_true]; omega⟩
    rw [equation, List.cons_append, readSign, if_neg noMinus, if_neg noPlus]
  · rename_i range
    by_cases before : year < 0
    · refine ⟨true, 6, ?_, by rw [if_pos rfl]; omega⟩
      rw [if_pos before, String.toList_append]
      rfl
    · refine ⟨false, 6, ?_, by rw [if_neg Bool.false_ne_true]; omega⟩
      rw [if_neg before, String.toList_append]
      rfl

theorem ofISOString_toISOString (ms : Int) : ofISOString (toISOString ms) = some ms := by
  obtain ⟨negative, width, sign, year⟩ := readSign_yearText (CivilDate.ofDays (ms / 86400000)).year
    ('-' :: ((padStart 2 (toString (CivilDate.ofDays (ms / 86400000)).month)).toList ++
      '-' :: ((padStart 2 (toString (CivilDate.ofDays (ms / 86400000)).day)).toList ++
        'T' :: ((padStart 2 (toString ((ms % 86400000).toNat / 3600000))).toList ++
          ':' :: ((padStart 2 (toString ((ms % 86400000).toNat / 60000 % 60))).toList ++
            ':' :: ((padStart 2 (toString ((ms % 86400000).toNat / 1000 % 60))).toList ++
              '.' :: ((padStart 3 (toString ((ms % 86400000).toNat % 1000))).toList ++
                ['Z'])))))))
  have date := CivilDate.toDays_ofDays (ms / 86400000)
  have dash : Char.isDigit '-' = false := rfl
  have letter : Char.isDigit 'T' = false := rfl
  have colon : Char.isDigit ':' = false := rfl
  have point : Char.isDigit '.' = false := rfl
  have zone : Char.isDigit 'Z' = false := rfl
  -- Every field is read up to the sign behind it.
  simp only [ofISOString, toISOString, String.toList_append, List.append_assoc, String.reduceToList,
    List.cons_append, List.nil_append, sign, readNumber_padStart _ _ dash,
    readNumber_padStart _ _ letter, readNumber_padStart _ _ colon, readNumber_padStart _ _ point,
    readNumber_padStart _ _ zone, Option.bind_eq_bind, Option.bind_some, Option.some.injEq]
  -- The fields make up the day and the time of day.
  have same : (⟨if negative then -((CivilDate.ofDays (ms / 86400000)).year.natAbs : Int)
      else (CivilDate.ofDays (ms / 86400000)).year.natAbs,
      (CivilDate.ofDays (ms / 86400000)).month, (CivilDate.ofDays (ms / 86400000)).day⟩ :
        CivilDate) = CivilDate.ofDays (ms / 86400000) := by rw [year]
  rw [same, date]
  omega

theorem toISOString_injective : Function.Injective toISOString := by
  intro first second same
  have reads := congrArg ofISOString same
  simpa only [ofISOString_toISOString, Option.some.injEq] using reads

def notColon (char : Char) : Bool := char ≠ ':'

theorem notColon_of_mem_padStart {width number : Nat} {char : Char}
    (member : char ∈ (padStart width (toString number)).toList) : notColon char := by
  have digit := isDigit_of_mem_padStart member
  unfold notColon
  simp only [decide_eq_true_eq]
  rintro rfl
  cases digit

theorem notColon_of_mem_yearText {year : Int} {char : Char}
    (member : char ∈ (yearText year).toList) : notColon char := by
  unfold yearText at member
  split at member
  case isTrue => exact notColon_of_mem_padStart member
  case isFalse =>
    rw [String.toList_append, List.mem_append] at member
    rcases member with sign | digit
    · -- The sign is one character.
      split at sign <;> (rw [List.mem_singleton.mp sign]; rfl)
    · exact notColon_of_mem_padStart digit

theorem toISOString_colons (ms : Int) :
    ∃ hour minute second : List Char,
      (toISOString ms).toList = hour ++ ':' :: (minute ++ ':' :: second) ∧
        (∀ char ∈ hour, notColon char) ∧ (∀ char ∈ minute, notColon char) ∧
        ∀ char ∈ second, notColon char := by
  refine ⟨(yearText (CivilDate.ofDays (ms / 86400000)).year ++ "-" ++
      padStart 2 (toString (CivilDate.ofDays (ms / 86400000)).month) ++ "-" ++
      padStart 2 (toString (CivilDate.ofDays (ms / 86400000)).day) ++ "T" ++
      padStart 2 (toString ((ms % 86400000).toNat / 3600000))).toList,
    (padStart 2 (toString ((ms % 86400000).toNat / 60000 % 60))).toList,
    (padStart 2 (toString ((ms % 86400000).toNat / 1000 % 60)) ++ "." ++
      padStart 3 (toString ((ms % 86400000).toNat % 1000)) ++ "Z").toList, ?_, ?_, ?_, ?_⟩
  · simp only [toISOString, String.toList_append, List.append_assoc, String.reduceToList,
      List.cons_append, List.nil_append]
  · intro char member
    simp only [String.toList_append, List.mem_append, String.reduceToList,
      List.mem_singleton] at member
    rcases member with (((((year | rfl) | month) | rfl) | day) | rfl) | hour
    · exact notColon_of_mem_yearText year
    · rfl
    · exact notColon_of_mem_padStart month
    · rfl
    · exact notColon_of_mem_padStart day
    · rfl
    · exact notColon_of_mem_padStart hour
  · exact fun char member => notColon_of_mem_padStart member
  · intro char member
    simp only [String.toList_append, List.mem_append, String.reduceToList,
      List.mem_singleton] at member
    rcases member with ((seconds | rfl) | ms) | rfl
    · exact notColon_of_mem_padStart seconds
    · rfl
    · exact notColon_of_mem_padStart ms
    · rfl

theorem colon_toISOString_inj {left right : String} {early late : Int}
    (same : left ++ ":" ++ toISOString early = right ++ ":" ++ toISOString late) :
    left = right ∧ early = late := by
  have stops : notColon ':' = false := rfl
  obtain ⟨hour, minute, second, text, hourKept, minuteKept, secondKept⟩ := toISOString_colons early
  obtain ⟨hour', minute', second', text', hourKept', minuteKept', secondKept'⟩ :=
    toISOString_colons late
  have texts := congrArg String.toList same
  simp only [String.toList_append, text, text', String.reduceToList, List.append_assoc,
    List.cons_append, List.nil_append] at texts
  -- The three colons are taken off from the right.
  have bySecond (label hour minute second : List Char) :
      label ++ ':' :: (hour ++ ':' :: (minute ++ ':' :: second)) =
        (label ++ ':' :: (hour ++ ':' :: minute)) ++ ':' :: second := by simp
  have byMinute (label hour minute : List Char) :
      label ++ ':' :: (hour ++ ':' :: minute) = (label ++ ':' :: hour) ++ ':' :: minute := by simp
  rw [bySecond, bySecond] at texts
  obtain ⟨texts, seconds⟩ := append_stop_inj secondKept secondKept' stops texts
  rw [byMinute, byMinute] at texts
  obtain ⟨texts, minutes⟩ := append_stop_inj minuteKept minuteKept' stops texts
  obtain ⟨labels, hours⟩ := append_stop_inj hourKept hourKept' stops texts
  refine ⟨String.toList_injective labels, toISOString_injective (String.toList_injective ?_)⟩
  rw [text, text', hours, minutes, seconds]

end Js
