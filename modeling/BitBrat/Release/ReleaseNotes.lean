import BitBrat.Release.Changelog

/-! The notes of a release: how they are found in the log, and when they are those of what was
not released before. -/

namespace BitBrat

open Js

def sectionText (behind : List Char) : List Char :=
  match firstHeading (readHeading sectionParts) true behind with
  | some (text, _) => text
  | none => behind

def isCategoryLine (trimmed : List Char) : Bool :=
  "###".toList.isPrefixOf trimmed && trimmed[3]?.any isBlank

def isEntryLine (line : List Char) : Bool :=
  trimBlanks line ≠ [] && !isCategoryLine (trimBlanks line)

def isSectionLine (text : List Char) : Bool :=
  "##".toList.isPrefixOf text && text[2]?.any isBlank

def entryAhead : List (List Char) → Bool
  | [] => false
  | line :: rest =>
    if isSectionLine line then false else isEntryLine line || entryAhead rest

def unreleasedHasEntries (source : String) : Bool :=
  match firstHeading afterUnreleased true source.toList with
  | none => false
  | some (front, _) =>
    -- The first line behind the place is the heading.
    entryAhead (((source.toList.drop front.length).splitOn '\n').drop 1)

def hasNonEmptyContent (content : List Char) : Bool :=
  (content.splitOn '\n').any isEntryLine

def notesOf (version : String) (text : List Char) : String :=
  let content := trimBlanks text
  if content = [] ∨ hasNonEmptyContent content = false then "Release " ++ version
  else String.ofList content

def extractReleaseNotes (source version : String) : String :=
  match firstHeading (afterDated version.toList) true source.toList with
  | none => "Release " ++ version
  | some (_, behind) => notesOf version (sectionText behind)

def splitSections (atStart : Bool) : List Char → List Char × List (List Char)
  | [] => ([], [])
  | char :: rest =>
    let (text, sections) := splitSections (isLineEnd char) rest
    if atStart && (readHeading sectionParts (char :: rest)).isSome then
      ([], (char :: text) :: sections)
    else (char :: text, sections)

def unreleasedText (source : String) : List Char :=
  match firstHeading afterUnreleased true source.toList with
  | none => []
  | some (_, behind) => sectionText behind

def textAbove (version source : String) : Option (List Char) :=
  match firstHeading (afterDated version.toList) true source.toList,
    firstHeading afterUnreleased true source.toList with
  | some (above, behind), some (front, _) =>
    if above.length < front.length then some (sectionText behind) else none
  | _, _ => none

/-- The notes that a version is owed: what was not released before, if that has entries. -/
def owedNotes (version source : String) : String :=
  if unreleasedHasEntries source then String.ofList (trimBlanks (unreleasedText source))
  else "Release " ++ version

structure RolloverLaw (version : String) (ms : Int) (source rolled : String) : Prop where
  /-- On whatever day it is rolled again, nothing happens. -/
  again : ∀ later, rollChangelog rolled version later = .ok rolled
  /-- The part for what was not released has become that of the version, behind a new one. -/
  sections : ∃ title above heading below, afterUnreleased heading = some [] ∧
    splitSections true source.toList =
      (title, above ++ (heading ++ unreleasedText source) :: below) ∧
    splitSections true rolled.toList = (title, above ++ (UNRELEASED_SKELETON ++ "\n").toList ::
      (("## [" ++ version ++ "] - " ++ formatDate ms).toList ++ unreleasedText source) :: below)
  notes : extractReleaseNotes rolled version = owedNotes version source
  emptied : unreleasedHasEntries rolled = false

/-- The test for entries agrees with the notes, and no dated heading of the version stands above
whose notes are taken in their place. -/
def NotesAgree (version source : String) : Prop :=
  match textAbove version source with
  | some text => notesOf version text = owedNotes version source
  | none =>
    unreleasedHasEntries source = hasNonEmptyContent (trimBlanks (unreleasedText source)) ∨
      unreleasedHasEntries source = false ∧
        String.ofList (trimBlanks (unreleasedText source)) = "Release " ++ version

theorem length_padStart_two {number : Nat} (small : number < 100) :
    (padStart 2 (toString number)).toList.length = 2 := by
  have short : (Nat.toDigits 10 number).length ≤ 2 :=
    (Nat.length_toDigits_le_iff (by omega) (by omega)).mpr small
  simp only [padStart, Nat.toString_eq_ofList_toDigits, String.toList_ofList, List.length_append,
    List.length_replicate]
  omega

variable {ms : Int}

theorem formatDate_digits (year : 1000 ≤ (CivilDate.ofDays (ms / 86400000)).year ∧
      (CivilDate.ofDays (ms / 86400000)).year ≤ 9999) : ∃ years months days : List Char,
      (formatDate ms).toList = years ++ '-' :: (months ++ '-' :: days) ∧
        years.length = 4 ∧ months.length = 2 ∧ days.length = 2 ∧
        ∀ char ∈ years ++ months ++ days, char.isDigit = true := by
  obtain ⟨month, day⟩ := CivilDate.ofDays_le (ms / 86400000)
  unfold formatDate
  generalize CivilDate.ofDays (ms / 86400000) = date at year month day
  obtain ⟨number, same⟩ := Int.eq_ofNat_of_zero_le (le_trans (by decide) year.1)
  have text : toString date.year = toString number := by rw [same]; rfl
  have length : (toString number).toList.length = 4 := by
    have lower : ¬ (Nat.toDigits 10 number).length ≤ 3 := fun short => by
      have := (Nat.length_toDigits_le_iff (by omega) (by omega)).mp short
      omega
    have upper : (Nat.toDigits 10 number).length ≤ 4 :=
      (Nat.length_toDigits_le_iff (by omega) (by omega)).mpr (by omega)
    rw [Nat.toString_eq_ofList_toDigits, String.toList_ofList]
    omega
  refine ⟨(toString number).toList, (padStart 2 (toString date.month)).toList,
    (padStart 2 (toString date.day)).toList, ?_, length, length_padStart_two (by omega),
    length_padStart_two (by omega), fun char member => ?_⟩
  · simp [text]
  · rcases List.mem_append.mp member with member | digit
    · rcases List.mem_append.mp member with digit | digit
      · exact isDigit_of_mem_toString digit
      · exact isDigit_of_mem_padStart digit
    · exact isDigit_of_mem_padStart digit

theorem afterDated_written (version : SemVer)
    (year : 1000 ≤ (CivilDate.ofDays (ms / 86400000)).year ∧
      (CivilDate.ofDays (ms / 86400000)).year ≤ 9999) (body : List Char) :
    afterDated (formatSemVer version).toList
        (("## [" ++ formatSemVer version ++ "] - " ++ formatDate ms).toList ++ body) =
      toLineEnd body := by
  obtain ⟨years, months, days, text, four, two, two', digits⟩ := formatDate_digits year
  have yearDigits : ∀ char ∈ years, char.isDigit = true := fun char member =>
    digits char (List.mem_append_left _ (List.mem_append_left _ member))
  have monthDigits : ∀ char ∈ months, char.isDigit = true := fun char member =>
    digits char (List.mem_append_left _ (List.mem_append_right _ member))
  have dayDigits : ∀ char ∈ days, char.isDigit = true := fun char member =>
    digits char (List.mem_append_right _ member)
  have date : readHeading (List.replicate years.length .digit ++ .only '-' ::
      (List.replicate months.length .digit ++ .only '-' :: (List.replicate days.length .digit ++
        []))) ((formatDate ms).toList ++ body) = some body := by
    have dash (parts : List HeadingPart) (rest : List Char) :
        readHeading (.only '-' :: parts) ('-' :: rest) = readHeading parts rest := rfl
    rw [text, List.append_assoc, readHeading_digits yearDigits, List.cons_append, dash,
      List.append_assoc, readHeading_digits monthDigits, List.cons_append, dash,
      readHeading_digits dayDigits, readHeading]
  rw [four, two, two'] at date
  have version_read (parts : List HeadingPart) (rest : List Char) :
      readHeading ((formatSemVer version).toList.map .letter ++ parts)
        ((formatSemVer version).toList ++ rest) = readHeading parts rest := by
    rw [readHeading_letters, List.take_left, if_pos rfl, List.drop_left]
  -- No blank stands between the bracket and the version.
  have dark (rest : List Char) : ((formatSemVer version).toList ++ ']' :: rest).dropWhile isBlank =
      (formatSemVer version).toList ++ ']' :: rest := by
    cases chars : (formatSemVer version).toList with
    | nil => exact List.dropWhile_cons_of_neg (by decide)
    | cons first more =>
      refine List.dropWhile_cons_of_neg ?_
      simp [@isBlank_of_mem_formatSemVer version first (by simp [chars])]
  have shape : ("## [" ++ formatSemVer version ++ "] - " ++ formatDate ms).toList ++ body =
      '#' :: '#' :: ' ' :: '[' :: ((formatSemVer version).toList ++
        ']' :: ' ' :: '-' :: ' ' :: ((formatDate ms).toList ++ body)) := by
    simp
  have space (char : Char) (rest : List Char) (other : isBlank char = false) :
      (' ' :: char :: rest).dropWhile isBlank = char :: rest := by
    rw [List.dropWhile_cons_of_pos (by decide), List.dropWhile_cons_of_neg (by simp [other])]
  have closed (rest : List Char) : (']' :: rest).dropWhile isBlank = ']' :: rest :=
    List.dropWhile_cons_of_neg (by decide)
  have dated (rest : List Char) :
      (' ' :: ((formatDate ms).toList ++ rest)).dropWhile isBlank =
        (formatDate ms).toList ++ rest := by
    cases yearsEq : years with
    | nil => simp [yearsEq] at four
    | cons first more =>
      rw [text, yearsEq, List.dropWhile_cons_of_pos (by decide)]
      refine List.dropWhile_cons_of_neg ?_
      simp [isBlank_of_isDigit (yearDigits first (by simp [yearsEq]))]
  have read : readHeading (datedParts (formatSemVer version).toList)
      (("## [" ++ formatSemVer version ++ "] - " ++ formatDate ms).toList ++ body) =
        some body := by
    rw [shape, datedParts, sectionParts]
    simp only [List.cons_append, List.nil_append, readHeading, HeadingPart.only, decide_true,
      if_true, space '[' _ (by decide), space '-' _ (by decide), dark, version_read, closed, dated]
    exact date
  rw [afterDated, read, Option.bind_some]

theorem toLower_of_isDigit {char : Char} (digit : char.isDigit = true) :
    char.toLower = char := by
  have small : ¬ (char.val ≥ 'A'.val ∧ char.val ≤ 'Z'.val) := by
    intro upper
    simp only [Char.isDigit, Bool.and_eq_true, decide_eq_true_eq] at digit
    have below := UInt32.le_iff_toNat_le.mp digit.2
    have above := UInt32.le_iff_toNat_le.mp upper.1
    exact absurd (above.trans below) (by decide)
  unfold Char.toLower
  rw [dif_neg small]

theorem formatSemVer_head (version : SemVer) : ∃ first more,
    (formatSemVer version).toList = first :: more ∧ first.isDigit = true := by
  cases digits : (toString version.major).toList with
  | nil => simp [Nat.toDigits_ne_nil] at digits
  | cons first rest =>
    exact ⟨first, _, by simp only [formatSemVer, String.toList_append, digits]; rfl,
      @isDigit_of_mem_toString version.major _ (digits ▸ List.mem_cons_self)⟩

/-- What a dated heading of a version begins with: a bracket that is no name of what is not
released. -/
def versionParts : List HeadingPart := sectionParts ++ [.blanks, .char (· ≠ 'U')]

variable {version : SemVer}

theorem isSome_of_afterDated {line : List Char}
    (read : (afterDated (formatSemVer version).toList line).isSome = true) :
    (readHeading versionParts line).isSome = true := by
  obtain ⟨first, more, chars, digit⟩ := formatSemVer_head version
  have whole : (readHeading (datedParts (formatSemVer version).toList) line).isSome = true := by
    rw [afterDated] at read
    cases named : readHeading (datedParts (formatSemVer version).toList) line with
    | none => simp [named] at read
    | some behind => rfl
  have parts : datedParts (formatSemVer version).toList =
      ((sectionParts ++ [.blanks]) ++ [.letter first]) ++ (more.map .letter ++
        (datedParts []).drop 5) := by
    rw [chars]
    simp [datedParts, sectionParts]
  rw [parts] at whole
  have known := readHeading_weaken (· ≠ 'U') (fun char same => ?_)
    (readHeading_front whole)
  · simpa [versionParts] using known
  · -- The small letter of the name is no digit.
    rw [decide_eq_true_eq, toLower_of_isDigit digit] at same
    rw [decide_eq_true_eq]
    rintro rfl
    rw [← same] at digit
    exact absurd digit (by decide)

theorem firstHeading_skeleton (version : SemVer) :
    firstHeading (afterDated (formatSemVer version).toList) true
      ((UNRELEASED_SKELETON ++ "\n").toList ++ ['#']) = none := by
  exact @firstHeading_eq_none _ (readHeading versionParts) (fun line => isSome_of_afterDated) _ _
    (by decide +kernel)

theorem noHash_dated (version : SemVer) :
    NoHash ((datedParts (formatSemVer version).toList).drop 2) := by
  have letters : ((formatSemVer version).toList.map .letter).all HeadingPart.noHash = true := by
    rw [List.all_map, List.all_eq_true]
    intro char member
    rcases digit_or_dot_of_mem_formatSemVer member with digit | rfl
    · simp only [Function.comp_apply, HeadingPart.letter, HeadingPart.noHash,
        toLower_of_isDigit digit, Bool.not_eq_true', decide_eq_false_iff_not]
      rintro rfl
      exact absurd digit (by decide)
    · decide
  simp only [NoHash, datedParts, sectionParts, List.cons_append, List.nil_append,
    List.drop_succ_cons, List.drop_zero, List.all_cons, List.all_append, letters]
  decide

theorem readsWithin_unreleased : ReadsWithin afterUnreleased := by
  have parts : ReadsWithin (readHeading (sectionParts ++ "Unreleased".toList.map
      HeadingPart.letter ++ [HeadingPart.only ']'])) := by
    exact @readsWithin_readHeading (.blanks :: .only '[' ::
      ("Unreleased".toList.map HeadingPart.letter ++ [.only ']'])) (by decide)
  have ends := readsWithin_toLineEnd parts
  simpa only [← afterUnreleased_eq] using ends

theorem readsWithin_section : ReadsWithin (readHeading sectionParts) :=
  readsWithin_readHeading (by decide)

theorem readsWithin_dated (version : SemVer) :
    ReadsWithin (afterDated (formatSemVer version).toList) :=
  readsWithin_toLineEnd (readsWithin_readHeading (noHash_dated version))

theorem splitSections_append_hash {atStart : Bool} {front : List Char}
    (line : startsLine atStart front = true) :
    ∃ title above, ∀ far sections, splitSections true ('#' :: far) = ([], sections) →
      splitSections atStart (front ++ '#' :: far) = (title, above ++ sections) := by
  induction front generalizing atStart with
  | nil =>
    have starts : atStart = true := line
    exact ⟨[], [], fun far sections whole => by simp [starts, whole]⟩
  | cons char rest ih =>
    rw [startsLine_cons] at line
    obtain ⟨title, above, inside⟩ := ih line
    obtain ⟨read, reads⟩ := readsWithin_section (char :: rest) ((startsLine_cons _ _ _).trans line)
    -- Whether a section begins here does not depend on what follows.
    by_cases begins : (atStart && read.isSome) = true
    · refine ⟨[], (char :: title) :: above, fun far sections whole => ?_⟩
      rw [List.cons_append, splitSections, ← List.cons_append, reads, inside far sections whole]
      simp [begins]
    · refine ⟨char :: title, above, fun far sections whole => ?_⟩
      rw [List.cons_append, splitSections, ← List.cons_append, reads, inside far sections whole]
      simp [begins]

theorem splitSections_append_plain {atStart : Bool} {front back : List Char}
    (plain : '#' ∉ front) : splitSections atStart (front ++ back) =
      (front ++ (splitSections (startsLine atStart front) back).1,
        (splitSections (startsLine atStart front) back).2) := by
  induction front generalizing atStart with
  | nil => rfl
  | cons char rest ih =>
    obtain ⟨other, plain⟩ := List.ne_and_not_mem_of_not_mem_cons plain
    have absent : readHeading sectionParts (char :: rest ++ back) = none := by
      simp [sectionParts, readHeading, HeadingPart.only, other.symm]
    rw [List.cons_append, splitSections, ← List.cons_append, absent, ih plain, startsLine_cons]
    simp

theorem splitSections_fst (atStart : Bool) (chars : List Char) :
    (splitSections atStart chars).1 =
      match firstHeading (readHeading sectionParts) atStart chars with
      | some (text, _) => text
      | none => chars := by
  induction chars generalizing atStart with
  | nil => rfl
  | cons char rest ih =>
    rw [splitSections, firstHeading]
    cases atStart with
    | false =>
      simp only [Bool.false_and, Bool.false_eq_true, if_false, ih]
      cases firstHeading (readHeading sectionParts) (isLineEnd char) rest <;> rfl
    | true =>
      cases read : readHeading sectionParts (char :: rest) with
      | some behind => simp
      | none =>
        simp only [ih]
        cases firstHeading (readHeading sectionParts) (isLineEnd char) rest <;> rfl

variable {body : List Char}

theorem splitSections_lineEnd (ends : body = [] ∨ ∃ ending rest,
    body = ending :: rest ∧ isLineEnd ending = true) (atStart : Bool) :
    splitSections atStart body = splitSections true body := by
  rcases ends with rfl | ⟨ending, rest, rfl, lineEnd⟩
  · rfl
  · have other : ending ≠ '#' := by
      rintro rfl
      exact absurd lineEnd (by decide)
    simp [splitSections, sectionParts, readHeading, HeadingPart.only, other]

theorem afterUnreleased_spec {headed : List Char}
    (read : afterUnreleased headed = some body) :
    ∃ taken, headed = '#' :: '#' :: (taken ++ body) ∧ '#' ∉ taken ∧
      afterUnreleased ('#' :: '#' :: taken) = some [] ∧
      (readHeading sectionParts headed).isSome = true ∧
      (body = [] ∨ ∃ ending rest, body = ending :: rest ∧ isLineEnd ending = true) ∧
      toLineEnd body = some body := by
  rw [afterUnreleased_eq] at read
  obtain ⟨behind, named, ends⟩ := Option.bind_eq_some_iff.mp read
  obtain ⟨⟨blanks, rfl, blank⟩, lineEnd, again⟩ := toLineEnd_spec ends
  have begins : (readHeading sectionParts headed).isSome = true := by
    refine @readHeading_front _ ("Unreleased".toList.map .letter ++ [.only ']']) _ ?_
    rw [← List.append_assoc, named]
    rfl
  -- The two hashes are read, and then the name in brackets.
  have hashes (rest : List Char) : readHeading (sectionParts ++ "Unreleased".toList.map
      HeadingPart.letter ++ [HeadingPart.only ']']) ('#' :: '#' :: rest) =
        readHeading ((.blanks :: .only '[' :: "Unreleased".toList.map HeadingPart.letter) ++
          [HeadingPart.only ']']) rest := rfl
  match headed, begins with
  | [first], begins => simp [sectionParts, readHeading, HeadingPart.only] at begins
  | first :: second :: rest, begins =>
    have sharp : first = '#' ∧ second = '#' := by
      by_contra other
      rw [not_and_or] at other
      rcases other with other | other <;>
        simp [sectionParts, readHeading, HeadingPart.only, other] at begins
    obtain ⟨rfl, rfl⟩ := sharp
    rw [hashes] at named
    obtain ⟨taken, rfl, -, plain, reads⟩ := readHeading_taken (by decide) named
    refine ⟨taken ++ blanks, by simp, fun member => ?_, ?_, begins, lineEnd, again⟩
    · rcases List.mem_append.mp member with found | found
      · exact plain found
      · exact absurd (blank _ found) (by decide)
    · have all : blanks.dropWhile isBlank = [] := List.dropWhile_eq_nil_iff.mpr blank
      rw [afterUnreleased_eq, (hashes (taken ++ blanks)).trans (reads blanks), Option.bind_some,
        toLineEnd, all]
      rfl

/-- What a log is made of that is rolled for a version: what stands above, the heading of what was
not released, and what follows it. -/
structure Rollover (version : SemVer) (ms : Int) (source rolled : String) : Prop where
  parts : ∃ front taken body,
    source.toList = front ++ '#' :: '#' :: (taken ++ body) ∧
      rolled.toList = front ++ ((UNRELEASED_SKELETON ++ "\n").toList ++
        (("## [" ++ formatSemVer version ++ "] - " ++ formatDate ms).toList ++ body)) ∧
      firstHeading afterUnreleased true source.toList = some (front, body) ∧
      startsLine true front = true ∧ '#' ∉ taken ∧
      afterUnreleased ('#' :: '#' :: taken) = some [] ∧
      (readHeading sectionParts ('#' :: '#' :: (taken ++ body))).isSome = true ∧
      (body = [] ∨ ∃ ending rest, body = ending :: rest ∧ isLineEnd ending = true) ∧
      toLineEnd body = some body

variable {source : String}

theorem exists_rollover
    (headed : (firstHeading afterUnreleased true source.toList).isSome = true)
    (fresh : hasVersionHeading source (formatSemVer version) = false) :
    ∃ rolled, rollChangelog source (formatSemVer version) ms = .ok rolled ∧
      Rollover version ms source rolled := by
  obtain ⟨⟨front, body⟩, found⟩ := Option.isSome_iff_exists.mp headed
  obtain ⟨heading, whole, read, line⟩ := firstHeading_spec found
  obtain ⟨taken, rfl, plain, alone, begins, lineEnd, again⟩ := afterUnreleased_spec read
  refine ⟨String.ofList (front ++ (UNRELEASED_SKELETON ++ "\n" ++
    ("## [" ++ formatSemVer version ++ "] - " ++ formatDate ms)).toList ++ body), ?_,
    ⟨front, taken, body, whole, ?_, found, line, plain, alone, begins, lineEnd, again⟩⟩
  · rw [rollChangelog, fresh]
    simp only [Bool.false_eq_true, if_false, replaceUnreleased_eq, found, Option.map_some]
  · simp

theorem splitSections_heading {taken : List Char} (plain : '#' ∉ taken)
    (begins : (readHeading sectionParts ('#' :: '#' :: (taken ++ body))).isSome = true)
    (ends : body = [] ∨ ∃ ending rest, body = ending :: rest ∧ isLineEnd ending = true) :
    splitSections true ('#' :: '#' :: (taken ++ body)) =
      ([], ('#' :: '#' :: (taken ++ sectionText body)) :: (splitSections true body).2) := by
  have text : sectionText body = (splitSections true body).1 := by
    rw [splitSections_fst, sectionText]
  have sharp : isLineEnd '#' = false := by decide
  rw [splitSections, splitSections, begins, sharp, splitSections_append_plain plain,
    splitSections_lineEnd ends, text]
  rfl

theorem noHash_written (version : SemVer)
    (year : 1000 ≤ (CivilDate.ofDays (ms / 86400000)).year ∧
      (CivilDate.ofDays (ms / 86400000)).year ≤ 9999) :
    ∃ taken, ("## [" ++ formatSemVer version ++ "] - " ++ formatDate ms).toList =
      '#' :: '#' :: taken ∧ '#' ∉ taken := by
  obtain ⟨years, months, days, text, -, -, -, digits⟩ := formatDate_digits year
  have noDigit {char : Char} (digit : char.isDigit = true) : char ≠ '#' := by
    rintro rfl
    exact absurd digit (by decide)
  refine ⟨" [".toList ++ ((formatSemVer version).toList ++ ("] - ".toList ++
    (formatDate ms).toList)), by simp, fun member => ?_⟩
  simp only [text, List.mem_append, List.mem_cons] at member
  rcases member with lead | name | middle | year | dash | month | dash | day
  · exact absurd lead (by decide)
  · rcases digit_or_dot_of_mem_formatSemVer name with digit | dot
    · exact noDigit digit rfl
    · exact absurd dot (by decide)
  · exact absurd middle (by decide)
  · exact noDigit (digits _ (by simp [year])) rfl
  · exact absurd dash (by decide)
  · exact noDigit (digits _ (by simp [month])) rfl
  · exact absurd dash (by decide)
  · exact noDigit (digits _ (by simp [day])) rfl

theorem skeleton_sharp : ∃ rest, UNRELEASED_SKELETON.toList = '#' :: rest :=
  List.head?_eq_some_iff.mp (by decide +kernel)

theorem skeletonLine_sharp :
    ∃ rest, (UNRELEASED_SKELETON ++ "\n").toList = '#' :: rest := by
  obtain ⟨rest, sharp⟩ := skeleton_sharp
  exact ⟨rest ++ "\n".toList, by rw [String.toList_append, sharp, List.cons_append]⟩

theorem splitSections_skeleton {far : List Char} {sections : List (List Char)}
    (whole : splitSections true ('#' :: far) = ([], sections)) :
    splitSections true ((UNRELEASED_SKELETON ++ "\n").toList ++ '#' :: far) =
      ([], (UNRELEASED_SKELETON ++ "\n").toList :: sections) := by
  obtain ⟨title, above, inside⟩ := @splitSections_append_hash true
    (UNRELEASED_SKELETON ++ "\n").toList (by decide +kernel)
  -- What stands above does not depend on what follows, so that one heading shows it.
  have sample := inside "# [".toList ["## [".toList] (by decide +kernel)
  have known : splitSections true ((UNRELEASED_SKELETON ++ "\n").toList ++ "## [".toList) =
      ([], [(UNRELEASED_SKELETON ++ "\n").toList] ++ ["## [".toList]) := by decide +kernel
  obtain ⟨rfl, same⟩ := Prod.mk.inj (known.symm.trans sample)
  rw [inside far sections whole, ← List.append_cancel_right same]
  rfl

theorem Rollover.sections {version : SemVer} {ms : Int} {source rolled : String}
    (year : 1000 ≤ (CivilDate.ofDays (ms / 86400000)).year ∧
      (CivilDate.ofDays (ms / 86400000)).year ≤ 9999)
    (rollover : Rollover version ms source rolled) :
    ∃ title above heading below, afterUnreleased heading = some [] ∧
      splitSections true source.toList =
        (title, above ++ (heading ++ unreleasedText source) :: below) ∧
      splitSections true rolled.toList = (title, above ++
        (UNRELEASED_SKELETON ++ "\n").toList :: (("## [" ++ formatSemVer version ++ "] - " ++
          formatDate ms).toList ++ unreleasedText source) :: below) := by
  obtain ⟨front, taken, body, whole, rolledEq, found, line, plain, alone, begins, ends, again⟩ :=
    rollover.parts
  obtain ⟨title, above, inside⟩ := splitSections_append_hash line
  obtain ⟨dated, written, noHash⟩ := noHash_written version year
  have text : unreleasedText source = sectionText body := by rw [unreleasedText, found]
  refine ⟨title, above, _, (splitSections true body).2, alone, ?_, ?_⟩
  · rw [whole, inside _ _ (splitSections_heading plain begins ends), text]
    rfl
  · -- The new heading and the dated one begin sections as well.
    have opens : (readHeading sectionParts ('#' :: '#' :: (dated ++ body))).isSome = true := by
      have read := afterDated_written version year body
      rw [written, List.cons_append, List.cons_append, again, afterDated] at read
      obtain ⟨behind, named, -⟩ := Option.bind_eq_some_iff.mp read
      rw [datedParts, List.append_assoc] at named
      exact readHeading_front (by rw [named]; rfl)
    have both := splitSections_skeleton (splitSections_heading noHash opens ends)
    obtain ⟨rest, sharp⟩ := skeletonLine_sharp
    rw [rolledEq, written, text, List.cons_append, List.cons_append]
    rw [sharp] at both ⊢
    rw [List.cons_append] at both ⊢
    rw [inside _ _ both]
    rfl

theorem entryAhead_append {lines : List (List Char)}
    (quiet : ∀ line ∈ lines, isSectionLine line = false ∧ isEntryLine line = false)
    (rest : List (List Char)) : entryAhead (lines ++ rest) = entryAhead rest := by
  induction lines with
  | nil => rfl
  | cons line lines ih =>
    obtain ⟨noSection, noEntry⟩ := quiet line List.mem_cons_self
    rw [List.cons_append, entryAhead, noSection, noEntry,
      ih fun other member => quiet other (List.mem_cons_of_mem _ member)]
    rfl

theorem firstHeading_skeleton_append (rest : List Char) :
    ∃ behind, firstHeading afterUnreleased true (UNRELEASED_SKELETON.toList ++ rest) =
      some ([], behind) := by
  have parts : UNRELEASED_SKELETON.toList =
      "## [Unreleased]".toList ++ '\n' :: '\n' :: '#' :: UNRELEASED_SKELETON.toList.drop 18 := by
    decide +kernel
  have named : readHeading (sectionParts ++ "Unreleased".toList.map HeadingPart.letter ++
      [HeadingPart.only ']']) (UNRELEASED_SKELETON.toList ++ rest) =
        some ('\n' :: '\n' :: '#' :: (UNRELEASED_SKELETON.toList.drop 18 ++ rest)) := by
    rw [parts]
    rfl
  have ends : toLineEnd ('\n' :: '\n' :: '#' :: (UNRELEASED_SKELETON.toList.drop 18 ++ rest)) =
      some ('\n' :: '#' :: (UNRELEASED_SKELETON.toList.drop 18 ++ rest)) := by
    exact @toLineEnd_append ['\n'] [] _ '\n' '#' (by simp [isBlank]) (by decide) (by simp)
      (by decide)
  refine ⟨_, firstHeading_of_read ?_ ((afterUnreleased_eq _).trans (by rw [named]; exact ends))⟩
  rw [parts]
  exact List.cons_ne_nil _ _

theorem Rollover.emptied {rolled : String} (rollover : Rollover version ms source rolled) :
    unreleasedHasEntries rolled = false := by
  obtain ⟨front, taken, body, whole, rolledEq, found, line, -⟩ := rollover.parts
  rw [whole] at found
  obtain ⟨rest, sharp⟩ := skeleton_sharp
  have parts : rolled.toList = front ++ (UNRELEASED_SKELETON.toList ++ '\n' :: '#' :: '#' :: ' ' ::
      '[' :: ((formatSemVer version ++ "] - " ++ formatDate ms).toList ++ body)) := by
    rw [rolledEq]
    simp
  obtain ⟨behind, here⟩ := firstHeading_skeleton_append ('\n' :: '#' :: '#' :: ' ' ::
    '[' :: ((formatSemVer version ++ "] - " ++ formatDate ms).toList ++ body))
  have first : firstHeading afterUnreleased true rolled.toList = some (front, behind) := by
    rw [sharp] at here
    rw [parts, sharp, List.cons_append, firstHeading_replace readsWithin_unreleased line found,
      ← List.cons_append, here]
    simp
  rw [unreleasedHasEntries, first]
  dsimp only
  -- Behind the heading there are names of categories, and then the next section.
  rw [parts, List.drop_left, List.splitOn_append_cons_self]
  have quiet : ∀ line ∈ (UNRELEASED_SKELETON.toList.splitOn '\n').drop 1,
      isSectionLine line = false ∧ isEntryLine line = false := by decide +kernel
  have several : 1 ≤ (UNRELEASED_SKELETON.toList.splitOn '\n').length := by decide +kernel
  rw [List.drop_append_of_le_length several, entryAhead_append quiet]
  generalize '[' :: ((formatSemVer version ++ "] - " ++ formatDate ms).toList ++ body) = heading
  obtain ⟨first, more, lines⟩ := List.exists_cons_of_ne_nil (List.splitOn_ne_nil '\n' heading)
  have next : ('#' :: '#' :: ' ' :: heading).splitOn '\n' =
      ('#' :: '#' :: ' ' :: first) :: more := by
    simp [List.splitOn_cons_eq_if_modifyHead, lines]
  rw [next, entryAhead]
  rfl

theorem afterDated_suffix {version line behind : List Char}
    (read : afterDated version line = some behind) : behind <:+ line := by
  obtain ⟨rest, named, ends⟩ := Option.bind_eq_some_iff.mp read
  obtain ⟨⟨blanks, parts, -⟩, -⟩ := toLineEnd_spec ends
  exact List.IsSuffix.trans ⟨blanks, parts.symm⟩ (readHeading_suffix named)

theorem sectionText_append_hash {front far other : List Char}
    (line : startsLine true front = true)
    (begins : (readHeading sectionParts ('#' :: far)).isSome = true)
    (otherBegins : (readHeading sectionParts ('#' :: other)).isSome = true) :
    sectionText (front ++ '#' :: far) = sectionText (front ++ '#' :: other) := by
  rcases firstHeading_append_hash readsWithin_section line with ⟨above, behind, -, inside⟩ | outside
  · rw [sectionText, sectionText, inside, inside]
  · obtain ⟨behind, read⟩ := Option.isSome_iff_exists.mp begins
    obtain ⟨next, otherRead⟩ := Option.isSome_iff_exists.mp otherBegins
    rw [sectionText, sectionText, outside, outside,
      firstHeading_of_read (List.cons_ne_nil _ _) read,
      firstHeading_of_read (List.cons_ne_nil _ _) otherRead]
    rfl

/-- The notes of a version whose log is rolled are those of a section that stands above, or else
those of what was not released. -/
theorem Rollover.notes {rolled : String} (year : 1000 ≤ (CivilDate.ofDays (ms / 86400000)).year ∧
      (CivilDate.ofDays (ms / 86400000)).year ≤ 9999)
    (rollover : Rollover version ms source rolled) :
    extractReleaseNotes rolled (formatSemVer version) =
      notesOf (formatSemVer version)
        ((textAbove (formatSemVer version) source).getD (unreleasedText source)) := by
  obtain ⟨front, taken, body, whole, rolledEq, found, line, plain, alone, begins, ends, again⟩ :=
    rollover.parts
  obtain ⟨rest, sharp⟩ := skeletonLine_sharp
  rcases firstHeading_append_hash (readsWithin_dated version) line with
    ⟨above, behind, shorter, inside⟩ | outside
  · -- The section above ends at the part for what is not released, if not before.
    have here := inside ('#' :: (taken ++ body))
    have there := inside (rest ++
      (("## [" ++ formatSemVer version ++ "] - " ++ formatDate ms).toList ++ body))
    have text : textAbove (formatSemVer version) source =
        some (sectionText (behind ++ '#' :: '#' :: (taken ++ body))) := by
      rw [textAbove, found, whole, here]
      exact if_pos shorter
    have last : startsLine true behind = true := by
      obtain ⟨headed, parts, read, -⟩ := firstHeading_spec here
      obtain ⟨heading, rfl⟩ := afterDated_suffix read
      refine startsLine_suffix line ⟨above ++ heading, ?_⟩
      rw [← List.append_assoc, ← List.append_assoc] at parts
      exact (List.append_cancel_right parts).symm
    have opens (more : List Char) :
        (readHeading sectionParts ('#' :: (rest ++ more))).isSome = true := by
      rw [← List.cons_append, ← sharp]
      rfl
    rw [extractReleaseNotes, rolledEq, sharp, List.cons_append, there, text]
    dsimp only
    rw [Option.getD_some, sectionText_append_hash last (opens _) begins]
  · -- No dated heading stands above, or in the new part for what is not released.
    have none_above : textAbove (formatSemVer version) source = none := by
      rw [textAbove, found, whole, outside]
      cases firstHeading (afterDated (formatSemVer version).toList) true
          ('#' :: '#' :: (taken ++ body)) with
      | none => rfl
      | some found => exact if_neg (by simp)
    obtain ⟨dated, written, -⟩ := noHash_written version year
    have last := firstHeading_of_read (by simp) ((afterDated_written version year body).trans again)
    have skipped : firstHeading (afterDated (formatSemVer version).toList) true
        ((UNRELEASED_SKELETON ++ "\n").toList ++
          (("## [" ++ formatSemVer version ++ "] - " ++ formatDate ms).toList ++ body)) =
        some ((UNRELEASED_SKELETON ++ "\n").toList, body) := by
      rcases @firstHeading_append_hash _ (readsWithin_dated version) true
        (UNRELEASED_SKELETON ++ "\n").toList (by decide +kernel) with
        ⟨above, behind, -, inside⟩ | behind
      · exact absurd (inside []) (by rw [firstHeading_skeleton]; exact nofun)
      · rw [written, List.cons_append] at last ⊢
        rw [behind, last]
        simp
    rw [sharp, List.cons_append] at skipped
    have here := outside (rest ++
      (("## [" ++ formatSemVer version ++ "] - " ++ formatDate ms).toList ++ body))
    rw [skipped] at here
    rw [extractReleaseNotes, rolledEq, sharp, List.cons_append, here, none_above]
    rw [Option.getD_none, unreleasedText, found]
    rfl

theorem trimBlanks_cons_of_dark {first : Char} (dark : isBlank first = false)
    (rest : List Char) : ∃ more, trimBlanks (first :: rest) = first :: more := by
  rw [trimBlanks, List.dropWhile_cons_of_neg (by simp [dark]), List.reverse_cons,
    List.dropWhile_append]
  split
  · exact ⟨[], by simp [dark]⟩
  · exact ⟨_, by rw [List.reverse_append]; rfl⟩

theorem hasNonEmptyContent_default (version : SemVer) :
    hasNonEmptyContent ("Release " ++ formatSemVer version).toList = true := by
  have oneLine : '\n' ∉ ("Release " ++ formatSemVer version).toList := by
    intro member
    rw [String.toList_append] at member
    rcases List.mem_append.mp member with lead | name
    · exact absurd lead (by decide)
    · exact absurd (isBlank_of_mem_formatSemVer name) (by decide)
  obtain ⟨more, trimmed⟩ := @trimBlanks_cons_of_dark 'R' (by decide)
    ("elease ".toList ++ (formatSemVer version).toList)
  have line : ("Release " ++ formatSemVer version).toList =
      'R' :: ("elease ".toList ++ (formatSemVer version).toList) := by simp
  have whole : ("Release " ++ formatSemVer version).toList.splitOn '\n' =
      [("Release " ++ formatSemVer version).toList] := List.splitOn_eq_singleton oneLine
  rw [hasNonEmptyContent, whole, List.any_cons, line, isEntryLine, trimmed]
  rfl

theorem notesOf_unreleasedText (version : SemVer) (source : String) :
    notesOf (formatSemVer version) (unreleasedText source) =
        owedNotes (formatSemVer version) source ↔
      unreleasedHasEntries source = hasNonEmptyContent (trimBlanks (unreleasedText source)) ∨
        unreleasedHasEntries source = false ∧
          String.ofList (trimBlanks (unreleasedText source)) =
            "Release " ++ formatSemVer version := by
  have notes : notesOf (formatSemVer version) (unreleasedText source) =
      if hasNonEmptyContent (trimBlanks (unreleasedText source)) then
        String.ofList (trimBlanks (unreleasedText source))
      else "Release " ++ formatSemVer version := by
    rw [notesOf]
    by_cases content : hasNonEmptyContent (trimBlanks (unreleasedText source)) = true
    · have some : trimBlanks (unreleasedText source) ≠ [] := fun empty => by
        rw [empty] at content
        exact absurd content (by decide)
      simp [content, some]
    · simp [content]
  rw [notes, owedNotes]
  generalize unreleasedHasEntries source = entries
  cases content : hasNonEmptyContent (trimBlanks (unreleasedText source)) <;> cases entries
  · simp
  · -- The default has an entry, so that nothing without one is the default.
    have other : "Release " ++ formatSemVer version ≠
        String.ofList (trimBlanks (unreleasedText source)) := by
      intro same
      have entry := hasNonEmptyContent_default version
      rw [same, String.toList_ofList, content] at entry
      cases entry
    simp [other]
  · simp
  · simp

/-- Rolling a log for a version does what it should, just if what it finds entries in is what the
notes are taken from. -/
theorem rolloverLaw_iff (version : SemVer) (ms : Int) (source : String)
    (year : 1000 ≤ (CivilDate.ofDays (ms / 86400000)).year ∧
      (CivilDate.ofDays (ms / 86400000)).year ≤ 9999)
    (headed : (firstHeading afterUnreleased true source.toList).isSome = true)
    (fresh : hasVersionHeading source (formatSemVer version) = false) :
    (∃ rolled, rollChangelog source (formatSemVer version) ms = .ok rolled ∧
        RolloverLaw (formatSemVer version) ms source rolled) ↔
      NotesAgree (formatSemVer version) source := by
  obtain ⟨rolled, done, rollover⟩ := exists_rollover headed fresh
  have notes : extractReleaseNotes rolled (formatSemVer version) =
        owedNotes (formatSemVer version) source ↔ NotesAgree (formatSemVer version) source := by
    rw [rollover.notes year, NotesAgree]
    cases textAbove (formatSemVer version) source with
    | some text => exact Iff.rfl
    | none => exact notesOf_unreleasedText version source
  constructor
  · rintro ⟨other, otherDone, law⟩
    rw [done] at otherDone
    cases otherDone
    exact notes.mp law.notes
  · intro agree
    refine ⟨rolled, done, ⟨fun later => ?_, rollover.sections year, notes.mpr agree,
      rollover.emptied⟩⟩
    rw [rollChangelog, if_pos (hasVersionHeading_rollChangelog done)]

/-- A log with news in it is rolled as it should be. -/
theorem rolloverLaw_news :
    ∃ rolled, rollChangelog "## [Unreleased]\n\n- news\n" (formatSemVer ⟨1, 2, 0⟩) 1775174400000 =
        .ok rolled ∧
      RolloverLaw (formatSemVer ⟨1, 2, 0⟩) 1775174400000 "## [Unreleased]\n\n- news\n" rolled := by
  refine (rolloverLaw_iff ⟨1, 2, 0⟩ 1775174400000 "## [Unreleased]\n\n- news\n"
    (by decide +kernel) (by decide +kernel) (by decide +kernel)).mpr ?_
  have nothing : textAbove (formatSemVer ⟨1, 2, 0⟩) "## [Unreleased]\n\n- news\n" = none := by
    decide +kernel
  rw [NotesAgree, nothing]
  exact .inl (by decide +kernel)

/-- A heading without a blank behind its hashes is taken for an entry of an empty part. -/
theorem not_rolloverLaw : ¬ ∀ (version : SemVer) (ms : Int) (source : String),
    1000 ≤ (CivilDate.ofDays (ms / 86400000)).year ∧
      (CivilDate.ofDays (ms / 86400000)).year ≤ 9999 →
    (firstHeading afterUnreleased true source.toList).isSome = true →
    hasVersionHeading source (formatSemVer version) = false →
    ∃ rolled, rollChangelog source (formatSemVer version) ms = .ok rolled ∧
      RolloverLaw (formatSemVer version) ms source rolled := by
  intro law
  obtain ⟨rolled, done, holds⟩ := law ⟨1, 2, 0⟩ 1775174400000
    "## [Unreleased]\n\n##[1.0.0] - 2020-01-01\n- old\n"
    (by decide +kernel) (by decide +kernel) (by decide +kernel)
  have text : rollChangelog "## [Unreleased]\n\n##[1.0.0] - 2020-01-01\n- old\n"
      (formatSemVer ⟨1, 2, 0⟩) 1775174400000 =
        .ok (UNRELEASED_SKELETON ++
          "\n## [1.2.0] - 2026-04-03\n##[1.0.0] - 2020-01-01\n- old\n") := by
    decide +kernel
  rw [text] at done
  cases done
  exact absurd holds.notes (by decide +kernel)

end BitBrat
