import BitBrat.Js.IsoDate
import BitBrat.Release.VersionFiles

/-! The log of changes: how its unreleased part becomes that of a version. -/

namespace BitBrat

open Js

def UNRELEASED_SKELETON : String :=
  String.intercalate "\n" ["## [Unreleased]", "", "### Added", "", "### Changed", "",
    "### Deprecated", "", "### Removed", "", "### Fixed", "", "### Security", ""]

def formatDate (ms : Int) : String :=
  let date := CivilDate.ofDays (ms / 86400000)
  toString date.year ++ "-" ++ padStart 2 (toString date.month) ++ "-" ++
    padStart 2 (toString date.day)

/-- What follows a heading with a name in brackets at the start of a line, if there is one. -/
def afterHeading (name : List Char) (line : List Char) : Option (List Char) :=
  let bracket := (line.drop 2).dropWhile isBlank
  let named := bracket.drop 1
  if ['#', '#'].isPrefixOf line ∧ bracket.head? = some '[' ∧
      (named.take name.length).map Char.toLower = name.map Char.toLower ∧
      (named.drop name.length).head? = some ']' then
    some (named.drop (name.length + 1))
  else none

def headingFrom (version : List Char) (atStart : Bool) : List Char → Bool
  | [] => false
  | char :: rest =>
    (atStart && (afterHeading version (char :: rest)).isSome) ||
      headingFrom version (isLineEnd char) rest

def hasVersionHeading (source version : String) : Bool :=
  headingFrom version.toList true source.toList

/-- What follows the heading of what is not released, and the blanks up to the end of a line. -/
def afterUnreleased (line : List Char) : Option (List Char) :=
  (afterHeading "Unreleased".toList line).bind fun behind =>
    let blanks := behind.takeWhile isBlank
    let rest := behind.dropWhile isBlank
    if rest = [] then some []
    else
      -- The match ends in front of the last line end among the blanks.
      let kept := blanks.reverse.dropWhile fun char => !isLineEnd char
      match kept with
      | [] => none
      | ending :: _ =>
        some (ending :: (blanks.drop kept.length ++ rest))

/-- The text with the first heading of what is not released replaced, if there is one. -/
def replaceUnreleased (replacement : List Char) (atStart : Bool) :
    List Char → Option (List Char)
  | [] => none
  | char :: rest =>
    match (if atStart then afterUnreleased (char :: rest) else none) with
    | some behind => some (replacement ++ behind)
    | none => (replaceUnreleased replacement (isLineEnd char) rest).map (char :: ·)

def rollChangelog (source version : String) (ms : Int) : Except String String :=
  if hasVersionHeading source version then .ok source
  else
    let datedHeading := "## [" ++ version ++ "] - " ++ formatDate ms
    match replaceUnreleased (UNRELEASED_SKELETON ++ "\n" ++ datedHeading).toList true
        source.toList with
    | some rolled => .ok (String.ofList rolled)
    | none =>
      .error ("CHANGELOG.md has no \x60## [Unreleased]\x60 section to roll. " ++
        "Expected a Keep-a-Changelog formatted file.")

section Heading

variable {version : List Char}

theorem headingFrom_append (front : List Char) {ending : Char} {back : List Char}
    (ends : isLineEnd ending = true) (found : (afterHeading version back).isSome)
    (atStart : Bool) : headingFrom version atStart (front ++ ending :: back) = true := by
  induction front generalizing atStart with
  | nil =>
    cases back with
    | nil => simp [afterHeading] at found
    | cons char rest =>
      have here : headingFrom version true (char :: rest) = true := by
        rw [headingFrom, found]
        rfl
      rw [List.nil_append, headingFrom, ends, here, Bool.or_true]
  | cons char rest ih => rw [List.cons_append, headingFrom, ih, Bool.or_true]

theorem afterHeading_dated (behind : List Char) :
    (afterHeading version ("## [".toList ++ version ++ ']' :: behind)).isSome := by
  have bracket : (("## [".toList ++ version ++ ']' :: behind).drop 2).dropWhile isBlank =
      '[' :: (version ++ ']' :: behind) := by
    have blank : isBlank ' ' = true := by decide
    have dark : isBlank '[' = false := by decide
    simp [blank, dark]
  unfold afterHeading
  dsimp only
  rw [bracket]
  simp

theorem replaceUnreleased_infix {replacement : List Char} {atStart : Bool}
    {chars rolled : List Char}
    (replaced : replaceUnreleased replacement atStart chars = some rolled) :
    ∃ front back, rolled = front ++ replacement ++ back := by
  induction chars generalizing atStart rolled with
  | nil => cases replaced
  | cons char rest ih =>
    unfold replaceUnreleased at replaced
    split at replaced
    · exact ⟨[], _, (Option.some.inj replaced).symm⟩
    · obtain ⟨later, found, rfl⟩ := Option.map_eq_some_iff.mp replaced
      obtain ⟨front, back, rfl⟩ := ih found
      exact ⟨char :: front, back, rfl⟩

end Heading

theorem hasVersionHeading_rollChangelog {source version rolled : String} {ms : Int}
    (done : rollChangelog source version ms = .ok rolled) :
    hasVersionHeading rolled version = true := by
  unfold rollChangelog at done
  split at done
  · rename_i already
    rw [← Except.ok.inj done]
    exact already
  · dsimp only at done
    split at done
    · rename_i text replaced
      rw [← Except.ok.inj done]
      obtain ⟨front, back, rfl⟩ := replaceUnreleased_infix replaced
      have parts : front ++ (UNRELEASED_SKELETON ++ "\n" ++
          ("## [" ++ version ++ "] - " ++ formatDate ms)).toList ++ back =
          (front ++ UNRELEASED_SKELETON.toList) ++ '\n' :: ("## [".toList ++ version.toList ++
            ']' :: (" - ".toList ++ (formatDate ms).toList ++ back)) := by
        simp
      rw [hasVersionHeading, String.toList_ofList, parts]
      exact headingFrom_append _ (by decide) (afterHeading_dated _) true
    · cases done

/-! Headings at the start of a line: how they are read part by part, and where the first one is. -/

inductive HeadingPart where
  | char (keep : Char → Bool)
  | blanks

/-- What follows a heading of some parts at the start of a line, if there is one. -/
def readHeading : List HeadingPart → List Char → Option (List Char)
  | [], line => some line
  | .char keep :: parts, first :: rest => if keep first then readHeading parts rest else none
  | .char _ :: _, [] => none
  | .blanks :: parts, line => readHeading parts (line.dropWhile isBlank)

def HeadingPart.only (letter : Char) : HeadingPart := .char (· = letter)

def HeadingPart.letter (letter : Char) : HeadingPart := .char (·.toLower = letter.toLower)

def HeadingPart.digit : HeadingPart := .char Char.isDigit

open HeadingPart in
/-- The start of a section: two hashes and a bracket. -/
def sectionParts : List HeadingPart := [only '#', only '#', blanks, only '[']

open HeadingPart in
def datedParts (version : List Char) : List HeadingPart :=
  sectionParts ++ blanks :: version.map letter ++
    [blanks, only ']', blanks, only '-', blanks, digit, digit, digit, digit, only '-', digit, digit,
      only '-', digit, digit]

/-- What follows the blanks up to the end of a line, if nothing else does. -/
def toLineEnd (behind : List Char) : Option (List Char) :=
  let blanks := behind.takeWhile isBlank
  let rest := behind.dropWhile isBlank
  if rest = [] then some []
  else
    let kept := blanks.reverse.dropWhile fun char => !isLineEnd char
    match kept with
    | [] => none
    | ending :: _ => some (ending :: (blanks.drop kept.length ++ rest))

/-- What follows the dated heading of a version at the start of a line, if there is one. -/
def afterDated (version line : List Char) : Option (List Char) :=
  (readHeading (datedParts version) line).bind toLineEnd

/-- What stands in front of the first heading at the start of a line, and what follows it. -/
def firstHeading (heading : List Char → Option (List Char)) (atStart : Bool) :
    List Char → Option (List Char × List Char)
  | [] => none
  | char :: rest =>
    match (if atStart then heading (char :: rest) else none) with
    | some behind => some ([], behind)
    | none => (firstHeading heading (isLineEnd char) rest).map fun (front, behind) =>
        (char :: front, behind)

theorem readHeading_letters (name : List Char) (parts : List HeadingPart) (line : List Char) :
    readHeading (name.map HeadingPart.letter ++ parts) line =
      if (line.take name.length).map Char.toLower = name.map Char.toLower then
        readHeading parts (line.drop name.length)
      else none := by
  induction name generalizing line with
  | nil => simp
  | cons char rest ih =>
    cases line with
    | nil => simp [readHeading, HeadingPart.letter]
    | cons first others =>
      by_cases same : first.toLower = char.toLower
      · simp [readHeading, HeadingPart.letter, same, ih]
      · simp [readHeading, HeadingPart.letter, same]

open HeadingPart in
theorem afterHeading_eq (name line : List Char) :
    afterHeading name line = readHeading (sectionParts ++ name.map letter ++ [only ']']) line := by
  unfold afterHeading
  match line with
  | [] => rfl
  | [first] => simp [sectionParts, readHeading, only, List.isPrefixOf]
  | first :: second :: rest =>
    by_cases hashes : first = '#' ∧ second = '#'
    · obtain ⟨rfl, rfl⟩ := hashes
      simp only [sectionParts, List.cons_append, List.nil_append, readHeading, only,
        decide_true, if_true, List.drop_succ_cons, List.drop_zero, List.isPrefixOf, BEq.rfl,
        Bool.and_self, true_and]
      cases bracket : rest.dropWhile isBlank with
      | nil => simp [readHeading]
      | cons char named =>
        by_cases opens : char = '['
        · subst opens
          simp only [readHeading, decide_true, if_true, List.head?_cons, List.drop_succ_cons,
            List.drop_zero, true_and, readHeading_letters]
          by_cases same : (named.take name.length).map Char.toLower = name.map Char.toLower
          · cases closing : named.drop name.length with
            | nil => simp [readHeading]
            | cons last behind =>
              have next : named.drop (name.length + 1) = behind := by
                rw [← List.drop_drop, closing]
                rfl
              by_cases closes : last = ']'
              · simp [readHeading, same, closes, next]
              · simp [readHeading, same, closes]
          · rw [if_neg fun all => same all.1, if_neg same]
        · simp [readHeading, opens]
    · have other : ['#', '#'].isPrefixOf (first :: second :: rest) = false := by
        rw [Bool.eq_false_iff]
        intro both
        simp only [List.isPrefixOf, Bool.and_eq_true, beq_iff_eq] at both
        exact hashes ⟨both.1.symm, both.2.1.symm⟩
      rw [if_neg fun all => absurd all.1 (by simp [other])]
      by_cases sharp : first = '#'
      · have second' : second ≠ '#' := fun same => hashes ⟨sharp, same⟩
        simp [sectionParts, readHeading, only, second']
      · simp [sectionParts, readHeading, only, sharp]

theorem afterUnreleased_eq (line : List Char) :
    afterUnreleased line = (readHeading (sectionParts ++ "Unreleased".toList.map
      HeadingPart.letter ++ [HeadingPart.only ']']) line).bind toLineEnd := by
  rw [← afterHeading_eq]
  rfl

theorem replaceUnreleased_eq (replacement : List Char) (atStart : Bool) (chars : List Char) :
    replaceUnreleased replacement atStart chars =
      (firstHeading afterUnreleased atStart chars).map fun (front, behind) =>
        front ++ replacement ++ behind := by
  induction chars generalizing atStart with
  | nil => rfl
  | cons char rest ih =>
    rw [replaceUnreleased, firstHeading]
    cases (if atStart then afterUnreleased (char :: rest) else none) with
    | some behind => rfl
    | none => simp [ih, Function.comp_def]

def startsLine (atStart : Bool) (front : List Char) : Bool :=
  (front.getLast?.map isLineEnd).getD atStart

theorem startsLine_cons (atStart : Bool) (char : Char) (front : List Char) :
    startsLine atStart (char :: front) = startsLine (isLineEnd char) front := by
  cases front with
  | nil => rfl
  | cons next rest => simp [startsLine, List.getLast?_cons]

variable {heading : List Char → Option (List Char)} {front behind : List Char}

theorem firstHeading_spec {atStart : Bool} {chars : List Char}
    (found : firstHeading heading atStart chars = some (front, behind)) :
    ∃ headed, chars = front ++ headed ∧ heading headed = some behind ∧
      startsLine atStart front = true := by
  induction chars generalizing atStart front with
  | nil => cases found
  | cons char rest ih =>
    rw [firstHeading] at found
    cases here : (if atStart then heading (char :: rest) else none) with
    | some text =>
      rw [here] at found
      cases found
      cases atStart with
      | false => cases here
      | true => exact ⟨_, rfl, here, rfl⟩
    | none =>
      rw [here] at found
      obtain ⟨⟨later, text⟩, next, same⟩ := Option.map_eq_some_iff.mp found
      cases same
      obtain ⟨headed, rfl, read, line⟩ := ih next
      exact ⟨headed, rfl, read, (startsLine_cons _ _ _).trans line⟩

theorem firstHeading_of_read {chars : List Char} (some : chars ≠ [])
    (read : heading chars = .some behind) :
    firstHeading heading true chars = .some ([], behind) := by
  cases chars with
  | nil => exact absurd rfl some
  | cons char rest => rw [firstHeading, if_pos rfl, read]

/-- A heading that begins with a hash is read without regard to what follows the next hash. -/
def ReadsWithin (heading : List Char → Option (List Char)) : Prop :=
  ∀ near, startsLine false near = true → ∃ read : Option (List Char), ∀ far,
    heading (near ++ '#' :: far) = read.map (· ++ '#' :: far)

def HeadingPart.noHash : HeadingPart → Bool
  | .char keep => !keep '#'
  | .blanks => true

def NoHash (parts : List HeadingPart) : Prop := parts.all HeadingPart.noHash = true

instance (parts : List HeadingPart) : Decidable (NoHash parts) :=
  inferInstanceAs (Decidable (_ = true))

variable {parts : List HeadingPart}

theorem NoHash.head {keep : Char → Bool} (noHash : NoHash (.char keep :: parts)) :
    keep '#' = false := by
  simpa [HeadingPart.noHash] using (Bool.and_eq_true_iff.mp noHash).1

theorem NoHash.tail {part : HeadingPart} (noHash : NoHash (part :: parts)) : NoHash parts :=
  (Bool.and_eq_true_iff.mp noHash).2

theorem readHeading_append_hash (noHash : NoHash parts) (near far : List Char) :
    readHeading parts (near ++ '#' :: far) =
      (readHeading parts near).map (· ++ '#' :: far) := by
  induction parts generalizing near with
  | nil => rfl
  | cons part parts ih =>
    cases part with
    | char keep =>
      cases near with
      | nil => simp [readHeading, noHash.head]
      | cons first rest =>
        rw [List.cons_append, readHeading, readHeading, ih noHash.tail]
        split <;> rfl
    | blanks =>
      rw [readHeading, readHeading, ← ih noHash.tail]
      congr 1
      -- A hash is no blank.
      rw [List.dropWhile_append]
      split
      · rename_i whole
        rw [List.isEmpty_iff.mp whole]
        rfl
      · rfl

theorem readsWithin_readHeading {parts : List HeadingPart} (noHash : NoHash parts) :
    ReadsWithin (readHeading (.only '#' :: .only '#' :: parts)) := by
  intro near line
  match near with
  | [] => cases line
  | [first] =>
    -- A text that ends a line is no hash.
    have other : first ≠ '#' := by
      rintro rfl
      exact absurd line (by decide)
    exact ⟨none, fun far => by simp [readHeading, HeadingPart.only, other]⟩
  | first :: second :: rest =>
    refine ⟨readHeading (.only '#' :: .only '#' :: parts) (first :: second :: rest), fun far => ?_⟩
    simp only [List.cons_append, readHeading, HeadingPart.only,
      readHeading_append_hash noHash rest far]
    split
    · split <;> rfl
    · rfl

theorem readsWithin_toLineEnd (within : ReadsWithin heading) :
    ReadsWithin fun line => (heading line).bind toLineEnd := by
  intro near line
  obtain ⟨read, reads⟩ := within near line
  cases read with
  | none => exact ⟨none, fun far => by simp [reads]⟩
  | some behind =>
    -- The hash is what follows the blanks, if nothing else does.
    refine ⟨match (behind.takeWhile isBlank).reverse.dropWhile fun char => !isLineEnd char with
      | [] => none
      | ending :: kept => some (ending :: ((behind.takeWhile isBlank).drop (kept.length + 1) ++
          behind.dropWhile isBlank)), fun far => ?_⟩
    have taken : (behind ++ '#' :: far).takeWhile isBlank = behind.takeWhile isBlank := by
      rw [List.takeWhile_append]
      split
      · rename_i whole
        have all := List.IsPrefix.eq_of_length (List.takeWhile_prefix isBlank) whole
        rw [all]
        exact List.append_nil _
      · rfl
    have left : (behind ++ '#' :: far).dropWhile isBlank =
        behind.dropWhile isBlank ++ '#' :: far := by
      rw [List.dropWhile_append]
      split
      · rename_i whole
        rw [List.isEmpty_iff.mp whole]
        rfl
      · rfl
    dsimp only
    rw [reads, Option.map_some, Option.bind_some, toLineEnd]
    dsimp only
    rw [taken, left, if_neg (by simp)]
    cases (behind.takeWhile isBlank).reverse.dropWhile fun char => !isLineEnd char with
    | nil => rfl
    | cons ending kept => simp

theorem firstHeading_append_hash {heading : List Char → Option (List Char)}
    (within : ReadsWithin heading) {atStart : Bool} {front : List Char}
    (line : startsLine atStart front = true) :
    (∃ above behind, above.length < front.length ∧ ∀ far,
      firstHeading heading atStart (front ++ '#' :: far) = some (above, behind ++ '#' :: far)) ∨
    ∀ far, firstHeading heading atStart (front ++ '#' :: far) =
      (firstHeading heading true ('#' :: far)).map
        fun (more, behind) => (front ++ more, behind) := by
  induction front generalizing atStart with
  | nil =>
    right
    intro far
    have starts : atStart = true := line
    simp [starts]
  | cons char rest ih =>
    rw [startsLine_cons] at line
    obtain ⟨read, reads⟩ := within (char :: rest) ((startsLine_cons _ _ _).trans line)
    have here (far : List Char) : (if atStart then heading (char :: rest ++ '#' :: far) else none) =
        (if atStart then read else none).map (· ++ '#' :: far) := by
      rw [reads]
      split <;> rfl
    cases found : (if atStart then read else none) with
    | some behind =>
      refine .inl ⟨[], behind, Nat.succ_pos _, fun far => ?_⟩
      have first := here far
      rw [found] at first
      rw [List.cons_append, firstHeading, ← List.cons_append, first]
      rfl
    | none =>
      -- The heading is looked for further on, on either side of the text's end.
      have next (far : List Char) : firstHeading heading atStart (char :: rest ++ '#' :: far) =
          (firstHeading heading (isLineEnd char) (rest ++ '#' :: far)).map
            fun (more, behind) => (char :: more, behind) := by
        have first := here far
        rw [found] at first
        rw [List.cons_append, firstHeading, ← List.cons_append, first]
        rfl
      rcases ih line with ⟨above, behind, shorter, inside⟩ | outside
      · refine .inl ⟨char :: above, behind, Nat.succ_lt_succ shorter, fun far => ?_⟩
        rw [next, inside]
        rfl
      · right
        intro far
        rw [next, outside, Option.map_map]
        rfl

theorem firstHeading_replace (within : ReadsWithin heading) {far other : List Char}
    (line : startsLine true front = true)
    (found : firstHeading heading true (front ++ '#' :: far) = some (front, behind)) :
    firstHeading heading true (front ++ '#' :: other) =
      (firstHeading heading true ('#' :: other)).map
        fun (more, behind) => (front ++ more, behind) := by
  rcases firstHeading_append_hash within line with ⟨above, rest, shorter, inside⟩ | outside
  · rw [inside] at found
    cases found
    exact absurd shorter (Nat.lt_irrefl _)
  · exact outside other

variable {line : List Char}

theorem readHeading_taken {last : Char → Bool} (noHash : NoHash (parts ++ [.char last]))
    (read : readHeading (parts ++ [.char last]) line = some behind) :
    ∃ taken, line = taken ++ behind ∧ taken ≠ [] ∧ '#' ∉ taken ∧
      ∀ other, readHeading (parts ++ [.char last]) (taken ++ other) = some other := by
  induction parts generalizing line with
  | nil =>
    cases line with
    | nil => cases read
    | cons first rest =>
      rw [List.nil_append, readHeading] at read
      by_cases kept : last first = true
      · rw [if_pos kept] at read
        cases read
        refine ⟨[first], rfl, List.cons_ne_nil _ _, fun member => ?_, fun other => ?_⟩
        · rw [← List.mem_singleton.mp member] at kept
          exact absurd kept (by simp [noHash.head])
        · simp [readHeading, kept]
      · rw [if_neg kept] at read
        cases read
  | cons part parts ih =>
    cases part with
    | char keep =>
      cases line with
      | nil => cases read
      | cons first rest =>
        rw [List.cons_append, readHeading] at read
        by_cases kept : keep first = true
        · rw [if_pos kept] at read
          obtain ⟨taken, rfl, -, plain, reads⟩ := ih noHash.tail read
          refine ⟨first :: taken, rfl, List.cons_ne_nil _ _, fun member => ?_, fun other => ?_⟩
          · rcases List.mem_cons.mp member with rfl | later
            · exact absurd kept (by simp [noHash.head])
            · exact plain later
          · rw [List.cons_append, List.cons_append, readHeading, if_pos kept, reads]
        · rw [if_neg kept] at read
          cases read
    | blanks =>
      rw [List.cons_append, readHeading] at read
      obtain ⟨taken, rest, some, plain, reads⟩ := ih noHash.tail read
      have blank : ∀ char ∈ line.takeWhile isBlank, isBlank char = true := fun char member =>
        List.mem_takeWhile_imp member
      refine ⟨line.takeWhile isBlank ++ taken, ?_, by simp [some], fun member => ?_,
        fun other => ?_⟩
      · rw [List.append_assoc, ← rest, List.takeWhile_append_dropWhile]
      · rcases List.mem_append.mp member with found | later
        · exact absurd (blank _ found) (by decide)
        · exact plain later
      · -- What is taken behind the blanks begins with no blank.
        cases taken with
        | nil => exact absurd rfl some
        | cons first more =>
          have dark : isBlank first = false := by
            have head := List.head?_dropWhile_not isBlank line
            rw [rest] at head
            simpa using head
          rw [List.cons_append, readHeading, List.append_assoc,
            List.dropWhile_append_of_pos blank, List.cons_append,
            List.dropWhile_cons_of_neg (by simp [dark]), ← List.cons_append, reads]

theorem toLineEnd_append {early late rest : List Char} {ending first : Char}
    (blank : ∀ char ∈ early ++ ending :: late, isBlank char = true)
    (ends : isLineEnd ending = true) (inLine : ∀ char ∈ late, isLineEnd char = false)
    (dark : isBlank first = false) :
    toLineEnd (early ++ ending :: (late ++ first :: rest)) =
      some (ending :: (late ++ first :: rest)) := by
  have whole : early ++ ending :: (late ++ first :: rest) =
      (early ++ ending :: late) ++ first :: rest := by simp
  have taken : (early ++ ending :: (late ++ first :: rest)).takeWhile isBlank =
      early ++ ending :: late := by
    rw [whole, List.takeWhile_append_of_pos blank, List.takeWhile_cons_of_neg (by simp [dark]),
      List.append_nil]
  have left : (early ++ ending :: (late ++ first :: rest)).dropWhile isBlank = first :: rest := by
    rw [whole, List.dropWhile_append_of_pos blank, List.dropWhile_cons_of_neg (by simp [dark])]
  have kept : ((early ++ ending :: late).reverse.dropWhile fun char => !isLineEnd char) =
      ending :: early.reverse := by
    rw [List.reverse_append, List.reverse_cons, List.append_assoc,
      List.dropWhile_append_of_pos fun char member => by
        simp [inLine char (List.mem_reverse.mp member)]]
    simp [ends]
  rw [toLineEnd]
  dsimp only
  rw [taken, left, kept, if_neg (List.cons_ne_nil _ _)]
  simp

/-- The blanks up to the end of a line, and what follows them: nothing, or the end of the line. -/
theorem toLineEnd_spec {body : List Char} (ends : toLineEnd behind = some body) :
    (∃ taken, behind = taken ++ body ∧ ∀ char ∈ taken, isBlank char = true) ∧
      (body = [] ∨ ∃ ending rest, body = ending :: rest ∧ isLineEnd ending = true) ∧
      toLineEnd body = some body := by
  unfold toLineEnd at ends
  dsimp only at ends
  cases left : behind.dropWhile isBlank with
  | nil =>
    rw [if_pos left] at ends
    cases ends
    refine ⟨⟨behind, (List.append_nil _).symm, ?_⟩, .inl rfl, rfl⟩
    simpa [List.dropWhile_eq_nil_iff] using left
  | cons first rest =>
    rw [left, if_neg (List.cons_ne_nil _ _)] at ends
    have dark : isBlank first = false := by
      have head := List.head?_dropWhile_not isBlank behind
      rw [left] at head
      simpa using head
    have parts := List.takeWhile_append_dropWhile (p := isBlank) (l := behind)
    have blank : ∀ char ∈ behind.takeWhile isBlank, isBlank char = true := fun char member =>
      List.mem_takeWhile_imp member
    rw [left] at parts
    generalize behind.takeWhile isBlank = blanks at ends parts blank
    -- The blanks are cut in front of the last end of a line among them.
    have halves := List.takeWhile_append_dropWhile (p := fun char => !isLineEnd char)
      (l := blanks.reverse)
    have inLine : ∀ char ∈ blanks.reverse.takeWhile fun char => !isLineEnd char,
        isLineEnd char = false := fun char member => by
      simpa using List.mem_takeWhile_imp member
    cases kept : blanks.reverse.dropWhile fun char => !isLineEnd char with
    | nil => simp [kept] at ends
    | cons ending early =>
      have ending_end : isLineEnd ending = true := by
        have head := List.head?_dropWhile_not (fun char => !isLineEnd char) blanks.reverse
        rw [kept] at head
        simpa using head
      rw [kept] at halves
      generalize (blanks.reverse.takeWhile fun char => !isLineEnd char) = late at halves inLine
      have split : blanks = early.reverse ++ ending :: late.reverse := by
        rw [← List.reverse_reverse blanks, ← halves]
        simp
      have body_eq : body = ending :: (late.reverse ++ first :: rest) := by
        rw [kept] at ends
        rw [← Option.some.inj ends, split, List.length_cons, ← List.length_reverse,
          List.drop_append]
        simp
      have lateInLine : ∀ char ∈ late.reverse, isLineEnd char = false := fun char member =>
        inLine char (List.mem_reverse.mp member)
      refine ⟨⟨early.reverse, ?_, fun char member => ?_⟩, .inr ⟨_, _, body_eq, ending_end⟩, ?_⟩
      · rw [← parts, split, body_eq]
        simp
      · exact blank char (split ▸ List.mem_append_left _ member)
      · rw [body_eq]
        refine @toLineEnd_append [] _ _ _ _ (fun char member => ?_) ending_end lateInLine dark
        exact blank char (split ▸ List.mem_append_right _ member)

theorem readHeading_digits {digits : List Char} (all : ∀ char ∈ digits, char.isDigit = true)
    (parts : List HeadingPart) (rest : List Char) :
    readHeading (List.replicate digits.length .digit ++ parts) (digits ++ rest) =
      readHeading parts rest := by
  induction digits with
  | nil => rfl
  | cons first more ih =>
    rw [List.length_cons, List.replicate_succ, List.cons_append, List.cons_append,
      HeadingPart.digit, readHeading, if_pos (all first List.mem_cons_self)]
    exact ih fun char member => all char (List.mem_cons_of_mem _ member)

theorem readHeading_front {parts more : List HeadingPart} {line : List Char}
    (read : (readHeading (parts ++ more) line).isSome = true) :
    (readHeading parts line).isSome = true := by
  induction parts generalizing line with
  | nil => rfl
  | cons part parts ih =>
    cases part with
    | char keep =>
      cases line with
      | nil => exact read
      | cons first rest =>
        rw [List.cons_append, readHeading] at read
        rw [readHeading]
        by_cases kept : keep first = true
        · rw [if_pos kept] at read ⊢
          exact ih read
        · rw [if_neg kept] at read
          cases read
    | blanks => exact ih read

theorem readHeading_weaken {keep : Char → Bool} (other : Char → Bool)
    (weaker : ∀ char, keep char = true → other char = true)
    (read : (readHeading (parts ++ [.char keep]) line).isSome = true) :
    (readHeading (parts ++ [.char other]) line).isSome = true := by
  induction parts generalizing line with
  | nil =>
    cases line with
    | nil => cases read
    | cons first rest =>
      rw [List.nil_append, readHeading] at read ⊢
      by_cases kept : keep first = true
      · rw [if_pos (weaker first kept)]
        rfl
      · rw [if_neg kept] at read
        cases read
  | cons part parts ih =>
    cases part with
    | char test =>
      cases line with
      | nil => cases read
      | cons first rest =>
        rw [List.cons_append, readHeading] at read ⊢
        by_cases kept : test first = true
        · rw [if_pos kept] at read ⊢
          exact ih read
        · rw [if_neg kept] at read
          cases read
    | blanks => exact ih read

theorem firstHeading_eq_none {heading wider : List Char → Option (List Char)}
    (narrower : ∀ line, (heading line).isSome = true → (wider line).isSome = true)
    {atStart : Bool} {chars : List Char} (absent : firstHeading wider atStart chars = none) :
    firstHeading heading atStart chars = none := by
  induction chars generalizing atStart with
  | nil => rfl
  | cons char rest ih =>
    rw [firstHeading] at absent ⊢
    cases atStart with
    | false =>
      simp only [Bool.false_eq_true, if_false, Option.map_eq_none_iff] at absent ⊢
      exact ih absent
    | true =>
      simp only [if_true] at absent ⊢
      cases wide : wider (char :: rest) with
      | some behind => simp [wide] at absent
      | none =>
        have here : heading (char :: rest) = none := by
          rw [← Option.not_isSome_iff_eq_none]
          intro some
          simpa [wide] using narrower _ some
        simp only [wide, here, Option.map_eq_none_iff] at absent ⊢
        exact ih absent

theorem readHeading_suffix (read : readHeading parts line = some behind) : behind <:+ line := by
  induction parts generalizing line with
  | nil => exact Option.some.inj read ▸ List.suffix_refl _
  | cons part parts ih =>
    cases part with
    | char keep =>
      cases line with
      | nil => cases read
      | cons first rest =>
        rw [readHeading] at read
        by_cases kept : keep first = true
        · rw [if_pos kept] at read
          exact (ih read).trans (List.suffix_cons _ _)
        · rw [if_neg kept] at read
          cases read
    | blanks => exact (ih read).trans (List.dropWhile_suffix _)

theorem startsLine_suffix (line : startsLine true front = true) (suffix : behind <:+ front) :
    startsLine true behind = true := by
  obtain ⟨before, rfl⟩ := suffix
  cases behind with
  | nil => rfl
  | cons first rest =>
    rw [startsLine, List.getLast?_append] at line
    rw [startsLine]
    cases last : (first :: rest).getLast? with
    | none => rfl
    | some char => simpa [last] using line

end BitBrat
