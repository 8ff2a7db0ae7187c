import BitBrat.Js.Assignment
import BitBrat.Js.JsonGrammar
import BitBrat.Release.VersionFiles

/-! The file of the package with another version, read as JSON. -/

namespace BitBrat

open Js

/-- A file of a package: an object in which the last property that is named `version` is a text. -/
structure PackageText where
  before : JsonBlanks
  early : List JsonMember
  version : JsonMember
  late : List JsonMember
  after : JsonBlanks
  text : List JsonChar
  each : ∀ member ∈ early ++ late, IsJsonText member.raw member.value
  named : jsonText version.name = "version"
  raw : version.raw = quotedChars text
  value : version.value = .str (jsonText text)
  last : ∀ member ∈ late, jsonText member.name ≠ "version"

namespace PackageText

variable (package : PackageText)

def front : List Char :=
  package.before.1 ++ '\x7b' :: ((package.early.flatMap fun member => member.chars ++ [',']) ++
    package.version.front.1)

/-- The characters of the version, from its name to the value. -/
def field : List Char :=
  quotedChars package.version.name ++ package.version.gap.1 ++ ':' ::
    (package.version.before.1 ++ package.version.raw)

def behind : List Char :=
  package.version.after.1 ++ (package.late.flatMap fun member => ',' :: member.chars) ++
    '\x7d' :: package.after.1

def chars : List Char := package.front ++ package.field ++ package.behind

def members : List JsonMember := package.early ++ package.version :: package.late

def doc : Value := .obj (assignMembers package.members)

/-- The first place of the file that looks like a version is the version at its top. -/
structure VersionFirst : Prop where
  name : package.version.name.flatMap JsonChar.chars = "version".toList
  plain : '"' ∉ package.text.flatMap JsonChar.chars
  first : ∀ skipped char left, package.front = skipped ++ char :: left →
    versionFieldAt (char :: left ++ (package.field ++ package.behind)) = none

end PackageText

theorem intercalate_comma (early : List (List Char)) (item : List Char)
    (late : List (List Char)) : [','].intercalate (early ++ item :: late) =
      (early.flatMap fun chars => chars ++ [',']) ++ item ++
        late.flatMap fun chars => ',' :: chars := by
  induction early with
  | nil =>
    induction late generalizing item with
    | nil => simp
    | cons next late ih =>
      have later := ih next
      simp only [List.nil_append, List.flatMap_nil] at later ⊢
      rw [List.intercalate_cons_cons, later]
      simp
  | cons first early ih =>
    cases early with
    | nil =>
      rw [List.nil_append] at ih
      rw [List.cons_append, List.nil_append, List.intercalate_cons_cons, ih]
      simp
    | cons second early =>
      rw [List.cons_append, List.cons_append, List.intercalate_cons_cons, ← List.cons_append, ih]
      simp

variable {package : PackageText}

theorem chars_eq : package.chars = package.before.1 ++
    ('\x7b' :: ([','].intercalate (package.members.map JsonMember.chars) ++ ['\x7d'])) ++
      package.after.1 := by
  rw [PackageText.members, List.map_append, List.map_cons, intercalate_comma]
  simp [PackageText.chars, PackageText.front, PackageText.field, PackageText.behind,
    JsonMember.chars, JsonItem.chars, List.flatMap_map]

theorem isJsonDocument_chars : IsJsonDocument package.chars package.doc := by
  refine ⟨package.before, package.after, _, .object package.members ?_ ?_, chars_eq⟩
  · simp [PackageText.members]
  · intro member listed
    rcases List.mem_append.mp listed with early | other
    · exact package.each member (List.mem_append_left _ early)
    · rcases List.mem_cons.mp other with rfl | late
      · rw [package.raw, package.value]
        exact .text package.text
      · exact package.each member (List.mem_append_right _ late)

def PackageText.withVersion (package : PackageText) (text : List JsonChar) : PackageText where
  before := package.before
  early := package.early
  version :=
    { package.version with raw := quotedChars text, value := .str (jsonText text) }
  late := package.late
  after := package.after
  text
  each := package.each
  named := package.named
  raw := rfl
  value := rfl
  last := package.last

theorem doc_withVersion (text : List JsonChar) :
    (package.withVersion text).doc = package.doc.extend [("version", .str (jsonText text))] := by
  have fresh : "version" ∉
      (package.late.map fun member => (jsonText member.name, member.value)).map Prod.fst := by
    simpa using fun member listed => package.last member listed
  have pairs (members : List JsonMember) (fields : List (String × Value)) :
      members.foldl (fun fields member => setEntry (jsonText member.name) member.value fields)
        fields =
      (members.map fun member => (jsonText member.name, member.value)).foldl
        (fun held entry => setEntry entry.1 entry.2 held) fields := by
    rw [List.foldl_map]
  rw [PackageText.doc, PackageText.doc, PackageText.members, PackageText.members, assignMembers,
    assignMembers, List.foldl_append, List.foldl_append, List.foldl_cons, List.foldl_cons, pairs,
    pairs package.late]
  simp only [PackageText.withVersion, package.named, Value.extend, Value.fields_obj,
    List.foldl_cons, List.foldl_nil]
  rw [foldl_setEntry_last fresh]

theorem charsOfUnits_cons {unit : UInt16} (low : unit.toNat < 0xD800) (rest : CodeUnits) :
    charsOfUnits (unit :: rest) = Char.ofNat unit.toNat :: charsOfUnits rest := by
  cases rest with
  | nil => rfl
  | cons other rest => rw [charsOfUnits, if_neg (by omega)]

theorem allowed_of_mem_formatSemVer {version : SemVer} {char : Char}
    (member : char ∈ (formatSemVer version).toList) :
    (char ≠ '"' ∧ char ≠ '\\' ∧ 0x20 ≤ char.toNat) ∧ char.toNat < 0x80 := by
  rcases digit_or_dot_of_mem_formatSemVer member with digit | rfl
  · obtain ⟨value, rfl⟩ := exists_of_isDigit digit
    have all : ∀ value : Fin 10, (Char.ofNat (48 + value) ≠ '"' ∧ Char.ofNat (48 + value) ≠ '\\' ∧
        0x20 ≤ (Char.ofNat (48 + value)).toNat) ∧ (Char.ofNat (48 + value)).toNat < 0x80 := by
      decide
    exact all value
  · decide

def versionChars (version : SemVer) : List JsonChar :=
  (formatSemVer version).toList.attach.map fun char =>
    .plain char.1 (allowed_of_mem_formatSemVer char.2).1

theorem flatMap_attach_val {α β : Type} (items : List α) (change : α → List β) :
    items.attach.flatMap (fun item => change item.1) = items.flatMap change := by
  conv_rhs => rw [← List.attach_map_subtype_val items, List.flatMap_map]

theorem flatMap_versionChars (version : SemVer) :
    (versionChars version).flatMap JsonChar.chars = (formatSemVer version).toList := by
  rw [versionChars, List.flatMap_map]
  simp only [JsonChar.chars]
  rw [flatMap_attach_val _ fun char => [char], List.flatMap_singleton']

theorem jsonText_versionChars (version : SemVer) :
    jsonText (versionChars version) = formatSemVer version := by
  have general (chars : List Char) (small : ∀ char ∈ chars, char.toNat < 0x80) :
      charsOfUnits (chars.flatMap unitsOfChar) = chars := by
    induction chars with
    | nil => rfl
    | cons char chars ih =>
      have less := small char List.mem_cons_self
      have unit : char.toNat.toUInt16.toNat = char.toNat := by
        simpa using Nat.mod_eq_of_lt (show char.toNat < 65536 by omega)
      have single : unitsOfChar char = [char.toNat.toUInt16] := by
        rw [unitsOfChar, if_pos (by omega)]
      rw [List.flatMap_cons, single, List.singleton_append, charsOfUnits_cons (by omega), unit,
        Char.ofNat_toNat, ih fun other member => small other (List.mem_cons_of_mem _ member)]
  have units : (versionChars version).flatMap JsonChar.units =
      (formatSemVer version).toList.flatMap unitsOfChar := by
    rw [versionChars, List.flatMap_map]
    simp only [JsonChar.units]
    exact flatMap_attach_val _ unitsOfChar
  rw [jsonText, units, general _ fun char member => (allowed_of_mem_formatSemVer member).2,
    String.ofList_toList]

theorem replaceVersionField_append (newVersion : List Char) {front rest : List Char}
    (first : ∀ skipped char left, front = skipped ++ char :: left →
      versionFieldAt (char :: left ++ rest) = none) :
    replaceVersionField newVersion (front ++ rest) =
      (replaceVersionField newVersion rest).map (front ++ ·) := by
  induction front with
  | nil => simp
  | cons char front ih =>
    have here := first [] char front rfl
    rw [List.cons_append] at here
    have later := ih fun skipped other left same =>
      first (char :: skipped) other left (by rw [same, List.cons_append])
    rw [List.cons_append, replaceVersionField, here, later, Option.map_map]
    rfl

theorem versionFieldAt_field (fits : package.VersionFirst) :
    versionFieldAt (package.field ++ package.behind) =
      some ("\"version\"".toList ++ package.version.gap.1 ++ ":".toList ++
        package.version.before.1 ++ "\"".toList, '"' :: package.behind) := by
  have blank (blanks : JsonBlanks) : ∀ char ∈ blanks.1, isBlank char = true := by
    intro char member
    rcases blanks.2 char member with rfl | rfl | rfl | rfl <;> decide
  have quote : ∀ char ∈ package.text.flatMap JsonChar.chars, (char ≠ '"' : Bool) = true := by
    intro char member
    have apart : char ≠ '"' := fun same => fits.plain (same ▸ member)
    simpa using apart
  have text : package.field ++ package.behind = "\"version\"".toList ++
      (package.version.gap.1 ++ ':' :: (package.version.before.1 ++
        '"' :: (package.text.flatMap JsonChar.chars ++ '"' :: package.behind))) := by
    simp [PackageText.field, package.raw, quotedChars, fits.name]
  rw [text]
  unfold versionFieldAt
  have nine : ("\"version\"".toList ++ (package.version.gap.1 ++ ':' :: (package.version.before.1 ++
      '"' :: (package.text.flatMap JsonChar.chars ++ '"' :: package.behind)))).drop 9 =
      package.version.gap.1 ++ ':' :: (package.version.before.1 ++
        '"' :: (package.text.flatMap JsonChar.chars ++ '"' :: package.behind)) := rfl
  dsimp only
  have colon : isBlank ':' = false := by decide
  have mark : isBlank '"' = false := by decide
  rw [nine, List.takeWhile_append_of_pos (blank _), List.dropWhile_append_of_pos (blank _),
    List.takeWhile_cons_of_neg (by simp [colon]), List.dropWhile_cons_of_neg (by simp [colon]),
    List.append_nil, List.drop_one, List.tail_cons, List.takeWhile_append_of_pos (blank _),
    List.dropWhile_append_of_pos (blank _), List.takeWhile_cons_of_neg (by simp [mark]),
    List.dropWhile_cons_of_neg (by simp [mark]), List.append_nil, List.drop_one, List.tail_cons,
    List.dropWhile_append_of_pos quote, List.dropWhile_cons_of_neg (by simp)]
  exact if_pos ⟨List.isPrefixOf_iff_prefix.mpr (List.prefix_append _ _), rfl, rfl,
    List.cons_ne_nil _ _⟩

/-- If the first place of a file of a package that looks like a version is the version at its top,
the file with another version is read as before, but for the version. -/
theorem setPackageJsonVersionInSource_parses (fits : package.VersionFirst) (version : SemVer)
    {out : String} (done : setPackageJsonVersionInSource (String.ofList package.chars)
      (formatSemVer version) = .ok out) :
    IsJsonDocument out.toList
      (package.doc.extend [("version", .str (formatSemVer version))]) := by
  have replaced : replaceVersionField (formatSemVer version).toList package.chars =
      some (package.withVersion (versionChars version)).chars := by
    rw [PackageText.chars, List.append_assoc, replaceVersionField_append _ fits.first]
    have here := versionFieldAt_field fits
    cases text : package.field ++ package.behind with
    | nil => simp [PackageText.field, quotedChars] at text
    | cons char rest =>
      rw [text] at here
      rw [replaceVersionField, here]
      simp [PackageText.chars, PackageText.front, PackageText.field, PackageText.behind,
        PackageText.withVersion, quotedChars, fits.name, flatMap_versionChars]
  rw [setPackageJsonVersionInSource, String.toList_ofList, replaced] at done
  rw [← Except.ok.inj done, String.toList_ofList, ← jsonText_versionChars version,
    ← doc_withVersion]
  exact isJsonDocument_chars

end BitBrat
