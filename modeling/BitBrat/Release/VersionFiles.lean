import Mathlib.Data.Prod.Lex
import BitBrat.Git.Repository
import BitBrat.Js.NumberText
import BitBrat.Js.Path

/-! Versions of three numbers, and the one that follows a version. -/

namespace BitBrat

open Js

structure SemVer where
  major : Nat
  minor : Nat
  patch : Nat
  deriving DecidableEq

def trimmedText (text : String) : String := String.ofList (trimBlanks text.toList)

def semVerPart (chars : List Char) : Option Nat :=
  if chars = ['0'] ∨ (chars ≠ [] ∧ chars.head? ≠ some '0' ∧ chars.all Char.isDigit) then
    some (Nat.ofDigitChars 10 chars 0)
  else none

def semVerOf (value : String) : Option SemVer :=
  match ((trimBlanks value.toList).splitOn '.').mapM semVerPart with
  | some [major, minor, patch] => some { major, minor, patch }
  | _ => none

def isValidSemVer (value : String) : Bool := (semVerOf value).isSome

def parseSemVer (value : String) : Except String SemVer :=
  match semVerOf value with
  | some version => .ok version
  | none =>
    .error ("Malformed version \"" ++ value ++ "\": expected a plain SemVer triple like 1.2.3 " ++
      "(no leading zeros, no 'v' prefix, no pre-release).")

def formatSemVer (version : SemVer) : String :=
  toString version.major ++ "." ++ toString version.minor ++ "." ++ toString version.patch

/-- The version that a bump leads to: the next patch, minor or major one, or the one it names. -/
def computeNextVersion (current bump : String) : Except String String := do
  let cur ← parseSemVer current
  let arg := trimmedText bump
  if arg = "" then
    .error "Missing bump argument. Provide one of: patch | minor | major | <explicit x.y.z>."
  else if arg = "patch" then return formatSemVer { cur with patch := cur.patch + 1 }
  else if arg = "minor" then
    return formatSemVer { major := cur.major, minor := cur.minor + 1, patch := 0 }
  else if arg = "major" then return formatSemVer { major := cur.major + 1, minor := 0, patch := 0 }
  else if isValidSemVer arg then return formatSemVer (← parseSemVer arg)
  else
    .error ("Invalid bump argument \"" ++ bump ++ "\": expected patch | minor | major | " ++
      "an explicit SemVer triple (e.g. 1.2.3).")

theorem digit_or_dot_of_mem_formatSemVer {version : SemVer} {char : Char}
    (member : char ∈ (formatSemVer version).toList) : char.isDigit = true ∨ char = '.' := by
  simp only [formatSemVer, String.toList_append, List.mem_append] at member
  rcases member with (((digit | point) | digit) | point) | digit
  · exact .inl (isDigit_of_mem_toString digit)
  · exact .inr (by simpa using point)
  · exact .inl (isDigit_of_mem_toString digit)
  · exact .inr (by simpa using point)
  · exact .inl (isDigit_of_mem_toString digit)

theorem isBlank_of_mem_formatSemVer {version : SemVer} {char : Char}
    (member : char ∈ (formatSemVer version).toList) : isBlank char = false := by
  rcases digit_or_dot_of_mem_formatSemVer member with digit | rfl
  · exact isBlank_of_isDigit digit
  · decide

theorem trimmedText_formatSemVer (version : SemVer) :
    trimmedText (formatSemVer version) = formatSemVer version := by
  rw [trimmedText, trimBlanks_of_dark fun _ => isBlank_of_mem_formatSemVer, String.ofList_toList]

theorem trimmedText_computeNextVersion {current bump version : String}
    (next : computeNextVersion current bump = .ok version) : trimmedText version = version := by
  unfold computeNextVersion at next
  cases parsed : parseSemVer current with
  | error reason => simp [parsed, bind, Except.bind] at next
  | ok cur =>
    simp only [parsed, bind, Except.bind, pure, Except.pure] at next
    repeat' split at next
    all_goals first
      | (rw [← Except.ok.inj next]; exact trimmedText_formatSemVer _)
      | cases next

/-- Only a zero begins with a zero. -/
theorem head?_toDigits_ne {number : Nat} (positive : 0 < number) :
    (Nat.toDigits 10 number).head? ≠ some '0' := by
  induction number using Nat.strongRecOn with
  | ind number ih =>
    rcases Nat.lt_or_ge number 10 with small | large
    · have chars : ∀ digit : Fin 10, 0 < digit.val → digit.val.digitChar ≠ '0' := by decide
      rw [Nat.toDigits_of_lt_base small]
      simpa using chars ⟨number, small⟩ positive
    · rw [Nat.toDigits_of_base_le (by decide) large,
        List.head?_append_of_ne_nil _ Nat.toDigits_ne_nil]
      exact ih _ (by omega) (by omega)

theorem semVerPart_toDigits (number : Nat) :
    semVerPart (Nat.toDigits 10 number) = some number := by
  rw [semVerPart, if_pos, Nat.ofDigitChars_ten_toDigits]
  rcases Nat.eq_zero_or_pos number with rfl | positive
  · exact .inl (Nat.toDigits_zero 10)
  · exact .inr ⟨Nat.toDigits_ne_nil, head?_toDigits_ne positive,
      List.all_eq_true.mpr fun _ => Nat.isDigit_of_mem_toDigits (by decide) (by decide)⟩

theorem semVerOf_formatSemVer (version : SemVer) :
    semVerOf (formatSemVer version) = some version := by
  obtain ⟨major, minor, patch⟩ := version
  have parts : (formatSemVer ⟨major, minor, patch⟩).toList =
      ['.'].intercalate ([major, minor, patch].map (Nat.toDigits 10)) := by
    simp [formatSemVer, List.intercalate]
  have split : (formatSemVer ⟨major, minor, patch⟩).toList.splitOn '.' =
      [major, minor, patch].map (Nat.toDigits 10) := by
    rw [parts, List.splitOn_intercalate _ _ (by simp)]
    intro part member dot
    obtain ⟨number, _, rfl⟩ := List.mem_map.mp member
    exact absurd (Nat.isDigit_of_mem_toDigits (by decide) (by decide) dot) (by decide)
  rw [semVerOf, trimBlanks_of_dark fun _ => isBlank_of_mem_formatSemVer, split]
  simp [semVerPart_toDigits]

inductive BumpKeyword where
  | patch
  | minor
  | major

def BumpKeyword.text : BumpKeyword → String
  | patch => "patch"
  | minor => "minor"
  | major => "major"

/-- The versions of one release after the other. -/
def releases (current : String) : List BumpKeyword → Except String (List String)
  | [] => .ok []
  | bump :: rest => do
    let next ← computeNextVersion current bump.text
    return next :: (← releases next rest)

/-- Versions are compared by their first number, then by the second and by the third. -/
def SemVer.order (version : SemVer) : ℕ ×ₗ ℕ ×ₗ ℕ :=
  toLex (version.major, toLex (version.minor, version.patch))

def SemVer.largest (version : SemVer) : Nat := max version.major (max version.minor version.patch)

theorem computeNextVersion_keyword {current : String} {version : SemVer}
    (valid : semVerOf current = some version) (bump : BumpKeyword) : ∃ next : SemVer,
      computeNextVersion current bump.text = .ok (formatSemVer next) ∧
        version.order < next.order ∧ next.largest ≤ version.largest + 1 := by
  have keywords : trimmedText "patch" = "patch" ∧ trimmedText "minor" = "minor" ∧
      trimmedText "major" = "major" := by decide
  have parsed : parseSemVer current = .ok version := by rw [parseSemVer, valid]
  cases bump <;>
    refine ⟨_, by simp [computeNextVersion, parsed, keywords, BumpKeyword.text, bind, Except.bind,
      pure, Except.pure]; rfl, by simp [SemVer.order, Prod.Lex.toLex_lt_toLex], ?_⟩ <;>
    grind [SemVer.largest]

open Js Git

def ARCH_FILE : String := "architecture.yaml"

def PKG_FILE : String := "package.json"

def LOCK_FILE : String := "package-lock.json"

/-- What the version files rely on: where they are, and how they are parsed and printed. -/
structure VersionFilesEnv where
  rootDir : String
  yamlLoad : String → Except String Value
  jsonParse : String → Except String Value
  jsonText : Value → String
  /-- The text of a value with its fields on lines of their own. -/
  jsonPretty : Value → String
  /-- The lock file that the package manager writes for some files, if it writes one. -/
  npmInstall : FileTree → Option String
  npmFails : FileTree → Bool

section

variable (env : VersionFilesEnv)

def readFileSync (tree : FileTree) (file : String) : Except String String :=
  match tree.get? file with
  | some content => .ok content
  | none =>
    .error ("ENOENT: no such file or directory, open '" ++ Js.joinPath [env.rootDir, file] ++ "'")

def readArchitectureVersion (tree : FileTree) : Except String String :=
  match readFileSync env tree ARCH_FILE >>= env.yamlLoad with
  | .error message => .error ("Failed to read/parse " ++ ARCH_FILE ++ ": " ++ message)
  | .ok raw =>
    let version := (raw.get "project").get "version"
    let invalid : Except String String :=
      .error ("architecture.yaml project.version is missing or not a valid SemVer triple " ++
        "(found: " ++ env.jsonText version ++ ").")
    match version with
    | .str text => if isValidSemVer text then .ok (trimmedText text) else invalid
    | _ => invalid

def readJsonVersion (tree : FileTree) (file : String) : Except String String := do
  let parsed ← readFileSync env tree file >>= env.jsonParse
  match parsed.get "version" with
  | .str text => return trimmedText text
  | _ => .error (file ++ " has no string \"version\" field.")

def readPackageJsonVersion (tree : FileTree) : Except String String :=
  readJsonVersion env tree PKG_FILE

def readPackageLockVersion (tree : FileTree) : Except String String :=
  readJsonVersion env tree LOCK_FILE

/-- The versions of the three files, and whether they are the same. -/
structure VersionConsistency where
  ok : Bool
  architecture : String
  packageJson : String
  packageLock : String
  deriving DecidableEq

def readAllVersions (tree : FileTree) : Except String VersionConsistency := do
  let architecture ← readArchitectureVersion env tree
  let packageJson ← readPackageJsonVersion env tree
  let packageLock ← readPackageLockVersion env tree
  return {
    ok := architecture = packageJson ∧ packageJson = packageLock
    architecture, packageJson, packageLock }

/-- The versions of the three files, which have to be the same. -/
def assertVersionsConsistent (tree : FileTree) : Except String VersionConsistency := do
  let c ← readAllVersions env tree
  if c.ok then return c
  else
    .error ("Version mismatch: architecture.yaml=" ++ c.architecture ++ " package.json=" ++
      c.packageJson ++ " package-lock.json=" ++ c.packageLock ++ ".")

end

def isLineEnd (char : Char) : Bool := char.val ∈ [0xA, 0xD, 0x2028, 0x2029]

/-- Whether a line begins a section: a key without a blank in front. -/
def isTopLevelKey : List Char → Bool
  | [] => false
  | first :: rest => !isBlank first && first ≠ '#' && rest.contains ':'

def isProjectKey (line : List Char) : Bool :=
  "project".toList.isPrefixOf line && ((line.drop 7).dropWhile isBlank).head? = some ':'

/-- The quote that a text begins with, if it does, and what follows it. -/
def takeQuote : List Char → List Char × List Char
  | char :: rest => if char = '"' ∨ char = '\'' then ([char], rest) else ([], char :: rest)
  | [] => ([], [])

/-- The line of a version with another version, if it is such a line. -/
def replaceVersionLine (newVersion : List Char) (line : List Char) : Option (List Char) :=
  let lead := line.takeWhile isBlank
  let named := line.dropWhile isBlank
  if lead = [] ∨ "version:".toList.isPrefixOf named = false then none
  else
    let value := named.drop 8
    let (openQuote, text) := takeQuote (value.dropWhile isBlank)
    let inToken (char : Char) : Bool :=
      !isBlank char && char ≠ '"' && char ≠ '\'' && char ≠ '#'
    let (closeQuote, behind) := takeQuote (text.dropWhile inToken)
    let comment := behind.dropWhile isBlank
    if text.takeWhile inToken = [] then none
    else if comment = [] ∨ (comment.head? = some '#' ∧ comment.all fun char =>
        !isLineEnd char) then
      some (lead ++ "version:".toList ++ value.takeWhile isBlank ++ openQuote ++ newVersion ++
        closeQuote ++ behind.takeWhile isBlank ++ comment)
    else none

/-- The lines with another version in the section of the project, if there is one. -/
def replaceVersion (newVersion : List Char) (inProject : Bool) :
    List (List Char) → Option (List (List Char))
  | [] => none
  | line :: rest =>
    if isTopLevelKey line then
      (replaceVersion newVersion (isProjectKey line) rest).map (line :: ·)
    else if inProject then
      match replaceVersionLine newVersion line with
      | some replaced => some (replaced :: rest)
      | none => (replaceVersion newVersion inProject rest).map (line :: ·)
    else (replaceVersion newVersion inProject rest).map (line :: ·)

/-- The file of the architecture with another version of the project, and no other change. -/
def setArchitectureVersionInSource (source newVersion : String) : Except String String :=
  match replaceVersion newVersion.toList false (source.toList.splitOn '\n') with
  | some lines => .ok (String.ofList (['\n'].intercalate lines))
  | none =>
    .error ("Could not locate project.version in architecture.yaml; aborting to avoid touching " ++
      "behavioral architecture (Law #2).")

/-- What stands in front of a version in a file of packages, and behind it, if one begins here. -/
def versionFieldAt (chars : List Char) : Option (List Char × List Char) :=
  let name := "\"version\"".toList
  let gap := (chars.drop 9).takeWhile isBlank
  let colon := (chars.drop 9).dropWhile isBlank
  let space := (colon.drop 1).takeWhile isBlank
  let quoted := (colon.drop 1).dropWhile isBlank
  let behind := (quoted.drop 1).dropWhile (· ≠ '"')
  if name.isPrefixOf chars ∧ colon.head? = some ':' ∧ quoted.head? = some '"' ∧
      behind ≠ [] then
    some (name ++ gap ++ ":".toList ++ space ++ "\"".toList, behind)
  else none

/-- The text in which the first version is another one. -/
def replaceVersionField (newVersion : List Char) : List Char → Option (List Char)
  | [] => none
  | char :: rest =>
    match versionFieldAt (char :: rest) with
    | some (front, behind) => some (front ++ newVersion ++ behind)
    | none => (replaceVersionField newVersion rest).map (char :: ·)

def setPackageJsonVersionInSource (source newVersion : String) : Except String String :=
  match replaceVersionField newVersion.toList source.toList with
  | some out => .ok (String.ofList out)
  | none => .error "Could not locate \"version\" in package.json."

section

variable (env : VersionFilesEnv)

/-- Write the version of the architecture, and read it again. -/
def writeArchitectureVersion (newVersion : String) (dryRun : Bool) (tree : FileTree) :
    Except String FileTree := do
  let before ← readFileSync env tree ARCH_FILE
  let after ← setArchitectureVersionInSource before newVersion
  if dryRun then return tree
  else
    let reparsed ← env.yamlLoad after
    let version := (reparsed.get "project").get "version"
    if version = .str newVersion then return tree.set ARCH_FILE after
    else
      .error ("Post-write validation failed: architecture.yaml project.version is " ++
        env.jsonText version ++ ", expected " ++ newVersion ++ ".")

def writePackageJsonVersion (newVersion : String) (dryRun : Bool) (tree : FileTree) :
    Except String FileTree := do
  let before ← readFileSync env tree PKG_FILE
  let after ← setPackageJsonVersionInSource before newVersion
  if dryRun then return tree else return tree.set PKG_FILE after

/-- A lock file with another version, at its top and in its entry for the package itself. -/
def patchLock (newVersion : String) (lock : Value) : Except String Value :=
  match lock with
  | .obj _ =>
    let lock := lock.extend [("version", .str newVersion)]
    let packages := lock.get "packages"
    let self := packages.get ""
    if (self.get "version").isString then
      .ok (lock.extend [("packages", packages.extend
        [("", self.extend [("version", .str newVersion)])])])
    else .ok lock
  -- A version that is put on a list is not printed.
  | .arr _ => .ok lock
  | .undefined | .null =>
    .error ("Cannot set properties of " ++ lock.toText ++ " (setting 'version')")
  | .str text => .error ("Cannot create property 'version' on string '" ++ text ++ "'")
  | .num _ => .error ("Cannot create property 'version' on number '" ++ lock.toText ++ "'")
  | .bool _ => .error ("Cannot create property 'version' on boolean '" ++ lock.toText ++ "'")
  | .date _ => .ok lock

/-- Bring the lock file to the version: by the package manager, or else by writing it. -/
def syncLockfileVersion (newVersion : String) (dryRun : Bool) (tree : FileTree) :
    Except String FileTree := do
  if dryRun then return tree
  else
    let installed := ((env.npmInstall tree).map fun text => tree.set LOCK_FILE text).getD tree
    let synced ←
      if env.npmFails tree then Except.ok false
      else (readPackageLockVersion env installed).map fun version => version = newVersion
    if synced then return installed
    else
      let before ← readFileSync env installed LOCK_FILE
      let lock ← env.jsonParse before >>= patchLock newVersion
      let trailing := if ['\n'].isSuffixOf before.toList then "\n" else ""
      return installed.set LOCK_FILE (env.jsonPretty lock ++ trailing)

end

end BitBrat
