import Mathlib.Data.List.DropRight
import BitBrat.Brat.ContextResolver
import BitBrat.Js.Assignment

/-! The environment resolver: the overlays of a deployment, and the file they are written to. -/

namespace BitBrat

open Js

inductive PathEntry where
  | file (content : String)
  | directory (names : List String)

abbrev RepoTree := String → Option PathEntry

/-- The content of a file, where a path leads to one. -/
def RepoTree.content (tree : RepoTree) (path : String) : Option String :=
  match tree path with
  | some (.file content) => some content
  | _ => none

/-- The files of a repository: reading a directory fails, as reading a missing file does. -/
def RepoTree.files (tree : RepoTree) : Files := fun path =>
  (tree.content path).map fun content => { content, mtimeMs := 0 }

def RepoTree.isFile (tree : RepoTree) (path : String) : Bool := (tree.content path).isSome

def withoutExport (line : List Char) : List Char :=
  if "export ".toList.isPrefixOf line then trimBlanks (line.drop 7) else line

def stripQuotes (val : List Char) : List Char :=
  let trimmed := trimBlanks val
  let quoted (quote : Char) : Bool :=
    trimmed.head? = some quote ∧ trimmed.getLast? = some quote
  if quoted '"' ∨ quoted '\'' then (trimmed.drop 1).dropLast else trimmed

section

variable (env : ResolverEnv)

def expandTilde (val : List Char) : String :=
  if val = ['~'] then env.homedir
  else if ['~', '/'].isPrefixOf val then Js.joinPath [env.homedir, String.ofList (val.drop 2)]
  else String.ofList val

/-- The variable that a line sets, if it sets one. -/
def localLine (line : List Char) : Option (String × String) :=
  let line := trimBlanks line
  if line = [] ∨ line.head? = some '#' then none
  else
    let line := withoutExport line
    if '=' ∉ line then none
    else
      let key := trimBlanks (line.takeWhile (· ≠ '='))
      let value := expandTilde env
        (stripQuotes (trimBlanks ((line.dropWhile (· ≠ '=')).drop 1)))
      if key = [] then none else some (String.ofList key, value)

/-- The variables that the lines of a text set, one after the other. -/
def readLines (content : String) : List (String × String) :=
  (content.toList.splitOn '\n').filterMap (localLine env)

def loadSecureLocal (tree : RepoTree) (filePath : String) : List (String × Value) :=
  match tree.content filePath with
  | some content => (readLines env content).map fun (key, value) => (key, .str value)
  | none => []

/-- Where the secrets of a deployment are: in a directory, or in a file of the older format. -/
def secureFilePath (tree : RepoTree) (envName : String) (securePath : Option String) : String :=
  match securePath.bind nonEmpty with
  | some securePath =>
    let providedPath := Js.joinPath [env.repoRoot, securePath]
    if tree.isFile providedPath then providedPath else Js.joinPath [providedPath, ".env"]
  | none =>
    let newFormatPath := Js.joinPath [env.repoRoot, ".secure." ++ envName, ".env"]
    let oldFormatPath := Js.joinPath [env.repoRoot, ".secure." ++ envName]
    if (tree newFormatPath).isSome then newFormatPath
    else if tree.isFile oldFormatPath then oldFormatPath
    else newFormatPath

def overlayDir (envName : String) : String := Js.joinPath [env.repoRoot, "env", envName]

/-- The names in a directory: a missing one has none, and a file cannot be listed. -/
def listedNames (tree : RepoTree) (path : String) : Option (List String) :=
  match tree path with
  | none => some []
  | some (.directory names) => some names
  | some (.file _) => none

/-- The overlays of services: every overlay that is neither global nor of the infrastructure. -/
def serviceFiles (names : List String) : List String :=
  names.filter fun file =>
    ".yaml".toList.isSuffixOf file.toList ∧ file ≠ "global.yaml" ∧ file ≠ "infra.yaml"

def overlayOf (tree : RepoTree) (envName file : String) : List (String × Value) :=
  loadYamlIfExists env (tree.content (Js.joinPath [overlayDir env envName, file]))

/-- The variables of all overlays, of which later ones override earlier ones. -/
def mergedOverlays (tree : RepoTree) (envName : String) (securePath : Option String)
    (names : List String) : Value :=
  let serviceYaml :=
    (Value.obj []).extend ((serviceFiles names).flatMap (overlayOf env tree envName))
  let secureEnv := (Value.obj []).extend
    (loadSecureLocal env tree (secureFilePath env tree envName securePath))
  (Value.obj []).extend (overlayOf env tree envName "global.yaml" ++
    overlayOf env tree envName "infra.yaml" ++ serviceYaml.fields ++ secureEnv.fields)

def composesUrl (read : String → Value) : Bool :=
  !(read "DATABASE_URL").truthy && (read "POSTGRES_HOST").truthy && (read "POSTGRES_DB").truthy

/-- The address of the database, put together from its parts. -/
def databaseUrl (read : String → Value) : String :=
  let part (name fallback : String) := ((read name).or (.str fallback)).toText
  "postgresql://" ++ part "POSTGRES_USER" "bitbrat" ++ ":" ++
    part "POSTGRES_PASSWORD" "bitbrat_dev_password" ++ "@" ++
    (read "POSTGRES_HOST").toText ++ ":" ++ part "POSTGRES_PORT" "5432" ++ "/" ++
    (read "POSTGRES_DB").toText

/-- The variables with a port of the service, if they have none. -/
def withPort (merged : Value) : Value :=
  if merged.get "SERVICE_PORT" = .undefined then
    merged.extend [("SERVICE_PORT", .num (.finite 3000))]
  else merged

/-- The variables with an address of the database, if it is put together. -/
def withDatabaseUrl (merged : Value) : Value :=
  if composesUrl merged.get then
    merged.extend [("DATABASE_URL", .str (databaseUrl merged.get))]
  else merged

/-- The variables of a deployment, unless its directory cannot be listed. -/
def resolveEnvironment (tree : RepoTree) (envName : String) (securePath : Option String) :
    Option Value :=
  (listedNames tree (overlayDir env envName)).map fun names =>
    withDatabaseUrl (withPort (mergedOverlays env tree envName securePath names))

end

def dotEnvLine (entry : String × String) : String := entry.1 ++ "=" ++ entry.2

def writtenVars (vars : List (String × Value)) : List (String × String) :=
  (vars.filter fun entry => entry.2 ≠ .undefined ∧ entry.2 ≠ .null).map fun entry =>
    (entry.1, entry.2.toText)

/-- The file with a line for each variable, in the order of the lines. -/
def flattenToDotEnv (vars : List (String × Value)) : String :=
  let lines := (writtenVars vars).map dotEnvLine
  String.intercalate "\n" (lines.mergeSort fun left right => codeUnits left ≤ codeUnits right) ++
    "\n"

/-! Files with a variable on every line: when what is written is what is read back. -/

section Trimming

variable {char : Char}

theorem rdropWhile_append_cons (dark : isBlank char = false) (front back : List Char) :
    (front ++ char :: back).rdropWhile isBlank = front ++ char :: back.rdropWhile isBlank := by
  rw [List.rdropWhile, List.reverse_append, List.reverse_cons, List.append_assoc,
    List.dropWhile_append]
  split
  · rename_i blank
    simp [dark, List.rdropWhile, List.isEmpty_iff.mp blank]
  · simp [List.rdropWhile]

theorem trimBlanks_append_cons (dark : isBlank char = false) (front back : List Char) :
    trimBlanks (front ++ char :: back) =
      front.dropWhile isBlank ++ char :: back.rdropWhile isBlank := by
  have left : (front ++ char :: back).dropWhile isBlank =
      front.dropWhile isBlank ++ char :: back := by
    rw [List.dropWhile_append]
    split
    · rename_i blank
      rw [List.isEmpty_iff.mp blank]
      simp [dark]
    · rfl
  unfold trimBlanks
  rw [left]
  exact rdropWhile_append_cons dark _ _

variable {chars : List Char}

theorem trimBlanks_of_blank (blank : ∀ char ∈ chars, isBlank char = true) :
    trimBlanks chars = [] := by
  have gone : chars.dropWhile isBlank = [] := List.dropWhile_eq_nil_iff.mpr blank
  rw [trimBlanks, gone]
  rfl

theorem trimBlanks_rdropWhile (chars : List Char) :
    trimBlanks (chars.rdropWhile isBlank) = trimBlanks chars := by
  by_cases blank : ∀ char ∈ chars, isBlank char = true
  · rw [List.rdropWhile_eq_nil_iff.mpr blank, trimBlanks_of_blank blank]
    rfl
  · push Not at blank
    obtain ⟨char, member, dark⟩ := blank
    obtain ⟨front, back, rfl⟩ := List.append_of_mem member
    have dark : isBlank char = false := by simpa using dark
    rw [rdropWhile_append_cons dark, trimBlanks_append_cons dark, trimBlanks_append_cons dark,
      List.rdropWhile_idempotent]

theorem trimBlanks_sublist (chars : List Char) : (trimBlanks chars).Sublist chars :=
  (List.rdropWhile_prefix isBlank _).sublist.trans (List.dropWhile_suffix isBlank).sublist

theorem dropWhile_of_trimmed (trimmed : trimBlanks chars = chars) :
    chars.dropWhile isBlank = chars := by
  refine (List.dropWhile_suffix isBlank).sublist.eq_of_length_le ?_
  have short := (List.rdropWhile_prefix isBlank (chars.dropWhile isBlank)).length_le
  rwa [show (chars.dropWhile isBlank).rdropWhile isBlank = chars from trimmed] at short

theorem trimBlanks_trimBlanks (chars : List Char) :
    trimBlanks (trimBlanks chars) = trimBlanks chars := by
  have whole : trimBlanks chars = (chars.dropWhile isBlank).rdropWhile isBlank := rfl
  rw [whole, trimBlanks_rdropWhile, trimBlanks, List.dropWhile_idempotent]
  rfl

theorem head?_trimBlanks (leads : chars.head? = some char) (dark : isBlank char = false) :
    (trimBlanks chars).head? = some char := by
  obtain ⟨rest, rfl⟩ := List.head?_eq_some_iff.mp leads
  have trimmed := trimBlanks_append_cons dark [] rest
  rw [List.nil_append] at trimmed
  rw [trimmed]
  rfl

end Trimming

/-- A name that a line can set: it is not cut, and the line is neither a comment nor an export. -/
structure KeySafe (key : List Char) : Prop where
  nonempty : key ≠ []
  single : '=' ∉ key
  trimmed : trimBlanks key = key
  uncommented : key.head? ≠ some '#'
  unexported : "export ".toList.isPrefixOf key = false

/-- A text that a line can set: nothing is trimmed, taken off or spelled out. -/
structure ValueSafe (value : List Char) : Prop where
  trimmed : trimBlanks value = value
  unquoted : ∀ quote ∈ ['"', '\''], ¬ (value.head? = some quote ∧ value.getLast? = some quote)
  away : value ≠ ['~'] ∧ ['~', '/'].isPrefixOf value = false

theorem unquoted_of_head {value : List Char} (double : value.head? ≠ some '"')
    (single : value.head? ≠ some '\'') :
    ∀ quote ∈ ['"', '\''], ¬ (value.head? = some quote ∧ value.getLast? = some quote) := by
  intro quote among quoted
  rcases List.mem_pair.mp among with rfl | rfl
  · exact double quoted.1
  · exact single quoted.1

section Lines

variable {env : ResolverEnv}

def valueText (env : ResolverEnv) (value : List Char) : String :=
  expandTilde env (stripQuotes (trimBlanks value))

theorem isPrefixOf_append_cons {lead : List Char} (plain : '=' ∉ lead)
    (key value : List Char) : lead.isPrefixOf (key ++ '=' :: value) = lead.isPrefixOf key := by
  induction key generalizing lead with
  | nil =>
    cases lead with
    | nil => rfl
    | cons char rest =>
      have other : (char == '=') = false := by
        simp only [List.mem_cons, not_or] at plain
        simpa using Ne.symm plain.1
      simp [List.isPrefixOf, other]
  | cons first rest ih =>
    cases lead with
    | nil => rfl
    | cons char more =>
      simp only [List.mem_cons, not_or] at plain
      simp [List.isPrefixOf, ih plain.2]

theorem withoutExport_append (key value : List Char) :
    ("export ".toList.isPrefixOf key = false ∧
        withoutExport (key ++ '=' :: value) = key ++ '=' :: value) ∨
      ("export ".toList.isPrefixOf key = true ∧
        withoutExport (key ++ '=' :: value) =
          (key.drop 7).dropWhile isBlank ++ '=' :: value.rdropWhile isBlank) := by
  have lead : "export ".toList.isPrefixOf (key ++ '=' :: value) =
      "export ".toList.isPrefixOf key := isPrefixOf_append_cons (by decide) key value
  unfold withoutExport
  rw [lead]
  cases exported : "export ".toList.isPrefixOf key with
  | false => exact .inl ⟨rfl, by simp⟩
  | true =>
    -- The export is part of the name, and so the equals sign comes after it.
    have long : 7 ≤ key.length := (List.isPrefixOf_iff_prefix.mp exported).length_le
    refine .inr ⟨rfl, ?_⟩
    rw [if_pos rfl, List.drop_append_of_le_length long, trimBlanks_append_cons (by decide)]

theorem takeWhile_append_cons (key value : List Char) :
    (key ++ '=' :: value).takeWhile (· ≠ '=') = key.takeWhile (· ≠ '=') := by
  induction key with
  | nil => simp
  | cons char rest ih =>
    by_cases here : char = '='
    · simp [here]
    · simpa [here] using ih

variable {key : List Char}

theorem dropWhile_append_cons (single : '=' ∉ key) (value : List Char) :
    ((key ++ '=' :: value).dropWhile (· ≠ '=')).drop 1 = value := by
  have passed : ∀ char ∈ key, decide (char ≠ '=') = true := by
    rintro char member
    simp only [ne_eq, decide_eq_true_eq]
    rintro rfl
    exact single member
  rw [List.dropWhile_append_of_pos passed]
  simp

theorem localLine_of_safe (safe : KeySafe key) (value : List Char) :
    localLine env (key ++ '=' :: value) = some (String.ofList key, valueText env value) := by
  have led := dropWhile_of_trimmed safe.trimmed
  have trimmed : trimBlanks (key ++ '=' :: value) =
      key.dropWhile isBlank ++ '=' :: value.rdropWhile isBlank :=
    trimBlanks_append_cons (by decide) key value
  rw [led] at trimmed
  obtain ⟨first, rest, rfl⟩ := List.exists_cons_of_ne_nil safe.nonempty
  have plain : first ≠ '#' := fun same => safe.uncommented (by rw [same]; rfl)
  have kept : withoutExport (first :: rest ++ '=' :: value.rdropWhile isBlank) =
      first :: rest ++ '=' :: value.rdropWhile isBlank := by
    rcases withoutExport_append (first :: rest) (value.rdropWhile isBlank) with
      ⟨_, same⟩ | ⟨exported, _⟩
    · exact same
    · rw [safe.unexported] at exported
      cases exported
  have named : (first :: rest).takeWhile (· ≠ '=') = first :: rest :=
    List.takeWhile_eq_self_iff.mpr fun char member => by
      simp only [ne_eq, decide_eq_true_eq]
      rintro rfl
      exact safe.single member
  unfold localLine
  dsimp only
  rw [trimmed, kept, takeWhile_append_cons, named, safe.trimmed,
    dropWhile_append_cons safe.single, trimBlanks_rdropWhile]
  simp [plain, valueText]

variable {value : List Char} {found : String × String}

theorem localLine_key (read : localLine env (key ++ '=' :: value) = some found) :
    found.1.toList.Sublist key ∧ (found.1.toList.length = key.length → KeySafe key) := by
  unfold localLine at read
  dsimp only at read
  rw [trimBlanks_append_cons (by decide)] at read
  split at read
  · cases read
  · rename_i line
    split at read
    · cases read
    · split at read
      · cases read
      · rename_i named
        cases read
        rw [String.toList_ofList]
        -- What is in front of the equals sign is trimmed, and perhaps without an export.
        have front := (List.dropWhile_suffix isBlank (l := key)).sublist
        rcases withoutExport_append (key.dropWhile isBlank) (value.rdropWhile isBlank) with
          ⟨unexported, same⟩ | ⟨exported, same⟩
        · rw [same, takeWhile_append_cons] at named ⊢
          have taken := (List.takeWhile_prefix (l := key.dropWhile isBlank) (· ≠ '=')).sublist
          have trimmed := trimBlanks_sublist
            ((key.dropWhile isBlank).takeWhile fun char => decide (char ≠ '='))
          refine ⟨trimmed.trans (taken.trans front), fun whole => ?_⟩
          -- Nothing was cut off, or the name would be shorter.
          have uncut : key.dropWhile isBlank = key :=
            front.eq_of_length_le (whole ▸ (trimmed.trans taken).length_le)
          rw [uncut] at line named unexported taken trimmed whole
          have untaken : key.takeWhile (fun char => decide (char ≠ '=')) = key :=
            taken.eq_of_length_le (whole ▸ trimmed.length_le)
          rw [untaken] at named trimmed whole
          have untrimmed : trimBlanks key = key := trimmed.eq_of_length whole
          rw [untrimmed] at named
          obtain ⟨first, rest, rfl⟩ := List.exists_cons_of_ne_nil named
          refine ⟨named, fun member => ?_, untrimmed, fun comment => ?_, unexported⟩
          · have apart := List.takeWhile_eq_self_iff.mp untaken '=' member
            simp at apart
          · exact line (.inr (by simpa using comment))
        · rw [same, takeWhile_append_cons] at named ⊢
          have dropped := (List.drop_sublist 7 (key.dropWhile isBlank)).trans front
          have part := (trimBlanks_sublist _).trans
            ((List.takeWhile_prefix (l := ((key.dropWhile isBlank).drop 7).dropWhile isBlank)
              (· ≠ '=')).sublist.trans (List.dropWhile_suffix isBlank).sublist)
          refine ⟨part.trans dropped, fun whole => ?_⟩
          -- A name without its export is shorter.
          have short := part.length_le
          have long : 7 ≤ (key.dropWhile isBlank).length :=
            (List.isPrefixOf_iff_prefix.mp exported).length_le
          have fits := front.length_le
          rw [whole, List.length_drop] at short
          omega

theorem stripQuotes_cases (trimmed : trimBlanks value = value) :
    (∃ quote ∈ ['"', '\''], (value.head? = some quote ∧ value.getLast? = some quote) ∧
        stripQuotes value = (value.drop 1).dropLast) ∨
      ((∀ quote ∈ ['"', '\''], ¬ (value.head? = some quote ∧ value.getLast? = some quote)) ∧
        stripQuotes value = value) := by
  unfold stripQuotes
  dsimp only
  rw [trimmed]
  split
  · rename_i quoted
    simp only [decide_eq_true_eq] at quoted
    rcases quoted with double | single
    · exact .inl ⟨'"', by simp, double, rfl⟩
    · exact .inl ⟨'\'', by simp, single, rfl⟩
  · rename_i plain
    simp only [decide_eq_true_eq, not_or] at plain
    exact .inr ⟨by simpa using plain, rfl⟩

theorem expandTilde_cases (value : List Char) :
    ((value = ['~'] ∨ ['~', '/'].isPrefixOf value = true) ∧
        (expandTilde env value = env.homedir ∨
          expandTilde env value = Js.joinPath [env.homedir, String.ofList (value.drop 2)])) ∨
      ((value ≠ ['~'] ∧ ['~', '/'].isPrefixOf value = false) ∧
        expandTilde env value = String.ofList value) := by
  unfold expandTilde
  split
  · rename_i alone
    exact .inl ⟨.inl alone, .inl rfl⟩
  · rename_i apart
    split
    · rename_i lead
      exact .inl ⟨.inr lead, .inr rfl⟩
    · rename_i plain
      exact .inr ⟨⟨apart, Bool.eq_false_iff.mpr plain⟩, rfl⟩

theorem head?_expandTilde (home : env.homedir.toList.head? = some '/')
    (tilde : expandTilde env value = env.homedir ∨
      expandTilde env value = Js.joinPath [env.homedir, String.ofList (value.drop 2)]) :
    (expandTilde env value).toList.head? = some '/' := by
  rcases tilde with same | joined
  · rw [same, home]
  · rw [joined]
    by_cases empty : value.drop 2 = []
    · -- Nothing is joined to the directory itself.
      have alone : Js.joinPath [env.homedir, String.ofList (value.drop 2)] =
          Js.joinPath [env.homedir] := by
        rw [empty]
        simp [Js.joinPath, List.filter_cons]
      rw [alone]
      exact head?_joinPath home fun _ listed => absurd listed List.not_mem_nil
    · refine head?_joinPath home fun part listed => ?_
      rw [List.mem_singleton.mp listed, String.toList_ofList]
      exact empty

theorem valueText_eq_iff (home : env.homedir.toList.head? = some '/') :
    (valueText env value).toList = value ↔ ValueSafe value := by
  unfold valueText
  constructor
  · intro same
    have clean := trimBlanks_trimBlanks value
    have part := (trimBlanks_sublist value).length_le
    rcases @expandTilde_cases env (stripQuotes (trimBlanks value)) with
      ⟨tilde, spelled⟩ | ⟨away, kept⟩
    · -- What is spelled out begins with a slash, and so does the text that it was made of.
      have leads := head?_expandTilde home spelled
      rw [same] at leads
      have first := head?_trimBlanks leads (by decide)
      exfalso
      rcases stripQuotes_cases clean with ⟨quote, among, quoted, _⟩ | ⟨_, whole⟩
      · cases first.symm.trans quoted.1
        simp at among
      · rw [whole] at tilde
        rcases tilde with alone | lead
        · rw [alone] at first
          cases first
        · obtain ⟨rest, led⟩ := List.isPrefixOf_iff_prefix.mp lead
          rw [← led] at first
          cases first
    · rw [kept, String.toList_ofList] at same
      rcases stripQuotes_cases clean with ⟨quote, _, quoted, stripped⟩ | ⟨unquoted, whole⟩
      · -- Without its quotes, a text is shorter.
        exfalso
        obtain ⟨rest, led⟩ := List.head?_eq_some_iff.mp quoted.1
        have lengths := congrArg List.length (stripped.symm.trans same)
        rw [led] at lengths part
        simp only [List.drop_succ_cons, List.drop_zero, List.length_dropLast,
          List.length_cons] at lengths part
        omega
      · rw [whole] at same away
        rw [same] at unquoted away
        exact ⟨same, unquoted, away⟩
  · intro safe
    rw [safe.trimmed]
    rcases stripQuotes_cases safe.trimmed with ⟨quote, among, quoted, _⟩ | ⟨_, whole⟩
    · exact absurd quoted (safe.unquoted quote among)
    · rw [whole]
      rcases @expandTilde_cases env value with ⟨alone | lead, _⟩ | ⟨_, kept⟩
      · exact absurd alone safe.away.1
      · rw [safe.away.2] at lead
        cases lead
      · rw [kept, String.toList_ofList]

theorem withoutExport_sublist (line : List Char) : (withoutExport line).Sublist line := by
  unfold withoutExport
  split
  · exact (trimBlanks_sublist _).trans (List.drop_sublist _ _)
  · exact .refl _

theorem stripQuotes_sublist (value : List Char) : (stripQuotes value).Sublist value := by
  unfold stripQuotes
  dsimp only
  split
  · exact ((List.dropLast_sublist _).trans (List.drop_sublist _ _)).trans (trimBlanks_sublist _)
  · exact trimBlanks_sublist _

theorem lineFeed_expandTilde (home : '\n' ∉ env.homedir.toList) (plain : '\n' ∉ value) :
    '\n' ∉ (expandTilde env value).toList := by
  intro member
  rcases @expandTilde_cases env value with ⟨_, same | joined⟩ | ⟨_, kept⟩
  · rw [same] at member
    exact home member
  · rw [joined] at member
    rcases mem_joinPath member with slash | dot | ⟨part, listed, inside⟩
    · exact absurd slash (by decide)
    · exact absurd dot (by decide)
    · rcases List.mem_cons.mp listed with rfl | tail
      · exact home inside
      · rw [List.mem_singleton.mp tail, String.toList_ofList] at inside
        exact plain ((List.drop_sublist _ _).subset inside)
  · rw [kept, String.toList_ofList] at member
    exact plain member

theorem lineFeed_localLine (home : '\n' ∉ env.homedir.toList) {line : List Char}
    (single : '\n' ∉ line) (read : localLine env line = some found) :
    '\n' ∉ found.1.toList ∧ '\n' ∉ found.2.toList := by
  have part : (withoutExport (trimBlanks line)).Sublist line :=
    (withoutExport_sublist _).trans (trimBlanks_sublist _)
  -- The name and the value are parts of the line.
  have name : (trimBlanks ((withoutExport (trimBlanks line)).takeWhile (· ≠ '='))).Sublist line :=
    ((trimBlanks_sublist _).trans (List.takeWhile_prefix _).sublist).trans part
  have behind : (((withoutExport (trimBlanks line)).dropWhile (· ≠ '=')).drop 1).Sublist line :=
    ((List.drop_sublist _ _).trans (List.dropWhile_suffix _).sublist).trans part
  have value : (stripQuotes (trimBlanks
      (((withoutExport (trimBlanks line)).dropWhile (· ≠ '=')).drop 1))).Sublist line :=
    ((stripQuotes_sublist _).trans (trimBlanks_sublist _)).trans behind
  unfold localLine at read
  dsimp only at read
  split at read
  · cases read
  · split at read
    · cases read
    · split at read
      · cases read
      · cases read
        dsimp only
        rw [String.toList_ofList]
        exact ⟨fun member => single (name.subset member),
          lineFeed_expandTilde home fun member => single (value.subset member)⟩

theorem lineFeed_readLines (home : '\n' ∉ env.homedir.toList) {content : String}
    (read : found ∈ readLines env content) : '\n' ∉ found.1.toList ∧ '\n' ∉ found.2.toList := by
  obtain ⟨line, listed, sets⟩ := List.mem_filterMap.mp read
  exact lineFeed_localLine home (not_mem_of_mem_splitOn '\n' listed) sets

def readEntry (env : ResolverEnv) (entry : String × String) : Option (String × String) :=
  localLine env (dotEnvLine entry).toList

def writtenBefore (left right : String × String) : Bool :=
  codeUnits (dotEnvLine left) ≤ codeUnits (dotEnvLine right)

private theorem localLine_nil : localLine env [] = none := rfl

theorem filterMap_splitOn_lines {lines : List (List Char)}
    (plain : ∀ line ∈ lines, '\n' ∉ line) :
    ((['\n'].intercalate lines ++ ['\n']).splitOn '\n').filterMap (localLine env) =
      lines.filterMap (localLine env) := by
  have closed : (['\n'].intercalate lines ++ ['\n']).splitOn '\n' =
      (['\n'].intercalate lines).splitOn '\n' ++ [[]] :=
    List.splitOnP_append_cons _ _ (by simp)
  have ending : [([] : List Char)].filterMap (localLine env) = [] := by
    simp [localLine_nil]
  rw [closed, List.filterMap_append, ending, List.append_nil]
  cases lines with
  | nil => exact ending
  | cons first rest =>
    rw [splitOn_intercalate_segments '\n' (List.cons_ne_nil first rest)]
    have apart : (first :: rest).flatMap (List.splitOn '\n') = first :: rest := by
      rw [List.flatMap_congr fun line listed =>
        (List.splitOn_eq_singleton (plain line listed) : line.splitOn '\n' = [line])]
      exact List.flatMap_singleton' _
    rw [apart]

theorem readLines_flatten {vars : List (String × Value)}
    (single : ∀ entry ∈ writtenVars vars, '\n' ∉ entry.1.toList ∧ '\n' ∉ entry.2.toList) :
    readLines env (flattenToDotEnv vars) =
      ((writtenVars vars).mergeSort writtenBefore).filterMap (readEntry env) := by
  have sorted : ((writtenVars vars).map dotEnvLine).mergeSort
      (fun left right => decide (codeUnits left ≤ codeUnits right)) =
        ((writtenVars vars).mergeSort writtenBefore).map dotEnvLine :=
    (@List.map_mergeSort _ _ writtenBefore
      (fun left right => decide (codeUnits left ≤ codeUnits right)) dotEnvLine
      (writtenVars vars) fun _ _ _ _ => rfl).symm
  have plain : ∀ line ∈ (((writtenVars vars).mergeSort writtenBefore).map dotEnvLine).map
      String.toList, '\n' ∉ line := by
    intro line listed member
    obtain ⟨text, among, rfl⟩ := List.mem_map.mp listed
    obtain ⟨entry, there, rfl⟩ := List.mem_map.mp among
    have both := single entry (List.mem_mergeSort.mp there)
    simp only [dotEnvLine, String.toList_append, List.mem_append] at member
    rcases member with (name | sign) | value
    · exact both.1 name
    · exact absurd sign (by decide)
    · exact both.2 value
  have lines := @filterMap_splitOn_lines env _ plain
  rw [List.map_map, List.filterMap_map] at lines
  unfold readLines flattenToDotEnv
  dsimp only
  rw [sorted, String.toList_append, String.toList_intercalate, List.map_map]
  exact lines

theorem readEntry_eq_some_iff (home : env.homedir.toList.head? = some '/')
    {entry : String × String} :
    readEntry env entry = some entry ↔ KeySafe entry.1.toList ∧ ValueSafe entry.2.toList := by
  obtain ⟨name, text⟩ := entry
  have line : (dotEnvLine (name, text)).toList = name.toList ++ '=' :: text.toList := by
    simp [dotEnvLine]
  rw [readEntry, line]
  constructor
  · intro read
    have safe := (localLine_key read).2 rfl
    rw [localLine_of_safe safe] at read
    have same : valueText env text.toList = text := (Prod.mk.inj (Option.some.inj read)).2
    refine ⟨safe, (valueText_eq_iff home).mp ?_⟩
    rw [same]
  · rintro ⟨named, plain⟩
    have same : valueText env text.toList = text :=
      String.toList_injective ((valueText_eq_iff home).mpr plain)
    rw [localLine_of_safe named, String.ofList_toList, same]

theorem readEntry_shrinks {entry : String × String}
    (read : readEntry env entry = some found) : found.1.length ≤ entry.1.length ∧
      (found.1.length = entry.1.length → found.1 = entry.1) := by
  have line : (dotEnvLine entry).toList = entry.1.toList ++ '=' :: entry.2.toList := by
    simp [dotEnvLine]
  rw [readEntry, line] at read
  have part := (localLine_key read).1
  rw [← String.length_toList, ← String.length_toList]
  exact ⟨part.length_le, fun same => String.toList_injective (part.eq_of_length same)⟩

end Lines

def varTexts (vars : List (String × Value)) : List (String × String) :=
  vars.map fun entry => (entry.1, entry.2.toText)

structure DotEnvSafe (name : String) (value : Value) : Prop where
  given : value ≠ .undefined ∧ value ≠ .null
  single : '\n' ∉ name.toList ∧ '\n' ∉ value.toText.toList
  key : KeySafe name.toList
  text : ValueSafe value.toText.toList

section RoundTrip

variable {env : ResolverEnv} {vars : List (String × Value)}

theorem writtenVars_sublist : (writtenVars vars).Sublist (varTexts vars) :=
  List.filter_sublist.map _

theorem writtenVars_eq_iff :
    writtenVars vars = varTexts vars ↔
      ∀ entry ∈ vars, entry.2 ≠ .undefined ∧ entry.2 ≠ .null := by
  rw [← writtenVars_sublist.length_eq, writtenVars, varTexts, List.length_map, List.length_map,
    List.length_filter_eq_length_iff]
  simp

theorem lookup_varTexts (key : String) :
    (varTexts vars).lookup key = (vars.lookup key).map Value.toText :=
  lookup_map_snd Value.toText vars key

theorem readLines_flatten_iff (home : env.homedir.toList.head? = some '/')
    (homeSingle : '\n' ∉ env.homedir.toList) (distinct : (vars.map Prod.fst).Nodup) :
    (∀ key, lastAssigned (readLines env (flattenToDotEnv vars)) key =
        (vars.lookup key).map Value.toText) ↔
      ∀ entry ∈ vars, DotEnvSafe entry.1 entry.2 := by
  have names : ((varTexts vars).map Prod.fst).Nodup := by
    simpa [varTexts, Function.comp_def] using distinct
  have order := List.mergeSort_perm (writtenVars vars) writtenBefore
  have byLines := @linesRead_iff _ _ _ (varTexts vars)
    ((writtenVars vars).mergeSort writtenBefore) (readEntry env) String.length names
    (order.subperm.trans writtenVars_sublist.subperm)
    (fun _ _ read => (readEntry_shrinks read).1) (fun _ _ read => (readEntry_shrinks read).2)
  simp only [lookup_varTexts] at byLines
  constructor
  · intro same
    -- What is read has no line feed, and so there is none in what was written.
    have single : ∀ entry ∈ varTexts vars, '\n' ∉ entry.1.toList ∧ '\n' ∉ entry.2.toList := by
      intro entry listed
      have found := same entry.1
      rw [← lookup_varTexts, lookup_of_mem names listed] at found
      exact lineFeed_readLines homeSingle (mem_of_lastAssigned found)
    rw [readLines_flatten fun entry listed =>
      single entry (writtenVars_sublist.subset listed)] at same
    obtain ⟨written, whole⟩ := byLines.mp same
    have all : writtenVars vars = varTexts vars :=
      writtenVars_sublist.eq_of_length (order.symm.trans written).length_eq
    intro entry listed
    have text : (entry.1, entry.2.toText) ∈ varTexts vars := List.mem_map.mpr ⟨entry, listed, rfl⟩
    have safe := (readEntry_eq_some_iff home).mp (whole _ text)
    exact ⟨writtenVars_eq_iff.mp all entry listed, single _ text, safe.1, safe.2⟩
  · intro safe
    have all : writtenVars vars = varTexts vars :=
      writtenVars_eq_iff.mpr fun entry listed => (safe entry listed).given
    have texts : ∀ text ∈ varTexts vars, ∃ entry ∈ vars, (entry.1, entry.2.toText) = text :=
      fun text listed => List.mem_map.mp listed
    rw [readLines_flatten fun text listed => ?_]
    · refine byLines.mpr ⟨all ▸ order, fun text listed => ?_⟩
      obtain ⟨entry, there, rfl⟩ := texts text listed
      exact (readEntry_eq_some_iff home).mpr ⟨(safe entry there).key, (safe entry there).text⟩
    · obtain ⟨entry, there, rfl⟩ := texts text (all ▸ listed)
      exact (safe entry there).single

end RoundTrip

end BitBrat
