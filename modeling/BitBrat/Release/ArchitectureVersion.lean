import BitBrat.Release.PackageVersion

/-! The file of the architecture with another version, read as YAML. -/

namespace BitBrat

open Js Git

def isLineBlank (char : Char) : Bool := char = ' ' || char = '\t' || char = '\r'

/-- A line with nothing but blanks and a comment. -/
def IsNote (line : List Char) : Prop :=
  ∃ blanks comment ending, line = blanks ++ (comment ++ ending) ∧
    (∀ char ∈ blanks, isLineBlank char = true) ∧
    (comment = [] ∨ comment.head? = some '#' ∧ '\r' ∉ comment) ∧ (ending = [] ∨ ending = ['\r'])

structure VersionLine where
  indent : List Char
  space : List Char
  quote : List Char
  token : List Char
  gap : List Char
  comment : List Char
  indented : indent ≠ [] ∧ ∀ char ∈ indent, char = ' '
  spaced : space ≠ [] ∧ ∀ char ∈ space, char = ' ' ∨ char = '\t'
  quoted : quote = [] ∨ quote = ['"'] ∨ quote = ['\'']
  written : token ≠ [] ∧ ∀ char ∈ token,
    isBlank char = false ∧ char ≠ '"' ∧ char ≠ '\'' ∧ char ≠ '#'
  apart : ∀ char ∈ gap, isLineBlank char = true
  commented : comment = [] ∨ gap ≠ [] ∧ comment.head? = some '#' ∧
    ∀ char ∈ comment, isLineEnd char = false

def VersionLine.chars (line : VersionLine) : List Char :=
  line.indent ++ "version:".toList ++ line.space ++ line.quote ++ line.token ++ line.quote ++
    line.gap ++ line.comment

structure YamlEntry where
  key : String
  lines : List (List Char)

/-- The parts of a file of the architecture: a mapping with a section of the project, which is a
mapping with a version on one line. -/
structure ArchitectureParts where
  front : List (List Char)
  before : List YamlEntry
  header : List Char
  between : List (List Char)
  early : List YamlEntry
  version : VersionLine
  below : List (List Char)
  late : List YamlEntry
  after : List YamlEntry
  close : List (List Char)

namespace ArchitectureParts

variable (parts : ArchitectureParts)

def above : List (List Char) :=
  parts.front ++ parts.before.flatMap YamlEntry.lines ++
    ("project".toList ++ parts.header) :: parts.between ++ parts.early.flatMap YamlEntry.lines

def beneath : List (List Char) :=
  parts.below ++ parts.late.flatMap YamlEntry.lines ++ parts.after.flatMap YamlEntry.lines ++
    parts.close

def lines : List (List Char) := parts.above ++ parts.version.chars :: parts.beneath

def text : String := String.ofList (['\n'].intercalate parts.lines)

end ArchitectureParts

structure ArchitectureText extends ArchitectureParts where
  notes : ∀ line ∈ between ++ below, IsNote line
  single : ∀ line ∈ toArchitectureParts.lines, '\n' ∉ line

/-- A reader of YAML, as far as it reads a mapping in lines from its parts. -/
structure YamlReader (load : String → Except String Value) where
  Anchors : Type
  /-- The anchors that the parts begin with, if a document has these lines around them. -/
  frame : List (List Char) → List (List Char) → Option Anchors
  /-- The anchors that are left behind the name of a section, if its parts follow in lines: one
  that the section itself has is not among them. -/
  header : List Char → Anchors → Option Anchors
  /-- What a part of a mapping is read as, if its lines are one with this indentation. -/
  read : List Char → Anchors → YamlEntry → Option (Value × Anchors)
  /-- What a token between quotes is read as, if it is a value and defines no anchor. -/
  scalar : Anchors → List Char → List Char → Option Value
  /-- The properties of a mapping with some parts, if their names differ. -/
  assemble : List (String × Value) → Option (List (String × Value))

namespace YamlReader

variable {load : String → Except String Value} (reader : YamlReader load)

def readAll (indent : List Char) (anchors : reader.Anchors) :
    List YamlEntry → Option (List (String × Value) × reader.Anchors)
  | [] => some ([], anchors)
  | entry :: rest =>
    (reader.read indent anchors entry).bind fun (value, next) =>
      (readAll indent next rest).map fun (fields, last) => ((entry.key, value) :: fields, last)

/-- What a file of the architecture is read as, if each of its parts is. -/
def value (parts : ArchitectureParts) : Option Value := do
  let anchors ← reader.frame parts.front parts.close
  let (before, anchors) ← reader.readAll [] anchors parts.before
  let anchors ← reader.header parts.header anchors
  let (early, anchors) ← reader.readAll parts.version.indent anchors parts.early
  let version ← reader.scalar anchors parts.version.quote parts.version.token
  let (late, anchors) ← reader.readAll parts.version.indent anchors parts.late
  let (after, _) ← reader.readAll [] anchors parts.after
  let project ← reader.assemble (early ++ ("version", version) :: late)
  let fields ← reader.assemble (before ++ ("project", .obj project) :: after)
  return .obj fields

structure Lawful : Prop where
  parts : ∀ (text : ArchitectureText) value,
    reader.value text.toArchitectureParts = some value → load text.text = .ok value
  /-- Three numbers with points between them are a text, with quotes or without. -/
  version : ∀ anchors quote version, quote = [] ∨ quote = ['"'] ∨ quote = ['\''] →
    reader.scalar anchors quote (formatSemVer version).toList =
      some (.str (formatSemVer version))
  /-- A name that is given itself has the value that is given, and no other name depends on it. -/
  assembled : ∀ early key value written late fields, key ≠ "<<" →
    reader.assemble (early ++ (key, value) :: late) = some fields →
      fields.lookup key = some value ∧
        reader.assemble (early ++ (key, written) :: late) = some (setEntry key written fields)

end YamlReader

/-- Whether the section of the project is open behind some lines, if none of them looks like its
version. -/
def sectionAfter (inProject : Bool) : List (List Char) → Option Bool
  | [] => some inProject
  | line :: rest =>
    if isTopLevelKey line then sectionAfter (isProjectKey line) rest
    else if inProject && (replaceVersionLine [] line).isSome then none
    else sectionAfter inProject rest

/-- The first line of the section of the project that looks like a version is the version. -/
def ArchitectureParts.VersionFirst (parts : ArchitectureParts) : Prop :=
  sectionAfter false parts.above = some true

theorem isSome_replaceVersionLine (newVersion line : List Char) :
    (replaceVersionLine newVersion line).isSome = (replaceVersionLine [] line).isSome := by
  unfold replaceVersionLine
  dsimp only
  split
  · rfl
  split
  · rfl
  split <;> rfl

theorem replaceVersion_append (newVersion : List Char) {inProject opened : Bool}
    {above rest : List (List Char)} (reached : sectionAfter inProject above = some opened) :
    replaceVersion newVersion inProject (above ++ rest) =
      (replaceVersion newVersion opened rest).map (above ++ ·) := by
  induction above generalizing inProject with
  | nil =>
    obtain rfl := Option.some.inj reached
    simp
  | cons line above ih =>
    rw [List.cons_append, replaceVersion]
    rw [sectionAfter] at reached
    split at reached
    · rename_i top
      rw [if_pos top, ih reached, Option.map_map]
      rfl
    · rename_i nested
      rw [if_neg nested]
      split at reached
      · cases reached
      · rename_i plain
        rw [ih reached, Option.map_map]
        cases inProject with
        | false => rfl
        | true =>
          have none_here : replaceVersionLine newVersion line = none := by
            have same := isSome_replaceVersionLine newVersion line
            rw [Bool.true_and] at plain
            rw [Bool.not_eq_true] at plain
            rw [plain] at same
            simpa using same
          rw [if_pos rfl, none_here]
          rfl

theorem isBlank_of_isLineBlank {char : Char} (blank : isLineBlank char = true) :
    isBlank char = true := by
  simp only [isLineBlank, Bool.or_eq_true, decide_eq_true_eq] at blank
  rcases blank with (rfl | rfl) | rfl <;> decide

def VersionLine.withVersion (line : VersionLine) (version : SemVer) : VersionLine where
  indent := line.indent
  space := line.space
  quote := line.quote
  token := (formatSemVer version).toList
  gap := line.gap
  comment := line.comment
  indented := line.indented
  spaced := line.spaced
  quoted := line.quoted
  written := by
    refine ⟨?_, fun char member => ?_⟩
    · simp [formatSemVer]
    · refine ⟨isBlank_of_mem_formatSemVer member, ?_⟩
      rcases digit_or_dot_of_mem_formatSemVer member with digit | rfl
      · obtain ⟨value, rfl⟩ := exists_of_isDigit digit
        have all : ∀ value : Fin 10, Char.ofNat (48 + value) ≠ '"' ∧
            Char.ofNat (48 + value) ≠ '\'' ∧ Char.ofNat (48 + value) ≠ '#' := by decide
        exact all value
      · decide
  apart := line.apart
  commented := line.commented

theorem takeWhile_append_of_stop (kind : Char → Bool) {front : List Char}
    (all : ∀ char ∈ front, kind char = true) (rest : List Char)
    (stops : ∀ char, rest.head? = some char → kind char = false) :
    (front ++ rest).takeWhile kind = front ∧ (front ++ rest).dropWhile kind = rest := by
  rw [List.takeWhile_append_of_pos all, List.dropWhile_append_of_pos all]
  cases rest with
  | nil => simp
  | cons char rest =>
    have other := stops char rfl
    simp [other]

theorem takeQuote_append {quote rest : List Char}
    (quoted : quote = [] ∨ quote = ['"'] ∨ quote = ['\''])
    (plain : ∀ char, rest.head? = some char → char ≠ '"' ∧ char ≠ '\'') :
    takeQuote (quote ++ rest) = (quote, rest) := by
  rcases quoted with rfl | rfl | rfl
  · cases rest with
    | nil => rfl
    | cons char rest =>
      have other := plain char rfl
      simp [takeQuote, other]
  · simp [takeQuote]
  · simp [takeQuote]

namespace VersionLine

variable (line : VersionLine)

def behind : List Char := line.gap ++ line.comment

def quotedToken : List Char := line.token ++ (line.quote ++ line.behind)

def value : List Char := line.quote ++ line.quotedToken

def inToken (char : Char) : Bool := !isBlank char && char ≠ '"' && char ≠ '\'' && char ≠ '#'

variable {line}

theorem chars_eq :
    line.chars = line.indent ++ ("version:".toList ++ (line.space ++ line.value)) := by
  simp [chars, value, quotedToken, behind]

theorem head_behind {char : Char} (first : line.behind.head? = some char) :
    isBlank char = true ∧ char ≠ '"' ∧ char ≠ '\'' := by
  have listed : char ∈ line.gap := by
    unfold behind at first
    cases gapped : line.gap with
    | nil =>
      rcases line.commented with nothing | ⟨someGap, -, -⟩
      · simp [gapped, nothing] at first
      · exact absurd gapped someGap
    | cons other rest =>
      rw [gapped] at first
      obtain rfl := Option.some.inj first
      exact List.mem_cons_self
  have blank := isBlank_of_isLineBlank (line.apart char listed)
  refine ⟨blank, ?_, ?_⟩ <;> intro same <;> rw [same] at blank <;> exact absurd blank (by decide)

theorem head_quotedToken {char : Char} (first : line.quotedToken.head? = some char) :
    isBlank char = false ∧ char ≠ '"' ∧ char ≠ '\'' := by
  obtain ⟨begin, rest, begins⟩ := List.exists_cons_of_ne_nil line.written.1
  obtain ⟨dark, noQuote, noTick, -⟩ := line.written.2 begin (begins ▸ List.mem_cons_self)
  rw [quotedToken, begins] at first
  obtain rfl := Option.some.inj first
  exact ⟨dark, noQuote, noTick⟩

theorem head_value {char : Char} (first : line.value.head? = some char) :
    isBlank char = false := by
  unfold value at first
  rcases line.quoted with plain | double | single
  · rw [plain] at first
    exact (head_quotedToken first).1
  · rw [double] at first
    exact Option.some.inj first ▸ by decide
  · rw [single] at first
    exact Option.some.inj first ▸ by decide

theorem head_closing {char : Char} (first : (line.quote ++ line.behind).head? = some char) :
    inToken char = false := by
  rcases line.quoted with plain | double | single
  · rw [plain] at first
    simp [inToken, (head_behind first).1]
  · rw [double] at first
    exact Option.some.inj first ▸ by decide
  · rw [single] at first
    exact Option.some.inj first ▸ by decide

theorem span_indent : line.chars.takeWhile isBlank = line.indent ∧
    line.chars.dropWhile isBlank = "version:".toList ++ (line.space ++ line.value) := by
  rw [chars_eq]
  refine takeWhile_append_of_stop isBlank (fun char member => ?_) _ (by rintro char ⟨⟩; decide)
  rw [line.indented.2 char member]
  decide

theorem span_space : (line.space ++ line.value).takeWhile isBlank = line.space ∧
    (line.space ++ line.value).dropWhile isBlank = line.value := by
  refine takeWhile_append_of_stop isBlank (fun char member => ?_) _ fun char => head_value
  rcases line.spaced.2 char member with rfl | rfl <;> decide

theorem takeQuote_value : takeQuote line.value = (line.quote, line.quotedToken) :=
  takeQuote_append line.quoted fun _ first => (head_quotedToken first).2

theorem span_token : line.quotedToken.takeWhile inToken = line.token ∧
    line.quotedToken.dropWhile inToken = line.quote ++ line.behind := by
  refine takeWhile_append_of_stop inToken (fun char member => ?_) _ fun char => head_closing
  simpa [inToken, and_assoc] using line.written.2 char member

theorem takeQuote_closing :
    takeQuote (line.quote ++ line.behind) = (line.quote, line.behind) :=
  takeQuote_append line.quoted fun _ first => (head_behind first).2

theorem span_gap : line.behind.takeWhile isBlank = line.gap ∧
    line.behind.dropWhile isBlank = line.comment := by
  refine takeWhile_append_of_stop isBlank
    (fun char member => isBlank_of_isLineBlank (line.apart char member)) _ fun char first => ?_
  rcases line.commented with nothing | ⟨-, mark, -⟩
  · simp [nothing] at first
  · exact Option.some.inj (mark.symm.trans first) ▸ by decide

end VersionLine

theorem replaceVersionLine_chars (line : VersionLine) (version : SemVer) :
    replaceVersionLine (formatSemVer version).toList line.chars =
      some (line.withVersion version).chars := by
  have labelled : ¬ (line.indent = [] ∨ ("version:".toList.isPrefixOf
      ("version:".toList ++ (line.space ++ line.value))) = false) := by
    intro missing
    rcases missing with flat | other
    · exact line.indented.1 flat
    · rw [List.isPrefixOf_iff_prefix.mpr (List.prefix_append _ _)] at other
      cases other
  have eight : ("version:".toList ++ (line.space ++ line.value)).drop 8 =
      line.space ++ line.value := rfl
  have valid : line.comment = [] ∨ (line.comment.head? = some '#' ∧
      (line.comment.all fun char => !isLineEnd char) = true) := by
    rcases line.commented with nothing | ⟨-, begun, within⟩
    · exact .inl nothing
    · exact .inr ⟨begun, List.all_eq_true.mpr fun char member => by simp [within char member]⟩
  obtain ⟨taken, left⟩ := line.span_token
  unfold VersionLine.inToken at taken left
  unfold replaceVersionLine
  dsimp only
  rw [VersionLine.span_indent.1, VersionLine.span_indent.2, if_neg labelled, eight,
    VersionLine.span_space.1, VersionLine.span_space.2, VersionLine.takeQuote_value]
  dsimp only
  rw [taken, left, VersionLine.takeQuote_closing]
  dsimp only
  rw [VersionLine.span_gap.1, VersionLine.span_gap.2, if_neg line.written.1, if_pos valid]
  rfl

def ArchitectureParts.withVersion (parts : ArchitectureParts) (version : SemVer) :
    ArchitectureParts :=
  { parts with version := parts.version.withVersion version }

theorem isTopLevelKey_chars (line : VersionLine) : isTopLevelKey line.chars = false := by
  obtain ⟨first, rest, begins⟩ := List.exists_cons_of_ne_nil line.indented.1
  have blank := line.indented.2 first (begins ▸ List.mem_cons_self)
  have space : isBlank ' ' = true := by decide
  simp [VersionLine.chars, begins, isTopLevelKey, blank, space]

theorem replaceVersion_lines {parts : ArchitectureParts} (first : parts.VersionFirst)
    (version : SemVer) :
    replaceVersion (formatSemVer version).toList false parts.lines =
      some (parts.withVersion version).lines := by
  rw [ArchitectureParts.lines, replaceVersion_append _ first, replaceVersion,
    isTopLevelKey_chars, replaceVersionLine_chars]
  rfl

theorem not_mem_withVersion {line : VersionLine} (single : '\n' ∉ line.chars)
    (version : SemVer) : '\n' ∉ (line.withVersion version).chars := by
  have token : '\n' ∉ (formatSemVer version).toList := fun member =>
    absurd (isBlank_of_mem_formatSemVer member) (by decide)
  simp only [VersionLine.chars, List.mem_append, not_or] at single ⊢
  exact ⟨⟨⟨⟨⟨⟨⟨single.1.1.1.1.1.1.1, single.1.1.1.1.1.1.2⟩, single.1.1.1.1.1.2⟩,
    single.1.1.1.1.2⟩, token⟩, single.1.1.2⟩, single.1.2⟩, single.2⟩

def ArchitectureText.withVersion (text : ArchitectureText) (version : SemVer) :
    ArchitectureText where
  toArchitectureParts := text.toArchitectureParts.withVersion version
  notes := text.notes
  single := by
    intro line member
    rcases List.mem_append.mp member with above | behind
    · exact text.single line (List.mem_append_left _ above)
    · rcases List.mem_cons.mp behind with rfl | beneath
      · exact not_mem_withVersion
          (text.single _ (List.mem_append_right _ List.mem_cons_self)) version
      · exact text.single line (List.mem_append_right _ (List.mem_cons_of_mem _ beneath))

private theorem ArchitectureText.splitOn_text (text : ArchitectureText) :
    text.text.toList.splitOn '\n' = text.lines := by
  have nonempty : text.lines ≠ [] := by simp [ArchitectureParts.lines]
  rw [ArchitectureParts.text, String.toList_ofList]
  exact List.splitOn_intercalate _ text.single nonempty

theorem setArchitectureVersionInSource_text {text : ArchitectureText}
    (first : text.VersionFirst) (version : SemVer) :
    setArchitectureVersionInSource text.text (formatSemVer version) =
      .ok (text.withVersion version).text := by
  rw [setArchitectureVersionInSource, text.splitOn_text, replaceVersion_lines first]
  rfl

section

variable {load : String → Except String Value} {reader : YamlReader load}

theorem value_withVersion (lawful : reader.Lawful) {parts : ArchitectureParts} {old : Value}
    (read : reader.value parts = some old) (version : SemVer) :
    reader.value (parts.withVersion version) = some (old.extend [("project",
      (old.get "project").extend [("version", .str (formatSemVer version))])]) := by
  simp only [YamlReader.value, Option.bind_eq_bind, Option.bind_eq_some_iff] at read
  obtain ⟨start, framed, ⟨before, first⟩, readBefore, opened, named, ⟨early, second⟩, readEarly,
    value, readVersion, ⟨late, third⟩, readLate, ⟨after, last⟩, readAfter, project, assembled,
    fields, whole, same⟩ := read
  obtain rfl := Option.some.inj same
  obtain ⟨-, inner⟩ := lawful.assembled early "version" value (.str (formatSemVer version)) late
    project (by decide) assembled
  obtain ⟨found, outer⟩ := lawful.assembled before "project" (.obj project)
    (.obj (setEntry "version" (.str (formatSemVer version)) project)) after fields (by decide) whole
  have held : (Value.obj fields).get "project" = .obj project := by
    rw [Value.get, Value.fields_obj, found]
    rfl
  have token := lawful.version second parts.version.quote version parts.version.quoted
  simp only [YamlReader.value, Option.bind_eq_bind, ArchitectureParts.withVersion,
    VersionLine.withVersion, framed, readBefore, named, readEarly, token, readLate, readAfter,
    inner, outer, Option.bind_some]
  rw [held]
  rfl

theorem setArchitectureVersionInSource_loads (lawful : reader.Lawful)
    {text : ArchitectureText} {old : Value}
    (read : reader.value text.toArchitectureParts = some old) (first : text.VersionFirst)
    (version : SemVer) {out : String}
    (done : setArchitectureVersionInSource text.text (formatSemVer version) = .ok out) :
    load out = .ok (old.extend [("project",
      (old.get "project").extend [("version", .str (formatSemVer version))])]) := by
  rw [setArchitectureVersionInSource_text first] at done
  rw [← Except.ok.inj done]
  exact lawful.parts (text.withVersion version) _ (value_withVersion lawful read version)

end

/-- Write the version of the architecture and read it again, with the files that are left. -/
def writeArchitectureVersionFile (env : VersionFilesEnv) (newVersion : String) (dryRun : Bool)
    (tree : FileTree) : FileTree × Except String String :=
  match readFileSync env tree ARCH_FILE with
  | .error message => (tree, .error message)
  | .ok before =>
    match setArchitectureVersionInSource before newVersion with
    | .error message => (tree, .error message)
    | .ok after =>
      if dryRun then (tree, .ok after)
      else
        -- The file is written before it is read again.
        let written := tree.set ARCH_FILE after
        match env.yamlLoad after with
        | .error message => (written, .error message)
        | .ok reparsed =>
          let version := (reparsed.get "project").get "version"
          if version = .str newVersion then (written, .ok after)
          else
            (written, .error
              ("Post-write validation failed: architecture.yaml project.version is " ++
                env.jsonText version ++ ", expected " ++ newVersion ++ "."))

theorem writeArchitectureVersion_eq (env : VersionFilesEnv) (newVersion : String) (dryRun : Bool)
    (tree : FileTree) : writeArchitectureVersion env newVersion dryRun tree =
      (writeArchitectureVersionFile env newVersion dryRun tree).2.map fun _ =>
        (writeArchitectureVersionFile env newVersion dryRun tree).1 := by
  unfold writeArchitectureVersion writeArchitectureVersionFile
  simp only [bind, Except.bind]
  cases readFileSync env tree ARCH_FILE with
  | error message => rfl
  | ok before =>
    dsimp only
    cases setArchitectureVersionInSource before newVersion with
    | error message => rfl
    | ok after =>
      dsimp only
      cases dryRun with
      | true => rfl
      | false =>
        simp only [Bool.false_eq_true, if_false]
        cases env.yamlLoad after with
        | error message => rfl
        | ok reparsed =>
          dsimp only
          split <;> rfl

/-- A file in which the version is found at its place, with what it is read as. -/
def ArchitectureFits {load : String → Except String Value} (reader : YamlReader load)
    (source : String) (old : Value) : Prop :=
  ∃ text : ArchitectureText, source = text.text ∧
    reader.value text.toArchitectureParts = some old ∧ text.VersionFirst

theorem writeArchitectureVersionFile_unchanged {env : VersionFilesEnv}
    {reader : YamlReader env.yamlLoad} (lawful : reader.Lawful) {tree : FileTree}
    {version : SemVer} {dryRun : Bool}
    (fits : ∀ source, tree.get? ARCH_FILE = some source → dryRun = true ∨
      (∃ message, setArchitectureVersionInSource source (formatSemVer version) = .error message) ∨
        ∃ old, ArchitectureFits reader source old) {message : String}
    (failed : (writeArchitectureVersionFile env (formatSemVer version) dryRun tree).2 =
      .error message) :
    (writeArchitectureVersionFile env (formatSemVer version) dryRun tree).1 = tree := by
  unfold writeArchitectureVersionFile at failed ⊢
  unfold readFileSync at failed ⊢
  cases found : tree.get? ARCH_FILE with
  | none => rfl
  | some source =>
    rw [found] at failed
    dsimp only at failed ⊢
    rcases fits source found with dry | ⟨reason, missing⟩ | ⟨old, text, rfl, read, first⟩
    · rw [dry]
      cases setArchitectureVersionInSource source (formatSemVer version) <;> rfl
    · rw [missing]
    · -- The file that is written is read with the new version.
      have loaded := lawful.parts (text.withVersion version) _
        (value_withVersion lawful read version)
      have same : ((old.extend [("project", (old.get "project").extend
          [("version", .str (formatSemVer version))])]).get "project").get "version" =
            .str (formatSemVer version) := by
        simp [Value.get_extend]
      rw [setArchitectureVersionInSource_text first] at failed ⊢
      dsimp only at failed ⊢
      cases dryRun with
      | true => rfl
      | false =>
        simp [loaded, same] at failed

def namesVersion (line : List Char) : Bool :=
  "version:".toList.isPrefixOf (line.dropWhile isBlank)

def tokenOf (line : List Char) : List Char :=
  (takeQuote (((line.dropWhile isBlank).drop 8).dropWhile isBlank)).2.takeWhile VersionLine.inToken

def plainLoad (text : String) : Except String Value :=
  match (text.toList.splitOn '\n').find? namesVersion with
  | some line => .ok (.obj [("project", .obj [("version", .str (String.ofList (tokenOf line)))])])
  | none => .error "no version is named"

def plainReader : YamlReader plainLoad where
  Anchors := Unit
  frame front close := if front = [] ∧ close = [] then some () else none
  header behind _ := if behind = [':'] then some () else none
  read _ _ _ := none
  scalar _ _ token := some (.str (String.ofList token))
  assemble fields := if fields.length = 1 then some fields else none

theorem namesVersion_chars (line : VersionLine) : namesVersion line.chars = true := by
  rw [namesVersion, VersionLine.span_indent.2]
  exact List.isPrefixOf_iff_prefix.mpr (List.prefix_append _ _)

theorem tokenOf_chars (line : VersionLine) : tokenOf line.chars = line.token := by
  have eight : ("version:".toList ++ (line.space ++ line.value)).drop 8 =
      line.space ++ line.value := rfl
  rw [tokenOf, VersionLine.span_indent.2, eight, VersionLine.span_space.2,
    VersionLine.takeQuote_value, VersionLine.span_token.1]

theorem namesVersion_of_isNote {line : List Char} (note : IsNote line) :
    namesVersion line = false := by
  obtain ⟨blanks, comment, ending, rfl, blank, marked, ended⟩ := note
  have skip : ∀ char ∈ blanks, isBlank char = true :=
    fun char member => isBlank_of_isLineBlank (blank char member)
  rw [namesVersion, List.dropWhile_append_of_pos skip]
  rcases marked with rfl | ⟨mark, -⟩
  · rcases ended with rfl | rfl <;> decide
  · cases comment with
    | nil => cases mark
    | cons first rest =>
      obtain rfl := Option.some.inj mark
      rfl

theorem readAll_plainReader {indent : List Char} {anchors : Unit} {entries : List YamlEntry}
    {fields : List (String × Value)} {last : Unit}
    (read : plainReader.readAll indent anchors entries = some (fields, last)) :
    entries = [] ∧ fields = [] := by
  cases entries with
  | nil =>
    cases read
    exact ⟨rfl, rfl⟩
  | cons entry rest => cases read

theorem eq_nil_of_assemble {early late fields : List (String × Value)}
    {entry : String × Value}
    (assembled : plainReader.assemble (early ++ entry :: late) = some fields) :
    early = [] ∧ late = [] ∧ fields = [entry] := by
  change (if _ = 1 then some _ else none) = _ at assembled
  split at assembled
  · rename_i single
    rw [List.length_append, List.length_cons] at single
    obtain rfl := List.length_eq_zero_iff.mp (show early.length = 0 by omega)
    obtain rfl := List.length_eq_zero_iff.mp (show late.length = 0 by omega)
    exact ⟨rfl, rfl, (Option.some.inj assembled).symm⟩
  · cases assembled

theorem plainReader_lawful : plainReader.Lawful where
  parts := by
    intro text value read
    simp only [YamlReader.value, Option.bind_eq_bind, Option.bind_eq_some_iff] at read
    obtain ⟨start, framed, ⟨before, first⟩, readBefore, opened, named, ⟨early, second⟩, readEarly,
      version, readVersion, ⟨late, third⟩, readLate, ⟨after, last⟩, readAfter, project, assembled,
      fields, whole, same⟩ := read
    obtain ⟨noBefore, rfl⟩ := readAll_plainReader readBefore
    obtain ⟨noEarly, rfl⟩ := readAll_plainReader readEarly
    obtain ⟨noLate, rfl⟩ := readAll_plainReader readLate
    obtain ⟨noAfter, rfl⟩ := readAll_plainReader readAfter
    obtain ⟨-, -, rfl⟩ := eq_nil_of_assemble assembled
    obtain ⟨-, -, rfl⟩ := eq_nil_of_assemble whole
    obtain rfl := Option.some.inj readVersion
    obtain rfl := Option.some.inj same
    have noFrame : text.front = [] ∧ text.close = [] := by
      by_contra other
      have missing : plainReader.frame text.front text.close = none := if_neg other
      rw [missing] at framed
      cases framed
    have header : text.header = [':'] := by
      by_contra other
      have missing : plainReader.header text.header first = none := if_neg other
      rw [missing] at named
      cases named
    have lines : text.lines =
        "project:".toList :: (text.between ++ text.version.chars :: text.below) := by
      simp [ArchitectureParts.lines, ArchitectureParts.above, ArchitectureParts.beneath, noFrame,
        noBefore, noEarly, noLate, noAfter, header]
    have found : text.lines.find? namesVersion = some text.version.chars := by
      have skip : text.between.find? namesVersion = none := by
        rw [List.find?_eq_none]
        intro line member
        simp [namesVersion_of_isNote (text.notes line (List.mem_append_left _ member))]
      have section_line : namesVersion "project:".toList = false := by decide
      rw [lines, List.find?_cons, section_line]
      dsimp only
      rw [List.find?_append, skip, List.find?_cons_of_pos (namesVersion_chars _)]
      rfl
    rw [plainLoad, text.splitOn_text, found]
    dsimp only
    rw [tokenOf_chars]
  version := by
    intro anchors quote version quoted
    exact congrArg (some ∘ Value.str) String.ofList_toList
  assembled := by
    intro early key value written late fields own assembled
    obtain ⟨rfl, rfl, rfl⟩ := eq_nil_of_assemble assembled
    exact ⟨by simp, by simp [plainReader, setEntry]⟩

/-- A runtime that reads files which hold nothing but a version of the project. -/
def plainVersionEnv : VersionFilesEnv where
  rootDir := "/repo"
  yamlLoad := plainLoad
  jsonParse _ := .error "unexpected text"
  jsonText value := "\"" ++ value.toText ++ "\""
  jsonPretty value := value.toText
  npmInstall _ := none
  npmFails _ := true

def plainPackage : PackageText where
  before := ⟨[], by simp⟩
  early := []
  version := {
    front := ⟨[], by simp⟩
    name := [.plain 'v' (by decide), .plain 'e' (by decide), .plain 'r' (by decide),
      .plain 's' (by decide), .plain 'i' (by decide), .plain 'o' (by decide),
      .plain 'n' (by decide)]
    gap := ⟨[], by simp⟩
    before := ⟨[], by simp⟩
    raw := quotedChars [.plain '1' (by decide)]
    value := .str (jsonText [.plain '1' (by decide)])
    after := ⟨[], by simp⟩ }
  late := []
  after := ⟨[], by simp⟩
  text := [.plain '1' (by decide)]
  each := by simp
  named := by decide +kernel
  raw := rfl
  value := rfl
  last := by simp

def plainText : ArchitectureText where
  front := []
  before := []
  header := [':']
  between := []
  early := []
  version := {
    indent := [' ', ' ']
    space := [' ']
    quote := []
    token := ['1']
    gap := []
    comment := []
    indented := ⟨by decide, by simp⟩
    spaced := ⟨by decide, by simp⟩
    quoted := .inl rfl
    written := ⟨by decide, by simp; rfl⟩
    apart := by simp
    commented := .inl rfl }
  below := []
  late := []
  after := []
  close := []
  notes := by simp
  single := by decide

def nestedText (nested version : String) : String :=
  "project:\n  api:\n    version: " ++ nested ++ "\n  version: " ++ version

def nestedEnv : VersionFilesEnv where
  rootDir := "/repo"
  yamlLoad text :=
    if text = nestedText "1.0.0" "1.0.0" then
      .ok (.obj [("project", .obj [("api", .obj [("version", .str "1.0.0")]),
        ("version", .str "1.0.0")])])
    else if text = nestedText "1.0.1" "1.0.0" then
      .ok (.obj [("project", .obj [("api", .obj [("version", .str "1.0.1")]),
        ("version", .str "1.0.0")])])
    else .error "unexpected text"
  jsonParse _ := .error "unexpected text"
  jsonText value := "\"" ++ value.toText ++ "\""
  jsonPretty value := value.toText
  npmInstall _ := none
  npmFails _ := true

end BitBrat
