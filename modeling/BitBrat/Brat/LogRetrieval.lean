import BitBrat.Js.Spread
import BitBrat.Js.Text
import BitBrat.Js.Value
import Mathlib.Data.List.DropRight
import Mathlib.Data.List.TakeWhile

/-! The logs of a Bit: how their lines are parsed, and which entries each of two sources returns. -/

namespace BitBrat

open Js

inductive LogLevel where
  | error
  | warn
  | info
  | debug
  | trace
  deriving DecidableEq

def LogLevel.text : LogLevel → String
  | error => "error"
  | warn => "warn"
  | info => "info"
  | debug => "debug"
  | trace => "trace"

inductive Severity where
  | DEFAULT
  | DEBUG
  | INFO
  | NOTICE
  | WARNING
  | ERROR
  | CRITICAL
  | ALERT
  | EMERGENCY
  deriving DecidableEq

abbrev LogEntry := OrderedMap String Value

structure LogRequest where
  bit : String
  level : List LogLevel := []
  correlationId : String := ""
  named : bit ≠ ""

structure LogEnv where
  now : String
  /-- The object of a text in braces, unless it is no JSON. -/
  jsonParse : List Char → Option (OrderedMap String Value)
  timestampIn : List Char → Option String
  /-- Whether the filter of Cloud Logging takes two texts for equal. -/
  sameText : String → String → Bool

/-- The name of a level, where it is a text. Only letters of these names are written small. -/
def normalizeLevel : Value → Option LogLevel
  | .str level =>
    let lower := level.toLower
    if lower = "error" ∨ lower = "err" ∨ lower = "fatal" then some .error
    else if lower = "warn" ∨ lower = "warning" then some .warn
    else if lower = "info" then some .info
    else if lower = "debug" then some .debug
    else if lower = "trace" then some .trace
    else some .info
  | _ => none

/-- A property of an object, which may be missing. -/
def valueOf (json : OrderedMap String Value) (key : String) : Value :=
  (json.get? key).getD .undefined

def jsonLevel (json : OrderedMap String Value) : Option LogLevel :=
  normalizeLevel (((valueOf json "level").or (valueOf json "severity")).or (.str "info"))

def spreadEntry (timestamp : Value) (level : LogLevel) (service : String) (message : Value)
    (json : OrderedMap String Value) : LogEntry :=
  OrderedMap.spread (((((OrderedMap.empty.set "timestamp" timestamp).set "level"
    (.str level.text)).set "service" (.str service)).set "message" message).set "correlationId"
      (valueOf json "correlationId")) json

section

variable (env : LogEnv) (request : LogRequest)

/-- The entry of a JSON text for a service with a name; an exception gives none. -/
def parseJsonLog (text : List Char) (serviceName : String) : Option LogEntry :=
  (env.jsonParse text).bind fun json => (jsonLevel json).map fun level =>
    spreadEntry (((valueOf json "ts").or (valueOf json "timestamp")).or (.str env.now)) level
      serviceName (((valueOf json "msg").or (valueOf json "message")).or (.str "")) json

def bracedText : List Char → Option (List Char)
  | '\x7b' :: rest =>
    let braced := (rest.takeWhile isInline).reverse.dropWhile (· ≠ '\x7d')
    if braced = [] then none else some ('\x7b' :: braced.reverse)
  | _ => none

/-- The braced text behind the first bar that has one. -/
def composeMatch : List Char → Option (List Char)
  | [] => none
  | char :: rest =>
    if char = '|' then (bracedText (rest.dropWhile isBlank)).or (composeMatch rest)
    else composeMatch rest

def isBraced (text : List Char) : Bool := text.head? = some '\x7b' && text.getLast? = some '\x7d'

def lineJson (line : List Char) : Option (List Char) :=
  (composeMatch line).or ((some (trimBlanks line)).filter isBraced)

/-- A line without JSON, less the name of the service in front of a bar. -/
def plainEntry (line : List Char) (serviceName : String) : LogEntry :=
  let behind := line.dropWhile (· ≠ '|')
  let message := if line.head? = some '|' ∨ behind = [] then line
    else behind.tail.dropWhile isBlank
  (((OrderedMap.empty.set "timestamp" (.str ((env.timestampIn line).getD env.now))).set "level"
    (.str "info")).set "service" (.str serviceName)).set "message" (.str (String.ofList message))

def parseDockerLogLine (line : List Char) (serviceName : String) : Option LogEntry :=
  match composeMatch line with
  | some text => parseJsonLog env text serviceName
  | none =>
    let parsed := if isBraced (trimBlanks line) then parseJsonLog env (trimBlanks line) serviceName
      else none
    some (parsed.getD (plainEntry env line serviceName))

def parseDockerLogs (output : List (List Char)) (serviceName : String) : List LogEntry :=
  (output.filter fun line => !line.all isBlank).filterMap fun line =>
    parseDockerLogLine env line serviceName

def filterByLevel (logs : List LogEntry) (levels : List LogLevel) : List LogEntry :=
  if levels = [] then logs
  else logs.filter fun log => log.get? "level" ∈ levels.map fun level => some (.str level.text)

def filterByCorrelation (logs : List LogEntry) (correlationId : String) : List LogEntry :=
  logs.filter fun log => log.get? "correlationId" = some (.str correlationId)

def getDockerComposeLogs (output : List (List Char)) : List LogEntry :=
  let logs := filterByLevel (parseDockerLogs env output request.bit) request.level
  if request.correlationId = "" then logs else filterByCorrelation logs request.correlationId

structure CloudEntry where
  timestamp : Option String
  severity : Option Severity
  textPayload : Value
  payload : OrderedMap String Value

def Severity.rank : Severity → Nat
  | DEFAULT => 0
  | DEBUG => 100
  | INFO => 200
  | NOTICE => 300
  | WARNING => 400
  | ERROR => 500
  | CRITICAL => 600
  | ALERT => 700
  | EMERGENCY => 800

def LogLevel.severity : LogLevel → Severity
  | error => .ERROR
  | warn => .WARNING
  | info => .INFO
  | debug | trace => .DEBUG

/-- The highest severity of some levels: the search is for a higher one at every level. -/
def mapLevelToSeverity (levels : List LogLevel) : Severity :=
  levels.foldl (fun minSeverity level =>
    if minSeverity.rank < level.severity.rank then level.severity else minSeverity) .DEBUG

def severityToLevel : Option Severity → LogLevel
  | some .ERROR | some .CRITICAL | some .ALERT | some .EMERGENCY => .error
  | some .WARNING => .warn
  | some .DEBUG => .debug
  | _ => .info

/-- The filter of a request, as it is documented. -/
def cloudFilter (entry : CloudEntry) : Bool :=
  (request.level.isEmpty ||
    (mapLevelToSeverity request.level).rank ≤ (entry.severity.getD .DEFAULT).rank) &&
  (request.correlationId = "" || match entry.payload.get? "correlationId" with
    | some (.str held) => env.sameText held request.correlationId
    | _ => false)

def cloudEntry (entry : CloudEntry) : LogEntry :=
  spreadEntry (.str (entry.timestamp.getD env.now)) (severityToLevel entry.severity) request.bit
    ((((valueOf entry.payload "message").or (valueOf entry.payload "msg")).or
      entry.textPayload).or (.str "")) entry.payload

def getCloudRunLogs (entries : List CloudEntry) : List LogEntry :=
  (entries.filter (cloudFilter env request)).map (cloudEntry env request)

end

/-- A line of the output that is a JSON object, on its own or behind the name of a service. -/
structure JsonLine (env : LogEnv) where
  line : List Char
  inner : List Char
  json : OrderedMap String Value
  parsed : env.jsonParse ('\x7b' :: inner ++ ['\x7d']) = some json
  placed : line = '\x7b' :: inner ++ ['\x7d'] ∨ ∃ (first : Char) (name blanks : List Char),
    isBlank first = false ∧ first ≠ '\x7b' ∧ '|' ∉ first :: name ∧
      (∀ char ∈ blanks, isBlank char = true) ∧
        line = first :: name ++ '|' :: (blanks ++ ('\x7b' :: inner ++ ['\x7d']))

def JsonLine.text {env : LogEnv} (line : JsonLine env) : List Char :=
  '\x7b' :: line.inner ++ ['\x7d']

def LogRequest.Asks (request : LogRequest) (level : LogLevel) (json : OrderedMap String Value) :
    Prop :=
  (request.level = [] ∨ level ∈ request.level) ∧ (request.correlationId = "" ∨
    json.get? "correlationId" = some (.str request.correlationId))

structure ValidEntry (request : LogRequest) (entry : LogEntry) : Prop where
  level : ∃ level : LogLevel, entry.get? "level" = some (.str level.text)
  service : entry.get? "service" = some (.str request.bit)

/-- A logged object has no level and no service of its own but valid ones. -/
structure PlainFields (request : LogRequest) (json : OrderedMap String Value) : Prop where
  level : ∀ value, json.get? "level" = some value → ∃ level : LogLevel, value = .str level.text
  service : ∀ value, json.get? "service" = some value → value = .str request.bit

section

variable (env : LogEnv) (request : LogRequest)

structure DockerLaw (line : JsonLine env) : Prop where
  parsed : lineJson line.line = some line.text ∧ jsonLevel line.json ≠ none
  returned : ∀ level, jsonLevel line.json = some level →
    ((∃ entry, entry ∈ getDockerComposeLogs env request [line.line]) ↔
      request.Asks level line.json)
  valid : ∀ entry ∈ getDockerComposeLogs env request [line.line], ValidEntry request entry

/-- A JSON line whose level is a text, without a bar in front of a brace if it stands alone, and
without the end of a line behind a name, with plain fields if it is asked for. -/
structure DockerInPlace (line : JsonLine env) : Prop where
  clear : if line.line = line.text then composeMatch line.text = none
    else ∀ char ∈ line.inner, isInline char = true
  leveled : jsonLevel line.json ≠ none
  plain : ∀ level, jsonLevel line.json = some level → request.Asks level line.json →
    PlainFields request line.json

structure CloudLaw (entry : CloudEntry) : Prop where
  returned : cloudFilter env request entry = true ↔
    request.Asks (severityToLevel entry.severity) entry.payload
  valid : ∀ shown ∈ getCloudRunLogs env request [entry], ValidEntry request shown

/-- An entry that has the severity of every requested level exactly if its own one is requested,
and plain fields if it is asked for. -/
structure CloudInPlace (entry : CloudEntry) : Prop where
  selected : ((request.level = [] ∨ 100 ≤ (entry.severity.getD .DEFAULT).rank ∧
      ∀ level ∈ request.level, level.severity.rank ≤ (entry.severity.getD .DEFAULT).rank) ∧
    (request.correlationId = "" ∨ ∃ held, entry.payload.get? "correlationId" = some (.str held) ∧
      env.sameText held request.correlationId = true)) ↔
    request.Asks (severityToLevel entry.severity) entry.payload
  plain : request.Asks (severityToLevel entry.severity) entry.payload →
    PlainFields request entry.payload

/-- What is promised of the retrieval of logs, and when it is kept. -/
structure LogLaw : Prop where
  docker : ∀ line : JsonLine env, DockerLaw env request line ↔ DockerInPlace env request line
  cloud : ∀ entry, CloudLaw env request entry ↔ CloudInPlace env request entry
  plain : ∀ line, lineJson line = none →
    ∀ entry ∈ getDockerComposeLogs env request [line], ValidEntry request entry
  /-- Every line and every entry is taken by itself. -/
  lines : ∀ output, getDockerComposeLogs env request output =
    output.flatMap fun line => getDockerComposeLogs env request [line]
  entries : ∀ logged, getCloudRunLogs env request logged =
    logged.flatMap fun entry => getCloudRunLogs env request [entry]

end

section

variable {env : LogEnv} {request : LogRequest} {line : JsonLine env}

private theorem normalizeLevel_text (level : LogLevel) :
    normalizeLevel (.str level.text) = some level := by
  cases level <;> decide +kernel

theorem composeMatch_behind {name text : List Char} (free : '|' ∉ name) :
    composeMatch (name ++ '|' :: text) =
      (bracedText (text.dropWhile isBlank)).or (composeMatch text) := by
  induction name with
  | nil => simp [composeMatch]
  | cons first rest ih =>
    obtain ⟨other, later⟩ := List.ne_and_not_mem_of_not_mem_cons free
    rw [List.cons_append, composeMatch, if_neg (Ne.symm other), ih later]

theorem bracedText_length {text taken : List Char} (found : bracedText text = some taken) :
    taken.length ≤ text.length := by
  unfold bracedText at found
  split at found
  case h_1 rest =>
    dsimp only at found
    split at found
    · simp at found
    · obtain rfl := Option.some.inj found
      have dropped := (List.dropWhile_sublist (· ≠ '\x7d')
        (l := (rest.takeWhile isInline).reverse)).length_le
      have inside := (List.takeWhile_sublist (p := isInline) (l := rest)).length_le
      simp only [List.length_reverse, List.length_cons] at dropped ⊢
      omega
  · simp at found

theorem composeMatch_length {text taken : List Char}
    (found : composeMatch text = some taken) : taken.length < text.length := by
  induction text with
  | nil => simp [composeMatch] at found
  | cons char rest ih =>
    rw [composeMatch] at found
    split at found
    · rcases Option.or_eq_some_iff.mp found with here | ⟨_, later⟩
      · exact Nat.lt_succ_of_le ((bracedText_length here).trans
          (List.dropWhile_sublist isBlank).length_le)
      · exact Nat.lt_succ_of_lt (ih later)
    · exact Nat.lt_succ_of_lt (ih found)

theorem bracedText_iff (line : JsonLine env) :
    bracedText line.text = some line.text ↔ ∀ char ∈ line.inner, isInline char = true := by
  have whole : (line.inner ++ ['\x7d']).takeWhile isInline = line.inner ++ ['\x7d'] ↔
      ∀ char ∈ line.inner, isInline char = true := by
    simp [List.takeWhile_eq_self_iff, or_imp, forall_and, isInline]
  rw [← whole]
  constructor
  · intro found
    simp only [bracedText, JsonLine.text, List.cons_append] at found
    split at found
    · simp at found
    · -- Nothing is left out, so that the whole text is within its line.
      have lengths := congrArg List.length (List.cons.inj (Option.some.inj found)).2
      have dropped := (List.dropWhile_sublist (l := ((line.inner ++ ['\x7d']).takeWhile
        isInline).reverse) (· ≠ '\x7d')).length_le
      rw [List.length_reverse] at lengths dropped
      exact (List.takeWhile_prefix isInline).eq_of_length_le (lengths ▸ dropped)
  · intro same
    simp [bracedText, JsonLine.text, same]

theorem composeMatch_blanks {blanks : List Char}
    (blank : ∀ char ∈ blanks, isBlank char = true) (text : List Char) :
    composeMatch (blanks ++ text) = composeMatch text := by
  induction blanks with
  | nil => rfl
  | cons char rest ih =>
    have noBar : char ≠ '|' := by
      rintro rfl
      exact absurd (blank '|' List.mem_cons_self) (by decide)
    rw [List.cons_append, composeMatch, if_neg noBar,
      ih fun other member => blank other (List.mem_cons_of_mem _ member)]

theorem composeMatch_text (line : JsonLine env) :
    composeMatch line.text ≠ some line.text := fun found => (composeMatch_length found).false

theorem lineJson_iff (line : JsonLine env) :
    lineJson line.line = some line.text ↔
      if line.line = line.text then composeMatch line.text = none
      else ∀ char ∈ line.inner, isInline char = true := by
  rcases line.placed with alone | ⟨first, name, blanks, dark, other, free, blank, same⟩
  · have alone : line.line = line.text := alone
    have trimmed : trimBlanks line.text = line.text := by
      simp [trimBlanks, JsonLine.text, isBlank]
    rw [lineJson, if_pos alone, alone, trimmed]
    cases found : composeMatch line.text with
    | none => simp [isBraced, JsonLine.text, List.getLast?_cons]
    | some taken =>
      have apart := composeMatch_text line
      rw [found] at apart
      simpa using apart
  · have apart : line.line ≠ line.text := by
      intro alone
      have lengths := congrArg List.length (same.symm.trans alone)
      simp [JsonLine.text] at lengths
      omega
    have start : (blanks ++ line.text).dropWhile isBlank = line.text := by
      rw [List.dropWhile_append_of_pos blank]
      exact List.dropWhile_cons_of_neg (by decide)
    have found : composeMatch line.line = (bracedText line.text).or (composeMatch line.text) := by
      rw [same, composeMatch_behind free, ← JsonLine.text, start, composeMatch_blanks blank]
    -- The line does not start with a brace.
    have bare : isBraced (trimBlanks line.line) = false := by
      have led : line.line.dropWhile isBlank = line.line := by
        rw [same]
        exact List.dropWhile_cons_of_neg (by simp [dark])
      have begins : trimBlanks line.line <+: line.line := by
        rw [trimBlanks, led]
        exact List.rdropWhile_prefix isBlank _
      cases trimmed : trimBlanks line.line with
      | nil => rfl
      | cons char rest =>
        rw [trimmed, same] at begins
        obtain rfl := (List.cons_prefix_cons.mp begins).1
        simp [isBraced, other]
    have unbraced : (some (trimBlanks line.line)).filter isBraced = none := by simp [bare]
    rw [lineJson, found, unbraced, Option.or_none, if_neg apart, ← bracedText_iff]
    cases taken : bracedText line.text with
    | some text => simp
    | none => simpa using composeMatch_text line

/-- The line is parsed as its object, with the level that the object has. -/
theorem parseDockerLogLine_json {level : LogLevel} {bit : String}
    (taken : lineJson line.line = some line.text) (leveled : jsonLevel line.json = some level) :
    ∃ timestamp message, parseDockerLogLine env line.line bit =
      some (spreadEntry timestamp level bit message line.json) := by
  obtain ⟨timestamp, message, parsed⟩ : ∃ timestamp message, parseJsonLog env line.text bit =
      some (spreadEntry timestamp level bit message line.json) := by
    rw [parseJsonLog, JsonLine.text, line.parsed, Option.bind_some, leveled]
    exact ⟨_, _, rfl⟩
  refine ⟨timestamp, message, ?_⟩
  unfold lineJson at taken
  unfold parseDockerLogLine
  cases found : composeMatch line.line with
  | some text =>
    rw [found, Option.some_or] at taken
    rw [Option.some.inj taken]
    exact parsed
  | none =>
    rw [found, Option.none_or, Option.filter_eq_some_iff] at taken
    simp only [Option.some.inj taken.1, taken.2, if_true, parsed, Option.getD_some]

theorem get?_spreadEntry {timestamp message : Value} {level : LogLevel} {bit : String}
    {json : OrderedMap String Value} :
    (spreadEntry timestamp level bit message json).get? "level" =
        (json.get? "level").or (some (.str level.text)) ∧
      (spreadEntry timestamp level bit message json).get? "service" =
        (json.get? "service").or (some (.str bit)) ∧
      ∀ id, (spreadEntry timestamp level bit message json).get? "correlationId" = some (.str id) ↔
        json.get? "correlationId" = some (.str id) := by
  simp only [spreadEntry, OrderedMap.get?_spread, OrderedMap.get?_set]
  refine ⟨by simp, by simp, fun id => ?_⟩
  cases held : json.get? "correlationId" <;> simp [held, valueOf]

theorem valid_spreadEntry {timestamp message : Value} {level : LogLevel}
    {json : OrderedMap String Value} :
    ValidEntry request (spreadEntry timestamp level request.bit message json) ↔
      PlainFields request json := by
  obtain ⟨levels, services, -⟩ := @get?_spreadEntry timestamp message level request.bit json
  constructor
  · intro valid
    refine ⟨fun value held => ?_, fun value held => ?_⟩
    · obtain ⟨own, shown⟩ := valid.level
      exact ⟨own, by simpa [levels, held] using shown⟩
    · simpa [services, held] using valid.service
  · intro plain
    refine ⟨?_, ?_⟩
    · cases held : json.get? "level" with
      | none => exact ⟨level, by simp [levels, held]⟩
      | some value =>
        obtain ⟨own, rfl⟩ := plain.level value held
        exact ⟨own, by simp [levels, held]⟩
    · cases held : json.get? "service" with
      | none => simp [services, held]
      | some value => simp [services, held, plain.service value held]

theorem level_of_own {json : OrderedMap String Value} {own : LogLevel}
    (held : json.get? "level" = some (.str own.text)) : jsonLevel json = some own := by
  have named : Value.truthy (.str own.text) = true := by cases own <;> rfl
  simp [jsonLevel, valueOf, held, Value.or, named, normalizeLevel_text]

private theorem text_injective : Function.Injective LogLevel.text := by
  intro left right
  cases left <;> cases right <;> simp [LogLevel.text]

def LogRequest.Passes (request : LogRequest) (level correlationId : Option Value) : Prop :=
  (request.level = [] ∨ level ∈ request.level.map fun level => some (.str level.text)) ∧
    (request.correlationId = "" ∨ correlationId = some (.str request.correlationId))

theorem mem_getDockerComposeLogs {output : List (List Char)} {entry : LogEntry} :
    entry ∈ getDockerComposeLogs env request output ↔
      (∃ line ∈ output, line.all isBlank = false ∧
        parseDockerLogLine env line request.bit = some entry) ∧
      request.Passes (entry.get? "level") (entry.get? "correlationId") := by
  unfold getDockerComposeLogs parseDockerLogs filterByLevel filterByCorrelation LogRequest.Passes
  by_cases levels : request.level = [] <;> by_cases id : request.correlationId = "" <;>
    simp [levels, id, and_assoc, -List.filter_filter]

/-- A level that passes is the normalized one. -/
theorem asks_of_passes {level : LogLevel} {json : OrderedMap String Value}
    (leveled : jsonLevel json = some level)
    (passes : request.Passes ((json.get? "level").or (some (.str level.text)))
      (json.get? "correlationId")) : request.Asks level json := by
  refine ⟨passes.1.imp_right fun picked => ?_, passes.2⟩
  obtain ⟨own, member, same⟩ := List.mem_map.mp picked
  cases held : json.get? "level" with
  | none =>
    rw [held, Option.none_or] at same
    exact text_injective (Value.str.inj (Option.some.inj same)) ▸ member
  | some value =>
    rw [held, Option.some_or] at same
    rw [level_of_own (held.trans same.symm)] at leveled
    exact Option.some.inj leveled ▸ member

theorem passes_of_asks {level : LogLevel} {json : OrderedMap String Value}
    (leveled : jsonLevel json = some level) (asks : request.Asks level json)
    (plain : PlainFields request json) :
    request.Passes ((json.get? "level").or (some (.str level.text)))
      (json.get? "correlationId") := by
  refine ⟨asks.1.imp_right fun member => List.mem_map.mpr ⟨level, member, ?_⟩, asks.2⟩
  cases held : json.get? "level" with
  | none => rfl
  | some value =>
    obtain ⟨own, rfl⟩ := plain.level value held
    rw [level_of_own held] at leveled
    rw [Option.some.inj leveled, Option.some_or]

theorem dockerLaw_iff (line : JsonLine env) :
    DockerLaw env request line ↔ DockerInPlace env request line := by
  have visible : line.line.all isBlank = false := by
    refine List.all_eq_false.mpr ⟨'\x7b', ?_, by decide⟩
    rcases line.placed with same | ⟨_, _, _, _, _, _, _, same⟩ <;> simp [same]
  have clear := lineJson_iff line
  by_cases inPlace : lineJson line.line = some line.text ∧ jsonLevel line.json ≠ none
  case neg =>
    exact ⟨fun law => absurd law.parsed inPlace,
      fun place => absurd ⟨clear.mpr place.clear, place.leveled⟩ inPlace⟩
  obtain ⟨level, leveled⟩ := Option.ne_none_iff_exists'.mp inPlace.2
  obtain ⟨timestamp, message, parsed⟩ :=
    @parseDockerLogLine_json env line level request.bit inPlace.1 leveled
  obtain ⟨levels, -, correlated⟩ := @get?_spreadEntry timestamp message level request.bit line.json
  have member (entry : LogEntry) : entry ∈ getDockerComposeLogs env request [line.line] ↔
      entry = spreadEntry timestamp level request.bit message line.json ∧
        request.Passes ((line.json.get? "level").or (some (.str level.text)))
          (line.json.get? "correlationId") := by
    simp only [mem_getDockerComposeLogs, List.mem_singleton, exists_eq_left, visible, true_and,
      parsed, Option.some.injEq, eq_comm (b := entry)]
    refine and_congr_right ?_
    rintro rfl
    rw [levels, LogRequest.Passes, correlated, LogRequest.Passes]
  constructor
  · intro law
    refine ⟨clear.mp inPlace.1, inPlace.2, fun other same asks => ?_⟩
    obtain ⟨entry, held⟩ := (law.returned other same).mpr asks
    exact valid_spreadEntry.mp (((member entry).mp held).1 ▸ law.valid entry held)
  · intro place
    refine ⟨inPlace, fun other same => ?_, fun entry held => ?_⟩
    · obtain rfl := Option.some.inj (leveled.symm.trans same)
      exact ⟨fun ⟨entry, held⟩ => asks_of_passes leveled ((member entry).mp held).2,
        fun asks => ⟨_, (member _).mpr
          ⟨rfl, passes_of_asks leveled asks (place.plain level leveled asks)⟩⟩⟩
    · obtain ⟨rfl, passes⟩ := (member entry).mp held
      exact valid_spreadEntry.mpr (place.plain level leveled (asks_of_passes leveled passes))

theorem rank_mapLevelToSeverity {levels : List LogLevel} {rank : Nat} :
    (mapLevelToSeverity levels).rank ≤ rank ↔
      100 ≤ rank ∧ ∀ level ∈ levels, level.severity.rank ≤ rank := by
  have general (start : Severity) : (levels.foldl (fun minSeverity level =>
      if minSeverity.rank < level.severity.rank then level.severity else minSeverity)
        start).rank ≤ rank ↔ start.rank ≤ rank ∧ ∀ level ∈ levels, level.severity.rank ≤ rank := by
    induction levels generalizing start with
    | nil => simp
    | cons level rest ih =>
      rw [List.foldl_cons, ih, List.forall_mem_cons, ← and_assoc]
      refine and_congr_left fun _ => ?_
      split <;> omega
  exact general .DEBUG

theorem cloudFilter_iff {entry : CloudEntry} :
    cloudFilter env request entry = true ↔
      (request.level = [] ∨ 100 ≤ (entry.severity.getD .DEFAULT).rank ∧
        ∀ level ∈ request.level, level.severity.rank ≤ (entry.severity.getD .DEFAULT).rank) ∧
      (request.correlationId = "" ∨ ∃ held, entry.payload.get? "correlationId" =
        some (.str held) ∧ env.sameText held request.correlationId = true) := by
  rw [cloudFilter, Bool.and_eq_true, Bool.or_eq_true, Bool.or_eq_true, List.isEmpty_iff,
    decide_eq_true_eq, decide_eq_true_eq, rank_mapLevelToSeverity]
  refine and_congr_right fun _ => or_congr_right ?_
  split
  · simp_all
  · simp_all

theorem cloudLaw_iff (entry : CloudEntry) :
    CloudLaw env request entry ↔ CloudInPlace env request entry := by
  have member (shown : LogEntry) : shown ∈ getCloudRunLogs env request [entry] ↔
      shown = cloudEntry env request entry ∧ cloudFilter env request entry = true := by
    cases kept : cloudFilter env request entry <;> simp [getCloudRunLogs, kept]
  constructor
  · intro law
    refine ⟨cloudFilter_iff.symm.trans law.returned, fun asks => ?_⟩
    exact valid_spreadEntry.mp (law.valid _ ((member _).mpr ⟨rfl, law.returned.mpr asks⟩))
  · intro place
    have returned := cloudFilter_iff.trans place.selected
    refine ⟨returned, fun shown held => ?_⟩
    obtain ⟨rfl, kept⟩ := (member shown).mp held
    exact valid_spreadEntry.mpr (place.plain (returned.mp kept))

theorem valid_plain {chars : List Char} (text : lineJson chars = none) {entry : LogEntry}
    (held : entry ∈ getDockerComposeLogs env request [chars]) : ValidEntry request entry := by
  obtain ⟨⟨line, here, -, parsed⟩, -⟩ := mem_getDockerComposeLogs.mp held
  obtain rfl := List.mem_singleton.mp here
  obtain ⟨unmatched, unbraced⟩ := Option.or_eq_none_iff.mp text
  have unbraced : isBraced (trimBlanks line) = false := by simpa using unbraced
  simp only [parseDockerLogLine, unmatched, unbraced, Bool.false_eq_true, if_false,
    Option.getD_none, Option.some.injEq] at parsed
  subst parsed
  exact ⟨⟨.info, by simp [plainEntry, LogLevel.text]⟩, by simp [plainEntry]⟩

theorem lines_apart (output : List (List Char)) :
    getDockerComposeLogs env request output =
      output.flatMap fun line => getDockerComposeLogs env request [line] := by
  induction output with
  | nil => simp [getDockerComposeLogs, parseDockerLogs, filterByLevel, filterByCorrelation]
  | cons line rest ih =>
    rw [List.flatMap_cons, ← ih]
    have parts : parseDockerLogs env (line :: rest) request.bit =
        parseDockerLogs env [line] request.bit ++ parseDockerLogs env rest request.bit := by
      rw [← List.singleton_append]
      simp only [parseDockerLogs, List.filter_append, List.filterMap_append]
    unfold getDockerComposeLogs filterByLevel filterByCorrelation
    rw [parts]
    split <;> split <;> simp only [List.filter_append]

end

/-- The retrieval of logs keeps what is promised exactly for what is in place. -/
theorem logLaw (env : LogEnv) (request : LogRequest) : LogLaw env request where
  docker := dockerLaw_iff
  cloud := cloudLaw_iff
  plain _ text _ held := valid_plain text held
  lines := lines_apart
  entries logged := by
    induction logged with
    | nil => rfl
    | cons entry rest ih =>
      rw [List.flatMap_cons, ← ih]
      cases kept : cloudFilter env request entry <;> simp [getCloudRunLogs, kept]

def capitalJson : OrderedMap String Value := OrderedMap.empty.set "level" (.str "WARN")

def capitalEnv : LogEnv where
  now := ""
  jsonParse _ := some capitalJson
  timestampIn _ := none
  sameText left right := left = right

/-- A level in capitals is put over the normalized one, and the entry is not found by it. -/
theorem not_dockerLaw : ¬ ∀ env request (line : JsonLine env), DockerLaw env request line := by
  intro law
  let request : LogRequest := { bit := "auth", level := [.warn], named := by decide }
  let chars := "\x7b\"level\":\"WARN\"\x7d".toList
  have returned := (law capitalEnv request ⟨chars, "\"level\":\"WARN\"".toList, capitalJson, rfl,
    .inl (by decide +kernel)⟩).returned .warn (by decide +kernel)
  obtain ⟨entry, held⟩ := returned.mpr ⟨.inr (List.mem_singleton_self _), .inl rfl⟩
  have absent : getDockerComposeLogs capitalEnv request [chars] = [] := by decide +kernel
  exact List.not_mem_nil (absent ▸ held)

end BitBrat
