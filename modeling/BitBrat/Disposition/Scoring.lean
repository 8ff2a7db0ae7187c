import BitBrat.Js.IsoDate
import BitBrat.Js.Value

/-! Observations of users, and the snapshots of their disposition. -/

namespace BitBrat

open Js

def DISPOSITION_STATE_KEY_PREFIX : String := "user.disposition."

inductive DispositionBand where
  | supportive
  | neutral
  | frustrated
  | agitated
  | spammy
  | highRisk
  | insufficientSignal
  deriving DecidableEq

def DispositionBand.toText : DispositionBand → String
  | .supportive => "supportive"
  | .neutral => "neutral"
  | .frustrated => "frustrated"
  | .agitated => "agitated"
  | .spammy => "spammy"
  | .highRisk => "high-risk"
  | .insufficientSignal => "insufficient-signal"

inductive DispositionFlag where
  | deescalate
  | avoidHumor
  | restrictTools
  | monitorSafety
  | limitToolCalls
  deriving DecidableEq

def DispositionFlag.toText : DispositionFlag → String
  | .deescalate => "deescalate"
  | .avoidHumor => "avoid-humor"
  | .restrictTools => "restrict-tools"
  | .monitorSafety => "monitor-safety"
  | .limitToolCalls => "limit-tool-calls"

structure ExternalUser where
  platform : String
  id : String
  deriving DecidableEq

structure DispositionObservationIdentity where
  userId : Option String := none
  external : Option ExternalUser := none
  deriving DecidableEq

/-- What the analysis of a message found, where a tone that is missing is zero. -/
structure DispositionObservationAnalysis where
  intent : String
  valence : ℚ := 0
  arousal : ℚ := 0
  riskLevel : Option String := none
  riskType : Option String := none
  deriving DecidableEq

structure DispositionObservationEvent where
  correlationId : String
  observedAt : String
  userKey : String
  identity : DispositionObservationIdentity := {}
  analysis : DispositionObservationAnalysis
  source : String
  deriving DecidableEq

structure StoredDispositionObservation extends DispositionObservationEvent where
  expireAt : String
  sourcePlatform : Option String
  internalUserId : Option String
  deriving DecidableEq

structure DispositionIndicators where
  supportivenessIndex : ℚ := 0
  frictionIndex : ℚ := 0
  agitationIndex : ℚ := 0
  spamIndex : ℚ := 0
  safetyConcernIndex : ℚ := 0
  confidence : ℚ
  deriving DecidableEq

structure DispositionWindowSummary where
  startAt : String
  endAt : String
  messageCount : Nat
  windowMs : Int
  maxEvents : Nat
  deriving DecidableEq

structure DispositionSnapshot where
  band : DispositionBand
  asOf : String
  window : DispositionWindowSummary
  indicators : DispositionIndicators
  flags : List DispositionFlag
  expiresAt : String
  deriving DecidableEq

def numberValue (number : ℚ) : Value := .num (.finite number)

def DispositionSnapshot.toValue (snapshot : DispositionSnapshot) : Value :=
  .obj [
    ("band", .str snapshot.band.toText),
    ("asOf", .str snapshot.asOf),
    ("window", .obj [
      ("startAt", .str snapshot.window.startAt),
      ("endAt", .str snapshot.window.endAt),
      ("messageCount", numberValue snapshot.window.messageCount),
      ("windowMs", numberValue snapshot.window.windowMs),
      ("maxEvents", numberValue snapshot.window.maxEvents)]),
    ("indicators", .obj [
      ("supportivenessIndex", numberValue snapshot.indicators.supportivenessIndex),
      ("frictionIndex", numberValue snapshot.indicators.frictionIndex),
      ("agitationIndex", numberValue snapshot.indicators.agitationIndex),
      ("spamIndex", numberValue snapshot.indicators.spamIndex),
      ("safetyConcernIndex", numberValue snapshot.indicators.safetyConcernIndex),
      ("confidence", numberValue snapshot.indicators.confidence)]),
    ("flags", .arr (snapshot.flags.map fun flag => .str flag.toText)),
    ("expiresAt", .str snapshot.expiresAt)]

structure DispositionConfig where
  enabled : Bool := true
  windowMs : Int := 15 * 60 * 1000
  maxEvents : Nat := 20
  minEvents : Nat := 3
  snapshotTtlMs : Int := 20 * 60 * 1000
  publishUpdates : Bool := false

def dispositionStateKey (userKey : String) : String := DISPOSITION_STATE_KEY_PREFIX ++ userKey

def dispositionObservationDocumentId (userKey correlationId : String) : String :=
  "obs_" ++ userKey ++ "_" ++ correlationId

def normalizeRiskLevel (level : Option String) : String :=
  match level with
  | none => "none"
  | some level =>
    if level = "" then "none"
    else
      let value := level.toLower
      if value = "medium" then "med" else value

structure DispositionUpdatedEvent where
  correlationId : String
  userKey : String
  snapshot : DispositionSnapshot
  source : String
  publishedAt : String
  deriving DecidableEq

/-! The snapshot of a user's disposition, computed from the observations of a window. -/

structure DispositionRuntime where
  /-- Reading a text as a point in time, in milliseconds, if it is one. -/
  parse : String → Option Int
  /-- Whether the database takes a text for no earlier a time than another. -/
  notBefore : String → String → Bool
  /-- Whether the database sorts a text before another, or with it. -/
  textLe : String → String → Bool
  /-- A point in time that a script can hold is read as it was written. -/
  parse_toISOString : ∀ ms : Int, ms.natAbs ≤ 8640000000000000 → parse (toISOString ms) = some ms

/-- The text of a point in time, which throws if it is no point in time of a script. -/
def dateToISOString (ms : Int) : Except String String :=
  if ms.natAbs ≤ 8640000000000000 then .ok (toISOString ms) else .error "Invalid time value"

/-- A number between zero and one, rounded to four digits. -/
def clamp01 (value : ℚ) : ℚ :=
  if value ≤ 0 then 0
  else if value ≥ 1 then 1
  else (value * 10000 + 1 / 2).floor / 10000

def dispositionRatio (part total : Nat) : ℚ := if total = 0 then 0 else clamp01 (part / total)

/-- The mean of numbers, which is zero when there are none. -/
def average (values : List ℚ) : ℚ := if values = [] then 0 else values.sum / values.length

def highArousalNegative (item : DispositionObservationEvent) : Bool :=
  item.analysis.valence < 0 ∧ item.analysis.arousal ≥ 65 / 100

def dispositionIndicators (sorted : List DispositionObservationEvent) (maxEvents : Nat) :
    DispositionIndicators :=
  let messageCount := sorted.length
  let share (counts : DispositionObservationEvent → Bool) : ℚ :=
    dispositionRatio (sorted.countP counts) messageCount
  let positiveValence := average (sorted.map fun item => max item.analysis.valence 0)
  let negativeValence := average (sorted.map fun item => max (-item.analysis.valence) 0)
  let arousal := average (sorted.map fun item => clamp01 item.analysis.arousal)
  let risk (item : DispositionObservationEvent) := normalizeRiskLevel item.analysis.riskLevel
  let supportivenessIndex := clamp01 (6 / 10 * positiveValence +
    4 / 10 * share fun item => item.analysis.intent = "praise")
  let frictionIndex := clamp01 (45 / 100 * negativeValence +
    25 / 100 * share (fun item => item.analysis.riskType = some "harassment") +
    2 / 10 * share highArousalNegative +
    1 / 10 * share fun item => item.analysis.intent = "critique")
  let agitationIndex := clamp01 (5 / 10 * share highArousalNegative + 3 / 10 * arousal +
    2 / 10 * negativeValence)
  let spamIndex := clamp01 (7 / 10 * share (fun item => item.analysis.intent = "spam") +
    3 / 10 * share fun item => item.analysis.riskType = some "spam")
  let safetyConcernIndex := clamp01 (
    75 / 100 * share (fun item => risk item = "med" || risk item = "high") +
    if sorted.any fun item => risk item = "high" then 25 / 100 else 0)
  { supportivenessIndex, frictionIndex, agitationIndex, spamIndex, safetyConcernIndex
    confidence := clamp01 (6 / 10 * dispositionRatio messageCount maxEvents +
      4 / 10 * max supportivenessIndex (max frictionIndex (max agitationIndex
        (max spamIndex safetyConcernIndex)))) }

/-- The band that the indicators speak for, the most serious one first. -/
def dispositionBand (highRiskPresent : Bool) (indicators : DispositionIndicators) :
    DispositionBand :=
  if highRiskPresent ∨ indicators.safetyConcernIndex ≥ 8 / 10 then .highRisk
  else if indicators.spamIndex ≥ 55 / 100 then .spammy
  else if indicators.agitationIndex ≥ 65 / 100 then .agitated
  else if indicators.frictionIndex ≥ 55 / 100 then .frustrated
  else if indicators.supportivenessIndex ≥ 55 / 100 ∧
      indicators.supportivenessIndex > indicators.frictionIndex ∧
      indicators.supportivenessIndex > indicators.agitationIndex then .supportive
  else .neutral

def dispositionFlags (band : DispositionBand) : List DispositionFlag :=
  (if band = .frustrated ∨ band = .agitated ∨ band = .highRisk then [.deescalate] else []) ++
    (if band = .frustrated ∨ band = .agitated then [.avoidHumor] else []) ++
    (if band = .agitated ∨ band = .highRisk then [.restrictTools] else []) ++
    (if band = .highRisk then [.monitorSafety] else []) ++
    if band = .spammy then [.limitToolCalls] else []

/-- The observations of the window, the oldest first. -/
def windowObservations (runtime : DispositionRuntime)
    (observations : List DispositionObservationEvent) (config : DispositionConfig)
    (cutoffMs : Int) : List DispositionObservationEvent :=
  let time (observation : DispositionObservationEvent) := runtime.parse observation.observedAt
  (((observations.filter fun observation => (time observation).any (cutoffMs ≤ ·)).mergeSort
    fun left right => (time right).getD 0 ≤ (time left).getD 0).take config.maxEvents).reverse

def windowSnapshot (config : DispositionConfig) (nowIso windowStart expiresAt : String)
    (sorted : List DispositionObservationEvent) : DispositionSnapshot :=
  let messageCount := sorted.length
  let window : DispositionWindowSummary := {
    startAt := windowStart
    endAt := nowIso
    messageCount
    windowMs := config.windowMs
    maxEvents := config.maxEvents }
  if messageCount < config.minEvents then {
    band := .insufficientSignal
    asOf := nowIso
    window
    indicators := { confidence := clamp01 (messageCount / max config.minEvents 1) }
    flags := []
    expiresAt }
  else
    let indicators := dispositionIndicators sorted config.maxEvents
    let highRiskPresent := sorted.any fun item =>
      normalizeRiskLevel item.analysis.riskLevel = "high"
    let band := dispositionBand highRiskPresent indicators
    { band, asOf := nowIso, window, indicators, flags := dispositionFlags band, expiresAt }

/-- A window starts at its first observation, if there is one. -/
def windowStart (sorted : List DispositionObservationEvent) (cutoffMs : Int) :
    Except String String :=
  match sorted with
  | first :: _ => .ok first.observedAt
  | [] => dateToISOString cutoffMs

def computeDispositionSnapshot (runtime : DispositionRuntime)
    (observations : List DispositionObservationEvent) (config : DispositionConfig)
    (nowIso : String) : Except String DispositionSnapshot := do
  let some nowMs := runtime.parse nowIso | .error "Invalid time value"
  let cutoffMs := nowMs - config.windowMs
  let sorted := windowObservations runtime observations config cutoffMs
  let expiresAt ← dateToISOString (nowMs + config.snapshotTtlMs)
  let windowStart ← windowStart sorted cutoffMs
  .ok (windowSnapshot config nowIso windowStart expiresAt sorted)

end BitBrat
