import BitBrat.Js.Text
import BitBrat.Js.Value

/-! The behaviour profile of an event: what its annotations say of intent, tone and risk. -/

namespace BitBrat

open Js

inductive BehaviorIntent where
  | question | joke | praise | critique | command | «meta» | spam
  deriving DecidableEq

inductive BehaviorToneBucket where
  | hostile | negative | neutral | positive | excited
  deriving DecidableEq

inductive BehaviorRiskLevel where
  | none | low | med | high
  deriving DecidableEq

inductive BehaviorRiskType where
  | none | harassment | spam | privacy | selfHarm | sexual | illegal
  deriving DecidableEq

inductive BehaviorResponseMode where
  | answer | lightHumor | gratitude | deescalate | briefComply | metaExplain | refuse | ignore
  deriving DecidableEq

inductive BehaviorGateDecision where
  | proceed | safeRefusal | noResponse | escalate
  deriving DecidableEq

inductive BehavioralRiskResponseMode where
  | refuse | safeComplete
  deriving DecidableEq

structure BehaviorToneProfile where
  valence : ℚ
  arousal : ℚ
  bucket : BehaviorToneBucket
  highArousal : Bool

structure BehaviorRiskProfile where
  level : BehaviorRiskLevel
  type : BehaviorRiskType

structure BehaviorPolicy where
  shouldRespond : Bool
  shouldUseTools : Bool
  shouldDeescalate : Bool
  shouldRefuse : Bool
  requiresSafeCompletion : Bool
  requiresEscalationAnnotation : Bool

structure BehaviorProfile where
  intent : BehaviorIntent
  tone : BehaviorToneProfile
  risk : BehaviorRiskProfile
  policy : BehaviorPolicy
  responseMode : BehaviorResponseMode
  gate : BehaviorGateDecision

def BehaviorIntent.toText : BehaviorIntent → String
  | question => "question"
  | joke => "joke"
  | praise => "praise"
  | critique => "critique"
  | command => "command"
  | «meta» => "meta"
  | spam => "spam"

def BehaviorRiskLevel.toText : BehaviorRiskLevel → String
  | none => "none"
  | low => "low"
  | med => "med"
  | high => "high"

def BehaviorRiskType.toText : BehaviorRiskType → String
  | none => "none"
  | harassment => "harassment"
  | spam => "spam"
  | privacy => "privacy"
  | selfHarm => "self_harm"
  | sexual => "sexual"
  | illegal => "illegal"

def BehaviorToneBucket.toText : BehaviorToneBucket → String
  | hostile => "hostile"
  | negative => "negative"
  | neutral => "neutral"
  | positive => "positive"
  | excited => "excited"

def BehaviorResponseMode.toText : BehaviorResponseMode → String
  | answer => "answer"
  | lightHumor => "light_humor"
  | gratitude => "gratitude"
  | deescalate => "deescalate"
  | briefComply => "brief_comply"
  | metaExplain => "meta_explain"
  | refuse => "refuse"
  | ignore => "ignore"

def BehaviorGateDecision.toText : BehaviorGateDecision → String
  | proceed => "PROCEED"
  | safeRefusal => "SAFE_REFUSAL"
  | noResponse => "NO_RESPONSE"
  | escalate => "ESCALATE"

def VALID_INTENTS : List BehaviorIntent :=
  [.question, .joke, .praise, .critique, .command, .«meta», .spam]

def VALID_RISK_LEVELS : List BehaviorRiskLevel := [.none, .low, .med, .high]

def VALID_RISK_TYPES : List BehaviorRiskType :=
  [.none, .harassment, .spam, .privacy, .selfHarm, .sexual, .illegal]

def BehaviorRiskType.dangerous : BehaviorRiskType → Bool
  | selfHarm => true
  | privacy => true
  | illegal => true
  | sexual => true
  | _ => false

namespace Behavior

/-- The lower case of a character, as far as an ASCII letter can come of it. -/
def lowerChar (char : Char) : Char :=
  -- The Kelvin sign is the only other character that becomes an ASCII letter.
  if char = Char.ofNat 0x212A then 'k' else char.toLower

/-- A text in lower case, without blanks around it, unless nothing is left. -/
def normalizeText : Value → Option String
  | .str text =>
    let trimmed := (trimBlanks text.toList).map lowerChar
    if trimmed = [] then none else some (String.ofList trimmed)
  | _ => none

def underscoreRuns (inRun : Bool) : List Char → List Char
  | [] => []
  | char :: rest =>
    if isBlank char || char = '-' then
      (if inRun then [] else ['_']) ++ underscoreRuns true rest
    else char :: underscoreRuns false rest

def normalizeRiskLevel (value : Value) : BehaviorRiskLevel :=
  match normalizeText value with
  | some "medium" => .med
  | some normalized => (VALID_RISK_LEVELS.find? (·.toText = normalized)).getD .none
  | none => .none

def normalizeRiskType (value : Value) : BehaviorRiskType :=
  match (normalizeText value).map fun text => String.ofList (underscoreRuns false text.toList) with
  | some normalized => (VALID_RISK_TYPES.find? (·.toText = normalized)).getD .none
  | none => .none

def normalizeIntent (value : Value) : BehaviorIntent :=
  ((normalizeText value).bind fun normalized =>
    VALID_INTENTS.find? (·.toText = normalized)).getD .question

section

variable (toNumber : Value → Number)

def normalizeScore (value : Value) : ℚ :=
  match toNumber value with
  | .finite parsed => if parsed > 1 then 1 else if parsed < -1 then -1 else parsed
  | _ => 0

def deriveToneBucket (valence arousal : ℚ) : BehaviorToneBucket :=
  if arousal ≥ 7 / 10 then .excited
  else if valence ≤ -6 / 10 then .hostile
  else if valence < -2 / 10 then .negative
  else if valence ≤ 2 / 10 then .neutral
  else .positive

def responseModeFor (intent : BehaviorIntent) (risk : BehaviorRiskProfile) :
    BehaviorResponseMode :=
  if risk.level = .high then .refuse
  else if risk.level = .med && risk.type.dangerous then .refuse
  else if risk.level = .med && risk.type = .harassment then
    if intent = .spam then .ignore else .deescalate
  else
    match intent with
    | .joke => .lightHumor
    | .praise => .gratitude
    | .critique => .deescalate
    | .command => .briefComply
    | .«meta» => .metaExplain
    | .spam => .ignore
    | .question => .answer

def policyFor (intent : BehaviorIntent) (tone : BehaviorToneProfile) (risk : BehaviorRiskProfile)
    (responseMode : BehaviorResponseMode) (riskResponseMode : BehavioralRiskResponseMode) :
    BehaviorPolicy :=
  let highRisk : Bool := risk.level = .high
  let mediumRisk : Bool := risk.level = .med
  let dangerousRisk := risk.type.dangerous
  { shouldRespond := !highRisk && intent ≠ .spam
    shouldUseTools := !highRisk && !mediumRisk && intent ≠ .spam &&
      !(intent = .critique && tone.highArousal) && risk.type ≠ .privacy &&
      risk.type ≠ .illegal && risk.type ≠ .selfHarm && risk.type ≠ .sexual
    shouldDeescalate := responseMode = .deescalate || risk.type = .harassment ||
      tone.bucket = .hostile
    shouldRefuse := highRisk || dangerousRisk
    requiresSafeCompletion := mediumRisk && (risk.type = .selfHarm ||
      (dangerousRisk && riskResponseMode = .safeComplete))
    requiresEscalationAnnotation := highRisk }

def gateFor (risk : BehaviorRiskProfile) (intent : BehaviorIntent) (policy : BehaviorPolicy) :
    BehaviorGateDecision :=
  if risk.level = .high then .escalate
  else if intent = .spam then .noResponse
  else if policy.shouldRefuse || policy.requiresSafeCompletion then .safeRefusal
  else .proceed

def firstAnnotation (annotations : List Value) (kind : String) : Value :=
  (annotations.find? fun annotation => annotation.get "kind" = .str kind).getD .undefined

def payloadRecord (entry : Value) : Value :=
  let payload := entry.get "payload"
  if payload.isObject then payload else .obj []

def deriveBehaviorProfile (annotations : List Value)
    (riskResponseMode : BehavioralRiskResponseMode) : BehaviorProfile :=
  let intentAnnotation := firstAnnotation annotations "intent"
  let toneAnnotation := firstAnnotation annotations "tone"
  let tonePayload := payloadRecord toneAnnotation
  let riskAnnotation := firstAnnotation annotations "risk"
  let riskPayload := payloadRecord riskAnnotation
  let riskLabel := riskAnnotation.get "label"
  let value := intentAnnotation.get "value"
  let label := intentAnnotation.get "label"
  let intent := normalizeIntent (value.coalesce label)
  let valence := normalizeScore toNumber (tonePayload.get "valence")
  let arousal := normalizeScore toNumber (tonePayload.get "arousal")
  let tone : BehaviorToneProfile :=
    { valence, arousal, highArousal := arousal ≥ 7 / 10
      bucket := deriveToneBucket valence arousal }
  let risk : BehaviorRiskProfile :=
    { level := normalizeRiskLevel ((riskPayload.get "level").coalesce riskLabel)
      type := normalizeRiskType (riskPayload.get "type") }
  let responseMode := responseModeFor intent risk
  let policy := policyFor intent tone risk responseMode riskResponseMode
  { intent, tone, risk, policy, responseMode, gate := gateFor risk intent policy }

end

theorem shouldUseTools_policyFor (intent : BehaviorIntent) (tone : BehaviorToneProfile)
    (risk : BehaviorRiskProfile) (responseMode : BehaviorResponseMode)
    (riskResponseMode : BehavioralRiskResponseMode) :
    (policyFor intent tone risk responseMode riskResponseMode).shouldUseTools = true ↔
      risk.level ≠ .high ∧ risk.level ≠ .med ∧ risk.type.dangerous = false ∧ intent ≠ .spam ∧
        ¬ (intent = .critique ∧ tone.highArousal = true) := by
  have types : risk.type.dangerous = false ↔ risk.type ≠ .privacy ∧ risk.type ≠ .illegal ∧
      risk.type ≠ .selfHarm ∧ risk.type ≠ .sexual := by
    cases risk.type <;> simp [BehaviorRiskType.dangerous]
  rw [types]
  simp only [policyFor, Bool.and_eq_true, Bool.not_eq_true', decide_eq_true_eq,
    decide_eq_false_iff_not, Bool.and_eq_false_iff, not_and_or, Bool.not_eq_true, ne_eq]
  tauto

end Behavior

end BitBrat
