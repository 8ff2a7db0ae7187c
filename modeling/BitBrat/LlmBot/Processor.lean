import BitBrat.Egress.IntegrationBit
import BitBrat.LlmBot.BehaviorProfile
import BitBrat.Mcp.Rbac

/-! The processor of the bot: gating an event, filtering the tools, and asking the model. -/

namespace BitBrat

open Js

structure ToolRegistry where
  tools : OrderedMap String BitBratTool
  keyed : ∀ entry ∈ tools.entries, entry.1 = entry.2.id

namespace ToolRegistry

/-- The registered tools, oldest identifier first. -/
def values (registry : ToolRegistry) : List BitBratTool := registry.tools.entries.map Prod.snd

def isNameChar (char : Char) : Bool :=
  char.isAlphanum || char = '_' || char = '-'

def getToolName (tool : BitBratTool) : String :=
  String.ofList (tool.id.toList.flatMap fun char =>
    -- A character beyond the basic plane is two code units, each of which is replaced.
    if isNameChar char then [char] else List.replicate (if char.val < 0x10000 then 1 else 2) '_')

/-- Put a tool into a record: this one name sets no property but the prototype. -/
def setTool (record : OrderedMap String BitBratTool) (tool : BitBratTool) :
    OrderedMap String BitBratTool :=
  if getToolName tool = "__proto__" then record else record.set (getToolName tool) tool

def getTools (registry : ToolRegistry) : OrderedMap String BitBratTool :=
  registry.values.foldl setTool .empty

end ToolRegistry

structure BotEvent where
  correlationId : String
  userId : Option String := none
  userRoles : Option (List String) := none
  externalId : Option String := none
  externalRoles : Option (List String) := none
  metadata : Value := .undefined
  annotations : Option (List Value) := none
  candidates : Option (List Value) := none
  errors : Option (List Value) := none

namespace BotEvent

/-- The roles of the user, or those of the platform it comes from. -/
def roles (event : BotEvent) : List String :=
  (event.userRoles.or event.externalRoles).getD []

/-- The identifier of the user, or that of the platform it comes from. -/
def user (event : BotEvent) : Value :=
  match event.userId.bind nonEmpty with
  | some id => .str id
  | none => optionalText event.externalId

def requestedScope (event : BotEvent) : Value := event.metadata.get "scope"

def pushCandidate (event : BotEvent) (candidate : Value) : BotEvent :=
  { event with candidates := some (event.candidates.getD [] ++ [candidate]) }

def pushErrors (event : BotEvent) (errors : List Value) : BotEvent :=
  if errors = [] then event else { event with errors := some (event.errors.getD [] ++ errors) }

end BotEvent

/-- A tool as the model is handed it: what it reads, and the tool that a call executes. -/
structure HandedTool where
  description : Option String
  inputSchema : Value
  execute : BitBratTool

def handTool (tool : BitBratTool) : HandedTool where
  description := tool.description
  inputSchema := tool.inputSchema
  execute := tool

/-- The prompt that is assembled of the event, the memory, and the personalities. -/
structure BotPrompt where
  system : String
  user : String
  platform : String
  model : String

structure ModelCall where
  prompt : BotPrompt
  tools : OrderedMap String HandedTool

/-- How a call of the model ends, and the errors of the tools that it has used. -/
structure ModelReply where
  toolErrors : List Value
  result : Except String String

/-- The flags of the processor, and what it asks of the rest of the platform. -/
structure ProcessorEnv where
  toolFilterEnabled : Bool
  gatingEnabled : Bool
  riskResponseMode : BehavioralRiskResponseMode
  toNumber : Value → Number
  contextAnnotations : BotEvent → List Value
  narratorGuidance : BotEvent → List Value
  buildCombinedPrompt : List Value → Option String
  assemble : BotEvent → BehaviorProfile → String → Except String BotPrompt
  providerError : BotPrompt → Option String
  generateText : ModelCall → ModelReply
  /-- The identifier and the time of the next annotation. -/
  uuid : Nat → String
  createdAt : Nat → String
  now : String

inductive ProcessStatus where
  | skip | ok | error
  deriving DecidableEq

structure ProcessOutcome where
  event : BotEvent
  calls : List ModelCall
  status : ProcessStatus

def META_TOOL_ALLOWLIST : List String :=
  ["internal:get_bot_status", "internal:list_available_tools"]

def behaviorProfileSummary (profile : BehaviorProfile) : Value :=
  .obj
    [("intent", .str profile.intent.toText),
      ("tone", .obj
        [("valence", .num (.finite profile.tone.valence)),
          ("arousal", .num (.finite profile.tone.arousal)),
          ("highArousal", .bool profile.tone.highArousal),
          ("bucket", .str profile.tone.bucket.toText)]),
      ("risk", .obj
        [("level", .str profile.risk.level.toText), ("type", .str profile.risk.type.toText)]),
      ("responseMode", .str profile.responseMode.toText),
      ("gate", .str profile.gate.toText),
      ("policy", .obj
        [("shouldRespond", .bool profile.policy.shouldRespond),
          ("shouldUseTools", .bool profile.policy.shouldUseTools),
          ("shouldDeescalate", .bool profile.policy.shouldDeescalate),
          ("shouldRefuse", .bool profile.policy.shouldRefuse),
          ("requiresSafeCompletion", .bool profile.policy.requiresSafeCompletion),
          ("requiresEscalationAnnotation", .bool profile.policy.requiresEscalationAnnotation)])]

def buildSafeRefusalText (profile : BehaviorProfile) : String :=
  match profile.risk.type with
  | .selfHarm => "I can’t help with harming yourself. If you’re in immediate danger or think " ++
      "you might act on these thoughts, please call emergency services now or reach out to a " ++
      "local crisis hotline or a trusted person right away."
  | .privacy => "I can’t help expose or share someone’s private or sensitive information."
  | .illegal => "I can’t help with illegal or dangerous activity."
  | .sexual => "I can’t help with that request."
  | _ => "I can’t help with that request, but I can try to help with a safer alternative."

/-- Whether the profile lets a tool be used, and why. -/
def evaluateBehavioralToolEligibility (tool : BitBratTool) (profile : BehaviorProfile) :
    Bool × String :=
  if profile.risk.level = .high then (false, "high-risk traffic disables tools")
  else if profile.risk.type.dangerous then
    (false, "risk type " ++ profile.risk.type.toText ++ " disables tools")
  else if profile.risk.level = .med then (false, "medium-risk traffic disables tools by policy")
  else if profile.intent = .«meta» then
    if META_TOOL_ALLOWLIST.contains tool.id then (true, "meta intent allowlisted tool")
    else (false, "meta intent only allows internal status tools")
  else if !profile.policy.shouldUseTools then
    (false, "behavior policy disabled tools for this request")
  else (true, "behavior policy allows tool use")

/-- A tool asks for no role, or for one of those given. -/
def rolesAllow (tool : BitBratTool) (userRoles : List String) : Bool :=
  tool.requiredRoles.all fun required =>
    required = [] || required.any fun role => userRoles.contains role

/-- A tool has no scope, or the one that is requested, if one is. -/
def scopeAllows (tool : BitBratTool) (requestedScope : Value) : Bool :=
  !requestedScope.truthy || tool.scopes.all fun scopes =>
    scopes = [] || scopes.any fun scope => Value.str scope = requestedScope

/-- The tools that the model is offered, and those that are kept from it with the reasons. -/
structure ToolOffer where
  filteredTools : OrderedMap String HandedTool := .empty
  behavioralToolSuppressions : List (String × String) := []
  scopeSuppressions : List (String × String) := []

section

variable (env : ProcessorEnv)

def offerTool (profile : BehaviorProfile) (event : BotEvent) (offer : ToolOffer)
    (entry : String × BitBratTool) : ToolOffer :=
  let (name, tool) := entry
  let decision :=
    if env.toolFilterEnabled then evaluateBehavioralToolEligibility tool profile
    else (true, "behavioral tool filtering disabled")
  if rolesAllow tool event.roles && scopeAllows tool event.requestedScope && decision.1 then
    { offer with filteredTools := offer.filteredTools.set name (handTool tool) }
  else if !rolesAllow tool event.roles then offer
  else if !scopeAllows tool event.requestedScope then
    { offer with scopeSuppressions := offer.scopeSuppressions ++
        [(tool.id, "mismatched scope (requested: " ++ event.requestedScope.toText ++ ", tool: " ++
          ((tool.scopes.map (String.intercalate ",")).getD "undefined") ++ ")")] }
  else
    { offer with behavioralToolSuppressions :=
        offer.behavioralToolSuppressions ++ [(tool.id, decision.2)] }

def offerTools (profile : BehaviorProfile) (event : BotEvent) (registry : ToolRegistry) :
    ToolOffer :=
  registry.getTools.entries.foldl (offerTool env profile event) {}

def appendRuntimeAnnotation (event : BotEvent) (kind label : String) (payload : Value) :
    BotEvent :=
  let annotations := event.annotations.getD []
  { event with annotations := some (annotations ++
      [.obj [("id", .str (env.uuid annotations.length)), ("kind", .str kind),
        ("source", .str "llm-bot"), ("createdAt", .str (env.createdAt annotations.length)),
        ("label", .str label), ("payload", payload)]]) }

def withProperty (record : Value) (key : String) (value : Value) : Value :=
  .obj (setEntry key value record.fields)

def safeRefusal (profile : BehaviorProfile) (event : BotEvent) : Value :=
  .obj
    [("id", .str ("cand-" ++ (if event.correlationId = "" then env.now else event.correlationId) ++
        "-safe-refusal")),
      ("kind", .str "text"), ("source", .str "llm-bot"),
      ("createdAt", .str (env.createdAt (event.annotations.getD []).length)),
      ("status", .str "proposed"), ("priority", .num (.finite 5)),
      ("text", .str (buildSafeRefusalText profile)), ("reason", .str "behavior:safe-refusal"),
      ("metadata", .obj [("behaviorProfile", behaviorProfileSummary profile)])]

def gateEvent (profile : BehaviorProfile) (event : BotEvent) : ProcessOutcome :=
  let summary := behaviorProfileSummary profile
  let strategy := appendRuntimeAnnotation env event "response-strategy"
    profile.responseMode.toText
    (withProperty (withProperty summary "toolUse" (.str "disabled")) "gate"
      (.str profile.gate.toText))
  let decided := appendRuntimeAnnotation env strategy "safety-decision"
    (profile.gate.toText.map Char.toLower)
    (withProperty summary "reason" (.str (profile.gate.toText.map Char.toLower)))
  if profile.gate = .safeRefusal then
    { event := decided.pushCandidate (safeRefusal env profile decided), calls := [], status := .ok }
  else { event := decided, calls := [], status := .skip }

def failEvent (event : BotEvent) (calls : List ModelCall) (message : String) : ProcessOutcome where
  event := event.pushErrors [.obj [("source", .str "llm-bot"), ("message", .str message),
    ("at", .str (env.createdAt (event.annotations.getD []).length)), ("fatal", .bool true)]]
  calls := calls
  status := .error

def toolUse (offer : ToolOffer) : Value :=
  let suppressed (suppressions : List (String × String)) : Value :=
    .arr (suppressions.map fun entry => .obj [("tool", .str entry.1), ("reason", .str entry.2)])
  .obj
    [("enabled", .bool env.toolFilterEnabled),
      ("allowedCount", .num (.finite offer.filteredTools.size)),
      ("suppressed", suppressed offer.behavioralToolSuppressions),
      ("scopeSuppressed", suppressed offer.scopeSuppressions)]

def answerCandidate (profile : BehaviorProfile) (prompt : BotPrompt) (finalResponse : String)
    (event : BotEvent) : Value :=
  .obj
    [("id", .str ("cand-" ++ if event.correlationId = "" then env.now else event.correlationId)),
      ("kind", .str "text"), ("source", .str "llm-bot"),
      ("createdAt", .str (env.createdAt (event.annotations.getD []).length)),
      ("status", .str "proposed"), ("priority", .num (.finite 10)),
      ("text", .str finalResponse), ("reason", .str ("model:" ++ prompt.model)),
      ("metadata", .obj [("behaviorProfile", behaviorProfileSummary profile)])]

/-- Ask the model, with the tools that are offered. -/
def askModel (profile : BehaviorProfile) (offer : ToolOffer) (prompt : BotPrompt)
    (event : BotEvent) : ProcessOutcome :=
  let call : ModelCall := { prompt := prompt, tools := offer.filteredTools }
  let reply := env.generateText call
  let used := event.pushErrors reply.toolErrors
  match reply.result with
  | .error message => failEvent env used [call] message
  | .ok text =>
    let finalResponse := String.ofList (unwrapQuoted text.toList)
    if finalResponse = "" then { event := used, calls := [call], status := .ok }
    else
      let candidate := answerCandidate env profile prompt finalResponse used
      { event := used.pushCandidate candidate, calls := [call], status := .ok }

def answerEvent (registry : ToolRegistry) (profile : BehaviorProfile) (combinedPrompt : String)
    (event : BotEvent) : ProcessOutcome :=
  match env.assemble event profile combinedPrompt with
  | .error message => failEvent env event [] message
  | .ok prompt =>
    let offer := offerTools env profile event registry
    let reported := appendRuntimeAnnotation env event "response-strategy"
      profile.responseMode.toText
      (withProperty (behaviorProfileSummary profile) "toolUse" (toolUse env offer))
    match env.providerError prompt with
    | some message => failEvent env reported [] message
    | none => askModel env profile offer prompt reported

/-- The event with more annotations, if there are more. -/
def BotEvent.annotate (event : BotEvent) (annotations : List Value) : BotEvent :=
  if annotations = [] then event
  else { event with annotations := some (event.annotations.getD [] ++ annotations) }

/-- The event after the annotations on its user and its disposition. -/
def contextualized (event : BotEvent) : BotEvent := event.annotate (env.contextAnnotations event)

/-- The annotations the processor works on: the list of the event, while one is there by then. -/
def seenAnnotations (event : BotEvent) (later : List Value) : List Value :=
  match (contextualized env event).annotations with
  | some annotations => annotations ++ later
  | none => []

def profileOf (event : BotEvent) : BehaviorProfile :=
  Behavior.deriveBehaviorProfile env.toNumber
    (seenAnnotations env event (env.narratorGuidance (contextualized env event)))
    env.riskResponseMode

def profiled (event : BotEvent) : BotEvent :=
  let narrated := (contextualized env event).annotate
    (env.narratorGuidance (contextualized env event))
  appendRuntimeAnnotation env narrated "behavior-profile"
    (profileOf env event).responseMode.toText (behaviorProfileSummary (profileOf env event))

def combinedPrompt (event : BotEvent) : Option String :=
  -- A list that the event had is the one that the profile was added to.
  if (contextualized env event).annotations.isSome then
    env.buildCombinedPrompt ((profiled env event).annotations.getD [])
  else env.buildCombinedPrompt []

def processEvent (registry : ToolRegistry) (event : BotEvent) : ProcessOutcome :=
  match combinedPrompt env event with
  | none => { event := profiled env event, calls := [], status := .skip }
  | some prompt =>
    if env.gatingEnabled && (profileOf env event).gate ≠ .proceed then
      gateEvent env (profileOf env event) (profiled env event)
    else answerEvent env registry (profileOf env event) prompt (profiled env event)

end

end BitBrat
