import Mathlib.Data.List.Sort
import BitBrat.Js.Text
import BitBrat.Js.Value

/-! The parts of a prompt, and how each of them is written. -/

namespace BitBrat

open Js

structure SystemPrompt where
  summary : Option CodeUnits := none
  rules : List CodeUnits := []
  sources : Option (List CodeUnits) := none

structure Identity where
  name : Option CodeUnits := none
  summary : Option CodeUnits := none
  traits : Option (List CodeUnits) := none
  tone : Option CodeUnits := none
  styleGuidelines : Option (List CodeUnits) := none

structure RequestingUser where
  userId : Option CodeUnits := none
  handle : Option CodeUnits := none
  displayName : Option CodeUnits := none
  roles : Option (List CodeUnits) := none
  locale : Option CodeUnits := none
  timezone : Option CodeUnits := none
  tier : Option CodeUnits := none
  notes : Option CodeUnits := none
  subheader : Option CodeUnits := none

inductive TranscriptRole where
  | user
  | assistant
  | tool
  deriving DecidableEq

structure ConversationStateItem where
  role : TranscriptRole
  content : CodeUnits

inductive RenderMode where
  | summary
  | transcript
  | both
  deriving DecidableEq

structure ConversationState where
  summary : Option CodeUnits := none
  transcript : Option (List ConversationStateItem) := none
  renderMode : Option RenderMode := none
  subheader : Option CodeUnits := none

structure Constraint where
  priority : Option Nat := none
  text : CodeUnits

structure TaskAnnotation where
  id : Option CodeUnits := none
  priority : Option Nat := none
  instruction : CodeUnits

structure InputPayload where
  userQuery : CodeUnits
  context : Option CodeUnits := none

/-- The content of a named context: a text, or an object that is written as JSON. -/
inductive ContextContent where
  | text (text : CodeUnits)
  | object (value : Value)

structure NamedContext where
  name : CodeUnits
  content : ContextContent
  priority : Option Nat := none
  subheader : Option CodeUnits := none

structure PromptSpec where
  systemPrompt : Option SystemPrompt := none
  identity : Option Identity := none
  requestingUser : Option RequestingUser := none
  conversationState : Option ConversationState := none
  contexts : Option (List NamedContext) := none
  constraints : Option (List Constraint) := none
  constraintsSubheader : Option CodeUnits := none
  task : List TaskAnnotation
  taskSubheader : Option CodeUnits := none
  input : InputPayload

structure SectionCaps where
  conversationState : Option Rat := none
  contexts : Option Rat := none
  constraints : Option Rat := none
  task : Option Rat := none
  input : Option Rat := none

structure DefaultSubheaders where
  requestingUser : Option CodeUnits := none
  constraints : Option CodeUnits := none
  task : Option CodeUnits := none
  conversationState : Option CodeUnits := none

structure AssemblerConfig where
  headingLevel : Option Nat := none
  showEmptySections : Option Bool := none
  maxTotalChars : Option Rat := none
  sectionCaps : SectionCaps := {}
  defaultSubheaders : DefaultSubheaders := {}

structure AssemblerEnv where
  stringify : Value → CodeUnits
  subheaders : DefaultSubheaders := {}

def isGiven (text : Option CodeUnits) : Bool := text.any (· ≠ [])

def heading (label : String) (cfg : AssemblerConfig) : CodeUnits :=
  List.replicate (cfg.headingLevel.getD 2) 0x23 ++ codeUnits (" [" ++ label ++ "]")

def noneProvided (cfg : AssemblerConfig) : List CodeUnits :=
  if cfg.showEmptySections.getD true then [codeUnits "- None provided."] else []

def textLine (lead : String) (text : Option CodeUnits) : List CodeUnits :=
  if isGiven text then [codeUnits lead ++ text.getD []] else []

def listLine (lead separator : String) (items : Option (List CodeUnits)) : List CodeUnits :=
  if (items.getD []).isEmpty then [] else [codeUnits lead ++ joinUnits separator (items.getD [])]

/-- A subheader with an empty line after it, if it is given. -/
def subheaderLines (subheader : Option CodeUnits) : List CodeUnits :=
  if isGiven subheader then [subheader.getD [], []] else []

def joinLines (lines : List CodeUnits) : CodeUnits := joinUnits "\n" lines

def natUnits (number : Nat) : CodeUnits := codeUnits (toString number)

def fenceIfMultiline (text : CodeUnits) : CodeUnits :=
  if text.contains lineFeed then joinLines [codeUnits "~~~text", text, codeUnits "~~~"] else text

/-- A text cut to a length, with an ellipsis for what is missing. -/
def truncateText (text : CodeUnits) (max : Rat) : CodeUnits :=
  if text.length ≤ max then text
  else if max ≤ 1 then codeUnits "…"
  else text.take (max - 1).floor.toNat ++ codeUnits "…"

/-- Items with a priority, the first ones first; equal ones stay in their order. -/
def sortByPriority {α : Type} (priority : α → Option Nat) (items : List α) : List α :=
  items.insertionSort fun a b => (priority a).getD 3 ≤ (priority b).getD 3

/-- Constraints with their priorities filled in, in the order of these. -/
def sortConstraints (constraints : List Constraint) : List Constraint :=
  sortByPriority Constraint.priority
    (constraints.map fun item => { item with priority := some (item.priority.getD 3) })

/-- Tasks with their priorities filled in, in the order of these. -/
def sortTasks (tasks : List TaskAnnotation) : List TaskAnnotation :=
  sortByPriority TaskAnnotation.priority
    (tasks.map fun item => { item with priority := some (item.priority.getD 3) })

/-- Contexts with their priorities filled in, in the order of these. -/
def sortContexts (contexts : List NamedContext) : List NamedContext :=
  sortByPriority NamedContext.priority
    (contexts.map fun item => { item with priority := some (item.priority.getD 3) })

namespace PromptSpec

def renderSystemPrompt (spec : PromptSpec) (cfg : AssemblerConfig) : CodeUnits :=
  joinLines (heading "System Prompt" cfg :: match spec.systemPrompt with
    | none => noneProvided cfg
    | some sp => textLine "- " sp.summary ++ sp.rules.map (codeUnits "- " ++ ·) ++
        listLine "- Sources: " ", " sp.sources)

def renderIdentity (spec : PromptSpec) (cfg : AssemblerConfig) : CodeUnits :=
  joinLines (heading "Assistant Identity" cfg :: match spec.identity with
    | none => noneProvided cfg
    | some id => textLine "- Name: " id.name ++ textLine "- " id.summary ++
        listLine "- Traits: " ", " id.traits ++ textLine "- Tone: " id.tone ++
        listLine "- Style: " "; " id.styleGuidelines)

def rolesLine (roles : Option (List CodeUnits)) : List CodeUnits :=
  (listLine "- Roles: [" ", " roles).map (· ++ codeUnits "]")

def localeLine (user : RequestingUser) : List CodeUnits :=
  if isGiven user.locale || isGiven user.timezone then
    [codeUnits "- Locale: " ++ user.locale.getD (codeUnits "n/a") ++ codeUnits "; TZ: " ++
      user.timezone.getD (codeUnits "n/a")]
  else []

def renderRequestingUser (spec : PromptSpec) (cfg : AssemblerConfig) : CodeUnits :=
  joinLines (heading "Requesting User" cfg :: match spec.requestingUser with
    | none => noneProvided cfg
    | some u => subheaderLines u.subheader ++ textLine "- Handle: " u.handle ++
        textLine "- User ID: " u.userId ++ textLine "- Display Name: " u.displayName ++
        rolesLine u.roles ++ localeLine u ++ textLine "- Tier: " u.tier ++
        textLine "- Notes: " u.notes)

def transcriptLine (item : ConversationStateItem) : CodeUnits :=
  codeUnits (match item.role with | .user => "U: " | .assistant => "A: " | .tool => "T: ") ++
    item.content

def summaryLines (cs : ConversationState) : List CodeUnits :=
  if isGiven cs.summary && (cs.renderMode.getD .summary ≠ .transcript) then
    (((cs.summary.getD []).splitOn lineFeed).filter (· ≠ [])).map (codeUnits "- " ++ ·)
  else []

def ConversationState.rendersTranscript (cs : ConversationState) : Bool :=
  cs.transcript.isSome && (cs.renderMode.getD .summary ≠ .summary)

def transcriptLines (cs : ConversationState) : List CodeUnits :=
  if ConversationState.rendersTranscript cs && !(cs.transcript.getD []).isEmpty then
    [codeUnits "~~~text"] ++ (cs.transcript.getD []).map transcriptLine ++ [codeUnits "~~~"]
  else []

def renderConversationState (spec : PromptSpec) (cfg : AssemblerConfig) : CodeUnits :=
  joinLines (heading "Conversation State / History" cfg :: match spec.conversationState with
    | none => noneProvided cfg
    | some cs => subheaderLines cs.subheader ++ summaryLines cs ++ transcriptLines cs ++
        if !isGiven cs.summary && !ConversationState.rendersTranscript cs then noneProvided cfg
        else [])

def priorityLine (priority : Option Nat) (text : CodeUnits) : CodeUnits :=
  codeUnits "- (" ++ natUnits (priority.getD 3) ++ codeUnits ") " ++ text

def renderConstraints (spec : PromptSpec) (cfg : AssemblerConfig) : CodeUnits :=
  let constraints := sortConstraints (spec.constraints.getD [])
  joinLines (heading "Constraints" cfg :: subheaderLines spec.constraintsSubheader ++
    if constraints.isEmpty then noneProvided cfg
    else constraints.map fun c => priorityLine c.priority c.text)

def renderTask (spec : PromptSpec) (cfg : AssemblerConfig) : CodeUnits :=
  joinLines (heading "Task" cfg :: subheaderLines spec.taskSubheader ++
    (sortTasks spec.task).map fun t => priorityLine t.priority t.instruction)

def contextLines (env : AssemblerEnv) (ctx : NamedContext) : List CodeUnits :=
  let content := match ctx.content with
    | .text text => text
    | .object value => env.stringify value
  (if isGiven ctx.subheader then [ctx.subheader.getD []] else []) ++
    [codeUnits "## " ++ ctx.name, fenceIfMultiline content, []]

/-- The section of the contexts, in the order in which they are given. -/
def renderContexts (env : AssemblerEnv) (spec : PromptSpec) (cfg : AssemblerConfig) : CodeUnits :=
  let contexts := spec.contexts.getD []
  if contexts.isEmpty then joinLines (heading "Contexts" cfg :: noneProvided cfg)
  else trimUnits (joinLines (heading "Contexts" cfg :: contexts.flatMap (contextLines env)))

def renderInput (spec : PromptSpec) (cfg : AssemblerConfig) : CodeUnits :=
  joinLines ([heading "Input" cfg, fenceIfMultiline spec.input.userQuery] ++
    if isGiven spec.input.context then [[], fenceIfMultiline (spec.input.context.getD [])] else [])

end PromptSpec

end BitBrat
