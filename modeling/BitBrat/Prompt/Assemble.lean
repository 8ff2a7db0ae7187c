import BitBrat.Machine.While
import BitBrat.Prompt.Sections

/-! A prompt assembled from its parts, which are trimmed where caps ask for it. -/

namespace BitBrat

open Js Machine

structure AssembledPromptSections where
  systemPrompt : CodeUnits
  identity : CodeUnits
  requestingUser : CodeUnits
  conversationState : CodeUnits
  contexts : CodeUnits
  constraints : CodeUnits
  task : CodeUnits
  input : CodeUnits

structure SectionLengths where
  systemPrompt : Nat
  identity : Nat
  requestingUser : Nat
  conversationState : Nat
  contexts : Nat
  constraints : Nat
  task : Nat
  input : Nat
  deriving DecidableEq

/-- The sections in their order, with an empty line between them. -/
def AssembledPromptSections.text (sections : AssembledPromptSections) : CodeUnits :=
  joinUnits "\n\n" [sections.systemPrompt, sections.identity, sections.requestingUser,
    sections.conversationState, sections.contexts, sections.constraints, sections.task,
    sections.input]

def AssembledPromptSections.lengths (sections : AssembledPromptSections) : SectionLengths where
  systemPrompt := sections.systemPrompt.length
  identity := sections.identity.length
  requestingUser := sections.requestingUser.length
  conversationState := sections.conversationState.length
  contexts := sections.contexts.length
  constraints := sections.constraints.length
  task := sections.task.length
  input := sections.input.length

structure AssembledMeta where
  truncated : Bool
  totalChars : Nat
  maxTotalChars : Option Rat
  sectionLengths : SectionLengths
  truncationNotes : List CodeUnits

structure AssembledPrompt where
  text : CodeUnits
  sections : AssembledPromptSections
  «meta» : AssembledMeta

/-- The parts of a prompt while they are being trimmed, with a note for each cut. -/
structure Draft where
  spec : PromptSpec
  truncationNotes : List CodeUnits := []

structure Assembly extends Draft where
  sections : AssembledPromptSections
  sectionLengths : SectionLengths
  totalChars : Nat

def setCap (cap : Option Rat) : Option Rat := cap.filter (· ≠ 0)

/-- The parts of a prompt sorted, with the subheaders that they do not bring themselves. -/
def PromptSpec.prepare (env : AssemblerEnv) (config : AssemblerConfig) (spec : PromptSpec) :
    PromptSpec :=
  let given := config.defaultSubheaders
  let conversationSubheader := given.conversationState.or env.subheaders.conversationState
  { spec with
    requestingUser := spec.requestingUser.map fun user => { user with
      subheader := (user.subheader.or given.requestingUser).or env.subheaders.requestingUser }
    conversationState := match spec.conversationState with
      | some cs => some { cs with subheader := cs.subheader.or conversationSubheader }
      | none =>
        if isGiven conversationSubheader then some { subheader := conversationSubheader } else none
    constraintsSubheader :=
      (spec.constraintsSubheader.or given.constraints).or env.subheaders.constraints
    taskSubheader := (spec.taskSubheader.or given.task).or env.subheaders.task
    constraints := some (sortConstraints (spec.constraints.getD []))
    task := sortTasks spec.task
    contexts := spec.contexts.map sortContexts }

namespace Draft

def note (draft : Draft) (text : CodeUnits) : Draft :=
  { draft with truncationNotes := draft.truncationNotes ++ [text] }

def droppedNote (what name : CodeUnits) (priority : Option Nat) (why : String) : CodeUnits :=
  codeUnits "Dropped " ++ what ++ name ++ codeUnits ", p:" ++ natUnits (priority.getD 3) ++
    codeUnits (") to " ++ why)

/-- Drop the last task, which is of the lowest priority. -/
def dropTask (why : String) (draft : Draft) : Draft :=
  match draft.spec.task.getLast? with
  | none => draft
  | some removed =>
    { draft with spec := { draft.spec with task := draft.spec.task.dropLast } }.note
      (droppedNote (codeUnits "task(id:") (removed.id.getD (codeUnits "?")) removed.priority why)

/-- Drop the last context, which is of the lowest priority. -/
def dropContext (why : String) (draft : Draft) : Draft :=
  match (draft.spec.contexts.getD []).getLast? with
  | none => draft
  | some removed =>
    { draft with spec := { draft.spec with
      contexts := draft.spec.contexts.map List.dropLast } }.note
      (droppedNote (codeUnits "context(name:") removed.name removed.priority why)

def trimTranscript (draft : Draft) : Draft :=
  { draft with spec := { draft.spec with
    conversationState := draft.spec.conversationState.map fun cs =>
      { cs with transcript := cs.transcript.map List.tail } } }

def transcript (draft : Draft) : List ConversationStateItem :=
  (draft.spec.conversationState.bind ConversationState.transcript).getD []

def contexts (draft : Draft) : List NamedContext := draft.spec.contexts.getD []

def capInput (cfg : AssemblerConfig) (cap : Rat) (draft : Draft) : Draft :=
  let header := heading "Input" cfg ++ codeUnits "\n"
  let uq := draft.spec.input.userQuery
  let ctx := draft.spec.input.context.getD []
  if ctx ≠ [] then
    let base := header.length + uq.length + 2
    if ((base + ctx.length : Nat) : Rat) > cap then
      let newCtx := truncateText ctx (max 0 (cap - base))
      let cut := { draft with spec := { draft.spec with
        input := { draft.spec.input with context := some newCtx } } }
      if newCtx.length < ctx.length then
        cut.note (codeUnits "Input.context truncated to meet section cap.")
      else cut
    else draft
  else if ((header.length + uq.length : Nat) : Rat) > cap then
    let newUq := truncateText uq (max 0 (cap - header.length))
    let cut := { draft with spec := { draft.spec with
      input := { draft.spec.input with userQuery := newUq } } }
    if newUq.length < uq.length then
      cut.note (codeUnits "Input.userQuery truncated to meet section cap.")
    else cut
  else draft

def capTask (cfg : AssemblerConfig) (cap : Rat) (draft : Draft) : Draft :=
  whileUpTo (fun draft => (draft.spec.renderTask cfg).length > cap)
    (dropTask "meet section cap.") (draft.spec.task.length - 1) draft

def capContexts (env : AssemblerEnv) (cfg : AssemblerConfig) (cap : Rat) (draft : Draft) : Draft :=
  whileUpTo (fun draft => (draft.spec.renderContexts env cfg).length > cap)
    (dropContext "meet section cap.") draft.contexts.length draft

/-- Trim the transcript for the cap of the conversation; what is still too long then is cut as a
text, which takes the place of the section. -/
def capConversationState (cfg : AssemblerConfig) (cap : Rat) (draft : Draft) :
    Draft × Option CodeUnits :=
  let exceeds (draft : Draft) : Bool := (draft.spec.renderConversationState cfg).length > cap
  if draft.spec.conversationState.isSome ∧ exceeds draft then
    let draft := if draft.transcript = [] then draft
      else (whileUpTo exceeds trimTranscript draft.transcript.length draft).note
        (codeUnits "ConversationState.transcript truncated to meet section cap.")
    if exceeds draft then
      let header := heading "Conversation State / History" cfg ++ codeUnits "\n"
      let body := (draft.spec.renderConversationState cfg).drop header.length
      (draft.note (codeUnits "ConversationState section compressed to meet section cap."),
        some (header ++ truncateText body (max 0 (cap - header.length))))
    else (draft, none)
  else (draft, none)

def withCap (cap : Option Rat) (apply : Rat → Draft → Draft) (draft : Draft) : Draft :=
  match setCap cap with
  | none => draft
  | some cap => apply cap draft

def render (env : AssemblerEnv) (cfg : AssemblerConfig) (draft : Draft) :
    AssembledPromptSections where
  systemPrompt := draft.spec.renderSystemPrompt cfg
  identity := draft.spec.renderIdentity cfg
  requestingUser := draft.spec.renderRequestingUser cfg
  conversationState := draft.spec.renderConversationState cfg
  contexts := draft.spec.renderContexts env cfg
  constraints := draft.spec.renderConstraints cfg
  task := draft.spec.renderTask cfg
  input := draft.spec.renderInput cfg

end Draft

namespace Assembly

/-- Go on with what is left of the parts, and count the whole again. -/
def update (draft : Draft) (sections : AssembledPromptSections) (sectionLengths : SectionLengths) :
    Assembly :=
  { draft with sections, sectionLengths, totalChars := sections.text.length }

def removeContext (cfg : AssemblerConfig) (assembly : Assembly) : Assembly :=
  let draft := { assembly.toDraft with spec := { assembly.spec with
    input := { assembly.spec.input with context := some [] } } }.note
    (codeUnits "Removed Input.context to satisfy total cap.")
  let input := draft.spec.renderInput cfg
  update draft { assembly.sections with input }
    { assembly.sectionLengths with input := input.length }

def trimTranscript (cfg : AssemblerConfig) (assembly : Assembly) : Assembly :=
  let draft := assembly.toDraft.trimTranscript
  let conversationState := draft.spec.renderConversationState cfg
  update draft { assembly.sections with conversationState }
    { assembly.sectionLengths with conversationState := conversationState.length }

def dropContext (env : AssemblerEnv) (cfg : AssemblerConfig) (assembly : Assembly) : Assembly :=
  let draft := assembly.toDraft.dropContext "satisfy total cap."
  let contexts := draft.spec.renderContexts env cfg
  update draft { assembly.sections with contexts }
    { assembly.sectionLengths with contexts := contexts.length }

def dropTask (cfg : AssemblerConfig) (assembly : Assembly) : Assembly :=
  let draft := assembly.toDraft.dropTask "satisfy total cap."
  let task := draft.spec.renderTask cfg
  update draft { assembly.sections with task }
    { assembly.sectionLengths with task := task.length }

def note (assembly : Assembly) (text : CodeUnits) : Assembly :=
  { assembly with toDraft := assembly.toDraft.note text }

/-- What the query may still take up, once everything else has been trimmed. -/
def allowedQuery (cfg : AssemblerConfig) (maxTotalChars : Rat) (assembly : Assembly) : Rat :=
  let sections := assembly.sections
  let header := heading "Input" cfg ++ codeUnits "\n"
  let others := joinUnits "\n\n" [sections.systemPrompt, sections.identity,
    sections.requestingUser, sections.conversationState, sections.contexts, sections.constraints,
    sections.task]
  max 0 (maxTotalChars - (others.length + 2 + header.length : Nat))

def cutQuery (cfg : AssemblerConfig) (maxTotalChars : Rat) (assembly : Assembly) : Assembly :=
  let uq := assembly.spec.input.userQuery
  let newUq := truncateText uq (assembly.allowedQuery cfg maxTotalChars)
  let noted := if newUq.length < uq.length then
      assembly.toDraft.note (codeUnits "Input.userQuery truncated to satisfy total cap.")
    else assembly.toDraft
  let draft := { noted with spec := { assembly.spec with
    input := { assembly.spec.input with userQuery := newUq } } }
  let sections := { assembly.sections with input := draft.spec.renderInput cfg }
  { assembly with
    toDraft := draft
    sections
    sectionLengths := { assembly.sectionLengths with input := sections.input.length }
    -- The contexts are missing here.
    totalChars := (joinUnits "\n\n" [sections.systemPrompt, sections.identity,
      sections.requestingUser, sections.conversationState, sections.constraints, sections.task,
      sections.input]).length }

def exceeds (maxTotalChars : Rat) (assembly : Assembly) : Bool :=
  assembly.totalChars > maxTotalChars

/-- The first step of the trimming: the context of the input goes as a whole. -/
def withoutContext (cfg : AssemblerConfig) (assembly : Assembly) : Assembly :=
  if isGiven assembly.spec.input.context then assembly.removeContext cfg else assembly

/-- The second step: the transcript is trimmed from its beginning. -/
def fitTranscript (cfg : AssemblerConfig) (maxTotalChars : Rat) (assembly : Assembly) : Assembly :=
  if assembly.exceeds maxTotalChars ∧ assembly.transcript ≠ [] then
    (whileUpTo (exceeds maxTotalChars) (trimTranscript cfg) assembly.transcript.length
      assembly).note
      (codeUnits "ConversationState.transcript truncated to satisfy total cap.")
  else assembly

/-- The third step: contexts are dropped from the end. -/
def fitContexts (env : AssemblerEnv) (cfg : AssemblerConfig) (maxTotalChars : Rat)
    (assembly : Assembly) : Assembly :=
  whileUpTo (exceeds maxTotalChars) (dropContext env cfg) assembly.contexts.length assembly

/-- The fourth step: tasks are dropped from the end, down to a single one. -/
def fitTasks (cfg : AssemblerConfig) (maxTotalChars : Rat) (assembly : Assembly) : Assembly :=
  whileUpTo (exceeds maxTotalChars) (dropTask cfg) (assembly.spec.task.length - 1) assembly

/-- Trim in the defined order, until the cap is met. -/
def fit (env : AssemblerEnv) (cfg : AssemblerConfig) (maxTotalChars : Rat) (assembly : Assembly) :
    Assembly :=
  if assembly.exceeds maxTotalChars then
    let assembly := assembly.withoutContext cfg
    let assembly := assembly.fitTranscript cfg maxTotalChars
    let assembly := assembly.fitContexts env cfg maxTotalChars
    let assembly := assembly.fitTasks cfg maxTotalChars
    if assembly.exceeds maxTotalChars then assembly.cutQuery cfg maxTotalChars else assembly
  else assembly

end Assembly

/-- The prompt with its sections capped, before its total is. -/
def assembleSections (env : AssemblerEnv) (spec : PromptSpec) (cfg : AssemblerConfig) :
    Assembly :=
  let caps := cfg.sectionCaps
  let draft : Draft := { spec := spec.prepare env cfg }
  let draft := draft.withCap caps.input (Draft.capInput cfg)
  let draft := draft.withCap caps.task (Draft.capTask cfg)
  let (draft, compressed) := match setCap caps.conversationState with
    | none => (draft, none)
    | some cap => draft.capConversationState cfg cap
  let draft := draft.withCap caps.contexts (Draft.capContexts env cfg)
  let rendered := draft.render env cfg
  let sections := { rendered with
    conversationState := compressed.getD rendered.conversationState }
  -- Constraints are compressed as a text, and never dropped.
  let (sections, draft) := match setCap caps.constraints with
    | none => (sections, draft)
    | some cap =>
      if (sections.constraints.length : Rat) > cap then
        ({ sections with constraints := truncateText sections.constraints cap },
          draft.note (codeUnits
            "Constraints section compressed to meet section cap (no items dropped)."))
      else (sections, draft)
  { draft with
    sections, sectionLengths := sections.lengths, totalChars := sections.text.length }

def assemble (env : AssemblerEnv) (spec : PromptSpec) (config : AssemblerConfig) :
    Except String AssembledPrompt :=
  if spec.task = [] then
    .error "assemble(): PromptSpec requires at least one task and an input payload"
  else
    let assembly := assembleSections env spec config
    let assembly := match setCap config.maxTotalChars with
      | none => assembly
      | some maxTotalChars => assembly.fit env config maxTotalChars
    .ok {
      text := assembly.sections.text
      sections := assembly.sections
      «meta» := {
        truncated := !assembly.truncationNotes.isEmpty
        totalChars := assembly.totalChars
        maxTotalChars := config.maxTotalChars
        sectionLengths := assembly.sectionLengths
        truncationNotes := assembly.truncationNotes } }

end BitBrat
