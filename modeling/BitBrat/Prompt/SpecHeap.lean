import BitBrat.Machine.Cells
import BitBrat.Prompt.Trimming

/-! Assembling a prompt among the objects and arrays of its caller, which it may not change. -/

namespace BitBrat

open Js Machine

/-- The object of a spec, with references to what assembling writes to. -/
structure SpecObject where
  systemPrompt : Option SystemPrompt
  identity : Option Identity
  requestingUser : Option RequestingUser
  conversationState : Option Nat
  contexts : Option Nat
  constraints : Option (List Constraint)
  constraintsSubheader : Option CodeUnits
  task : Nat
  taskSubheader : Option CodeUnits
  input : Nat

structure SpecHeap where
  specs : Cells SpecObject
  conversations : Cells ConversationState
  contexts : Cells (List NamedContext)
  tasks : Cells (List TaskAnnotation)
  inputs : Cells InputPayload

namespace SpecHeap

def content (heap : SpecHeap) (object : SpecObject) : PromptSpec where
  systemPrompt := object.systemPrompt
  identity := object.identity
  requestingUser := object.requestingUser
  conversationState := object.conversationState.map heap.conversations.get
  contexts := object.contexts.map heap.contexts.get
  constraints := object.constraints
  constraintsSubheader := object.constraintsSubheader
  task := heap.tasks.get object.task
  taskSubheader := object.taskSubheader
  input := heap.inputs.get object.input

def read (heap : SpecHeap) (ref : Nat) : PromptSpec := heap.content (heap.specs.get ref)

/-- Make the objects and arrays of a spec, and the object that refers to them. -/
def allocate (heap : SpecHeap) (spec : PromptSpec) : SpecHeap where
  specs := heap.specs.push {
    systemPrompt := spec.systemPrompt
    identity := spec.identity
    requestingUser := spec.requestingUser
    conversationState := spec.conversationState.map fun _ => heap.conversations.next
    contexts := spec.contexts.map fun _ => heap.contexts.next
    constraints := spec.constraints
    constraintsSubheader := spec.constraintsSubheader
    task := heap.tasks.next
    taskSubheader := spec.taskSubheader
    input := heap.inputs.next }
  conversations := heap.conversations.pushOption spec.conversationState
  contexts := heap.contexts.pushOption spec.contexts
  tasks := heap.tasks.push spec.task
  inputs := heap.inputs.push spec.input

structure Keeps (before after : SpecHeap) : Prop where
  specs : before.specs.Keeps after.specs
  conversations : before.conversations.Keeps after.conversations
  contexts : before.contexts.Keeps after.contexts
  tasks : before.tasks.Keeps after.tasks
  inputs : before.inputs.Keeps after.inputs

structure Holds (heap : SpecHeap) (ref : Nat) : Prop where
  spec : ref < heap.specs.next
  conversationState : ∀ cell ∈ (heap.specs.get ref).conversationState,
    cell < heap.conversations.next
  contexts : ∀ cell ∈ (heap.specs.get ref).contexts, cell < heap.contexts.next
  task : (heap.specs.get ref).task < heap.tasks.next
  input : (heap.specs.get ref).input < heap.inputs.next

theorem Keeps.read {before after : SpecHeap} (keeps : before.Keeps after) {ref : Nat}
    (holds : before.Holds ref) : after.read ref = before.read ref := by
  have conversationState : (before.specs.get ref).conversationState.map after.conversations.get =
      (before.specs.get ref).conversationState.map before.conversations.get :=
    Option.map_congr fun cell member =>
      keeps.conversations.same cell (holds.conversationState cell member)
  have contexts : (before.specs.get ref).contexts.map after.contexts.get =
      (before.specs.get ref).contexts.map before.contexts.get :=
    Option.map_congr fun cell member => keeps.contexts.same cell (holds.contexts cell member)
  simp only [SpecHeap.read, content, keeps.specs.same ref holds.spec, conversationState, contexts,
    keeps.tasks.same _ holds.task, keeps.inputs.same _ holds.input]

theorem read_allocate (heap : SpecHeap) (spec : PromptSpec) :
    (heap.allocate spec).read heap.specs.next = spec := by
  cases spec with
  | mk systemPrompt identity requestingUser conversationState contexts constraints
      constraintsSubheader task taskSubheader input =>
    cases conversationState <;> cases contexts <;>
      simp [SpecHeap.read, allocate, content, Cells.pushOption]

end SpecHeap

structure HeapAssembly where
  heap : SpecHeap
  workingSpec : Nat
  truncationNotes : List CodeUnits
  sections : AssembledPromptSections
  sectionLengths : SectionLengths
  totalChars : Nat

namespace HeapAssembly

def view (state : HeapAssembly) : Assembly where
  spec := state.heap.read state.workingSpec
  truncationNotes := state.truncationNotes
  sections := state.sections
  sectionLengths := state.sectionLengths
  totalChars := state.totalChars

def object (state : HeapAssembly) : SpecObject := state.heap.specs.get state.workingSpec

/-- Go on with another heap, and with the sections and notes of a prompt. -/
def follow (state : HeapAssembly) (heap : SpecHeap) (after : Assembly) : HeapAssembly where
  heap := heap
  workingSpec := state.workingSpec
  truncationNotes := after.truncationNotes
  sections := after.sections
  sectionLengths := after.sectionLengths
  totalChars := after.totalChars

/-- The working copy gets a new input without a context. -/
def removeContext (cfg : AssemblerConfig) (state : HeapAssembly) : HeapAssembly :=
  let heap := state.heap
  state.follow { heap with
      inputs := heap.inputs.push { heap.inputs.get state.object.input with context := some [] }
      specs := heap.specs.write state.workingSpec { state.object with input := heap.inputs.next } }
    (state.view.removeContext cfg)

def trimTranscript (cfg : AssemblerConfig) (state : HeapAssembly) : HeapAssembly :=
  let cells := state.heap.conversations
  state.follow { state.heap with
      conversations := match state.object.conversationState with
        | none => cells
        | some cell => cells.write cell { cells.get cell with
            transcript := (cells.get cell).transcript.map List.tail } }
    (state.view.trimTranscript cfg)

/-- The last item of the array of contexts is taken out. -/
def dropContext (env : AssemblerEnv) (cfg : AssemblerConfig) (state : HeapAssembly) :
    HeapAssembly :=
  let cells := state.heap.contexts
  state.follow { state.heap with
      contexts := match state.object.contexts with
        | none => cells
        | some cell => cells.write cell (cells.get cell).dropLast }
    (state.view.dropContext env cfg)

/-- The last item of the array of tasks is taken out. -/
def dropTask (cfg : AssemblerConfig) (state : HeapAssembly) : HeapAssembly :=
  let cells := state.heap.tasks
  state.follow { state.heap with
      tasks := cells.write state.object.task (cells.get state.object.task).dropLast }
    (state.view.dropTask cfg)

def cutQuery (cfg : AssemblerConfig) (maxTotalChars : Rat) (state : HeapAssembly) :
    HeapAssembly :=
  let cells := state.heap.inputs
  let after := state.view.cutQuery cfg maxTotalChars
  state.follow { state.heap with
      inputs := cells.write state.object.input { cells.get state.object.input with
        userQuery := after.spec.input.userQuery } }
    after

def exceeds (maxTotalChars : Rat) (state : HeapAssembly) : Bool :=
  state.view.exceeds maxTotalChars

def withoutContext (cfg : AssemblerConfig) (state : HeapAssembly) : HeapAssembly :=
  if isGiven state.view.spec.input.context then state.removeContext cfg else state

def fitTranscript (cfg : AssemblerConfig) (maxTotalChars : Rat) (state : HeapAssembly) :
    HeapAssembly :=
  if state.exceeds maxTotalChars ∧ state.view.transcript ≠ [] then
    let trimmed := whileUpTo (exceeds maxTotalChars) (trimTranscript cfg)
      state.view.transcript.length state
    { trimmed with truncationNotes := trimmed.truncationNotes ++
        [codeUnits "ConversationState.transcript truncated to satisfy total cap."] }
  else state

def fitContexts (env : AssemblerEnv) (cfg : AssemblerConfig) (maxTotalChars : Rat)
    (state : HeapAssembly) : HeapAssembly :=
  whileUpTo (exceeds maxTotalChars) (dropContext env cfg) state.view.contexts.length state

def fitTasks (cfg : AssemblerConfig) (maxTotalChars : Rat) (state : HeapAssembly) :
    HeapAssembly :=
  whileUpTo (exceeds maxTotalChars) (dropTask cfg) (state.view.spec.task.length - 1) state

/-- Trim in the defined order, until the cap is met. -/
def fit (env : AssemblerEnv) (cfg : AssemblerConfig) (maxTotalChars : Rat)
    (state : HeapAssembly) : HeapAssembly :=
  if state.exceeds maxTotalChars then
    let state := state.withoutContext cfg
    let state := state.fitTranscript cfg maxTotalChars
    let state := state.fitContexts env cfg maxTotalChars
    let state := state.fitTasks cfg maxTotalChars
    if state.exceeds maxTotalChars then state.cutQuery cfg maxTotalChars else state
  else state

theorem view_follow {state : HeapAssembly} {heap : SpecHeap} {after : Assembly}
    (written : heap.read state.workingSpec = after.spec) :
    (state.follow heap after).view = after := by
  simp only [view, follow, written]

section

variable (env : AssemblerEnv) (cfg : AssemblerConfig) (maxTotalChars : Rat) (state : HeapAssembly)

theorem view_removeContext :
    (state.removeContext cfg).view = state.view.removeContext cfg := by
  apply view_follow
  simp only [SpecHeap.read, Cells.get_write]
  simp [SpecHeap.content, Assembly.removeContext, Assembly.update, Draft.note, view,
    SpecHeap.read, object]

theorem view_trimTranscript :
    (state.trimTranscript cfg).view = state.view.trimTranscript cfg := by
  apply view_follow
  simp only [SpecHeap.read, SpecHeap.content, Assembly.trimTranscript, Assembly.update,
    Draft.trimTranscript, view, object]
  cases (state.heap.specs.get state.workingSpec).conversationState <;> simp

theorem view_dropContext :
    (state.dropContext env cfg).view = state.view.dropContext env cfg := by
  apply view_follow
  have dropped : (state.view.dropContext env cfg).spec =
      { state.view.spec with contexts := state.view.spec.contexts.map List.dropLast } :=
    Draft.spec_dropContext _ _
  rw [dropped]
  simp only [SpecHeap.read, SpecHeap.content, view, object]
  cases (state.heap.specs.get state.workingSpec).contexts <;> simp

theorem view_dropTask : (state.dropTask cfg).view = state.view.dropTask cfg := by
  apply view_follow
  have dropped : (state.view.dropTask cfg).spec =
      { state.view.spec with task := state.view.spec.task.dropLast } := Draft.spec_dropTask _ _
  rw [dropped]
  simp [SpecHeap.read, SpecHeap.content, view, object]

theorem view_cutQuery :
    (state.cutQuery cfg maxTotalChars).view = state.view.cutQuery cfg maxTotalChars := by
  apply view_follow
  simp [SpecHeap.read, SpecHeap.content, view, object, Assembly.cutQuery]

theorem view_withoutContext :
    (state.withoutContext cfg).view = state.view.withoutContext cfg := by
  unfold withoutContext Assembly.withoutContext
  split
  · exact view_removeContext cfg state
  · rfl

theorem view_fitTranscript :
    (state.fitTranscript cfg maxTotalChars).view =
      state.view.fitTranscript cfg maxTotalChars := by
  have loop : (whileUpTo (exceeds maxTotalChars) (trimTranscript cfg)
        state.view.transcript.length state).view =
      whileUpTo (Assembly.exceeds maxTotalChars) (Assembly.trimTranscript cfg)
        state.view.transcript.length state.view :=
    whileUpTo_map view (view_trimTranscript cfg) _ state
  by_cases trims : state.view.exceeds maxTotalChars = true ∧ state.view.transcript ≠ []
  · rw [fitTranscript, exceeds, Assembly.fitTranscript, if_pos trims, if_pos trims, ← loop]
    rfl
  · rw [fitTranscript, exceeds, Assembly.fitTranscript, if_neg trims, if_neg trims]

theorem view_fitContexts :
    (state.fitContexts env cfg maxTotalChars).view =
      state.view.fitContexts env cfg maxTotalChars :=
  whileUpTo_map view (view_dropContext env cfg) _ state

theorem view_fitTasks :
    (state.fitTasks cfg maxTotalChars).view = state.view.fitTasks cfg maxTotalChars :=
  whileUpTo_map view (view_dropTask cfg) _ state

theorem view_fit :
    (state.fit env cfg maxTotalChars).view = state.view.fit env cfg maxTotalChars := by
  unfold fit Assembly.fit
  simp only [exceeds, apply_ite view, view_cutQuery, view_fitTasks, view_fitContexts,
    view_fitTranscript, view_withoutContext]

end

/-- Nothing that was there at the start has changed, and the working copy refers to nothing of it
that is written to. -/
structure Owns (start : SpecHeap) (state : HeapAssembly) : Prop where
  keeps : start.Keeps state.heap
  spec : state.workingSpec = start.specs.next
  conversationState : ∀ cell ∈ state.object.conversationState, start.conversations.next ≤ cell
  contexts : ∀ cell ∈ state.object.contexts, start.contexts.next ≤ cell
  task : start.tasks.next ≤ state.object.task
  input : start.inputs.next ≤ state.object.input

section

variable {env : AssemblerEnv} {cfg : AssemblerConfig} {maxTotalChars : Rat} {start : SpecHeap}
  {state : HeapAssembly}

theorem Owns.removeContext (owns : Owns start state) : Owns start (state.removeContext cfg) := by
  have object : (state.removeContext cfg).object =
      { state.object with input := state.heap.inputs.next } := Cells.get_write ..
  refine ⟨?_, owns.spec, ?_, ?_, ?_, ?_⟩
  · exact { owns.keeps with
      specs := owns.keeps.specs.write owns.spec.ge _
      inputs := owns.keeps.inputs.push _ }
  all_goals rw [object]
  · exact owns.conversationState
  · exact owns.contexts
  · exact owns.task
  · exact owns.keeps.inputs.grows

theorem Owns.trimTranscript (owns : Owns start state) : Owns start (state.trimTranscript cfg) := by
  refine { owns with keeps := { owns.keeps with conversations := ?_ } }
  cases found : state.object.conversationState with
  | none => simpa [HeapAssembly.trimTranscript, follow, found] using owns.keeps.conversations
  | some cell =>
    simpa [HeapAssembly.trimTranscript, follow, found] using
      owns.keeps.conversations.write (owns.conversationState cell found) _

theorem Owns.dropContext (owns : Owns start state) :
    Owns start (state.dropContext env cfg) := by
  refine { owns with keeps := { owns.keeps with contexts := ?_ } }
  cases found : state.object.contexts with
  | none => simpa [HeapAssembly.dropContext, follow, found] using owns.keeps.contexts
  | some cell =>
    simpa [HeapAssembly.dropContext, follow, found] using
      owns.keeps.contexts.write (owns.contexts cell found) _

theorem Owns.dropTask (owns : Owns start state) : Owns start (state.dropTask cfg) :=
  { owns with keeps := { owns.keeps with tasks := owns.keeps.tasks.write owns.task _ } }

theorem Owns.cutQuery (owns : Owns start state) :
    Owns start (state.cutQuery cfg maxTotalChars) :=
  { owns with keeps := { owns.keeps with inputs := owns.keeps.inputs.write owns.input _ } }

theorem Owns.fit (owns : Owns start state) : Owns start (state.fit env cfg maxTotalChars) := by
  have bare : Owns start (state.withoutContext cfg) := by
    unfold withoutContext
    split
    · exact owns.removeContext
    · exact owns
  have silent : Owns start ((state.withoutContext cfg).fitTranscript cfg maxTotalChars) := by
    unfold fitTranscript
    split
    · have loop : Owns start (whileUpTo (exceeds maxTotalChars) (HeapAssembly.trimTranscript cfg)
          (state.withoutContext cfg).view.transcript.length (state.withoutContext cfg)) :=
        whileUpTo_invariant (Owns start) (fun _ => Owns.trimTranscript) bare _
      exact { loop with }
    · exact bare
  have alone : Owns start (((state.withoutContext cfg).fitTranscript cfg maxTotalChars).fitContexts
      env cfg maxTotalChars) :=
    whileUpTo_invariant (Owns start) (fun _ => Owns.dropContext) silent _
  have single : Owns start ((((state.withoutContext cfg).fitTranscript cfg
      maxTotalChars).fitContexts env cfg maxTotalChars).fitTasks cfg maxTotalChars) :=
    whileUpTo_invariant (Owns start) (fun _ => Owns.dropTask) alone _
  unfold HeapAssembly.fit
  split
  · dsimp only
    split
    · exact single.cutQuery
    · exact single
  · exact owns

end

end HeapAssembly

def startIn (env : AssemblerEnv) (config : AssemblerConfig) (heap : SpecHeap) (ref : Nat) :
    HeapAssembly :=
  let allocated := heap.allocate ((heap.read ref).prepare env config)
  let workingSpec := heap.specs.next
  let sections := ({ spec := allocated.read workingSpec } : Draft).render env config
  { heap := allocated
    workingSpec
    truncationNotes := []
    sections
    sectionLengths := sections.lengths
    totalChars := sections.text.length }

def workingIn (env : AssemblerEnv) (config : AssemblerConfig) (heap : SpecHeap) (ref : Nat) :
    HeapAssembly :=
  match setCap config.maxTotalChars with
  | none => startIn env config heap ref
  | some maxTotalChars => (startIn env config heap ref).fit env config maxTotalChars

/-- Assemble a prompt from a spec on the heap, for a configuration without caps of the sections. -/
def assembleIn (env : AssemblerEnv) (config : AssemblerConfig) (heap : SpecHeap) (ref : Nat) :
    Except String AssembledPrompt × SpecHeap :=
  if (heap.read ref).task = [] then
    (.error "assemble(): PromptSpec requires at least one task and an input payload", heap)
  else
    let state := workingIn env config heap ref
    (.ok (state.view.prompt config), state.heap)

section

variable (env : AssemblerEnv) {config : AssemblerConfig} (heap : SpecHeap) (ref : Nat)

theorem view_startIn (uncapped : config.sectionCaps.Unset) :
    (startIn env config heap ref).view = assembleSections env (heap.read ref) config := by
  simp only [HeapAssembly.view, startIn, SpecHeap.read_allocate, assembleSections, Draft.withCap,
    uncapped.conversationState, uncapped.contexts, uncapped.constraints, uncapped.task,
    uncapped.input, Option.getD_none]

theorem view_workingIn (uncapped : config.sectionCaps.Unset) :
    (workingIn env config heap ref).view = assembleWorking env (heap.read ref) config := by
  unfold workingIn assembleWorking
  cases setCap config.maxTotalChars with
  | none => exact view_startIn env heap ref uncapped
  | some maxTotalChars =>
    dsimp only
    rw [HeapAssembly.view_fit, view_startIn env heap ref uncapped]

/-- The assembler that works in place returns what it would on values that nothing shares. -/
theorem assembleIn_result (uncapped : config.sectionCaps.Unset) :
    (assembleIn env config heap ref).1 = assemble env (heap.read ref) config := by
  rw [assemble_eq, ← view_workingIn env heap ref uncapped]
  unfold assembleIn
  split <;> rfl

theorem owns_startIn : HeapAssembly.Owns heap (startIn env config heap ref) := by
  have object : (startIn env config heap ref).object = _ := Cells.get_push ..
  constructor
  case keeps =>
    exact {
      specs := (Cells.Keeps.refl _).push _
      conversations := (Cells.Keeps.refl _).pushOption _
      contexts := (Cells.Keeps.refl _).pushOption _
      tasks := (Cells.Keeps.refl _).push _
      inputs := (Cells.Keeps.refl _).push _ }
  case spec => rfl
  all_goals rw [object]
  case conversationState =>
    intro cell member
    obtain ⟨_, _, rfl⟩ := Option.map_eq_some_iff.mp member
    exact Nat.le_refl _
  case contexts =>
    intro cell member
    obtain ⟨_, _, rfl⟩ := Option.map_eq_some_iff.mp member
    exact Nat.le_refl _

theorem owns_workingIn : HeapAssembly.Owns heap (workingIn env config heap ref) := by
  have owns : HeapAssembly.Owns heap (startIn env config heap ref) := owns_startIn env heap ref
  unfold workingIn
  cases setCap config.maxTotalChars with
  | none => exact owns
  | some maxTotalChars => exact owns.fit

end

def crowdedHeap : SpecHeap where
  specs := {
    get := fun _ => {
      systemPrompt := none, identity := none, requestingUser := none
      conversationState := some 0, contexts := some 0, constraints := none
      constraintsSubheader := none, task := 0, taskSubheader := none, input := 0 }
    next := 1 }
  conversations := {
    get := fun _ => {
      transcript := some [⟨.user, codeUnits "Are you there?"⟩, ⟨.assistant, codeUnits "Yes."⟩]
      renderMode := some .transcript }
    next := 1 }
  contexts := {
    get := fun _ => [
      { name := codeUnits "lore", content := .text (codeUnits "Long ago.")
        priority := some 4 },
      { name := codeUnits "rules", content := .text (codeUnits "Be kind."), priority := some 1 }]
    next := 1 }
  tasks := { get := fun _ => [{ instruction := codeUnits "Answer." }], next := 1 }
  inputs := {
    get := fun _ => { userQuery := codeUnits "Why?", context := some (codeUnits "It rains.") }
    next := 1 }

theorem assembleIn_result_crowded :
    let env : AssemblerEnv := { stringify := fun _ => [] }
    let config : AssemblerConfig := { maxTotalChars := some 270 }
    (assembleIn env config crowdedHeap 0).1 = assemble env (crowdedHeap.read 0) config :=
  assembleIn_result _ crowdedHeap 0 ⟨rfl, rfl, rfl, rfl, rfl⟩

end BitBrat
