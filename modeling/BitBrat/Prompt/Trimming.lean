import BitBrat.Js.Sort
import BitBrat.Prompt.Assemble

/-! What is left of the parts of a prompt once its total is capped, and in which order they go. -/

namespace BitBrat

open Js Machine

def PromptSpec.transcript (spec : PromptSpec) : List ConversationStateItem :=
  (spec.conversationState.bind ConversationState.transcript).getD []

structure Cuts where
  context : Bool := false
  messages : Nat := 0
  contexts : Nat := 0
  tasks : Nat := 0
  query : Option CodeUnits := none

/-- The parts of a prompt without what has been left out. -/
def PromptSpec.without (spec : PromptSpec) (cuts : Cuts) : PromptSpec :=
  { spec with
    conversationState := spec.conversationState.map fun cs =>
      { cs with transcript := cs.transcript.map (List.drop cuts.messages) }
    contexts := spec.contexts.map fun contexts => contexts.take (contexts.length - cuts.contexts)
    task := spec.task.take (spec.task.length - cuts.tasks)
    input := {
      userQuery := cuts.query.getD spec.input.userQuery
      context := if cuts.context then some [] else spec.input.context } }

/-- Nothing is cut before everything that goes earlier is gone, and one task always stays. -/
structure CutInOrder (start : PromptSpec) (cuts : Cuts) : Prop where
  context : cuts.messages ≠ 0 ∨ cuts.contexts ≠ 0 ∨ cuts.tasks ≠ 0 ∨ cuts.query ≠ none →
    isGiven (start.without cuts).input.context = false
  messages : cuts.contexts ≠ 0 ∨ cuts.tasks ≠ 0 ∨ cuts.query ≠ none →
    start.transcript.length ≤ cuts.messages
  contexts : cuts.tasks ≠ 0 ∨ cuts.query ≠ none →
    (start.contexts.getD []).length ≤ cuts.contexts
  tasks : cuts.query ≠ none → start.task.length - 1 ≤ cuts.tasks
  single : cuts.tasks ≤ start.task.length - 1
  query : ∀ left ∈ cuts.query, ∃ max ≥ 0, left = truncateText start.input.userQuery max

private theorem PromptSpec.without_nothing (spec : PromptSpec) : spec.without {} = spec := by
  have messages : spec.conversationState.map (fun cs =>
      { cs with transcript := cs.transcript.map (List.drop 0) }) = spec.conversationState := by
    have whole : (List.drop 0 : List ConversationStateItem → List ConversationStateItem) = id :=
      rfl
    simp [whole]
  simp [PromptSpec.without, messages]

private theorem PromptSpec.transcript_without (spec : PromptSpec) (cuts : Cuts) :
    (spec.without cuts).transcript = spec.transcript.drop cuts.messages := by
  unfold PromptSpec.transcript PromptSpec.without
  cases spec.conversationState with
  | none => simp
  | some cs => cases said : cs.transcript <;> simp [said]

private theorem PromptSpec.contexts_without (spec : PromptSpec) (cuts : Cuts) :
    (spec.without cuts).contexts.getD [] =
      (spec.contexts.getD []).take ((spec.contexts.getD []).length - cuts.contexts) := by
  unfold PromptSpec.without
  cases spec.contexts <;> simp

theorem dropLast_take_sub {α : Type} (items : List α) (dropped : Nat) :
    (items.take (items.length - dropped)).dropLast = items.take (items.length - (dropped + 1)) := by
  rw [List.dropLast_eq_take, List.length_take, List.take_take]
  congr 1
  omega

theorem Draft.spec_dropContext (why : String) (draft : Draft) :
    (draft.dropContext why).spec =
      { draft.spec with contexts := draft.spec.contexts.map List.dropLast } := by
  unfold Draft.dropContext
  split
  · rename_i none
    have empty : draft.spec.contexts.getD [] = [] := List.getLast?_eq_none_iff.mp none
    have unchanged : draft.spec.contexts.map List.dropLast = draft.spec.contexts := by
      cases given : draft.spec.contexts with
      | none => rfl
      | some contexts =>
        have nothing : contexts = [] := by simpa [given] using empty
        rw [nothing]
        rfl
    rw [unchanged]
  · rfl

theorem Draft.spec_dropTask (why : String) (draft : Draft) :
    (draft.dropTask why).spec = { draft.spec with task := draft.spec.task.dropLast } := by
  unfold Draft.dropTask
  split
  · rename_i none
    have empty : draft.spec.task = [] := List.getLast?_eq_none_iff.mp none
    have unchanged : draft.spec.task.dropLast = draft.spec.task := by rw [empty]; rfl
    rw [unchanged]
  · rfl

namespace Assembly

/-- A prompt from which these parts of the start have been left out, and which shows the others. -/
structure Trimmed (env : AssemblerEnv) (cfg : AssemblerConfig) (start : PromptSpec) (cuts : Cuts)
    (assembly : Assembly) : Prop where
  spec : assembly.spec = start.without cuts
  shown : assembly.sections = assembly.toDraft.render env cfg

section

variable {env : AssemblerEnv} {cfg : AssemblerConfig} {start : PromptSpec} {cuts : Cuts}
  {assembly : Assembly}

theorem Trimmed.removeContext (trimmed : Trimmed env cfg start cuts assembly) :
    Trimmed env cfg start { cuts with context := true } (assembly.removeContext cfg) where
  spec := by
    simp only [Assembly.removeContext, update, Draft.note, trimmed.spec]
    rfl
  shown := by
    simp only [Assembly.removeContext, update, trimmed.shown]
    rfl

theorem Trimmed.trimTranscript (trimmed : Trimmed env cfg start cuts assembly) :
    Trimmed env cfg start { cuts with messages := cuts.messages + 1 }
      (assembly.trimTranscript cfg) where
  spec := by
    simp only [Assembly.trimTranscript, update, Draft.trimTranscript, trimmed.spec,
      PromptSpec.without, Option.map_map, Function.comp_def, List.tail_drop]
  shown := by
    simp only [Assembly.trimTranscript, update, trimmed.shown]
    rfl

theorem Trimmed.dropContext (trimmed : Trimmed env cfg start cuts assembly) :
    Trimmed env cfg start { cuts with contexts := cuts.contexts + 1 }
      (assembly.dropContext env cfg) where
  spec := by
    have dropped : (assembly.dropContext env cfg).spec =
        { assembly.spec with contexts := assembly.spec.contexts.map List.dropLast } :=
      Draft.spec_dropContext _ _
    rw [dropped, trimmed.spec]
    simp only [PromptSpec.without, Option.map_map, Function.comp_def, dropLast_take_sub]
  shown := by
    simp only [Assembly.dropContext, update, Draft.dropContext, trimmed.shown]
    split <;> rfl

theorem Trimmed.dropTask (trimmed : Trimmed env cfg start cuts assembly) :
    Trimmed env cfg start { cuts with tasks := cuts.tasks + 1 } (assembly.dropTask cfg) where
  spec := by
    have dropped : (assembly.dropTask cfg).spec =
        { assembly.spec with task := assembly.spec.task.dropLast } := Draft.spec_dropTask _ _
    rw [dropped, trimmed.spec]
    simp only [PromptSpec.without, dropLast_take_sub]
  shown := by
    simp only [Assembly.dropTask, update, Draft.dropTask, trimmed.shown]
    split <;> rfl

theorem Trimmed.cutQuery (maxTotalChars : Rat)
    (trimmed : Trimmed env cfg start cuts assembly) :
    ∃ max ≥ 0, Trimmed env cfg start
      { cuts with query := some (truncateText (cuts.query.getD start.input.userQuery) max) }
      (assembly.cutQuery cfg maxTotalChars) := by
  refine ⟨assembly.allowedQuery cfg maxTotalChars, le_max_left _ _, ?_, ?_⟩
  · simp only [Assembly.cutQuery, trimmed.spec]
    rfl
  · simp only [Assembly.cutQuery, trimmed.shown]
    rfl

theorem Trimmed.note (trimmed : Trimmed env cfg start cuts assembly) (text : CodeUnits) :
    Trimmed env cfg start cuts (assembly.note text) where
  spec := trimmed.spec
  shown := trimmed.shown

theorem Trimmed.withoutContext (trimmed : Trimmed env cfg start {} assembly) :
    ∃ removed, Trimmed env cfg start { context := removed } (assembly.withoutContext cfg) ∧
      isGiven (start.without { context := removed }).input.context = false := by
  unfold Assembly.withoutContext
  split
  · exact ⟨true, trimmed.removeContext, rfl⟩
  · rename_i absent
    rw [trimmed.spec] at absent
    exact ⟨false, trimmed, Bool.eq_false_iff.mpr absent⟩

theorem Trimmed.fitTranscript (maxTotalChars : Rat)
    (trimmed : Trimmed env cfg start cuts assembly) :
    ∃ more, Trimmed env cfg start { cuts with messages := cuts.messages + more }
        (assembly.fitTranscript cfg maxTotalChars) ∧
      ((assembly.fitTranscript cfg maxTotalChars).exceeds maxTotalChars = true →
        start.transcript.length ≤ cuts.messages + more) := by
  have length : assembly.transcript.length = start.transcript.length - cuts.messages := by
    have same : assembly.transcript = (start.without cuts).transcript := by
      rw [← trimmed.spec]
      rfl
    rw [same, PromptSpec.transcript_without, List.length_drop]
  unfold Assembly.fitTranscript
  split
  · obtain ⟨more, _, dropped, all⟩ := whileUpTo_counted
      (fun messages => Trimmed env cfg start { cuts with messages })
      (fun _ _ => Trimmed.trimTranscript) trimmed assembly.transcript.length
    refine ⟨more, dropped.note _, fun long => ?_⟩
    have taken := all long
    omega
  · rename_i stops
    refine ⟨0, trimmed, fun long => ?_⟩
    have empty : assembly.transcript = [] := by
      by_contra there
      exact stops ⟨long, there⟩
    rw [empty, List.length_nil] at length
    omega

theorem Trimmed.fitContexts (maxTotalChars : Rat)
    (trimmed : Trimmed env cfg start cuts assembly) :
    ∃ more, Trimmed env cfg start { cuts with contexts := cuts.contexts + more }
        (assembly.fitContexts env cfg maxTotalChars) ∧
      ((assembly.fitContexts env cfg maxTotalChars).exceeds maxTotalChars = true →
        (start.contexts.getD []).length ≤ cuts.contexts + more) := by
  have length : assembly.contexts.length = (start.contexts.getD []).length - cuts.contexts := by
    rw [Draft.contexts, trimmed.spec, PromptSpec.contexts_without, List.length_take]
    omega
  obtain ⟨more, _, dropped, all⟩ := whileUpTo_counted
    (fun contexts => Trimmed env cfg start { cuts with contexts })
    (fun _ _ => Trimmed.dropContext) trimmed assembly.contexts.length
  refine ⟨more, dropped, fun long => ?_⟩
  have taken := all long
  omega

theorem Trimmed.fitTasks (maxTotalChars : Rat)
    (trimmed : Trimmed env cfg start cuts assembly) :
    ∃ more, Trimmed env cfg start { cuts with tasks := cuts.tasks + more }
        (assembly.fitTasks cfg maxTotalChars) ∧
      more ≤ start.task.length - cuts.tasks - 1 ∧
      ((assembly.fitTasks cfg maxTotalChars).exceeds maxTotalChars = true →
        start.task.length - 1 ≤ cuts.tasks + more) := by
  have length : assembly.spec.task.length = start.task.length - cuts.tasks := by
    rw [trimmed.spec, PromptSpec.without, List.length_take]
    omega
  obtain ⟨more, bound, dropped, all⟩ := whileUpTo_counted
    (fun tasks => Trimmed env cfg start { cuts with tasks })
    (fun _ _ => Trimmed.dropTask) trimmed (assembly.spec.task.length - 1)
  refine ⟨more, dropped, by omega, fun long => ?_⟩
  have taken := all long
  omega

theorem fitContexts_of_fits {maxTotalChars : Rat}
    (fits : assembly.exceeds maxTotalChars = false) :
    assembly.fitContexts env cfg maxTotalChars = assembly := whileUpTo_of_not fits _

theorem fitTasks_of_fits {maxTotalChars : Rat}
    (fits : assembly.exceeds maxTotalChars = false) :
    assembly.fitTasks cfg maxTotalChars = assembly := whileUpTo_of_not fits _

theorem Trimmed.fit (maxTotalChars : Rat) (trimmed : Trimmed env cfg start {} assembly) :
    ∃ cuts, Trimmed env cfg start cuts (assembly.fit env cfg maxTotalChars) ∧
      CutInOrder start cuts := by
  unfold Assembly.fit
  split
  · obtain ⟨removed, bare, gone⟩ := trimmed.withoutContext
    obtain ⟨messages, silent, noMessage⟩ := bare.fitTranscript maxTotalChars
    simp only [Nat.zero_add] at silent noMessage
    -- A prompt that fits after one loop is left alone by the later ones.
    by_cases long : ((assembly.withoutContext cfg).fitTranscript cfg maxTotalChars).exceeds
        maxTotalChars = true
    · obtain ⟨contexts, alone, noContext⟩ := silent.fitContexts maxTotalChars
      simp only [Nat.zero_add] at alone noContext
      by_cases longer : (((assembly.withoutContext cfg).fitTranscript cfg maxTotalChars).fitContexts
          env cfg maxTotalChars).exceeds maxTotalChars = true
      · obtain ⟨tasks, single, bound, oneTask⟩ := alone.fitTasks maxTotalChars
        simp only [Nat.zero_add, Nat.sub_zero] at single bound oneTask
        dsimp only
        split
        · rename_i longest
          obtain ⟨max, nonnegative, cut⟩ := single.cutQuery maxTotalChars
          exact ⟨_, cut, fun _ => gone, fun _ => noMessage long, fun _ => noContext longer,
            fun _ => oneTask longest, bound,
            fun left shown => ⟨max, nonnegative, by simpa using shown.symm⟩⟩
        · exact ⟨_, single, fun _ => gone, fun _ => noMessage long, fun _ => noContext longer,
            by simp, bound, by simp⟩
      · have fits := Bool.eq_false_iff.mpr longer
        dsimp only
        rw [fitTasks_of_fits fits, if_neg longer]
        exact ⟨_, alone, fun _ => gone, fun _ => noMessage long, by simp, by simp, by simp,
          by simp⟩
    · have fits := Bool.eq_false_iff.mpr long
      dsimp only
      rw [fitContexts_of_fits fits, fitTasks_of_fits fits, if_neg long]
      exact ⟨_, silent, fun _ => gone, by simp, by simp, by simp, by simp, by simp⟩
  · exact ⟨{}, trimmed, by simp, by simp, by simp, by simp, by simp, by simp⟩

end

end Assembly

structure SectionCaps.Unset (caps : SectionCaps) : Prop where
  conversationState : setCap caps.conversationState = none
  contexts : setCap caps.contexts = none
  constraints : setCap caps.constraints = none
  task : setCap caps.task = none
  input : setCap caps.input = none

def assembleWorking (env : AssemblerEnv) (spec : PromptSpec) (config : AssemblerConfig) :
    Assembly :=
  match setCap config.maxTotalChars with
  | none => assembleSections env spec config
  | some maxTotalChars => (assembleSections env spec config).fit env config maxTotalChars

def Assembly.prompt (config : AssemblerConfig) (assembly : Assembly) : AssembledPrompt where
  text := assembly.sections.text
  sections := assembly.sections
  «meta» := {
    truncated := !assembly.truncationNotes.isEmpty
    totalChars := assembly.totalChars
    maxTotalChars := config.maxTotalChars
    sectionLengths := assembly.sectionLengths
    truncationNotes := assembly.truncationNotes }

theorem assemble_eq (env : AssemblerEnv) (spec : PromptSpec) (config : AssemblerConfig) :
    assemble env spec config =
      if spec.task = [] then
        .error "assemble(): PromptSpec requires at least one task and an input payload"
      else .ok ((assembleWorking env spec config).prompt config) := rfl

theorem trimmed_assembleSections (env : AssemblerEnv) (spec : PromptSpec)
    {config : AssemblerConfig} (uncapped : config.sectionCaps.Unset) :
    Assembly.Trimmed env config (spec.prepare env config) {}
      (assembleSections env spec config) where
  spec := by
    rw [PromptSpec.without_nothing]
    simp only [assembleSections, Draft.withCap, uncapped.conversationState, uncapped.contexts,
      uncapped.constraints, uncapped.task, uncapped.input]
  shown := by
    simp only [assembleSections, Draft.withCap, uncapped.conversationState, uncapped.contexts,
      uncapped.constraints, uncapped.task, uncapped.input, Option.getD_none]

theorem trimmed_assembleWorking (env : AssemblerEnv) (spec : PromptSpec)
    {config : AssemblerConfig} (uncapped : config.sectionCaps.Unset) :
    ∃ cuts, Assembly.Trimmed env config (spec.prepare env config) cuts
        (assembleWorking env spec config) ∧
      CutInOrder (spec.prepare env config) cuts := by
  have start := trimmed_assembleSections env spec uncapped
  unfold assembleWorking
  split
  · exact ⟨{}, start, by simp, by simp, by simp, by simp, by simp, by simp⟩
  · exact start.fit _

theorem truncateText_cases (text : CodeUnits) {max : Rat} (nonnegative : 0 ≤ max) :
    truncateText text max = text ∨
      ∃ count < text.length, truncateText text max = text.take count ++ codeUnits "…" := by
  unfold truncateText
  split
  · exact .inl rfl
  · rename_i long
    have longer : max < text.length := not_le.mp long
    have positive : 0 < text.length := by exact_mod_cast lt_of_le_of_lt nonnegative longer
    split
    · -- Only the ellipsis is left.
      exact .inr ⟨0, positive, by simp⟩
    · rename_i room
      refine .inr ⟨(max - 1).floor.toNat, ?_, rfl⟩
      have below : (max - 1).floor < (text.length : Int) := by
        have bound : ((max - 1).floor : Rat) < (text.length : Rat) :=
          calc ((max - 1).floor : Rat) ≤ max - 1 := Rat.floor_le (max - 1)
            _ < max := by linarith
            _ < text.length := longer
        exact_mod_cast bound
      omega

theorem stableOrder_sortByPriority {α : Type} (priority : α → Option Nat) (items : List α) :
    StableOrder (fun item => (priority item).getD 3) items (sortByPriority priority items) :=
  stableOrder_insertionSort (fun item => (priority item).getD 3) items

theorem sortConstraints_idem (constraints : List Constraint) :
    sortConstraints (sortConstraints constraints) = sortConstraints constraints := by
  have filled : ∀ item ∈ sortConstraints constraints,
      { item with priority := some (item.priority.getD 3) } = item := by
    intro item member
    have sorted := (stableOrder_sortByPriority Constraint.priority _).perm.mem_iff.mp member
    obtain ⟨original, _, rfl⟩ := List.mem_map.mp sorted
    rfl
  have same : (sortConstraints constraints).map (fun item =>
      { item with priority := some (item.priority.getD 3) }) = sortConstraints constraints :=
    (List.map_congr_left filled).trans (List.map_id' _)
  have arranged := (stableOrder_sortByPriority Constraint.priority
    (constraints.map fun item => { item with priority := some (item.priority.getD 3) })).sorted
  rw [sortConstraints, same]
  exact arranged.insertionSort_eq

/-- The discipline of a prompt: the sections, what was given, and the parts that are left of it. -/
structure TrimmingDiscipline (env : AssemblerEnv) (config : AssemblerConfig)
    (spec kept : PromptSpec) (sections : AssembledPromptSections) : Prop where
  shown : sections = ({ spec := kept } : Draft).render env config
  context : kept.input.context = spec.input.context ∨ isGiven kept.input.context = false
  transcript : kept.transcript <:+ spec.transcript
  contexts : ∃ order, StableOrder (fun item => item.priority.getD 3)
      ((spec.contexts.getD []).map fun item =>
        { item with priority := some (item.priority.getD 3) }) order ∧
    kept.contexts.getD [] <+: order
  task : ∃ order, StableOrder (fun item => item.priority.getD 3)
      (spec.task.map fun item => { item with priority := some (item.priority.getD 3) }) order ∧
    kept.task <+: order
  tasked : kept.task ≠ []
  userQuery : kept.input.userQuery = spec.input.userQuery ∨
    ∃ count < spec.input.userQuery.length,
      kept.input.userQuery = spec.input.userQuery.take count ++ codeUnits "…"
  beforeTranscript : kept.transcript ≠ spec.transcript → isGiven kept.input.context = false
  beforeContexts : (kept.contexts.getD []).length ≠ (spec.contexts.getD []).length →
    isGiven kept.input.context = false ∧ kept.transcript = []
  beforeTask : kept.task.length ≠ spec.task.length →
    isGiven kept.input.context = false ∧ kept.transcript = [] ∧ kept.contexts.getD [] = []
  beforeQuery : kept.input.userQuery ≠ spec.input.userQuery →
    isGiven kept.input.context = false ∧ kept.transcript = [] ∧ kept.contexts.getD [] = [] ∧
      kept.task.length = 1
  systemPrompt : sections.systemPrompt = spec.renderSystemPrompt config
  identity : sections.identity = spec.renderIdentity config
  /-- The user is shown with the subheader that the configuration provides. -/
  requestingUser : sections.requestingUser = (spec.prepare env config).renderRequestingUser config
  /-- Every constraint is shown, in the stable order of the priorities. -/
  constraints : ∃ order, StableOrder (fun item => item.priority.getD 3)
      ((spec.constraints.getD []).map fun item =>
        { item with priority := some (item.priority.getD 3) }) order ∧
    sections.constraints = joinLines (heading "Constraints" config ::
      subheaderLines (spec.prepare env config).constraintsSubheader ++
      if order.isEmpty then noneProvided config
      else order.map fun item => PromptSpec.priorityLine item.priority item.text)

theorem length_sortContexts (contexts : List NamedContext) :
    (sortContexts contexts).length = contexts.length :=
  (stableOrder_sortByPriority NamedContext.priority _).perm.length_eq.trans (List.length_map _)

theorem length_sortTasks (tasks : List TaskAnnotation) :
    (sortTasks tasks).length = tasks.length :=
  (stableOrder_sortByPriority TaskAnnotation.priority _).perm.length_eq.trans (List.length_map _)

section

variable (env : AssemblerEnv) (config : AssemblerConfig) (spec : PromptSpec)

theorem transcript_prepare : (spec.prepare env config).transcript = spec.transcript := by
  unfold PromptSpec.transcript PromptSpec.prepare
  cases spec.conversationState with
  | some cs => rfl
  | none =>
    dsimp only
    split <;> rfl

theorem contexts_prepare :
    (spec.prepare env config).contexts.getD [] = sortContexts (spec.contexts.getD []) := by
  unfold PromptSpec.prepare
  cases spec.contexts <;> rfl

theorem renderConstraints_prepare :
    (spec.prepare env config).renderConstraints config =
      joinLines (heading "Constraints" config ::
        subheaderLines (spec.prepare env config).constraintsSubheader ++
        if (sortConstraints (spec.constraints.getD [])).isEmpty then noneProvided config
        else (sortConstraints (spec.constraints.getD [])).map fun item =>
          PromptSpec.priorityLine item.priority item.text) := by
  have arranged : sortConstraints ((spec.prepare env config).constraints.getD []) =
      sortConstraints (spec.constraints.getD []) := sortConstraints_idem _
  rw [PromptSpec.renderConstraints, arranged]

end

theorem trimmingDiscipline_of_trimmed {env : AssemblerEnv} {config : AssemblerConfig}
    {spec : PromptSpec} {cuts : Cuts} {assembly : Assembly} (tasked : spec.task ≠ [])
    (trimmed : Assembly.Trimmed env config (spec.prepare env config) cuts assembly)
    (order : CutInOrder (spec.prepare env config) cuts) :
    TrimmingDiscipline env config spec assembly.spec assembly.sections := by
  have transcript : assembly.spec.transcript = spec.transcript.drop cuts.messages := by
    rw [trimmed.spec, PromptSpec.transcript_without, transcript_prepare]
  have contexts : assembly.spec.contexts.getD [] =
      (sortContexts (spec.contexts.getD [])).take
        ((sortContexts (spec.contexts.getD [])).length - cuts.contexts) := by
    rw [trimmed.spec, PromptSpec.contexts_without, contexts_prepare]
  have task : assembly.spec.task =
      (sortTasks spec.task).take ((sortTasks spec.task).length - cuts.tasks) := by
    rw [trimmed.spec]
    rfl
  have contextCount := length_sortContexts (spec.contexts.getD [])
  have taskCount := length_sortTasks spec.task
  have someTask : 0 < spec.task.length := List.length_pos_iff.mpr tasked
  have taskLength : assembly.spec.task.length = spec.task.length - cuts.tasks := by
    rw [task, List.length_take, taskCount]
    omega
  have single : cuts.tasks ≤ spec.task.length - 1 := by
    have kept : cuts.tasks ≤ (sortTasks spec.task).length - 1 := order.single
    omega
  -- What the cuts of the later parts say about the earlier ones.
  have gone : cuts.messages ≠ 0 ∨ cuts.contexts ≠ 0 ∨ cuts.tasks ≠ 0 ∨ cuts.query ≠ none →
      isGiven assembly.spec.input.context = false := by
    rw [trimmed.spec]
    exact order.context
  have silent : cuts.contexts ≠ 0 ∨ cuts.tasks ≠ 0 ∨ cuts.query ≠ none →
      assembly.spec.transcript = [] := by
    intro later
    have all := order.messages later
    rw [transcript_prepare] at all
    rw [transcript, List.drop_eq_nil_iff]
    exact all
  have alone : cuts.tasks ≠ 0 ∨ cuts.query ≠ none → assembly.spec.contexts.getD [] = [] := by
    intro later
    have all := order.contexts later
    rw [contexts_prepare] at all
    rw [contexts, Nat.sub_eq_zero_of_le all, List.take_zero]
  constructor
  case shown => exact trimmed.shown
  case context =>
    rw [trimmed.spec]
    cases removed : cuts.context with
    | true => exact .inr (by simp [PromptSpec.without, removed, isGiven])
    | false => exact .inl (by simp [PromptSpec.without, removed, PromptSpec.prepare])
  case transcript =>
    rw [transcript]
    exact List.drop_suffix _ _
  case contexts =>
    rw [contexts]
    exact ⟨_, stableOrder_sortByPriority _ _, List.take_prefix _ _⟩
  case task =>
    rw [task]
    exact ⟨_, stableOrder_sortByPriority _ _, List.take_prefix _ _⟩
  case tasked =>
    apply List.length_pos_iff.mp
    omega
  case userQuery =>
    have query : assembly.spec.input.userQuery = cuts.query.getD spec.input.userQuery := by
      rw [trimmed.spec]
      rfl
    rw [query]
    cases cut : cuts.query with
    | none => exact .inl rfl
    | some left =>
      obtain ⟨max, nonnegative, rfl⟩ := order.query left cut
      exact truncateText_cases spec.input.userQuery nonnegative
  case beforeTranscript =>
    intro changed
    refine gone (.inl fun none => changed ?_)
    rw [transcript, none, List.drop_zero]
  case beforeContexts =>
    intro changed
    have cut : cuts.contexts ≠ 0 := by
      intro none
      apply changed
      rw [contexts, none, Nat.sub_zero, List.take_length, contextCount]
    exact ⟨gone (.inr (.inl cut)), silent (.inl cut)⟩
  case beforeTask =>
    intro changed
    have cut : cuts.tasks ≠ 0 := by omega
    exact ⟨gone (.inr (.inr (.inl cut))), silent (.inr (.inl cut)), alone (.inl cut)⟩
  case beforeQuery =>
    intro changed
    have cut : cuts.query ≠ none := by
      intro none
      apply changed
      rw [trimmed.spec]
      simp [PromptSpec.without, none, PromptSpec.prepare]
    have last : spec.task.length - 1 ≤ cuts.tasks := by
      have all : (sortTasks spec.task).length - 1 ≤ cuts.tasks := order.tasks cut
      omega
    exact ⟨gone (.inr (.inr (.inr cut))), silent (.inr (.inr cut)), alone (.inr cut), by omega⟩
  case systemPrompt =>
    rw [trimmed.shown]
    simp only [Draft.render, trimmed.spec]
    rfl
  case identity =>
    rw [trimmed.shown]
    simp only [Draft.render, trimmed.spec]
    rfl
  case requestingUser =>
    rw [trimmed.shown]
    simp only [Draft.render, trimmed.spec]
    rfl
  case constraints =>
    refine ⟨_, stableOrder_sortByPriority Constraint.priority _, ?_⟩
    rw [trimmed.shown]
    simp only [Draft.render, trimmed.spec]
    exact renderConstraints_prepare env config spec

end BitBrat
