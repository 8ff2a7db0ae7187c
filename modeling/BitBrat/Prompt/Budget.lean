import BitBrat.Prompt.Assemble

/-! What an assembled prompt tells of its lengths, and whether it keeps to its budget. -/

namespace BitBrat

open Js Machine

/-- The smallest prompt that trimming can lead to: no context of the input, no transcript, no
contexts, one task, and a query of a single character. -/
def PromptSpec.smallest (spec : PromptSpec) : PromptSpec :=
  { spec with
    conversationState := spec.conversationState.map fun cs =>
      { cs with transcript := cs.transcript.map fun _ => [] }
    contexts := none
    task := (sortTasks spec.task).take 1
    input := { userQuery := codeUnits "?", context := none } }

structure PromptLaw (env : AssemblerEnv) (spec : PromptSpec) (config : AssemblerConfig)
    (prompt : AssembledPrompt) : Prop where
  joined : prompt.text = prompt.sections.text
  counted : prompt.meta.totalChars = prompt.text.length
  measured : prompt.meta.sectionLengths = prompt.sections.lengths
  /-- A budget that is enough for the smallest prompt is kept. -/
  budget : ∀ maxTotalChars smallest, config.maxTotalChars = some maxTotalChars →
    assemble env spec.smallest { config with maxTotalChars := none } = .ok smallest →
      (smallest.text.length : Rat) ≤ maxTotalChars → (prompt.text.length : Rat) ≤ maxTotalChars

namespace Assembly

def noteTranscript (assembly : Assembly) : Assembly :=
  assembly.note (codeUnits "ConversationState.transcript truncated to satisfy total cap.")

def withoutTranscript (cfg : AssemblerConfig) (assembly : Assembly) : Assembly :=
  if assembly.transcript = [] then assembly
  else ((trimTranscript cfg)^[assembly.transcript.length] assembly).noteTranscript

def withoutContexts (env : AssemblerEnv) (cfg : AssemblerConfig) (assembly : Assembly) : Assembly :=
  (dropContext env cfg)^[assembly.contexts.length] assembly

/-- What a prompt can be trimmed to, in the order in which it is tried: without the context of its
input, with less and less of its transcript, its contexts and its tasks. -/
def trimStages (env : AssemblerEnv) (cfg : AssemblerConfig) (assembly : Assembly) :
    List Assembly :=
  let bare := assembly.withoutContext cfg
  let silent := bare.withoutTranscript cfg
  let alone := silent.withoutContexts env cfg
  assembly :: iterates (trimTranscript cfg) bare.transcript.length bare ++
    iterates (dropContext env cfg) silent.contexts.length silent ++
    iterates (dropTask cfg) (alone.spec.task.length - 1) alone

structure Counted (assembly : Assembly) : Prop where
  sections : assembly.sectionLengths = assembly.sections.lengths
  total : assembly.totalChars = assembly.sections.text.length

section

variable {env : AssemblerEnv} {cfg : AssemblerConfig} {maxTotalChars : Rat} {assembly : Assembly}

theorem Counted.removeContext (counted : assembly.Counted) :
    (assembly.removeContext cfg).Counted := by
  refine ⟨?_, rfl⟩
  simp only [Assembly.removeContext, update, counted.sections]
  rfl

theorem Counted.trimTranscript (counted : assembly.Counted) :
    (assembly.trimTranscript cfg).Counted := by
  refine ⟨?_, rfl⟩
  simp only [Assembly.trimTranscript, update, counted.sections]
  rfl

theorem Counted.dropContext (counted : assembly.Counted) :
    (assembly.dropContext env cfg).Counted := by
  refine ⟨?_, rfl⟩
  simp only [Assembly.dropContext, update, counted.sections]
  rfl

theorem Counted.dropTask (counted : assembly.Counted) : (assembly.dropTask cfg).Counted := by
  refine ⟨?_, rfl⟩
  simp only [Assembly.dropTask, update, counted.sections]
  rfl

theorem Counted.withoutContext (counted : assembly.Counted) :
    (assembly.withoutContext cfg).Counted := by
  unfold Assembly.withoutContext
  split
  · exact counted.removeContext
  · exact counted

theorem Counted.trim (counted : assembly.Counted) :
    ((((assembly.withoutContext cfg).fitTranscript cfg maxTotalChars).fitContexts env cfg
      maxTotalChars).fitTasks cfg maxTotalChars).Counted := by
  have bare : (assembly.withoutContext cfg).Counted := counted.withoutContext
  have silent : ((assembly.withoutContext cfg).fitTranscript cfg maxTotalChars).Counted := by
    unfold fitTranscript
    split
    · have trimmed : (whileUpTo (exceeds maxTotalChars) (Assembly.trimTranscript cfg)
          (assembly.withoutContext cfg).transcript.length (assembly.withoutContext cfg)).Counted :=
        whileUpTo_invariant Counted (fun _ => Counted.trimTranscript) bare _
      exact ⟨trimmed.sections, trimmed.total⟩
    · exact bare
  have alone : (((assembly.withoutContext cfg).fitTranscript cfg maxTotalChars).fitContexts env cfg
      maxTotalChars).Counted :=
    whileUpTo_invariant Counted (fun _ => Counted.dropContext) silent _
  exact whileUpTo_invariant Counted (fun _ => Counted.dropTask) alone _

theorem Counted.stages (counted : assembly.Counted) :
    ∀ stage ∈ assembly.trimStages env cfg, stage.Counted := by
  have bare : (assembly.withoutContext cfg).Counted := counted.withoutContext
  have transcripts : ∀ stage ∈ iterates (Assembly.trimTranscript cfg)
      (assembly.withoutContext cfg).transcript.length (assembly.withoutContext cfg),
      stage.Counted :=
    iterates_invariant Counted (fun _ => Counted.trimTranscript) bare _
  -- The stages of one loop start from the last one of the loop before.
  have silent : ((assembly.withoutContext cfg).withoutTranscript cfg).Counted := by
    unfold withoutTranscript
    split
    · exact bare
    · have trimmed := transcripts _ (iterate_mem_iterates ..)
      exact ⟨trimmed.sections, trimmed.total⟩
  have contexts : ∀ stage ∈ iterates (Assembly.dropContext env cfg)
      ((assembly.withoutContext cfg).withoutTranscript cfg).contexts.length
      ((assembly.withoutContext cfg).withoutTranscript cfg), stage.Counted :=
    iterates_invariant Counted (fun _ => Counted.dropContext) silent _
  have alone := contexts _ (iterate_mem_iterates ..)
  simp only [trimStages, List.cons_append, List.forall_mem_cons, List.forall_mem_append]
  exact ⟨counted, ⟨transcripts, contexts⟩,
    iterates_invariant Counted (fun _ => Counted.dropTask) alone _⟩

private theorem Counted.exceeds_eq_false (counted : assembly.Counted) :
    assembly.exceeds maxTotalChars = false ↔
      (assembly.sections.text.length : Rat) ≤ maxTotalChars := by
  rw [exceeds, counted.total]
  simp

theorem exceeds_fitTranscript :
    (assembly.fitTranscript cfg maxTotalChars).exceeds maxTotalChars = true ↔
      ∀ stage ∈ iterates (trimTranscript cfg) assembly.transcript.length assembly,
        stage.exceeds maxTotalChars = true := by
  unfold fitTranscript
  split
  · exact whileUpTo_cond (exceeds maxTotalChars) (trimTranscript cfg) _ assembly
  · rename_i stops
    by_cases long : assembly.exceeds maxTotalChars = true
    · -- The transcript is empty, so that there is only one stage.
      have empty : assembly.transcript = [] := by
        by_contra there
        exact stops ⟨long, there⟩
      simp [empty, iterates]
    · -- The prompt is not too long to begin with.
      refine ⟨fun exceeds => absurd exceeds long, fun all => absurd (all assembly ?_) long⟩
      exact List.mem_map.mpr ⟨0, by simp, rfl⟩

theorem fitTranscript_eq
    (exceeds : (assembly.fitTranscript cfg maxTotalChars).exceeds maxTotalChars = true) :
    assembly.fitTranscript cfg maxTotalChars = assembly.withoutTranscript cfg := by
  unfold fitTranscript withoutTranscript at *
  split at exceeds
  · rename_i trims
    rw [if_pos trims, if_neg trims.2, whileUpTo_eq_iterate exceeds]
    rfl
  · rename_i stops
    have empty : assembly.transcript = [] := by
      by_contra there
      exact stops ⟨exceeds, there⟩
    rw [if_neg stops, if_pos empty]

theorem exceeds_fitContexts :
    (assembly.fitContexts env cfg maxTotalChars).exceeds maxTotalChars = true ↔
      ∀ stage ∈ iterates (dropContext env cfg) assembly.contexts.length assembly,
        stage.exceeds maxTotalChars = true :=
  whileUpTo_cond (exceeds maxTotalChars) (dropContext env cfg) _ assembly

theorem fitContexts_eq
    (exceeds : (assembly.fitContexts env cfg maxTotalChars).exceeds maxTotalChars = true) :
    assembly.fitContexts env cfg maxTotalChars = assembly.withoutContexts env cfg :=
  whileUpTo_eq_iterate exceeds

theorem exceeds_fitTasks :
    (assembly.fitTasks cfg maxTotalChars).exceeds maxTotalChars = true ↔
      ∀ stage ∈ iterates (dropTask cfg) (assembly.spec.task.length - 1) assembly,
        stage.exceeds maxTotalChars = true :=
  whileUpTo_cond (exceeds maxTotalChars) (dropTask cfg) _ assembly

theorem exceeds_iff_stages :
    (assembly.exceeds maxTotalChars = true ∧
        ((((assembly.withoutContext cfg).fitTranscript cfg maxTotalChars).fitContexts env cfg
          maxTotalChars).fitTasks cfg maxTotalChars).exceeds maxTotalChars = true) ↔
      ∀ stage ∈ assembly.trimStages env cfg, stage.exceeds maxTotalChars = true := by
  simp only [trimStages, List.cons_append, List.forall_mem_cons, List.forall_mem_append]
  refine and_congr_right fun _ => ?_
  constructor
  · -- A loop that ends too long was started too long, and has gone through all of its stages.
    intro long
    have tasks := exceeds_fitTasks.mp long
    have afterContexts := tasks _ (mem_iterates_self ..)
    have contexts := exceeds_fitContexts.mp afterContexts
    have afterTranscript := contexts _ (mem_iterates_self ..)
    rw [fitContexts_eq afterContexts, fitTranscript_eq afterTranscript] at tasks
    rw [fitTranscript_eq afterTranscript] at contexts
    exact ⟨⟨exceeds_fitTranscript.mp afterTranscript, contexts⟩, tasks⟩
  · -- Too long at every stage, each loop ends with its last one.
    rintro ⟨⟨transcript, contexts⟩, tasks⟩
    have afterTranscript := exceeds_fitTranscript.mpr transcript
    rw [← fitTranscript_eq afterTranscript] at contexts tasks
    have afterContexts := exceeds_fitContexts.mpr contexts
    rw [← fitContexts_eq afterContexts] at tasks
    exact exceeds_fitTasks.mpr tasks

theorem cutQuery_miscounts :
    (assembly.cutQuery cfg maxTotalChars).totalChars ≠
      (assembly.cutQuery cfg maxTotalChars).sections.text.length := by
  simp only [cutQuery, AssembledPromptSections.text, length_joinUnits, List.map_cons, List.map_nil,
    List.sum_cons, List.sum_nil]
  have separator : (codeUnits "\n\n").length = 2 := by decide
  omega

theorem fit_law (counted : assembly.Counted)
    (fits : ∃ stage ∈ assembly.trimStages env cfg, stage.exceeds maxTotalChars = false) :
    (assembly.fit env cfg maxTotalChars).Counted ∧
      (assembly.fit env cfg maxTotalChars).exceeds maxTotalChars = false := by
  have someShort : ¬ ∀ stage ∈ assembly.trimStages env cfg, stage.exceeds maxTotalChars = true := by
    intro all
    obtain ⟨stage, member, short⟩ := fits
    rw [all stage member] at short
    cases short
  have reached := mt exceeds_iff_stages.mp someShort
  unfold fit
  split
  · rename_i long
    dsimp only
    split
    · rename_i still
      exact absurd ⟨long, still⟩ reached
    · rename_i short
      exact ⟨counted.trim, Bool.eq_false_iff.mpr short⟩
  · rename_i short
    exact ⟨counted, Bool.eq_false_iff.mpr short⟩

theorem fit_miscounts
    (long : ∀ stage ∈ assembly.trimStages env cfg, stage.exceeds maxTotalChars = true) :
    (assembly.fit env cfg maxTotalChars).totalChars ≠
      (assembly.fit env cfg maxTotalChars).sections.text.length := by
  obtain ⟨first, last⟩ := exceeds_iff_stages.mpr long
  unfold fit
  dsimp only
  rw [if_pos first, if_pos last]
  exact cutQuery_miscounts

end

end Assembly

theorem counted_assembleSections (env : AssemblerEnv) (spec : PromptSpec)
    (cfg : AssemblerConfig) : (assembleSections env spec cfg).Counted :=
  ⟨rfl, rfl⟩

theorem assemble_text {env : AssemblerEnv} {spec : PromptSpec} {config : AssemblerConfig}
    {prompt : AssembledPrompt} (assembled : assemble env spec config = .ok prompt) :
    prompt.text = prompt.sections.text := by
  unfold assemble at assembled
  split at assembled
  · cases assembled
  · rw [← Except.ok.inj assembled]

theorem length_text_pos (sections : AssembledPromptSections) :
    0 < sections.text.length := by
  have separator : (codeUnits "\n\n").length = 2 := by decide
  simp only [AssembledPromptSections.text, length_joinUnits, List.map_cons, List.sum_cons]
  omega

/-- A prompt is counted right and keeps to its budget exactly when no last resort is needed: it
fits at some stage of the trimming. -/
theorem promptLaw_iff (env : AssemblerEnv) (spec : PromptSpec) (config : AssemblerConfig)
    {prompt : AssembledPrompt} (assembled : assemble env spec config = .ok prompt) :
    PromptLaw env spec config prompt ↔
      ∀ maxTotalChars, setCap config.maxTotalChars = some maxTotalChars →
        ∃ stage ∈ (assembleSections env spec config).trimStages env config,
          (stage.sections.text.length : Rat) ≤ maxTotalChars := by
  have joined := assemble_text assembled
  have counted := counted_assembleSections env spec config
  unfold assemble at assembled
  split at assembled
  · cases assembled
  · have equation := (Except.ok.inj assembled).symm
    cases cap : setCap config.maxTotalChars with
    | none =>
      -- Without a cap nothing is trimmed, and a budget of zero is too small for any prompt.
      rw [cap] at equation
      refine ⟨fun _ _ none => (Option.some_ne_none _ none.symm).elim, fun _ => ?_⟩
      refine ⟨joined, ?_, ?_, ?_⟩
      · rw [equation]
        exact counted.total
      · rw [equation]
        exact counted.sections
      · intro maxTotalChars smallest set small fits
        have zero : maxTotalChars = 0 := by
          rw [set, setCap, Option.filter_some] at cap
          by_contra differs
          simp [differs] at cap
        rw [zero, assemble_text small] at fits
        have positive := length_text_pos smallest.sections
        have none : smallest.sections.text.length ≤ 0 := by exact_mod_cast fits
        omega
    | some maxTotalChars =>
      rw [cap] at equation
      dsimp only at equation
      constructor
      · -- A prompt that is too long at every stage is counted wrong.
        intro law other same
        rw [← Option.some.inj same]
        by_contra none
        push Not at none
        have long : ∀ stage ∈ (assembleSections env spec config).trimStages env config,
            stage.exceeds maxTotalChars = true := by
          intro stage member
          rw [← Bool.not_eq_false, (counted.stages stage member).exceeds_eq_false]
          exact not_le.mpr (none stage member)
        have right := law.counted
        rw [equation] at right
        exact Assembly.fit_miscounts long right
      · intro fits
        obtain ⟨stage, member, short⟩ := fits maxTotalChars rfl
        have fitted := Assembly.fit_law counted
          ⟨stage, member, (counted.stages stage member).exceeds_eq_false.mpr short⟩
        refine ⟨joined, ?_, ?_, ?_⟩
        · rw [equation]
          exact fitted.1.total
        · rw [equation]
          exact fitted.1.sections
        · intro budget smallest set _ _
          have same : budget = maxTotalChars := by
            rw [set, setCap, Option.filter_some] at cap
            split at cap
            · exact Option.some.inj cap
            · cases cap
          rw [same, equation]
          exact fitted.1.exceeds_eq_false.mp fitted.2

/-- A prompt whose transcript is trimmed keeps the law. -/
theorem promptLaw_after_trimming :
    let env : AssemblerEnv := { stringify := fun _ => [] }
    let spec : PromptSpec := {
      conversationState := some {
        transcript := some [⟨.user, codeUnits "Are you there?"⟩, ⟨.assistant, codeUnits "Yes."⟩]
        renderMode := some .transcript }
      task := [{ instruction := codeUnits "Answer." }]
      input := { userQuery := codeUnits "Why?" } }
    let config : AssemblerConfig := { maxTotalChars := some 275 }
    ∃ prompt, assemble env spec config = .ok prompt ∧ prompt.meta.truncated = true ∧
      PromptLaw env spec config prompt := by
  refine ⟨_, rfl, by decide +kernel, (promptLaw_iff _ _ _ rfl).mpr fun maxTotalChars set => ?_⟩
  rw [← Option.some.inj set]
  decide +kernel

/-- A prompt whose query is cut has another length than it tells. -/
theorem promptLaw_fails_for_long_query :
    let env : AssemblerEnv := { stringify := fun _ => [] }
    let spec : PromptSpec := {
      task := [{ instruction := codeUnits "Answer." }]
      input := { userQuery := codeUnits "Why?" } }
    let config : AssemblerConfig := { maxTotalChars := some 10 }
    ∃ prompt, assemble env spec config = .ok prompt ∧ ¬ PromptLaw env spec config prompt :=
  ⟨_, rfl, fun law => absurd law.counted (by decide +kernel)⟩

end BitBrat
