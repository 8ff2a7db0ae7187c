import BitBrat.Machine.Run
import BitBrat.Reflex.ReflexAdmin

/-! Stored reflexes stay valid: when the admin tools keep every reflex complete and usable. -/

namespace BitBrat

open Js Machine

/-- A match with its parts, which compiles and is safe where it is a regex. -/
structure MatchValid (runtime : RegexRuntime) (patternMatch : PatternMatch) : Prop where
  type : patternMatch.type.isSome
  pattern : patternMatch.pattern.isSome
  field : patternMatch.field.isSome
  regex : patternMatch.type = some .regex → ∀ pattern, patternMatch.pattern = some pattern →
    runtime.safeRegex pattern = true ∧
      runtime.engine.syntaxError pattern (textOr patternMatch.flags "") = none

/-- An action names a tool, in the form that tools are named. -/
def ActionValid (action : ToolInvocation) : Prop :=
  ∃ tool, action.tool = some tool ∧ isToolName tool = true ∧ doubledLead tool = false

structure ReflexValid (runtime : RegexRuntime) (reflex : Reflex) : Prop where
  patternMatch : MatchValid runtime reflex.patternMatch
  action : ∀ action, reflex.action = some action → ActionValid action
  answers : reflex.action.isSome ∨ templateTruthy reflex.candidateTemplate = true

def StoreValid (runtime : RegexRuntime) (store : ReflexStore) : Prop :=
  ∀ id reflex, store.get? id = some reflex → ReflexValid runtime reflex

inductive ReflexOp where
  | create (stamp : CallStamp) (args : CreateArgs)
  | update (stamp : CallStamp) (updates : UpdateArgs)
  | delete (stamp : CallStamp) (id : String)

def ReflexOp.perform (runtime : RegexRuntime) (store : ReflexStore) : ReflexOp → ReflexStore
  | create stamp args => (reflexCreate runtime stamp args store).2
  | update stamp updates => (reflexUpdate runtime stamp updates store).2
  | delete stamp id => (reflexDelete stamp id store).2

/--
A call that the tools let through only where it does no harm.

A creation names its tool and has flags that its regex accepts.
An update replaces a match by a valid one, an action by one with a tool, and a template by an
empty one only where an action is left.
-/
def ReflexOp.Harmless (runtime : RegexRuntime) (store : ReflexStore) : ReflexOp → Prop
  | create _ args =>
    checkCreate runtime args = .ok () →
      (args.patternMatch.type = .regex → runtime.engine.syntaxError args.patternMatch.pattern
        (textOr args.patternMatch.flags "") = none) ∧
      ∀ action, args.action = some action → action.tool ≠ ""
  | update _ updates =>
    -- The checks look at the update alone, and not at what it is merged into.
    ∀ existing, store.get? updates.id = some existing → checkUpdate runtime updates = .ok () →
      (∀ patternMatch, updates.patternMatch = some patternMatch →
        MatchValid runtime patternMatch) ∧
      (∀ action, updates.action = some action → action.tool.getD "" ≠ "") ∧
      ((updates.action.or existing.action).isSome ∨
        templateTruthy (updates.candidateTemplate.or existing.candidateTemplate) = true)
  | delete _ _ => True

theorem bind_ok_iff {α : Type} {check : Except String Unit} {rest : Except String α}
    {result : α} : (check >>= fun _ => rest) = .ok result ↔ check = .ok () ∧ rest = .ok result := by
  cases check with
  | error error => simp [bind, Except.bind]
  | ok value => simp [bind, Except.bind]

theorem guarded_ok_iff {α : Type} {condition : Prop} [Decidable condition]
    {check : Except String Unit} {rest : Except String α} {result : α} :
    (if condition then check >>= fun _ => rest else rest) = .ok result ↔
      (condition → check = .ok ()) ∧ rest = .ok result := by
  split
  case isTrue holds => rw [bind_ok_iff, forall_prop_of_true holds]
  case isFalse holds => simp [holds]

variable {runtime : RegexRuntime}

theorem safe_of_checkRegex {pattern : String}
    (passes : checkRegex runtime pattern = .ok ()) : runtime.safeRegex pattern = true := by
  unfold checkRegex validateRegexPattern validateRegexSafety at passes
  by_cases safe : runtime.safeRegex pattern
  · exact safe
  · simp [safe] at passes

theorem checkTool_ok_iff {tool : Option String} :
    checkTool tool = .ok () ↔
      tool.getD "" = "" ∨
        isToolName (tool.getD "") = true ∧ doubledLead (tool.getD "") = false := by
  unfold checkTool
  generalize tool.getD "" = name
  by_cases empty : name = ""
  · -- An empty name is falsy, so the checks are skipped.
    simp [empty]
  · by_cases named : isToolName name = true <;> cases doubled : doubledLead name <;>
      simp [empty, named, doubled]

theorem checkCreate_ok_iff {args : CreateArgs} : checkCreate runtime args = .ok () ↔
      (args.action.isSome ∨ templateTruthy args.candidateTemplate = true) ∧
      (args.patternMatch.type = .regex →
        checkRegex runtime args.patternMatch.pattern = .ok ()) ∧
      checkEventTypes args.conditions = .ok () ∧
      checkTool (args.action.map CreateAction.tool) = .ok () := by
  unfold checkCreate
  have answers : (args.action.isNone ∧ ¬ templateTruthy args.candidateTemplate →
      (.error "Must provide at least one of action or candidateTemplate" : Except String Unit) =
        .ok ()) ↔ args.action.isSome ∨ templateTruthy args.candidateTemplate = true := by
    cases args.action <;> simp
  -- Every check of the sequence is one conjunct.
  simp only [guarded_ok_iff, bind_ok_iff, answers]

theorem checkUpdate_ok_iff {updates : UpdateArgs} : checkUpdate runtime updates = .ok () ↔
      ((updates.patternMatch.getD {}).type = some .regex ∧
          (updates.patternMatch.getD {}).pattern.getD "" ≠ "" →
        checkRegex runtime ((updates.patternMatch.getD {}).pattern.getD "") = .ok ()) ∧
      checkEventTypes updates.conditions = .ok () ∧
      checkTool (updates.action.bind ToolInvocation.tool) = .ok () := by
  -- The checks are made one after the other, each behind its own condition.
  unfold checkUpdate
  simp only [guarded_ok_iff, bind_ok_iff]

theorem storeValid_set_iff {store : ReflexStore} {id : String} {reflex : Reflex}
    (valid : StoreValid runtime store) :
    StoreValid runtime (store.set id reflex) ↔ ReflexValid runtime reflex := by
  constructor
  · intro after
    exact after id reflex (store.get?_set_self id reflex)
  · intro written other found stored
    rw [OrderedMap.get?_set] at stored
    split at stored
    · -- The written entry is the one that is asked for.
      cases stored
      exact written
    · exact valid other found stored

theorem reflexValid_created_iff {stamp : CallStamp} {args : CreateArgs}
    (passes : checkCreate runtime args = .ok ()) : ReflexValid runtime (createdReflex stamp args) ↔
      (args.patternMatch.type = .regex → runtime.engine.syntaxError args.patternMatch.pattern
        (textOr args.patternMatch.flags "") = none) ∧
      ∀ action, args.action = some action → action.tool ≠ "" := by
  obtain ⟨answers, regex, -, tool⟩ := checkCreate_ok_iff.mp passes
  constructor
  · intro valid
    -- A valid reflex has the flags and the tool name that the checks do not look at.
    refine ⟨fun isRegex => ?_, fun action named empty => ?_⟩
    · exact (valid.patternMatch.regex (by simp [createdReflex, isRegex]) _ rfl).2
    · -- A stored action with an empty tool name would not be valid.
      obtain ⟨name, stored, proper, -⟩ := valid.action _ (by simp only [createdReflex, named]; rfl)
      cases stored
      simp [isToolName, empty] at proper
  · rintro ⟨compiles, named⟩
    refine ⟨⟨rfl, rfl, rfl, ?_⟩, ?_, ?_⟩
    · -- The pattern was checked for safety, and compiles with its flags.
      intro isRegex pattern same
      have isRegex : args.patternMatch.type = .regex := by simpa [createdReflex] using isRegex
      cases same
      exact ⟨safe_of_checkRegex (regex isRegex), compiles isRegex⟩
    · intro stored isStored
      obtain ⟨action, isAction, rfl⟩ := Option.map_eq_some_iff.mp isStored
      have proper := checkTool_ok_iff.mp (isAction ▸ tool)
      refine ⟨action.tool, rfl, ?_⟩
      simpa [named action isAction] using proper
    · simpa [createdReflex] using answers

theorem reflexValid_updated_iff {stamp : CallStamp} {existing : Reflex}
    {updates : UpdateArgs} (valid : ReflexValid runtime existing)
    (passes : checkTool (updates.action.bind ToolInvocation.tool) = .ok ()) :
    ReflexValid runtime (updatedReflex stamp existing updates) ↔
      (∀ patternMatch, updates.patternMatch = some patternMatch →
        MatchValid runtime patternMatch) ∧
      (∀ action, updates.action = some action → action.tool.getD "" ≠ "") ∧
      ((updates.action.or existing.action).isSome ∨
        templateTruthy (updates.candidateTemplate.or existing.candidateTemplate) = true) := by
  constructor
  · intro after
    refine ⟨fun patternMatch named => ?_, fun action named empty => ?_, after.answers⟩
    · -- What the update carries is stored as it is.
      simpa [updatedReflex, named] using after.patternMatch
    · obtain ⟨name, stored, proper, -⟩ := after.action action (by simp [updatedReflex, named])
      rw [stored, Option.getD_some] at empty
      simp [isToolName, empty] at proper
  · rintro ⟨matches', named, answers⟩
    refine ⟨?_, fun action isAction => ?_, answers⟩
    · cases given : updates.patternMatch with
      | none => simpa [updatedReflex, given] using valid.patternMatch
      | some patternMatch => simpa [updatedReflex, given] using matches' patternMatch given
    · cases given : updates.action with
      | none =>
        -- An update without an action leaves the stored one.
        exact valid.action action (by simpa [updatedReflex, given] using isAction)
      | some replacing =>
        have same : replacing = action := by simpa [updatedReflex, given] using isAction
        subst same
        -- The check has passed a name that is not empty.
        have proper := checkTool_ok_iff.mp passes
        have nonempty := named replacing given
        cases tool : replacing.tool with
        | none => simp [tool] at nonempty
        | some name =>
          refine ⟨name, tool, ?_⟩
          simpa [given, tool, show name ≠ "" by simpa [tool] using nonempty] using proper

theorem storeValid_perform_iff {store : ReflexStore} (op : ReflexOp)
    (valid : StoreValid runtime store) :
    StoreValid runtime (op.perform runtime store) ↔ op.Harmless runtime store := by
  cases op with
  | create stamp args =>
    simp only [ReflexOp.perform, ReflexOp.Harmless, reflexCreate]
    cases passes : checkCreate runtime args with
    -- A call that is refused stores nothing.
    | error error => simpa using valid
    | ok value =>
      simp only [ReflexRepository.create, true_implies]
      rw [storeValid_set_iff valid, reflexValid_created_iff passes]
  | update stamp updates =>
    simp only [ReflexOp.perform, ReflexOp.Harmless, reflexUpdate]
    cases passes : checkUpdate runtime updates with
    | error error => simpa [bind, Except.bind] using valid
    | ok value =>
      simp only [bind, Except.bind, ReflexRepository.update]
      cases stored : store.get? updates.id with
      -- An update of no reflex stores nothing.
      | none => simpa using valid
      | some existing =>
        simp only [true_implies, Option.some.injEq, forall_eq']
        rw [storeValid_set_iff valid,
          reflexValid_updated_iff (valid _ _ stored) (checkUpdate_ok_iff.mp passes).2.2]
  | delete stamp id =>
    simp only [ReflexOp.perform, ReflexOp.Harmless, reflexDelete, ReflexRepository.delete,
      ReflexRepository.update, iff_true]
    cases stored : store.get? id with
    | none => exact valid
    | some existing =>
      -- Taking a reflex out of service leaves all that makes it valid.
      have kept := valid _ _ stored
      refine (storeValid_set_iff valid).mpr ?_
      exact ⟨kept.patternMatch, by simpa [updatedReflex] using kept.action,
        by simpa [updatedReflex] using kept.answers⟩

private theorem storeValid_empty (runtime : RegexRuntime) : StoreValid runtime .empty := by
  intro id reflex stored
  simp at stored

/--
The stored reflexes stay valid exactly along the runs of harmless calls. -/
theorem reflexes_stay_valid (runtime : RegexRuntime) (ops : List ReflexOp) :
    Along (ReflexOp.perform runtime) (fun store op => StoreValid runtime (op.perform runtime store))
        .empty ops ↔
      Along (ReflexOp.perform runtime) (fun store op => op.Harmless runtime store) .empty ops :=
  -- Validity is the invariant under which a step is valid exactly if it is harmless.
  along_congr (StoreValid runtime)
    (fun _ op valid harmless => (storeValid_perform_iff op valid).mpr harmless)
    (fun _ op valid => storeValid_perform_iff op valid) (storeValid_empty runtime) ops

/-- A greeting is answered, and then only the pattern of the greeting is updated. -/
def newPatternOps : List ReflexOp :=
  [.create ⟨0, "1970-01-01T00:00:00.000Z", "a"⟩
    { name := "greeting", candidateTemplate := some (.one "Hello!")
      patternMatch := { type := .exact, pattern := "hi", field := "message.text" } },
    .update ⟨1, "1970-01-01T00:00:00.001Z", "b"⟩
      { id := "reflex-0-a", patternMatch := some { pattern := some "hello" } }]

/-- An update of the pattern alone leaves a stored reflex without a type and a field. -/
theorem newPattern_incomplete :
    ¬ ∀ runtime ops, Along (ReflexOp.perform runtime)
      (fun store op => StoreValid runtime (op.perform runtime store)) .empty ops := by
  intro valid
  obtain ⟨-, after, -⟩ := valid letterRuntime newPatternOps
  -- The second call has replaced the match by one without a type.
  have reflex := after "reflex-0-a" _ rfl
  exact absurd reflex.patternMatch.type (by decide)

end BitBrat
