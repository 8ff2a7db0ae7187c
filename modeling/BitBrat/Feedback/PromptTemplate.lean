import BitBrat.Feedback.FeedbackMiddleware
import BitBrat.Js.NumberText
import BitBrat.Js.Substitution

/-! Prompts of progress messages: the template that is filled in turn, and all at once. -/

namespace BitBrat

open Js

def ProgressStage.text : ProgressStage → String
  | .initial => "initial"
  | .update => "update"
  | .timeout => "timeout"
  | .completion => "completion"

structure PromptState where
  operationContext : Value
  originalMessage : String

def promptStateOf (event : Event) (operationContext : Value) : PromptState :=
  { operationContext, originalMessage := (event.message.bind (·.text)).getD "" }

def operationText (state : PromptState) : String :=
  ((state.operationContext.get "operation").or (.str "unknown")).toText

/-- The prompt of a template, in which one placeholder is replaced after another. -/
def renderPromptTemplate (promptTemplate : String) (state : PromptState) (stage : ProgressStage)
    (elapsedMs : Number) : String :=
  let text := replaceFirst promptTemplate "\x7boriginalMessage\x7d" state.originalMessage
  let text := replaceFirst text "\x7boperation\x7d" (operationText state)
  let text := replaceFirst text "\x7belapsedMs\x7d" elapsedMs.toText
  replaceFirst text "\x7bstage\x7d" stage.text

inductive PromptVariable where
  | originalMessage
  | operation
  | elapsedMs
  | stage
  deriving DecidableEq

def PromptVariable.tail : PromptVariable → List Char
  | .originalMessage => "originalMessage\x7d".toList
  | .operation => "operation\x7d".toList
  | .elapsedMs => "elapsedMs\x7d".toList
  | .stage => "stage\x7d".toList

/-- The placeholders by their names, in the order in which they are replaced. -/
def promptNames : PlaceNames PromptVariable where
  tail := PromptVariable.tail
  holes := [.originalMessage, .operation, .elapsedMs, .stage]
  closed hole := by cases hole <;> decide
  distinct left right leads := by
    cases left <;> cases right <;> first | rfl | (revert leads; decide)

def promptValue (state : PromptState) (stage : ProgressStage) (elapsedMs : Number) :
    PromptVariable → List Char
  | .originalMessage => state.originalMessage.toList
  | .operation => (operationText state).toList
  | .elapsedMs => elapsedMs.toText.toList
  | .stage => stage.text.toList

/-- The prompt of a template with each placeholder replaced by its value, all at once. -/
def substitutePrompt (promptTemplate : String) (state : PromptState) (stage : ProgressStage)
    (elapsedMs : Number) : String :=
  String.ofList
    (promptNames.fillAtOnce (promptValue state stage elapsedMs) promptTemplate.toList)

def promptPieces (promptTemplate : String) : List (Piece PromptVariable) :=
  promptNames.pieces 0 promptTemplate.toList

/-- Each placeholder that is found is the only one of its name, and no value stands in its way. -/
def PromptSettled (promptTemplate : String) (state : PromptState) (stage : ProgressStage)
    (elapsedMs : Number) : Prop :=
  promptNames.Settled (promptValue state stage elapsedMs) promptNames.holes
    (promptPieces promptTemplate)

/--
The message and the operation are plain, as far as that matters.

Where the placeholder of the message is the only one, the message can be anything.
-/
def PromptPlain (promptTemplate : String) (state : PromptState) (stage : ProgressStage)
    (elapsedMs : Number) : Prop :=
  let value := promptValue state stage elapsedMs
  let pieces := promptPieces promptTemplate
  let messagePlugged := PlaceNames.plug .originalMessage (value .originalMessage) pieces
  let messageSettles := promptNames.Settles .originalMessage (value .originalMessage) pieces
  let operationSettles := promptNames.Settles .operation (value .operation) messagePlugged
  (PlaceNames.Plain (value .originalMessage) ∨ messageSettles) ∧
    (PlaceNames.Plain (value .operation) ∨ messageSettles ∧ operationSettles)

theorem plain_stage (stage : ProgressStage) : PlaceNames.Plain stage.text.toList := by
  cases stage <;> exact ⟨_, _, rfl, by decide, by decide⟩

theorem plain_of_ordinary {text : List Char} (nonempty : text ≠ [])
    (ordinary : '\x7b' ∉ text ∧ '$' ∉ text) : PlaceNames.Plain text := by
  cases text with
  | nil => exact absurd rfl nonempty
  | cons first rest =>
    refine ⟨first, rest, rfl, ?_, ordinary.2⟩
    intro brace
    exact ordinary.1 (by rw [brace]; exact List.mem_cons_self)

theorem ordinary_natText (number : Nat) :
    '\x7b' ∉ (toString number).toList ∧ '$' ∉ (toString number).toList :=
  ⟨not_mem_toString (by decide) number, not_mem_toString (by decide) number⟩

theorem ordinary_intText (number : Int) :
    ('\x7b' ∉ (toString number).toList ∧ '$' ∉ (toString number).toList) ∧
      (toString number).toList ≠ [] := by
  cases number with
  | ofNat size =>
    have text : toString (Int.ofNat size) = toString size := rfl
    rw [text]
    refine ⟨ordinary_natText size, ?_⟩
    have digits : (toString size).toList = Nat.toDigits 10 size := by simp
    rw [digits]
    exact Nat.toDigits_ne_nil
  | negSucc size =>
    have text : (toString (Int.negSucc size)).toList = '-' :: (toString (size + 1)).toList := by
      have split : toString (Int.negSucc size) = "-" ++ toString (size + 1) := rfl
      rw [split, String.toList_append]
      rfl
    obtain ⟨no_brace, no_dollar⟩ := ordinary_natText (size + 1)
    rw [text]
    refine ⟨⟨?_, ?_⟩, List.cons_ne_nil _ _⟩
    · exact List.not_mem_cons_of_ne_of_not_mem (by decide) no_brace
    · exact List.not_mem_cons_of_ne_of_not_mem (by decide) no_dollar

theorem plain_number (number : Number) : PlaceNames.Plain number.toText.toList := by
  cases number with
  | nan => exact ⟨_, _, rfl, by decide, by decide⟩
  | infinity negative => cases negative <;> exact ⟨_, _, rfl, by decide, by decide⟩
  | finite value =>
    simp only [Number.toText]
    split
    · obtain ⟨ordinary, nonempty⟩ := ordinary_intText value.num
      exact plain_of_ordinary nonempty ordinary
    · -- A sign, digits, a point, and digits with zeros in front.
      have sign : '\x7b' ∉ (if value < 0 then "-" else "").toList ∧
          '$' ∉ (if value < 0 then "-" else "").toList := by
        split <;> decide
      apply plain_of_ordinary
      · simp
      · simp only [String.toList_append, List.mem_append, not_or]
        refine ⟨⟨⟨⟨⟨sign.1, (ordinary_natText _).1⟩, by decide⟩, ?_⟩, (ordinary_natText _).1⟩,
          ⟨⟨⟨sign.2, (ordinary_natText _).2⟩, by decide⟩, ?_⟩, (ordinary_natText _).2⟩
        · simp
        · simp

theorem renderPromptTemplate_eq (promptTemplate : String) (state : PromptState)
    (stage : ProgressStage) (elapsedMs : Number) :
    renderPromptTemplate promptTemplate state stage elapsedMs =
      String.ofList (promptNames.fillInTurn (promptValue state stage elapsedMs) promptNames.holes
        (Piece.fill promptNames.name (promptPieces promptTemplate))) := by
  rw [promptPieces, PlaceNames.fill_name_pieces, List.drop_zero, ← String.toList_inj]
  unfold renderPromptTemplate
  rw [String.toList_ofList]
  simp only [toList_replaceFirst]
  rfl

theorem plainFrom_of_promptPlain {promptTemplate : String} {state : PromptState}
    {stage : ProgressStage} {elapsedMs : Number}
    (plain : PromptPlain promptTemplate state stage elapsedMs) :
    promptNames.PlainFrom (promptValue state stage elapsedMs) promptNames.holes
      (promptPieces promptTemplate) := by
  obtain ⟨message, operation⟩ := plain
  -- The last two values are always plain, so that only the first two can stand in the way.
  have last : ∀ hole ∈ [PromptVariable.elapsedMs, .stage],
      PlaceNames.Plain (promptValue state stage elapsedMs hole) := by
    intro hole member
    rcases List.mem_pair.mp member with rfl | rfl
    · exact plain_number elapsedMs
    · exact plain_stage stage
  rcases operation with operation_plain | ⟨message_settles, operation_settles⟩
  · have behind : ∀ hole ∈ [PromptVariable.operation, .elapsedMs, .stage],
        PlaceNames.Plain (promptValue state stage elapsedMs hole) :=
      List.forall_mem_cons.mpr ⟨operation_plain, last⟩
    rcases message with message_plain | message_settles
    · exact .inl (List.forall_mem_cons.mpr ⟨message_plain, behind⟩)
    · exact .inr ⟨message_settles, .inl behind⟩
  · exact .inr ⟨message_settles, .inr ⟨operation_settles, .inl last⟩⟩

theorem mem_holes (hole : PromptVariable) : hole ∈ promptNames.holes := by
  cases hole <;> decide

/--
A prompt is the template with its values put in, if and only if each placeholder settles. -/
theorem renderPromptTemplate_iff (promptTemplate : String) (state : PromptState)
    (stage : ProgressStage) (elapsedMs : Number) :
    (PromptSettled promptTemplate state stage elapsedMs →
      renderPromptTemplate promptTemplate state stage elapsedMs =
        substitutePrompt promptTemplate state stage elapsedMs) ∧
      (PromptPlain promptTemplate state stage elapsedMs →
        renderPromptTemplate promptTemplate state stage elapsedMs =
          substitutePrompt promptTemplate state stage elapsedMs →
        PromptSettled promptTemplate state stage elapsedMs) := by
  rw [renderPromptTemplate_eq]
  constructor
  · -- Where each placeholder settles, replacing them in turn is replacing them at once.
    intro settled
    rw [promptNames.fillInTurn_of_settled (fun hole _ => mem_holes hole) settled]
    rfl
  · intro plain same
    apply promptNames.settled_of_fillInTurn (by decide) (fun hole _ => mem_holes hole)
      (plainFrom_of_promptPlain plain)
    exact String.ofList_injective same

def askingEvent : Event :=
  { correlationId := "c", type := "llm.request.v1"
    message := some { id := "m", role := "user", text := some "Why \x7boperation\x7d?" } }

def askingState : PromptState := promptStateOf askingEvent (.obj [("operation", .str "draw")])

/-- Nothing is in the way of a template that names the stage alone. -/
theorem renderPromptTemplate_iff_example :
    PromptSettled "\x7bstage\x7d" askingState .initial .nan ∧
      renderPromptTemplate "\x7bstage\x7d" askingState .initial .nan =
        substitutePrompt "\x7bstage\x7d" askingState .initial .nan := by
  have absent (hole : PromptVariable) (text : List Char) (other : hole ≠ .stage) :
      promptNames.Settles hole text [.hole .stage] := by
    intro before after found
    exfalso
    revert found
    cases hole <;> first | exact absurd rfl other | (intro found; cases found)
  have settled : PromptSettled "\x7bstage\x7d" askingState .initial .nan := by
    refine ⟨absent _ _ (by decide), absent _ _ (by decide), absent _ _ (by decide), ?_, trivial⟩
    intro before after found
    have cut : some ([], []) = some (before, after) := found
    obtain ⟨rfl, rfl⟩ : [] = before ∧ [] = after := by simpa using cut
    exact ⟨by decide, [], [], rfl, by simp, rfl⟩
  exact ⟨settled, (renderPromptTemplate_iff _ _ _ _).1 settled⟩

/-- A message that names a placeholder takes the value of the operation. -/
theorem renderPromptTemplate_fails :
    ¬ ∀ (promptTemplate : String) (state : PromptState) (stage : ProgressStage)
      (elapsedMs : Number),
      renderPromptTemplate promptTemplate state stage elapsedMs =
        substitutePrompt promptTemplate state stage elapsedMs := by
  intro all
  have same := all "\x7boriginalMessage\x7d (\x7boperation\x7d)" askingState .initial (.finite 2)
  -- The placeholder of the template is left, since the one of the message comes first.
  have rendered : renderPromptTemplate "\x7boriginalMessage\x7d (\x7boperation\x7d)" askingState
      .initial (.finite 2) = "Why draw? (\x7boperation\x7d)" := by decide
  have meant : substitutePrompt "\x7boriginalMessage\x7d (\x7boperation\x7d)" askingState
      .initial (.finite 2) = "Why \x7boperation\x7d? (draw)" := by decide
  rw [rendered, meant] at same
  exact absurd same (by decide)

end BitBrat
