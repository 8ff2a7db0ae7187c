import BitBrat.Js.Value
import BitBrat.Reflex.CandidateBuilder

/-! Template values as data: when a filled template is its own skeleton with the values put in. -/

namespace BitBrat

open Js

def dig (present : Place → Bool) (place : Place) (placeholder : List Char) : List (Piece Place) :=
  if present place then [.hole place] else placeholder.map .char

section Skeleton

variable (present : Place → Bool) (template : List Char)

def eventPieces : List (Piece Place) :=
  Piece.replacePieces (bracedPattern "event.")
    (fun found => dig present (.event (trimBlanks (pathOf found)))) 0 (template.map .char)

def resultPieces : List (Piece Place) :=
  Piece.replacePieces (bracedPattern "result.")
    (fun found => dig present (.result (trimBlanks (pathOf found)))) 0
    (eventPieces present template)

def userPieces : List (Piece Place) :=
  Piece.replacePieces (bracedPattern "user.")
    (fun found => dig present (externalPlace (trimBlanks (pathOf found)))) 0
    (resultPieces present template)

def dollarPieces : List (Piece Place) :=
  Piece.replacePieces dollarPattern
    (fun found => dig present (dollarPlace present (trimBlanks (pathOf found)))) 0
    (userPieces present template)

/-- The template with a hole for each placeholder, in which no value has a part. -/
def skeleton : List (Piece Place) :=
  Piece.replacePieces escapedPattern (fun found _ => (pathOf found).map .char) 0
    (dollarPieces present template)

end Skeleton

variable {ω : Type} (values : ScriptValues ω)

def holeText (event toolResult : ω) (place : Place) : List Char :=
  (placeText values event toolResult place).getD []

def presentIn (event toolResult : ω) : Place → Bool := hasText (placeText values event toolResult)

def interpolateOnce (template : String) (event toolResult : ω) : String :=
  String.ofList (Piece.fill (holeText values event toolResult)
    (skeleton (presentIn values event toolResult) template.toList))

/--
The values are data in a filled template.

The text is the template with each placeholder replaced once, and an event that has the same
places fills the same holes.
-/
def ValuesAreData (Permitted : ω → Prop) (template : String) (event toolResult : ω) : Prop :=
  interpolateDualContext values template event toolResult =
      interpolateOnce values template event toolResult ∧
    ∀ other, Permitted other →
      presentIn values other toolResult = presentIn values event toolResult →
      interpolateDualContext values template other toolResult =
        String.ofList (Piece.fill (holeText values other toolResult)
          (skeleton (presentIn values event toolResult) template.toList))

/-- No value, once put in, takes part in a placeholder or an escape. -/
structure CleanTemplate (template : String) (event toolResult : ω) : Prop where
  eventPass : Piece.Clean (bracedPattern "event.") (holeText values event toolResult) 0
    (template.toList.map .char)
  resultPass : Piece.Clean (bracedPattern "result.") (holeText values event toolResult) 0
    (eventPieces (presentIn values event toolResult) template.toList)
  userPass : Piece.Clean (bracedPattern "user.") (holeText values event toolResult) 0
    (resultPieces (presentIn values event toolResult) template.toList)
  dollarPass : Piece.Clean dollarPattern (holeText values event toolResult) 0
    (userPieces (presentIn values event toolResult) template.toList)
  escapedPass : Piece.Clean escapedPattern (holeText values event toolResult) 0
    (dollarPieces (presentIn values event toolResult) template.toList)

theorem fill_dig (event toolResult : ω) (place : Place) (placeholder : List Char) :
    Piece.fill (holeText values event toolResult)
        (dig (presentIn values event toolResult) place placeholder) =
      replacement (placeText values event toolResult) place placeholder := by
  unfold dig presentIn hasText replacement holeText
  -- A place without a text keeps its placeholder.
  cases placed : placeText values event toolResult place with
  | none => simp
  | some text => simp [Piece.fill, placed]

theorem interpolate_of_clean {template : String} {event toolResult : ω}
    (clean : CleanTemplate values template event toolResult) :
    interpolateDualContext values template event toolResult =
      interpolateOnce values template event toolResult := by
  have fills := fill_dig values event toolResult
  -- Each pass over the text is the same pass over the pieces.
  have eventPass := Piece.replaceAll_fill (fun found => fills (.event (trimBlanks (pathOf found))))
    (Nat.zero_le _) clean.eventPass
  have resultPass := Piece.replaceAll_fill
    (fun found => fills (.result (trimBlanks (pathOf found)))) (Nat.zero_le _) clean.resultPass
  have userPass := Piece.replaceAll_fill
    (fun found => fills (externalPlace (trimBlanks (pathOf found)))) (Nat.zero_le _) clean.userPass
  have dollarPass := Piece.replaceAll_fill
    (fun found => fills (dollarPlace (presentIn values event toolResult)
      (trimBlanks (pathOf found)))) (Nat.zero_le _) clean.dollarPass
  have escapedPass := Piece.replaceAll_fill
    (fun found _ => Piece.fill_chars (holeText values event toolResult) (pathOf found))
    (Nat.zero_le _) clean.escapedPass
  rw [Piece.fill_chars] at eventPass
  -- The passes are nested, the last one outermost.
  unfold interpolateDualContext interpolateOnce
  refine congrArg String.ofList (Eq.trans ?_ escapedPass)
  refine congrArg _ (Eq.trans ?_ dollarPass)
  refine congrArg _ (Eq.trans ?_ userPass)
  refine congrArg _ (Eq.trans ?_ resultPass)
  exact congrArg _ eventPass

/-- Values that stay out of the placeholders and the escapes are data. -/
theorem values_are_data (template : String) (event toolResult : ω)
    (clean : CleanTemplate values template event toolResult) :
    ValuesAreData values (fun other => CleanTemplate values template other toolResult) template
      event toolResult := by
  refine ⟨interpolate_of_clean values clean, ?_⟩
  -- The pieces depend on the event only by which places have a text.
  intro other clean_other same
  rw [interpolate_of_clean values clean_other, interpolateOnce, same]

def documentValues : ScriptValues Value where
  kind := scriptKind
  undefined := .undefined
  kind_undefined := scriptKind_undefined
  prop := Value.get
  toText := Value.toText
  stringify _ := none

def textEvent (text : String) : Value := .obj [("message", .obj [("text", .str text)])]

def secretResult : Value := .obj [("secret", .str "42")]

def greeting : String :=
  String.ofList ("Hi ".toList ++ openBraces ++ "event.message.text".toList ++ closeBraces ++
    ['\\'] ++ openBraces ++ "x".toList ++ closeBraces ++
    openBraces ++ "result.secret".toList ++ closeBraces)

/-- A greeting of a plain text is data. -/
theorem greeting_is_data :
    ValuesAreData documentValues
      (fun other => CleanTemplate documentValues greeting other secretResult) greeting
      (textEvent "Ann") secretResult :=
  values_are_data documentValues greeting (textEvent "Ann") secretResult
    ⟨by decide +kernel, by decide +kernel, by decide +kernel, by decide +kernel,
      by decide +kernel⟩

def probe : String :=
  String.ofList (openBraces ++ "result.secret".toList ++ closeBraces)

def messageTemplate : String :=
  String.ofList (openBraces ++ "event.message.text".toList ++ closeBraces)

/-- A message text is read as a placeholder, and reveals a result that no template names. -/
theorem probe_reveals :
    ¬ (∀ (ω : Type) (values : ScriptValues ω) template event toolResult,
      ValuesAreData values (fun _ => True) template event toolResult) := by
  intro data
  -- The second pass reads the placeholder that the first one has put in.
  have once := (data Value documentValues messageTemplate (textEvent probe) secretResult).1
  revert once
  decide +kernel

end BitBrat
