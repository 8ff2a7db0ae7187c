import BitBrat.Js.Pattern
import BitBrat.Js.Text
import BitBrat.Js.Value

/-! The text of a candidate: a template whose placeholders are filled from an event and a result. -/

namespace BitBrat

open Js

/-- What kind of thing a script value is, as far as its text is concerned. -/
inductive ScriptKind where
  | nullish
  | string
  | number
  | boolean
  | object
  | other
  deriving DecidableEq

def scriptKind : Value → ScriptKind
  | .undefined | .null => .nullish
  | .bool _ => .boolean
  | .num _ => .number
  | .str _ => .string
  | .arr _ | .obj _ | .date _ => .object

theorem scriptKind_undefined : scriptKind .undefined = .nullish := rfl

/-- The script values that templates are filled from, and what the language does with them. -/
structure ScriptValues (ω : Type) where
  kind : ω → ScriptKind
  undefined : ω
  kind_undefined : kind undefined = .nullish
  prop : ω → String → ω
  toText : ω → String
  stringify : ω → Option String

variable {ω : Type} (values : ScriptValues ω)

def ScriptValues.optionalProp (current : ω) (segment : String) : ω :=
  if values.kind current = .nullish then values.undefined else values.prop current segment

def getFieldValue (obj : ω) (path : String) : ω :=
  if path = "" then values.undefined
  else
    match path.toList.splitOn '.' with
    | [] => values.undefined
    -- A path without dots is read from any value that is there.
    | [root] => values.optionalProp obj (String.ofList root)
    | segments =>
      segments.foldl
        (fun current segment =>
          if values.kind current = .object then values.prop current (String.ofList segment)
          else values.undefined)
        obj

def stringifyValue (value : ω) : Option String :=
  match values.kind value with
  | .nullish => none
  | .string | .number | .boolean => some (values.toText value)
  | .object => some ((values.stringify value).getD "[object]")
  | .other => some (values.toText value)

inductive Place where
  | event (path : List Char)
  | result (path : List Char)
  deriving DecidableEq

def placeText (event toolResult : ω) : Place → Option (List Char)
  | .event path =>
    (stringifyValue values (getFieldValue values event (String.ofList path))).map String.toList
  | .result path =>
    (stringifyValue values (getFieldValue values toolResult (String.ofList path))).map
      String.toList

def openBraces : List Char := ['{', '{']

def closeBraces : List Char := ['}', '}']

def pathPattern : Pattern := .group (.run fun char => char != '}')

def bracedPattern (lead : String) : Pattern :=
  .seq (.lit (openBraces ++ lead.toList)) (.seq pathPattern (.lit closeBraces))

/-- A placeholder behind a dollar sign, in single or double braces. -/
def dollarPattern : Pattern :=
  .seq (.lit ['$', '{'])
    (.seq (.optional (.lit ['{']))
      (.seq pathPattern (.seq (.lit ['}']) (.optional (.lit ['}'])))))

/-- Escaped braces, of which the braces are remembered. -/
def escapedPattern : Pattern :=
  .seq (.lit ['\\']) (.group (.alt (.lit openBraces) (.lit closeBraces)))

def pathOf (found : Match) : List Char := found.group.getD []

def externalPlace (path : List Char) : Place := .event ("identity.external.".toList ++ path)

/-- The place that a placeholder behind a dollar sign names, given which places have a text. -/
def dollarPlace (present : Place → Bool) (path : List Char) : Place :=
  if "event.".toList.isPrefixOf path then .event (path.drop 6)
  else if "result.".toList.isPrefixOf path then .result (path.drop 7)
  else if "user.".toList.isPrefixOf path then externalPlace (path.drop 5)
  else if present (.event path) then .event path
  else externalPlace path

/-- The text of a place, or the placeholder itself where the place has none. -/
def replacement (text : Place → Option (List Char)) (place : Place) (placeholder : List Char) :
    List Char := (text place).getD placeholder

def hasText (text : Place → Option (List Char)) (place : Place) : Bool := (text place).isSome

/-- Fill a template, one kind of placeholder after another, and unescape the braces at last. -/
def interpolateDualContext (template : String) (event toolResult : ω) : String :=
  let text := placeText values event toolResult
  let result := template.toList
  -- Each replacement reads the text that the one before it has left.
  let result := replaceAll (bracedPattern "event.")
    (fun found => replacement text (.event (trimBlanks (pathOf found)))) 0 result
  let result := replaceAll (bracedPattern "result.")
    (fun found => replacement text (.result (trimBlanks (pathOf found)))) 0 result
  let result := replaceAll (bracedPattern "user.")
    (fun found => replacement text (externalPlace (trimBlanks (pathOf found)))) 0 result
  let result := replaceAll dollarPattern
    (fun found => replacement text (dollarPlace (hasText text) (trimBlanks (pathOf found))))
    0 result
  let result := replaceAll escapedPattern (fun found _ => pathOf found) 0 result
  String.ofList result

end BitBrat
