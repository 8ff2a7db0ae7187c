import BitBrat.Js.Text
import BitBrat.Js.Value
import Mathlib.Tactic.Common

/-! What is masked in the context of a log line, and how much a masked text still shows. -/

namespace BitBrat

open Js

/-- The context of a log line, with every object seen by its own properties. -/
inductive LogValue where
  | undefined
  | null
  | bool (flag : Bool)
  | num (number : Number)
  | text (units : CodeUnits)
  | arr (items : List LogValue)
  | obj (properties : List (CodeUnits × LogValue))

def lowerUnit (unit : UInt16) : UInt16 :=
  if 0x41 ≤ unit ∧ unit ≤ 0x5A then unit + 0x20 else unit

def SENSITIVE_KEY : List String :=
  ["key", "token", "secret", "password", "authorization", "cookie", "auth"]

/-- Whether a key contains a sensitive word, in any case. -/
def sensitiveKey (key : CodeUnits) : Bool :=
  SENSITIVE_KEY.any fun word => (key.map lowerUnit).tails.any (codeUnits word).isPrefixOf

def startsAsKey (text : CodeUnits) : Bool :=
  (codeUnits "sk-").isPrefixOf text || (codeUnits "sk_").isPrefixOf text

/-- A masked text: what is long enough shows a small prefix and its last four characters. -/
def maskString (text : CodeUnits) : CodeUnits :=
  if text = [] then codeUnits "***"
  else
    let last := text.drop (text.length - 4)
    let shown := if startsAsKey text then text.take 3 else text.take (min 2 (text.length - 4))
    if text.length ≤ 6 then codeUnits "***" else shown ++ codeUnits "***" ++ last

def isAlphanumeric (unit : UInt16) : Bool :=
  (0x30 ≤ unit && unit ≤ 0x39) || (0x41 ≤ unit && unit ≤ 0x5A) || (0x61 ≤ unit && unit ≤ 0x7A)

def looksLikeSecret (text : CodeUnits) : Bool :=
  let oauth := text.drop 5
  let bearer := text.drop 6
  let token := bearer.dropWhile isBlankUnit
  text ≠ [] && (startsAsKey text ||
    ((codeUnits "ya29.").isPrefixOf text && oauth ≠ [] &&
      oauth.all fun unit => isAlphanumeric unit || unit ∈ codeUnits "-_") ||
    ((codeUnits "bearer").isPrefixOf (text.map lowerUnit) && bearer.takeWhile isBlankUnit ≠ [] &&
      20 ≤ token.length &&
      token.all fun unit => isAlphanumeric unit || unit ∈ codeUnits "-_.~+/=") ||
    (24 ≤ text.length && text.all isAlphanumeric))

def PROTO_KEY : CodeUnits := codeUnits "__proto__"

mutual

/-- A value with its secrets masked, of whose path only the last key counts. -/
def redactAny (key : CodeUnits) : LogValue → LogValue
  | .text text => .text (if sensitiveKey key || looksLikeSecret text then maskString text else text)
  | .arr items => .arr (redactItems 0 items)
  | .obj properties => .obj (redactProperties properties)
  | .undefined => .undefined
  | .null => .null
  | .bool flag => .bool flag
  | .num number => .num number

/-- The items of an array, whose indices are their keys. -/
def redactItems (index : Nat) : List LogValue → List LogValue
  | [] => []
  | item :: rest =>
    redactAny (codeUnits (toString index)) item :: redactItems (index + 1) rest

/-- The properties of an object, one assignment after the other. -/
def redactProperties : List (CodeUnits × LogValue) → List (CodeUnits × LogValue)
  | [] => []
  | (key, value) :: rest =>
    if key = PROTO_KEY then redactProperties rest
    else
      (key,
        if sensitiveKey key then
          match value with
          | .text text => .text (maskString text)
          | .arr _ | .obj _ => redactAny key value
          | _ => .text (codeUnits "***")
        else redactAny key value) :: redactProperties rest

end

def redactSecrets (input : LogValue) : LogValue := redactAny [] input

inductive LogStep where
  | key (name : CodeUnits)
  | index (position : Nat)

def LogValue.at? : LogValue → List LogStep → Option LogValue
  | value, [] => some value
  | .arr items, .index position :: rest => items[position]?.bind fun item => item.at? rest
  | .obj properties, .key name :: rest =>
    (properties.lookup name).bind fun value => value.at? rest
  | _, _ :: _ => none

def LogStep.sensitive : LogStep → Bool
  | .key name => sensitiveKey name
  | .index _ => false

def LogStep.assignable : LogStep → Bool
  | .key name => name ≠ PROTO_KEY
  | .index _ => true

/-- The key of a step, where an index is written as a number. -/
def LogStep.keyText : LogStep → CodeUnits
  | .key name => name
  | .index position => codeUnits (toString position)

def lastKey (key : CodeUnits) (path : List LogStep) : CodeUnits :=
  (path.getLast?.map LogStep.keyText).getD key

theorem lastKey_cons (key : CodeUnits) (step : LogStep) (rest : List LogStep) :
    lastKey key (step :: rest) = lastKey step.keyText rest := by
  cases rest with
  | nil => rfl
  | cons next rest => simp [lastKey, List.getLast?_cons]

theorem getElem?_redactItems (items : List LogValue) (start position : Nat) :
    (redactItems start items)[position]? =
      items[position]?.map (redactAny (codeUnits (toString (start + position)))) := by
  induction items generalizing start position with
  | nil => rfl
  | cons item rest ih =>
    cases position with
    | zero => simp [redactItems]
    | succ position =>
      have moved : start + 1 + position = start + (position + 1) := by omega
      simp [redactItems, ih, moved]

def redactProperty (key : CodeUnits) (value : LogValue) : LogValue :=
  if sensitiveKey key then
    match value with
    | .text text => .text (maskString text)
    | .arr _ | .obj _ => redactAny key value
    | _ => .text (codeUnits "***")
  else redactAny key value

theorem redactProperties_cons (key : CodeUnits) (value : LogValue)
    (rest : List (CodeUnits × LogValue)) :
    redactProperties ((key, value) :: rest) =
      if key = PROTO_KEY then redactProperties rest
      else (key, redactProperty key value) :: redactProperties rest := by
  unfold redactProperty
  cases value <;> rw [redactProperties] <;> simp

theorem lookup_redactProperties (properties : List (CodeUnits × LogValue))
    {name : CodeUnits} (assignable : name ≠ PROTO_KEY) : (redactProperties properties).lookup name =
      (properties.lookup name).map (redactProperty name) := by
  induction properties with
  | nil => rfl
  | cons entry rest ih =>
    obtain ⟨key, value⟩ := entry
    rw [redactProperties_cons]
    split
    · -- The assignment leaves no property behind.
      rename_i proto
      have other : name ≠ key := by
        intro same
        exact assignable (same.trans proto)
      rw [ih, List.lookup_cons, beq_eq_false_iff_ne.mpr other]
    · by_cases same : name = key
      · simp [same]
      · have other : (name == key) = false := beq_eq_false_iff_ne.mpr same
        simp only [List.lookup_cons, other, ih]

theorem redactAny_text (key text : CodeUnits) :
    redactAny key (.text text) =
      .text (if sensitiveKey key || looksLikeSecret text then maskString text else text) := rfl

theorem redactProperty_text (key text : CodeUnits) :
    redactProperty key (.text text) =
      .text (if sensitiveKey key || looksLikeSecret text then maskString text else text) := by
  unfold redactProperty
  split
  · rename_i sensitive
    simp [sensitive]
  · exact redactAny_text key text

theorem at?_redactProperty (key : CodeUnits) (value : LogValue) (step : LogStep)
    (rest : List LogStep) :
    (redactProperty key value).at? (step :: rest) = (redactAny key value).at? (step :: rest) := by
  unfold redactProperty
  split
  · -- What is no array or object has nothing at such a path.
    cases value <;> cases step <;> rfl
  · rfl

theorem at?_redactAny {path : List LogStep} {key text : CodeUnits} {value : LogValue}
    (assignable : path.all LogStep.assignable = true) (found : value.at? path = some (.text text)) :
    (redactAny key value).at? path =
      some (.text (if sensitiveKey (lastKey key path) || looksLikeSecret text then
        maskString text else text)) := by
  -- The induction is on the path; the key is that of the value it has come to.
  induction path generalizing key value with
  | nil =>
    rw [LogValue.at?, Option.some.injEq] at found
    rw [found]
    rfl
  | cons step rest ih =>
    simp only [List.all_cons, Bool.and_eq_true] at assignable
    obtain ⟨here, later⟩ := assignable
    rw [lastKey_cons]
    cases value with
    | arr items =>
      cases step with
      | key name => cases found
      | index position =>
        rw [LogValue.at?, Option.bind_eq_some_iff] at found
        obtain ⟨item, member, inside⟩ := found
        simp only [redactAny, LogValue.at?, getElem?_redactItems, member, Option.map_some,
          Option.bind_some, Nat.zero_add]
        exact ih later inside
    | obj properties =>
      cases step with
      | index position => cases found
      | key name =>
        rw [LogValue.at?, Option.bind_eq_some_iff] at found
        obtain ⟨child, member, inside⟩ := found
        have named : name ≠ PROTO_KEY := by simpa [LogStep.assignable] using here
        simp only [redactAny, LogValue.at?, lookup_redactProperties properties named, member,
          Option.map_some, Option.bind_some]
        cases rest with
        | nil =>
          rw [LogValue.at?, Option.some.injEq] at inside
          rw [inside, redactProperty_text]
          rfl
        | cons next rest =>
          rw [at?_redactProperty]
          exact ih later inside
    | _ => cases step <;> cases found

theorem lookup_proto (properties : List (CodeUnits × LogValue)) :
    (redactProperties properties).lookup PROTO_KEY = none := by
  induction properties with
  | nil => rfl
  | cons entry rest ih =>
    obtain ⟨key, value⟩ := entry
    rw [redactProperties_cons]
    split
    · exact ih
    · rename_i other
      have apart : (PROTO_KEY == key) = false := beq_eq_false_iff_ne.mpr (Ne.symm other)
      rw [List.lookup_cons, apart]
      exact ih

theorem at?_redactAny_proto {path : List LogStep} (key : CodeUnits) (value : LogValue)
    (lost : path.all LogStep.assignable = false) : (redactAny key value).at? path = none := by
  induction path generalizing key value with
  | nil => cases lost
  | cons step rest ih =>
    cases value with
    | arr items =>
      cases step with
      | key name => rfl
      | index position =>
        have later : rest.all LogStep.assignable = false := by
          simpa [LogStep.assignable] using lost
        rw [redactAny, LogValue.at?, getElem?_redactItems]
        cases items[position]? with
        | none => rfl
        | some item => exact ih _ item later
    | obj properties =>
      cases step with
      | index position => rfl
      | key name =>
        rw [redactAny, LogValue.at?]
        by_cases named : name = PROTO_KEY
        · rw [named, lookup_proto]
          rfl
        · have later : rest.all LogStep.assignable = false := by
            simpa [LogStep.assignable, named] using lost
          rw [lookup_redactProperties properties named]
          cases properties.lookup name with
          | none => rfl
          | some child =>
            cases rest with
            | nil => cases later
            | cons next rest =>
              rw [Option.map_some, Option.bind_some, at?_redactProperty]
              exact ih name child later
    | _ => cases step <;> rfl

/-- Texts at paths of a kind, and texts that look like secrets, are masked wherever they are. -/
def MasksAt (kind : List LogStep → Bool) (input : LogValue) : Prop :=
  ∀ path text, input.at? path = some (.text text) → (kind path || looksLikeSecret text) = true →
    (redactSecrets input).at? path =
      if path.all LogStep.assignable then some (.text (maskString text)) else none

def belowSensitive (path : List LogStep) : Bool := path.any LogStep.sensitive

def atSensitive (path : List LogStep) : Bool := path.getLast?.any LogStep.sensitive

/-- A masked text shows three characters at its beginning and four at its end at most, and from
some length on it hides half of the text. -/
def ShowsLittle (halfFrom : Nat) (text : CodeUnits) : Prop :=
  ∃ shown hidden last, text = shown ++ hidden ++ last ∧
    maskString text = shown ++ codeUnits "***" ++ last ∧ shown.length ≤ 3 ∧ last.length ≤ 4 ∧
    (halfFrom ≤ text.length → text.length ≤ 2 * hidden.length)

def halfHiddenFrom (text : CodeUnits) : Nat := if startsAsKey text then 14 else 12

theorem maskString_showsLittle (text : CodeUnits) : ShowsLittle (halfHiddenFrom text) text := by
  by_cases short : text.length ≤ 6
  · refine ⟨[], text, [], by simp, ?_, by simp, by simp, fun _ => by omega⟩
    unfold maskString
    split
    · rfl
    · simp
  · have long : text ≠ [] := by
      intro empty
      rw [empty] at short
      simp at short
    have two : min 2 (text.length - 4) = 2 := by omega
    obtain ⟨count, small, masked, half⟩ : ∃ count ≤ 3,
        maskString text = text.take count ++ codeUnits "***" ++ text.drop (text.length - 4) ∧
        halfHiddenFrom text = 8 + 2 * count := by
      unfold maskString halfHiddenFrom
      cases startsAsKey text with
      | true => exact ⟨3, by simp [long, short]⟩
      | false => exact ⟨2, by simp [long, short, two]⟩
    have front : text.take count = (text.take (text.length - 4)).take count := by
      have inside : count ≤ text.length - 4 := by omega
      rw [List.take_take, Nat.min_eq_left inside]
    refine ⟨text.take count, (text.take (text.length - 4)).drop count,
      text.drop (text.length - 4), ?_, masked, by simp [small], ?_, ?_⟩
    · rw [front, List.take_append_drop, List.take_append_drop]
    · rw [List.length_drop]
      omega
    · intro enough
      simp only [List.length_drop, List.length_take]
      omega

end BitBrat
