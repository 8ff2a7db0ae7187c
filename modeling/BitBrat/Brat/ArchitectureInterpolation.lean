import Mathlib.Data.List.ReduceOption
import BitBrat.Js.Text
import BitBrat.Js.Value

/-! The variables of an architecture document: how tokens are read, and what takes their place. -/

namespace BitBrat

open Js

/-- A token of a text, whose default is written in symbols of some kind. -/
structure VariableToken (σ : Type) where
  varName : List Char
  transform : Option String
  defVal : Option (List σ)

/-- A token of a text, or a symbol outside of all tokens. -/
inductive TextPart (σ : Type) where
  | symbol (symbol : σ)
  | token (token : VariableToken σ)

section

variable {σ : Type} (char : σ → Option Char) (inDefault : σ → Bool)

def readChar (expected : Char) : List σ → Option (List σ)
  | [] => none
  | symbol :: rest => if char symbol = some expected then some rest else none

def readWhile (accept : Char → Bool) : List σ → List Char × List σ
  | [] => ([], [])
  | symbol :: rest =>
    match char symbol with
    | some letter =>
      if accept letter then (letter :: (readWhile accept rest).1, (readWhile accept rest).2)
      else ([], symbol :: rest)
    | none => ([], symbol :: rest)

/-- The shortest text up to a closing brace, and what follows the brace. -/
def readDefault : List σ → Option (List σ × List σ)
  | [] => none
  | symbol :: rest =>
    if char symbol = some '\x7d' then some ([], rest)
    else if inDefault symbol then (readDefault rest).map fun read => (symbol :: read.1, read.2)
    else none

def readTransform (text : List σ) : Option String × List σ :=
  match readChar char '|' text with
  | none => (none, text)
  | some inner =>
    let read := readWhile char Char.isAlpha inner
    if read.1 = [] then (none, text) else (some (String.ofList read.1), read.2)

/-- The default of a token, if there is one, and what follows the token. -/
def readEnd (text : List σ) : Option (Option (List σ) × List σ) :=
  match readChar char ':' text with
  | none => (readChar char '\x7d' text).map fun after => (none, after)
  | some dash =>
    (readChar char '-' dash).bind fun start =>
      (readDefault char inDefault start).map fun read => (some read.1, read.2)

/-- The token at the start of a text, and what follows it. -/
def readVariable (text : List σ) : Option (VariableToken σ × List σ) :=
  (readChar char '$' text).bind fun braced => (readChar char '\x7b' braced).bind fun named =>
    let name := readWhile char (fun letter => letter.isAlphanum || letter = '_') named
    if name.1.head?.all Char.isDigit then none
    else
      let transform := readTransform char name.2
      (readEnd char inDefault transform.2).map fun read =>
        ({ varName := name.1, transform := transform.1, defVal := read.1 }, read.2)

theorem readChar_length {expected : Char} {text after : List σ}
    (read : readChar char expected text = some after) : after.length < text.length := by
  cases text with
  | nil => simp [readChar] at read
  | cons symbol rest =>
    simp only [readChar, Option.ite_none_right_eq_some, Option.some.injEq] at read
    simp [read.2]

theorem readWhile_length (accept : Char → Bool) (text : List σ) :
    (readWhile char accept text).2.length ≤ text.length := by
  induction text with
  | nil => simp [readWhile]
  | cons symbol rest ih =>
    rw [readWhile]
    split
    · split
      · exact Nat.le_succ_of_le ih
      · exact le_rfl
    · exact le_rfl

theorem readDefault_length {text : List σ} {read : List σ × List σ}
    (found : readDefault char inDefault text = some read) : read.2.length < text.length := by
  induction text generalizing read with
  | nil => simp [readDefault] at found
  | cons symbol rest ih =>
    rw [readDefault] at found
    split at found
    · simp [← Option.some.inj found]
    · split at found
      · obtain ⟨inner, taken, rfl⟩ := Option.map_eq_some_iff.mp found
        exact Nat.lt_succ_of_lt (show inner.2.length < rest.length from ih taken)
      · simp at found

theorem readTransform_length (text : List σ) :
    (readTransform char text).2.length ≤ text.length := by
  unfold readTransform
  split
  · exact le_rfl
  case h_2 inner read =>
    dsimp only
    split
    · exact le_rfl
    · exact (readWhile_length char _ inner).trans (readChar_length char read).le

theorem readEnd_length {text : List σ} {read : Option (List σ) × List σ}
    (found : readEnd char inDefault text = some read) : read.2.length < text.length := by
  unfold readEnd at found
  split at found
  · obtain ⟨after, closed, rfl⟩ := Option.map_eq_some_iff.mp found
    exact readChar_length char closed
  case h_2 dash colon =>
    obtain ⟨start, dashed, found⟩ := Option.bind_eq_some_iff.mp found
    obtain ⟨taken, closed, rfl⟩ := Option.map_eq_some_iff.mp found
    exact (readDefault_length char inDefault closed).trans
      ((readChar_length char dashed).trans (readChar_length char colon))

theorem readVariable_length {text : List σ} {read : VariableToken σ × List σ}
    (found : readVariable char inDefault text = some read) : read.2.length < text.length := by
  obtain ⟨braced, dollar, found⟩ := Option.bind_eq_some_iff.mp found
  obtain ⟨named, brace, found⟩ := Option.bind_eq_some_iff.mp found
  dsimp only at found
  split at found
  · simp at found
  · obtain ⟨ending, closed, rfl⟩ := Option.map_eq_some_iff.mp found
    exact (readEnd_length char inDefault closed).trans_le ((readTransform_length char _).trans
      ((readWhile_length char _ named).trans
        ((readChar_length char brace).trans (readChar_length char dollar)).le))

/-- The tokens of a text and the symbols outside of them, from left to right. -/
def textParts (text : List σ) : List (TextPart σ) :=
  match text with
  | [] => []
  | symbol :: rest =>
    match _found : readVariable char inDefault (symbol :: rest) with
    | some (token, after) => .token token :: textParts after
    | none => .symbol symbol :: textParts rest
termination_by text.length
decreasing_by
  · exact readVariable_length char inDefault ‹_›
  · simp

end

/-- How letters are written large and small; a digit is neither. -/
structure Casing where
  toLowerCase : String → String
  toUpperCase : String → String
  lower_zero : toLowerCase "0" = "0"
  upper_zero : toUpperCase "0" = "0"

def DOLLAR_PLACEHOLDER : List Char := ['\x00', 'D', 'O', 'L', 'L', 'A', 'R', '\x00']

/-- What the code takes for a part of a default: a pair of dollars as well. -/
def isFound (symbol : Option Char) : Bool := symbol.all isInline

def isMeant (symbol : Option Char) : Bool := symbol.any isInline

def escapeDollars : List Char → List Char
  | '$' :: '$' :: rest => DOLLAR_PLACEHOLDER ++ escapeDollars rest
  | letter :: rest => letter :: escapeDollars rest
  | [] => []

def restoreDollars (text : List Char) : List Char :=
  match text with
  | [] => []
  | letter :: rest =>
    if DOLLAR_PLACEHOLDER <+: letter :: rest then '$' :: restoreDollars (rest.drop 7)
    else letter :: restoreDollars rest
termination_by text.length
decreasing_by
  · simp only [List.length_drop, List.length_cons]; omega
  · simp

/-- A text as it was meant: each pair of dollars is one symbol of its own. -/
def readSymbols : List Char → List (Option Char)
  | '$' :: '$' :: rest => none :: readSymbols rest
  | letter :: rest => some letter :: readSymbols rest
  | [] => []

def escaped (symbols : List (Option Char)) : List Char :=
  symbols.flatMap fun symbol => symbol.elim DOLLAR_PLACEHOLDER fun letter => [letter]

def showDollars (symbols : List (Option Char)) : List Char :=
  symbols.map fun symbol => symbol.getD '$'

section

variable (casing : Casing) (ctx : String → Option String)

def applyTransform (val : String) (transform : Option String) : String :=
  match transform with
  | none => val
  | some transform =>
    let t := casing.toLowerCase transform
    if t = "lower" then casing.toLowerCase val
    else if t = "upper" then casing.toUpperCase val
    else val

def replaceVariable (token : VariableToken Char) : List Char :=
  match ctx (String.ofList token.varName) with
  | some val => (applyTransform casing val token.transform).toList
  | none => match token.defVal with
    | some defVal => (applyTransform casing (String.ofList defVal) token.transform).toList
    | none => '$' :: '\x7b' :: token.varName ++ ['\x7d']

def interpolateString (input : String) : String :=
  let s := escapeDollars input.toList
  let s := (textParts some isInline s).flatMap fun part => match part with
    | .symbol letter => [letter]
    | .token token => replaceVariable casing ctx token
  String.ofList (restoreDollars s)

def writeTexts (write : String → String) : Value → Value
  | .str text => .str (write text)
  | .arr items => .arr (inItems items)
  | .obj fields => .obj (inFields fields)
  | value => value
where
  inItems : List Value → List Value
    | [] => []
    | value :: rest => writeTexts write value :: inItems rest
  inFields : List (String × Value) → List (String × Value)
    | [] => []
    | (key, value) :: rest => (key, writeTexts write value) :: inFields rest

/-- The keys of an object differ, so that each is set once. -/
def deepInterpolate : Value → Value
  | .str text => .str (interpolateString casing ctx text)
  | .arr items => .arr (inItems items)
  | .obj fields => .obj (inFields fields)
  -- A date has no entries.
  | .date _ => .obj []
  | value => value
where
  inItems : List Value → List Value
    | [] => []
    | value :: rest => deepInterpolate value :: inItems rest
  inFields : List (String × Value) → List (String × Value)
    | [] => []
    | (key, value) :: rest =>
      -- Setting this key sets the prototype.
      if key = "__proto__" then inFields rest
      else (key, deepInterpolate value) :: inFields rest

/-- The tokens of a text as they were meant, without a pair of dollars in any. -/
def meantParts (input : String) : List (TextPart (Option Char)) :=
  textParts id isMeant (readSymbols input.toList)

/-- The transformed value of a token, or else its transformed default. -/
def VariableToken.value (token : VariableToken (Option Char)) : Option String :=
  ((ctx (String.ofList token.varName)).or
    (token.defVal.map fun defVal => String.ofList defVal.reduceOption)).map fun val =>
      applyTransform casing val token.transform

def VariableToken.written (token : VariableToken (Option Char)) : List (Option Char) :=
  ('$' :: '\x7b' :: token.varName ++ (token.transform.elim [] fun transform =>
    '|' :: transform.toList)).map some ++
    (token.defVal.elim [] fun defVal => some ':' :: some '-' :: defVal) ++ [some '\x7d']

/-- The symbols that take the place of a part: a token without a value stays as it was written. -/
def meantPart : TextPart (Option Char) → List (Option Char)
  | .symbol symbol => [symbol]
  | .token token => (token.value casing ctx).elim token.written fun value => value.toList.map some

def meantSymbols (input : String) : List (Option Char) :=
  (meantParts input).flatMap (meantPart casing ctx)

/-- A text in one pass: values take the place of tokens, and one dollar that of two. -/
def interpolated (input : String) : String :=
  String.ofList (showDollars (meantSymbols casing ctx input))

end

def textsOf : Value → List String
  | .str text => [text]
  | .arr items => inItems items
  | .obj fields => inFields fields
  | _ => []
where
  inItems : List Value → List String
    | [] => []
    | value :: rest => textsOf value ++ inItems rest
  inFields : List (String × Value) → List String
    | [] => []
    | (_, value) :: rest => textsOf value ++ inFields rest

/-- A document without dates, and without the key of the prototype. -/
def isPlain : Value → Bool
  | .arr items => inItems items
  | .obj fields => inFields fields
  | .date _ => false
  | _ => true
where
  inItems : List Value → Bool
    | [] => true
    | value :: rest => isPlain value && inItems rest
  inFields : List (String × Value) → Bool
    | [] => true
    | (key, value) :: rest => key ≠ "__proto__" && isPlain value && inFields rest

/-- A token without a pair of dollars in its default. -/
def VariableToken.isPlain (token : VariableToken (Option Char)) : Bool :=
  token.defVal.all fun defVal => defVal.all Option.isSome

def PlainDefaults (input : String) : Prop :=
  ∀ token, .token token ∈ textParts id isFound
    (readSymbols input.toList) → token.isPlain = true

/-- The placeholder is found only where a pair of dollars stood. -/
def NoPlaceholder : List (Option Char) → Prop
  | [] => True
  | symbol :: rest =>
    (symbol.isSome → ¬ DOLLAR_PLACEHOLDER <+: escaped (symbol :: rest)) ∧ NoPlaceholder rest

/-- A text whose tokens keep what they are written with, and that does not contain the placeholder
after its tokens are replaced. -/
structure Interpolates (casing : Casing) (ctx : String → Option String) (input : String) :
    Prop where
  transforms : ∀ token, .token token ∈ meantParts input → token.value casing ctx = none →
    token.transform = none
  restored : NoPlaceholder (meantSymbols casing ctx input)

/-- What is promised of the interpolation of an architecture document, and when it is kept. -/
structure InterpolationLaw (casing : Casing) : Prop where
  exact : ∀ ctx doc, (∀ text ∈ textsOf doc, PlainDefaults text) →
    (deepInterpolate casing ctx doc = writeTexts (interpolated casing ctx) doc ↔
      isPlain doc = true ∧ ∀ text ∈ textsOf doc, Interpolates casing ctx text)
  /-- A pair of dollars in a default is not kept out of the token. -/
  broken : ∀ doc, (∃ text ∈ textsOf doc, ¬ PlainDefaults text) →
    ∃ ctx, deepInterpolate casing ctx doc ≠ writeTexts (interpolated casing ctx) doc
  fixed : ∀ ctx doc, (∀ text ∈ textsOf doc, '$' ∉ text.toList) →
    writeTexts (interpolated casing ctx) doc = doc

/-! The code reads a text with the placeholders in it as the symbols that it stands for. -/

theorem escapeDollars_eq (text : List Char) :
    escapeDollars text = escaped (readSymbols text) := by
  fun_induction escapeDollars text with
  | case1 rest ih => simp [readSymbols, escaped, ih]
  | case2 letter rest single ih => rw [readSymbols.eq_2 _ _ single, ih]; rfl
  | case3 => rfl

@[simp] theorem escaped_letter (letter : Char) (rest : List (Option Char)) :
    escaped (some letter :: rest) = letter :: escaped rest := rfl

@[simp] private theorem escaped_dollars (rest : List (Option Char)) :
    escaped (none :: rest) = DOLLAR_PLACEHOLDER ++ escaped rest := rfl

private theorem escaped_map_some (text : List Char) : escaped (text.map some) = text := by
  induction text <;> simp_all [escaped]

private theorem escaped_append (first rest : List (Option Char)) :
    escaped (first ++ rest) = escaped first ++ escaped rest := by
  simp [escaped]

theorem readChar_escaped {expected : Char} (visible : expected ≠ '\x00')
    (symbols : List (Option Char)) :
    readChar some expected (escaped symbols) = (readChar id expected symbols).map escaped := by
  rcases symbols with _ | ⟨_ | letter, rest⟩
  · rfl
  · simp [readChar, DOLLAR_PLACEHOLDER, visible.symm]
  · by_cases same : letter = expected <;> simp [readChar, same]

theorem readWhile_escaped {accept : Char → Bool} (visible : accept '\x00' = false)
    (symbols : List (Option Char)) :
    readWhile some accept (escaped symbols) =
      ((readWhile id accept symbols).1, escaped (readWhile id accept symbols).2) := by
  induction symbols with
  | nil => rfl
  | cons symbol rest ih =>
    cases symbol with
    | none => simp [readWhile, DOLLAR_PLACEHOLDER, visible]
    | some letter => cases accepted : accept letter <;> simp [readWhile, accepted, ih]

theorem readDefault_escaped (symbols : List (Option Char)) :
    readDefault some isInline (escaped symbols) =
      (readDefault id isFound symbols).map fun read =>
        (escaped read.1, escaped read.2) := by
  induction symbols with
  | nil => rfl
  | cons symbol rest ih =>
    cases symbol with
    | none =>
      simp only [escaped_dollars, DOLLAR_PLACEHOLDER, List.cons_append, List.nil_append,
        readDefault, ih]
      simp [isInline, isFound, Function.comp_def, DOLLAR_PLACEHOLDER]
    | some letter =>
      by_cases closing : letter = '\x7d'
      · simp [readDefault, closing, escaped]
      · cases inside : isInline letter <;>
          simp [readDefault, isFound, closing, inside, ih, Function.comp_def]

theorem readTransform_escaped (symbols : List (Option Char)) :
    readTransform some (escaped symbols) =
      ((readTransform id symbols).1, escaped (readTransform id symbols).2) := by
  unfold readTransform
  rw [readChar_escaped (by decide)]
  cases readChar id '|' symbols with
  | none => rfl
  | some inner =>
    simp only [Option.map_some, @readWhile_escaped Char.isAlpha (by decide)]
    split <;> rfl

theorem readEnd_escaped (symbols : List (Option Char)) :
    readEnd some isInline (escaped symbols) =
      (readEnd id isFound symbols).map fun read =>
        (read.1.map escaped, escaped read.2) := by
  unfold readEnd
  rw [readChar_escaped (by decide)]
  cases readChar id ':' symbols with
  | none =>
    rw [readChar_escaped (by decide)]
    simp [Function.comp_def]
  | some dash =>
    simp only [Option.map_some, @readChar_escaped '-' (by decide), Option.bind_map,
      Option.map_bind, Function.comp_def, readDefault_escaped, Option.map_map]

/-- A token as the code reads it, with placeholders in its default. -/
def VariableToken.spelled (token : VariableToken (Option Char)) : VariableToken Char :=
  { varName := token.varName, transform := token.transform, defVal := token.defVal.map escaped }

theorem readVariable_escaped (symbols : List (Option Char)) :
    readVariable some isInline (escaped symbols) =
      (readVariable id isFound symbols).map fun read =>
        (read.1.spelled, escaped read.2) := by
  unfold readVariable
  rw [readChar_escaped (by decide)]
  simp only [Option.bind_map, Option.map_bind, Function.comp_def]
  congr 1
  funext braced
  rw [readChar_escaped (by decide)]
  simp only [Option.bind_map, Function.comp_def]
  congr 1
  funext named
  rw [readWhile_escaped (by decide)]
  simp only [readTransform_escaped, readEnd_escaped]
  split
  · rfl
  · simp only [Option.map_map, Function.comp_def, VariableToken.spelled]


section

variable {σ : Type} {char : σ → Option Char} {inDefault : σ → Bool}

theorem textParts_token {text after : List σ} {token : VariableToken σ}
    (found : readVariable char inDefault text = some (token, after)) :
    textParts char inDefault text = .token token :: textParts char inDefault after := by
  cases text with
  | nil => simp [readVariable, readChar] at found
  | cons symbol rest =>
    rw [textParts]
    split <;> simp_all

theorem textParts_symbol {symbol : σ} {rest : List σ}
    (missing : readVariable char inDefault (symbol :: rest) = none) :
    textParts char inDefault (symbol :: rest) =
      .symbol symbol :: textParts char inDefault rest := by
  rw [textParts]
  split <;> simp_all

end

theorem textParts_letter {letter : Char} (other : letter ≠ '$') (rest : List Char) :
    textParts some isInline (letter :: rest) =
      .symbol letter :: textParts some isInline rest :=
  textParts_symbol (by simp [readVariable, readChar, other])

def spelledPart : TextPart (Option Char) → List (TextPart Char)
  | .symbol symbol => (escaped [symbol]).map .symbol
  | .token token => [.token token.spelled]

theorem textParts_escaped (symbols : List (Option Char)) :
    textParts some isInline (escaped symbols) =
      (textParts id isFound symbols).flatMap spelledPart := by
  fun_induction textParts id isFound symbols with
  | case1 => rw [escaped, List.flatMap_nil, textParts]; rfl
  | case2 symbol rest token after found ih =>
    have read := readVariable_escaped (symbol :: rest)
    rw [found] at read
    rw [textParts_token read, ih]
    rfl
  | case3 symbol rest missing ih =>
    have read := readVariable_escaped (symbol :: rest)
    rw [missing] at read
    rw [List.flatMap_cons, ← ih]
    cases symbol with
    | none => simp [DOLLAR_PLACEHOLDER, textParts_letter, spelledPart, escaped]
    | some letter => exact textParts_symbol read

/-! The placeholders are turned back into dollars exactly where none is made up. -/

@[simp] private theorem restoreDollars_placeholder (rest : List Char) :
    restoreDollars (DOLLAR_PLACEHOLDER ++ rest) = '$' :: restoreDollars rest := by
  rw [DOLLAR_PLACEHOLDER, List.cons_append, restoreDollars, if_pos (by simp [DOLLAR_PLACEHOLDER])]
  rfl

theorem restoreDollars_step (symbol : Option Char) (found meant : List (Option Char)) :
    restoreDollars (escaped (symbol :: found)) = showDollars (symbol :: meant) ↔
      (symbol.isSome → ¬ DOLLAR_PLACEHOLDER <+: escaped (symbol :: found)) ∧
        restoreDollars (escaped found) = showDollars meant := by
  cases symbol with
  | none => simp [showDollars]
  | some letter =>
    rw [escaped_letter, restoreDollars]
    split
    case isTrue placed =>
      -- The placeholder does not start with a dollar.
      obtain rfl : '\x00' = letter := by
        obtain ⟨rest, same⟩ := placed
        exact (List.cons.inj same).1
      simp [showDollars, placed]
    case isFalse apart => simp [showDollars, apart]

theorem restoreDollars_append {shared found meant : List (Option Char)}
    (same : restoreDollars (escaped (shared ++ found)) = showDollars (shared ++ meant)) :
    restoreDollars (escaped found) = showDollars meant := by
  induction shared with
  | nil => exact same
  | cons symbol rest ih => exact ih ((restoreDollars_step symbol _ _).mp same).2

theorem restoreDollars_iff (symbols : List (Option Char)) :
    restoreDollars (escaped symbols) = showDollars symbols ↔ NoPlaceholder symbols := by
  induction symbols with
  | nil => simp [escaped, showDollars, restoreDollars, NoPlaceholder]
  | cons symbol rest ih => rw [restoreDollars_step, ih, NoPlaceholder]

section

variable {casing : Casing} {ctx : String → Option String}

def replacedPart (casing : Casing) (ctx : String → Option String) :
    TextPart (Option Char) → List (Option Char)
  | .symbol symbol => [symbol]
  | .token token => (replaceVariable casing ctx token.spelled).map some

theorem interpolateString_eq (input : String) :
    interpolateString casing ctx input = String.ofList (restoreDollars (escaped
      ((textParts id isFound (readSymbols input.toList)).flatMap
        (replacedPart casing ctx)))) := by
  unfold interpolateString
  dsimp only
  rw [escapeDollars_eq, textParts_escaped]
  congr 2
  induction textParts id isFound (readSymbols input.toList) with
  | nil => rfl
  | cons part rest ih =>
    rw [List.flatMap_cons, List.flatMap_append, ih, List.flatMap_cons, escaped_append]
    congr 1
    cases part with
    | symbol symbol => cases symbol <;> rfl
    | token token => simp [spelledPart, replacedPart, escaped_map_some]

theorem readDefault_meant (symbols : List (Option Char)) :
    readDefault id isMeant symbols =
      (readDefault id isFound symbols).filter
        fun read => read.1.all Option.isSome := by
  induction symbols with
  | nil => rfl
  | cons symbol rest ih =>
    rw [readDefault, readDefault, ih]
    cases symbol <;> cases readDefault id isFound rest <;>
      simp [Option.filter_some, isFound, isMeant] <;> grind

theorem readEnd_meant (symbols : List (Option Char)) :
    readEnd id isMeant symbols =
      (readEnd id isFound symbols).filter
        fun read => read.1.all fun defVal => defVal.all Option.isSome := by
  unfold readEnd
  cases readChar id ':' symbols with
  | none => cases readChar id '\x7d' symbols <;> rfl
  | some dash =>
    simp only [readDefault_meant]
    cases readChar id '-' dash with
    | none => rfl
    | some start => simp [Option.filter_map, Function.comp_def]

theorem readVariable_meant (symbols : List (Option Char)) :
    readVariable id isMeant symbols =
      (readVariable id isFound symbols).filter
        fun read => read.1.isPlain := by
  unfold readVariable
  cases readChar id '$' symbols with
  | none => rfl
  | some braced =>
    rw [Option.bind_some, Option.bind_some]
    cases readChar id '\x7b' braced with
    | none => rfl
    | some named =>
      simp only [Option.bind_some, readEnd_meant]
      split
      · rfl
      · rw [Option.filter_map]
        rfl

theorem escaped_plain {symbols : List (Option Char)}
    (plain : symbols.all Option.isSome = true) : escaped symbols = symbols.reduceOption := by
  induction symbols with
  | nil => rfl
  | cons symbol rest ih => cases symbol <;> simp_all [List.reduceOption]

theorem replacedPart_token {token : VariableToken (Option Char)}
    (plain : token.isPlain = true)
    (kept : token.value casing ctx = none → token.transform = none) :
    replacedPart casing ctx (.token token) = meantPart casing ctx (.token token) := by
  obtain ⟨varName, transform, defVal⟩ := token
  simp only [replacedPart, meantPart, replaceVariable, VariableToken.spelled,
    VariableToken.value] at kept ⊢
  cases unset : ctx (String.ofList varName) with
  | some val => rfl
  | none =>
    cases defVal with
    | some defVal => simp [escaped_plain plain]
    | none =>
      obtain rfl := kept (by simp [unset])
      simp [VariableToken.written]

/-- Texts that are written alike keep every token without a value as it was written. -/
theorem transform_of_same {parts : List (TextPart (Option Char))}
    (plain : ∀ token, .token token ∈ parts → token.isPlain = true)
    (same : restoreDollars (escaped (parts.flatMap (replacedPart casing ctx))) =
      showDollars (parts.flatMap (meantPart casing ctx))) :
    ∀ token, .token token ∈ parts → token.value casing ctx = none → token.transform = none := by
  induction parts with
  | nil => simp
  | cons part rest ih =>
    rw [List.flatMap_cons, List.flatMap_cons] at same
    cases part with
    | symbol symbol =>
      simpa using ih (by simpa using plain) (@restoreDollars_append [symbol] _ _ same)
    | token token =>
      have kept : token.value casing ctx = none → token.transform = none := by
        intro valueless
        obtain ⟨varName, transform, defVal⟩ := token
        obtain ⟨unset, rfl⟩ : ctx (String.ofList varName) = none ∧ defVal = none := by
          simpa [VariableToken.value] using valueless
        cases transform with
        | none => rfl
        | some transform =>
          -- Where the code closes the token, its transform was written.
          have shared := @restoreDollars_append (('$' :: '\x7b' :: varName).map some)
            (some '\x7d' :: rest.flatMap (replacedPart casing ctx))
            (some '|' :: (transform.toList.map some ++ [some '\x7d']) ++
              rest.flatMap (meantPart casing ctx))
            (by simpa [replacedPart, replaceVariable, VariableToken.spelled, unset, meantPart,
              VariableToken.value, VariableToken.written] using same)
          simp [escaped, showDollars, restoreDollars, DOLLAR_PLACEHOLDER] at shared
      have known := plain token (by simp)
      rw [replacedPart_token known kept] at same
      have later := ih (fun other member => plain other (by simp [member]))
        (restoreDollars_append same)
      intro other member
      rcases List.mem_cons.mp member with first | behind
      · obtain rfl := TextPart.token.inj first
        exact kept
      · exact later other behind

theorem meantParts_of_plain {input : String} (plain : PlainDefaults input) :
    textParts id isFound (readSymbols input.toList) =
      meantParts input := by
  unfold PlainDefaults at plain
  unfold meantParts
  generalize readSymbols input.toList = symbols at plain ⊢
  fun_induction textParts id isFound symbols with
  | case1 => rw [textParts]
  | case2 symbol rest token after found ih =>
    have read := readVariable_meant (symbol :: rest)
    rw [found, Option.filter_some, if_pos (plain token (by simp))] at read
    rw [textParts_token read, ih fun other member => plain other (by simp [member])]
  | case3 symbol rest missing ih =>
    have read := readVariable_meant (symbol :: rest)
    rw [missing] at read
    rw [textParts_symbol read, ih fun other member => plain other (by simp [member])]

theorem interpolateString_iff {input : String} (plain : PlainDefaults input) :
    interpolateString casing ctx input = interpolated casing ctx input ↔
      Interpolates casing ctx input := by
  rw [interpolateString_eq, interpolated, String.ofList_inj]
  have parts := meantParts_of_plain plain
  have all_plain : ∀ token, .token token ∈ meantParts input → token.isPlain = true :=
    fun token member => plain token (parts ▸ member)
  have agree (kept : ∀ token, .token token ∈ meantParts input →
      token.value casing ctx = none → token.transform = none) :
      (meantParts input).flatMap (replacedPart casing ctx) = meantSymbols casing ctx input := by
    refine List.flatMap_congr fun part member => ?_
    cases part with
    | symbol symbol => rfl
    | token token => exact replacedPart_token (all_plain token member) (kept token member)
  rw [parts]
  constructor
  · intro same
    have kept := transform_of_same all_plain same
    rw [agree kept] at same
    exact ⟨kept, (restoreDollars_iff _).mp same⟩
  · intro holds
    rw [agree holds.transforms]
    exact (restoreDollars_iff _).mpr holds.restored

theorem readVariable_none {text : List (Option Char)}
    (missing : readVariable id isFound text = none) :
    readVariable id isMeant text = none := by
  rw [readVariable_meant, missing, Option.filter_none]

/-- With the same value for every variable, a pair of dollars in a default makes a difference. -/
theorem apart_of_escaped {symbols : List (Option Char)}
    (escapes : ∃ token, .token token ∈ textParts id isFound symbols ∧
      token.isPlain = false) :
    restoreDollars (escaped ((textParts id isFound symbols).flatMap
      (replacedPart casing fun _ => some "0"))) ≠
    showDollars ((textParts id isMeant symbols).flatMap
      (meantPart casing fun _ => some "0")) := by
  have zero (token : VariableToken (Option Char)) :
      replacedPart casing (fun _ => some "0") (.token token) = [some '0'] ∧
        meantPart casing (fun _ => some "0") (.token token) = [some '0'] := by
    have same : applyTransform casing "0" token.transform = "0" := by
      unfold applyTransform
      split
      · rfl
      · simp [casing.lower_zero, casing.upper_zero]
    simp [replacedPart, replaceVariable, VariableToken.spelled, meantPart, VariableToken.value,
      same]
  fun_induction textParts id isFound symbols with
  | case1 => simp at escapes
  | case2 symbol rest token after found ih =>
    have read := readVariable_meant (symbol :: rest)
    rw [found, Option.filter_some] at read
    intro same
    rw [List.flatMap_cons, (zero token).1] at same
    cases plain : token.isPlain with
    | true =>
      rw [if_pos plain] at read
      rw [textParts_token read, List.flatMap_cons, (zero token).2] at same
      obtain ⟨other, member, escapes⟩ := escapes
      refine ih ⟨other, ?_, escapes⟩ (restoreDollars_append same)
      rcases List.mem_cons.mp member with first | behind
      · simp [← TextPart.token.inj first, escapes] at plain
      · exact behind
    | false =>
      -- The token starts with a dollar, which the code does not write.
      rw [if_neg (by simp [plain])] at read
      obtain rfl : symbol = some '$' := by
        by_contra other
        simp [readVariable, readChar, other] at found
      rw [textParts_symbol read] at same
      simp [meantPart, escaped, showDollars, restoreDollars, DOLLAR_PLACEHOLDER] at same
  | case3 symbol rest missing ih =>
    rw [textParts_symbol (readVariable_none missing)]
    intro same
    exact ih (by simpa using escapes) (@restoreDollars_append [symbol] _ _ same)

theorem interpolated_fixed {text : String} (free : '$' ∉ text.toList) :
    interpolated casing ctx text = text := by
  have plain (letters : List Char) (free : '$' ∉ letters) :
      showDollars ((textParts id isMeant (readSymbols letters)).flatMap
        (meantPart casing ctx)) = letters := by
    induction letters with
    | nil => rw [readSymbols, textParts]; rfl
    | cons letter rest ih =>
      obtain ⟨first, later⟩ := List.ne_and_not_mem_of_not_mem_cons free
      have single : ∀ later, letter = '$' → rest = '$' :: later → False :=
        fun _ same _ => first same.symm
      rw [readSymbols.eq_2 _ _ single, textParts_symbol (by
        simp [readVariable, readChar, Ne.symm first])]
      exact congrArg (letter :: ·) (ih later)
  rw [interpolated, meantSymbols, meantParts, plain _ free, String.ofList_toList]

end

/-! Both readings of a document are compared text by text. -/

section

variable {casing : Casing} {ctx : String → Option String} {write : String → String}

theorem length_inFields : ∀ fields : List (String × Value),
    (deepInterpolate.inFields casing ctx fields).length ≤ fields.length ∧
      (writeTexts.inFields write fields).length = fields.length
  | [] => ⟨le_rfl, rfl⟩
  | (key, value) :: rest => by
    have later := length_inFields rest
    by_cases proto : key = "__proto__" <;>
      simp [deepInterpolate.inFields, writeTexts.inFields, proto] <;> omega

mutual

theorem deepInterpolate_iff : ∀ doc : Value,
    deepInterpolate casing ctx doc = writeTexts write doc ↔
      isPlain doc = true ∧ ∀ text ∈ textsOf doc, interpolateString casing ctx text = write text
  | .str text => by simp [deepInterpolate, writeTexts, isPlain, textsOf]
  | .arr items => by
    simpa [deepInterpolate, writeTexts, isPlain, textsOf] using deepItems_iff items
  | .obj fields => by
    simpa [deepInterpolate, writeTexts, isPlain, textsOf] using deepFields_iff fields
  | .date ms => by simp [deepInterpolate, writeTexts, isPlain]
  | .undefined | .null | .bool _ | .num _ => by
    simp [deepInterpolate, writeTexts, isPlain, textsOf]

theorem deepItems_iff : ∀ items : List Value,
    deepInterpolate.inItems casing ctx items = writeTexts.inItems write items ↔
      isPlain.inItems items = true ∧
        ∀ text ∈ textsOf.inItems items, interpolateString casing ctx text = write text
  | [] => by simp [deepInterpolate.inItems, writeTexts.inItems, isPlain.inItems, textsOf.inItems]
  | value :: rest => by
    simp only [deepInterpolate.inItems, writeTexts.inItems, isPlain.inItems, textsOf.inItems,
      List.cons.injEq, deepInterpolate_iff value, deepItems_iff rest, Bool.and_eq_true,
      List.mem_append, or_imp, forall_and]
    tauto

theorem deepFields_iff : ∀ fields : List (String × Value),
    deepInterpolate.inFields casing ctx fields = writeTexts.inFields write fields ↔
      isPlain.inFields fields = true ∧
        ∀ text ∈ textsOf.inFields fields, interpolateString casing ctx text = write text
  | [] => by
    simp [deepInterpolate.inFields, writeTexts.inFields, isPlain.inFields, textsOf.inFields]
  | (key, value) :: rest => by
    by_cases proto : key = "__proto__"
    · have lost : deepInterpolate.inFields casing ctx ((key, value) :: rest) ≠
          writeTexts.inFields write ((key, value) :: rest) := by
        intro same
        have lengths := congrArg List.length same
        rw [deepInterpolate.inFields, if_pos proto, (@length_inFields casing ctx write _).2,
          List.length_cons] at lengths
        have := (@length_inFields casing ctx write rest).1
        omega
      simpa [isPlain.inFields, proto] using lost
    · rw [deepInterpolate.inFields, if_neg proto, writeTexts.inFields, List.cons.injEq,
        Prod.mk.injEq, deepInterpolate_iff value, deepFields_iff rest]
      simp only [isPlain.inFields, textsOf.inFields, proto, List.mem_append, or_imp, forall_and,
        Bool.and_eq_true, ne_eq, not_false_eq_true, decide_true, true_and]
      tauto

end

mutual

theorem writeTexts_eq : ∀ doc : Value, (∀ text ∈ textsOf doc, write text = text) →
    writeTexts write doc = doc
  | .str text, kept => by simpa [writeTexts, textsOf] using kept
  | .arr items, kept => congrArg Value.arr (writeItems_eq items kept)
  | .obj fields, kept => congrArg Value.obj (writeFields_eq fields kept)
  | .date _, _ | .undefined, _ | .null, _ | .bool _, _ | .num _, _ => rfl

theorem writeItems_eq : ∀ items : List Value,
    (∀ text ∈ textsOf.inItems items, write text = text) → writeTexts.inItems write items = items
  | [], _ => rfl
  | value :: rest, kept => by
    simp only [textsOf.inItems, List.mem_append, or_imp, forall_and] at kept
    rw [writeTexts.inItems, writeTexts_eq value kept.1, writeItems_eq rest kept.2]

theorem writeFields_eq : ∀ fields : List (String × Value),
    (∀ text ∈ textsOf.inFields fields, write text = text) →
      writeTexts.inFields write fields = fields
  | [], _ => rfl
  | (key, value) :: rest, kept => by
    simp only [textsOf.inFields, List.mem_append, or_imp, forall_and] at kept
    rw [writeTexts.inFields, writeTexts_eq value kept.1, writeFields_eq rest kept.2]

end

end

/-- A document is interpolated in one pass exactly where its tokens keep what they are written with
and the placeholder does not arise. -/
theorem interpolationLaw (casing : Casing) : InterpolationLaw casing where
  exact ctx doc plain := by
    rw [deepInterpolate_iff]
    exact and_congr_right fun _ => forall₂_congr fun text member =>
      interpolateString_iff (plain text member)
  broken doc escapes := by
    obtain ⟨text, member, escapes⟩ := escapes
    refine ⟨fun _ => some "0", fun same => ?_⟩
    have alike := (deepInterpolate_iff doc).mp same |>.2 text member
    rw [interpolateString_eq, interpolated, String.ofList_inj] at alike
    exact apart_of_escaped (by simpa [PlainDefaults] using escapes) alike
  fixed ctx doc free := writeTexts_eq doc fun text member => interpolated_fixed (free text member)

/-- A token without a value loses its transform. -/
theorem not_interpolated : ¬ ∀ (casing : Casing) (ctx : String → Option String) (doc : Value),
    deepInterpolate casing ctx doc = writeTexts (interpolated casing ctx) doc := by
  intro kept
  have same := kept ⟨id, id, rfl, rfl⟩ (fun _ => none) (.str "$\x7bA|lower\x7d")
  revert same
  decide +kernel

end BitBrat
