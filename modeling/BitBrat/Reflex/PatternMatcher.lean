import BitBrat.Js.RegExp
import BitBrat.Types.Event

/-! The regex branch of the pattern matcher: safety check, compiled cache, and match. -/

namespace BitBrat

open Js

/-- What the pattern matcher throws: the name of the error, and its message. -/
structure PatternError where
  name : String
  message : String
  deriving DecidableEq

def UnsafeRegexError (pattern : String) : PatternError where
  name := "UnsafeRegexError"
  message := "Unsafe regex pattern detected (potential ReDoS): " ++ pattern

structure RegexRuntime where
  engine : RegexEngine
  safeRegex : String → Bool

def validateRegexSafety (runtime : RegexRuntime) (pattern : String) : Except PatternError Unit :=
  if runtime.safeRegex pattern then .ok () else .error (UnsafeRegexError pattern)

/-- Whether a pattern is safe and compiles, or the message of what it fails. -/
def validateRegexPattern (runtime : RegexRuntime) (pattern : String) : Except String Unit :=
  match validateRegexSafety runtime pattern with
  | .error error => .error error.message
  | .ok () =>
    match RegExp.create runtime.engine pattern "" with
    | .error message => .error message
    | .ok _ => .ok ()

def compileSafe (runtime : RegexRuntime) (pattern : String) (flags : Option String) :
    Except PatternError RegExp := do
  validateRegexSafety runtime pattern
  -- The engine is only asked for a pattern that was found to be safe.
  match RegExp.create runtime.engine pattern (textOr flags "") with
  | .ok regex => .ok regex
  | .error error =>
    .error {
      name := "Error"
      message := "Invalid regex pattern: " ++ pattern ++ " (flags: " ++ textOr flags "none" ++
        "): " ++ error }

/-- The compiled expression of a pattern, from the cache or made for it. -/
def getCompiledRegex (runtime : RegexRuntime) (pattern : String) (flags : Option String)
    (regexCache : RegexCache) : Except PatternError RegExp × RegexCache :=
  regexCache.lookupOrCreate (cacheKey pattern (textOr flags "")) (compileSafe runtime pattern flags)

/-- Whether a value matches a pattern, and the cache that is left. -/
def matchRegex (runtime : RegexRuntime) (value pattern : String) (flags : Option String)
    (regexCache : RegexCache) : Except PatternError Bool × RegexCache :=
  match getCompiledRegex runtime pattern flags regexCache with
  | (.error error, cache) => (.error error, cache)
  | (.ok regex, cache) =>
    let tested := cache.testIn runtime.engine (cacheKey pattern (textOr flags "")) regex value
    (.ok tested.1, tested.2)

def matchFresh (runtime : RegexRuntime) (value pattern : String) (flags : Option String) :
    Except PatternError Bool := do
  let regex ← compileSafe runtime pattern flags
  .ok (regex.test runtime.engine value).1

theorem create_of_compileSafe {runtime : RegexRuntime} {pattern : String}
    {flags : Option String} {regex : RegExp}
    (made : compileSafe runtime pattern flags = .ok regex) :
    RegExp.create runtime.engine pattern (textOr flags "") = .ok regex := by
  by_cases safe : runtime.safeRegex pattern
  · -- The pattern is safe, so the constructor decides.
    simp only [compileSafe, validateRegexSafety, if_pos safe, bind, Except.bind] at made
    split at made
    · rename_i found
      cases made
      exact found
    · cases made
  · simp only [compileSafe, validateRegexSafety, if_neg safe, bind, Except.bind] at made
    cases made

@[simp] theorem textOr_some_empty (text : String) : textOr (some text) "" = text := by
  by_cases empty : text = "" <;> simp [textOr, empty]

theorem create_of_compileSafe_some {runtime : RegexRuntime} {pattern flags : String}
    {regex : RegExp} (made : compileSafe runtime pattern (some flags) = .ok regex) :
    RegExp.create runtime.engine pattern flags = .ok regex := by
  simpa using create_of_compileSafe made

theorem compileSafe_textOr (runtime : RegexRuntime) (pattern : String) (flags : Option String) :
    compileSafe runtime pattern (some (textOr flags "")) = compileSafe runtime pattern flags := by
  have named : textOr (some (textOr flags "")) "none" = textOr flags "none" := by
    cases flags with
    | none => rfl
    | some text => by_cases empty : text = "" <;> simp [textOr, empty]
  simp only [compileSafe, textOr_some_empty, named]

/-- An engine for patterns of plain letters, alternatives between bars, and the flags g and y. -/
def letterEngine : RegexEngine where
  syntaxError pattern flags :=
    if flags.toList.all (fun flag => flag = 'g' || flag = 'y') && flags.toList.dedup = flags.toList
    then
      if pattern.toList.all fun char => char.isAlphanum || char = '|' then none
      else some ("Unsupported pattern: " ++ pattern)
    else some ("Invalid flags supplied to RegExp constructor '" ++ flags ++ "'")
  exec pattern flags text start :=
    let starts := if 'y' ∈ flags.toList then [start]
      else List.range' start (text.toList.length + 1 - start)
    starts.findSome? fun index =>
      (pattern.toList.splitOn '|').findSome? fun letters =>
        if index ≤ text.toList.length ∧ letters.isPrefixOf (text.toList.drop index) then
          some (index + letters.length)
        else none
  flags_known := by
    intro pattern flags accepted flag member
    split at accepted
    · rename_i letters
      have known := List.all_eq_true.mp (Bool.and_eq_true_iff.mp letters).1 flag member
      rcases Bool.or_eq_true_iff.mp known with global | sticky
      · simp [of_decide_eq_true global]
      · simp [of_decide_eq_true sticky]
    · cases accepted

def letterRuntime : RegexRuntime := ⟨letterEngine, fun _ => true⟩

end BitBrat
