import BitBrat.Machine.Run
import BitBrat.Reflex.PatternMatcher

/-! The regex operator of rule conditions: text conversion, compiled cache, and test. -/

namespace BitBrat

open Js

/-- The text of an operand, where a missing one has none. -/
def toText (v : Value) : String :=
  match v with
  | .undefined => ""
  | .null => ""
  | other => other.toText

def flagsText (flags : Value) : String := if flags.truthy then toText flags else ""

/-- The compiled expression of a pattern, or none where the constructor rejects it. -/
def getRegex (engine : RegexEngine) (pattern flags : Value) (reCache : RegexCache) :
    Option RegExp × RegexCache :=
  let pat := toText pattern
  let fl := flagsText flags
  let found := reCache.lookupOrCreate (cacheKey pat fl) (RegExp.create engine pat fl)
  (found.1.toOption, found.2)

def regexOperands (pattern flags : Value) : Value × Value :=
  match pattern with
  | .arr items => (items.getD 0 .undefined, items.getD 1 .undefined)
  | other => (other, flags)

def re_test (engine : RegexEngine) (value pattern flags : Value) (reCache : RegexCache) :
    Bool × RegexCache :=
  let text := toText value
  let operands := regexOperands pattern flags
  match getRegex engine operands.1 operands.2 reCache with
  | (none, cache) => (false, cache)
  | (some rx, cache) =>
    cache.testIn engine (cacheKey (toText operands.1) (flagsText operands.2)) rx text

def testFresh (engine : RegexEngine) (value pattern flags : Value) : Bool :=
  let operands := regexOperands pattern flags
  match RegExp.create engine (toText operands.1) (flagsText operands.2) with
  | .ok regex => (regex.test engine (toText value)).1
  | .error _ => false

/-! Regex conditions over whole histories: when the caches answer as fresh expressions do. -/

open Js Machine

structure RegexCaches where
  reCache : RegexCache
  regexCache : RegexCache

def RegexCaches.empty : RegexCaches := ⟨.empty, .empty⟩

inductive RegexEvaluation where
  | reTest (value pattern flags : Value)
  | matchRegex (value pattern : String) (flags : Option String)
  | clearRegexCache

namespace RegexEvaluation

/-- The answer of an evaluation, and the caches that it leaves. -/
def perform (runtime : RegexRuntime) (caches : RegexCaches) :
    RegexEvaluation → Except PatternError Bool × RegexCaches
  | reTest value pattern flags =>
    let tested := re_test runtime.engine value pattern flags caches.reCache
    (.ok tested.1, { caches with reCache := tested.2 })
  | matchRegex value pattern flags =>
    let tested := BitBrat.matchRegex runtime value pattern flags caches.regexCache
    (tested.1, { caches with regexCache := tested.2 })
  | clearRegexCache => (.ok false, { caches with regexCache := .empty })

def fresh (runtime : RegexRuntime) : RegexEvaluation → Except PatternError Bool
  | reTest value pattern flags => .ok (testFresh runtime.engine value pattern flags)
  | matchRegex value pattern flags => matchFresh runtime value pattern flags
  | clearRegexCache => .ok false

/-- What the evaluation would find in its cache was made for the same flags, and is at rest. -/
def Quiet (caches : RegexCaches) : RegexEvaluation → Prop
  | reTest _ pattern flags =>
    caches.reCache.Quiet (toText (regexOperands pattern flags).1)
      (flagsText (regexOperands pattern flags).2)
  | matchRegex _ pattern flags => caches.regexCache.Quiet pattern (textOr flags "")
  | clearRegexCache => True

instance (caches : RegexCaches) : DecidablePred (Quiet caches)
  | reTest _ _ _ => inferInstanceAs (Decidable (RegexCache.Quiet _ _ _))
  | matchRegex _ _ _ => inferInstanceAs (Decidable (RegexCache.Quiet _ _ _))
  | clearRegexCache => inferInstanceAs (Decidable True)

end RegexEvaluation

def evaluateRegex (runtime : RegexRuntime) (caches : RegexCaches) (evaluation : RegexEvaluation) :
    RegexCaches := (evaluation.perform runtime caches).2

def AnswersFresh (runtime : RegexRuntime) (caches : RegexCaches) (evaluation : RegexEvaluation) :
    Prop := (evaluation.perform runtime caches).1 = evaluation.fresh runtime

/-- History independence: every evaluation of a run answers as a fresh expression does. -/
def HistoryIndependent (runtime : RegexRuntime) (evaluations : List RegexEvaluation) : Prop :=
  Along (evaluateRegex runtime) (AnswersFresh runtime) .empty evaluations

/-- Both caches keep nothing but what was made for the texts they keep it under. -/
structure RegexCaches.Sound (runtime : RegexRuntime) (caches : RegexCaches) : Prop where
  reCache : RegexCache.Sound (RegExp.create runtime.engine) caches.reCache
  regexCache : RegexCache.Sound (fun pattern flags => compileSafe runtime pattern (some flags))
    caches.regexCache

theorem re_test_eq (engine : RegexEngine) (value pattern flags : Value)
    (reCache : RegexCache) :
    re_test engine value pattern flags reCache =
      let operands := regexOperands pattern flags
      let pat := toText operands.1
      let fl := flagsText operands.2
      let tested := reCache.testThrough engine (cacheKey pat fl) (RegExp.create engine pat fl)
        (toText value)
      (tested.1.toOption.getD false, tested.2) := by
  -- Both sides look the same expression up.
  simp only [re_test, getRegex, RegexCache.testThrough]
  generalize reCache.lookupOrCreate _ _ = found
  obtain ⟨outcome, after⟩ := found
  cases outcome <;> rfl

theorem matchRegex_eq (runtime : RegexRuntime) (value pattern : String) (flags : Option String)
    (regexCache : RegexCache) :
    matchRegex runtime value pattern flags regexCache =
      regexCache.testThrough runtime.engine (cacheKey pattern (textOr flags ""))
        (compileSafe runtime pattern (some (textOr flags ""))) value := by
  -- Missing flags and empty ones have the same key, and make the same expression.
  rw [compileSafe_textOr]
  simp only [matchRegex, getCompiledRegex, RegexCache.testThrough]
  generalize regexCache.lookupOrCreate _ _ = found
  obtain ⟨outcome, after⟩ := found
  cases outcome <;> rfl

theorem RegexCaches.Sound.evaluate {runtime : RegexRuntime} {caches : RegexCaches}
    (sound : caches.Sound runtime) (evaluation : RegexEvaluation) :
    (evaluateRegex runtime caches evaluation).Sound runtime := by
  cases evaluation with
  | reTest value pattern flags =>
    -- Each operation goes through one of the two caches, and leaves the other.
    refine ⟨?_, sound.regexCache⟩
    simp only [evaluateRegex, RegexEvaluation.perform, re_test_eq]
    exact sound.reCache.testThrough (fun _ _ _ made => made) _ _ _
  | matchRegex value pattern flags =>
    refine ⟨sound.reCache, ?_⟩
    simp only [evaluateRegex, RegexEvaluation.perform, matchRegex_eq]
    exact sound.regexCache.testThrough (fun _ _ _ => create_of_compileSafe_some) _ _ _
  | clearRegexCache => exact ⟨sound.reCache, RegexCache.sound_empty _⟩

theorem answersFresh_of_quiet {runtime : RegexRuntime} {caches : RegexCaches}
    (sound : caches.Sound runtime) {evaluation : RegexEvaluation}
    (quiet : evaluation.Quiet caches) : AnswersFresh runtime caches evaluation := by
  cases evaluation with
  | reTest value pattern flags =>
    -- An expression that is cached at rest answers like one made now.
    have answer := RegexCache.testThrough_fresh runtime.engine sound.reCache quiet (toText value)
    simp only [AnswersFresh, RegexEvaluation.perform, RegexEvaluation.fresh, re_test_eq, answer,
      testFresh]
    generalize RegExp.create runtime.engine _ _ = made
    cases made <;> rfl
  | matchRegex value pattern flags =>
    have answer := RegexCache.testThrough_fresh runtime.engine sound.regexCache quiet value
    simp only [AnswersFresh, RegexEvaluation.perform, RegexEvaluation.fresh, matchRegex_eq,
      matchFresh]
    rw [answer, compileSafe_textOr]
    generalize compileSafe runtime pattern flags = made
    cases made <;> rfl
  | clearRegexCache => rfl

/-- In a run of quiet evaluations no answer depends on the evaluations before it. -/
theorem historyIndependent_of_quiet (runtime : RegexRuntime) (evaluations : List RegexEvaluation)
    (quiet : Along (evaluateRegex runtime) (fun caches evaluation => evaluation.Quiet caches)
      .empty evaluations) :
    HistoryIndependent runtime evaluations := by
  -- The caches stay sound at every step, quiet or not.
  refine along_of_invariant (fun caches => caches.Sound runtime) ?_ ?_ ?_ quiet
  · intro caches evaluation sound _
    exact sound.evaluate evaluation
  · intro caches evaluation sound still
    exact answersFresh_of_quiet sound still
  · exact ⟨RegexCache.sound_empty _, RegexCache.sound_empty _⟩

/-- A condition with a global flag: a test that succeeds, one that fails, and one that succeeds. -/
def quietEvaluations : List RegexEvaluation :=
  [.reTest (.str "a") (.str "b|a") .undefined, .reTest (.str "c") (.str "a") (.str "g"),
    .reTest (.str "ca") (.str "a") (.str "g"), .matchRegex "ca" "a" (some "g"),
    .matchRegex "b" "b|a" none]

/-- Tests that succeed on both caches, with and without a global flag, stay independent. -/
theorem historyIndependent_quietEvaluations : HistoryIndependent letterRuntime quietEvaluations :=
  historyIndependent_of_quiet letterRuntime quietEvaluations (by decide)

/-- The same global test answers differently the second time. -/
theorem globalTest_remembers :
    ¬ (∀ runtime evaluations, HistoryIndependent runtime evaluations) := by
  intro independent
  have answers := independent letterRuntime
    [.reTest (.str "a") (.str "a") (.str "g"), .reTest (.str "a") (.str "a") (.str "g")]
  -- The index that the first test has left lies behind the only match.
  obtain ⟨_, second, _⟩ := answers
  revert second
  unfold AnswersFresh
  decide

end BitBrat
