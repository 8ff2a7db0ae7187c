import BitBrat.Js.OrderedMap
import BitBrat.Js.Text

/-! Regular expressions: a test moves the index of some, and a cache keeps them by a text. -/

namespace Js

/-- The engine behind the constructor: what it rejects, and what it finds. -/
structure RegexEngine where
  /-- The message with which the constructor rejects a pattern and its flags. -/
  syntaxError : String → String → Option String
  /-- Where the match ends that a pattern, under its flags, finds in a text from an index on. -/
  exec : String → String → String → Nat → Option Nat
  /-- Flags that the constructor accepts are among the eight letters. -/
  flags_known : ∀ pattern flags, syntaxError pattern flags = none →
    ∀ flag ∈ flags.toList, flag ∈ ['d', 'g', 'i', 'm', 's', 'u', 'v', 'y']

structure RegExp where
  pattern : String
  flags : String
  lastIndex : Nat := 0
  deriving DecidableEq

namespace RegExp

/-- Construct a regular expression, or fail with the message of the engine. -/
def create (engine : RegexEngine) (pattern flags : String) : Except String RegExp :=
  match engine.syntaxError pattern flags with
  | some message => .error message
  | none => .ok { pattern, flags }

def resumes (regex : RegExp) : Bool := 'g' ∈ regex.flags.toList || 'y' ∈ regex.flags.toList

/-- Whether the expression matches a text, and the expression with the index that is left. -/
def test (engine : RegexEngine) (regex : RegExp) (text : String) : Bool × RegExp :=
  let start := if regex.resumes then regex.lastIndex else 0
  match engine.exec regex.pattern regex.flags text start with
  | some stop => (true, if regex.resumes then { regex with lastIndex := stop } else regex)
  | none => (false, if regex.resumes then { regex with lastIndex := 0 } else regex)

def rewound (regex : RegExp) : RegExp := { regex with lastIndex := 0 }

/-- Nothing is left of the matches before. -/
def AtRest (regex : RegExp) : Prop := regex.resumes → regex.lastIndex = 0

instance (regex : RegExp) : Decidable regex.AtRest :=
  inferInstanceAs (Decidable (regex.resumes → regex.lastIndex = 0))

@[simp] theorem rewound_test (engine : RegexEngine) (regex : RegExp) (text : String) :
    (regex.test engine text).2.rewound = regex.rewound := by
  simp only [test]
  split <;> split <;> rfl

variable {regex : RegExp}

theorem test_of_atRest (engine : RegexEngine) (rest : regex.AtRest) (text : String) :
    (regex.test engine text).1 = (regex.rewound.test engine text).1 := by
  -- Both searches start at the beginning of the text.
  have start : (if regex.resumes then regex.lastIndex else 0) = 0 := by
    by_cases moving : regex.resumes
    · rw [if_pos moving, rest moving]
    · rw [if_neg moving]
  have restart : (if regex.rewound.resumes then regex.rewound.lastIndex else 0) = 0 :=
    ite_self 0
  simp only [test, start, restart]
  have found : engine.exec regex.rewound.pattern regex.rewound.flags =
      engine.exec regex.pattern regex.flags := rfl
  rw [found]
  split <;> rfl

variable {engine : RegexEngine}

theorem atRest_of_test {text : String} (failed : (regex.test engine text).1 = false) :
    (regex.test engine text).2.AtRest := by
  simp only [test] at failed ⊢
  split at failed
  · cases failed
  · rename_i missed
    -- An expression that does not resume has no index to start from.
    split
    · exact fun _ => rfl
    · rename_i plain
      exact fun moving => absurd moving plain

theorem create_eq_ok {pattern flags : String}
    (made : create engine pattern flags = .ok regex) :
    regex = { pattern, flags } ∧ engine.syntaxError pattern flags = none := by
  unfold create at made
  split at made
  · cases made
  · rename_i accepted
    exact ⟨(Except.ok.inj made).symm, accepted⟩

theorem bar_notMem_flags {pattern flags : String}
    (made : create engine pattern flags = .ok regex) : '|' ∉ flags.toList := by
  intro member
  have letter := engine.flags_known pattern flags (create_eq_ok made).2 '|' member
  simp at letter

end RegExp

abbrev RegexCache := OrderedMap String RegExp

def cacheKey (pattern flags : String) : String := pattern ++ "|" ++ flags

theorem cacheKey_injective {pattern flags other others : String}
    (plain : '|' ∉ flags.toList) (plains : '|' ∉ others.toList)
    (same : cacheKey pattern flags = cacheKey other others) : pattern = other ∧ flags = others := by
  -- A pattern may hold bars of its own, so the texts are split at their last bar.
  have texts : flags.toList.reverse ++ '|' :: pattern.toList.reverse =
      others.toList.reverse ++ '|' :: other.toList.reverse := by
    have reversed := congrArg (fun text => text.toList.reverse) same
    simpa [cacheKey] using reversed
  have plainChars (text : String) (holds : '|' ∉ text.toList) :
      ∀ char ∈ text.toList.reverse, (char != '|') = true := by
    intro char member
    simp only [bne_iff_ne, ne_eq]
    rintro rfl
    exact holds (List.mem_reverse.mp member)
  have after := run_unique (plainChars flags plain) (plainChars others plains) (by decide) texts
  rw [after, List.append_cancel_left_eq, List.cons.injEq] at texts
  exact ⟨String.toList_inj.mp (List.reverse_inj.mp texts.2),
    String.toList_inj.mp (List.reverse_inj.mp after)⟩

namespace RegexCache

variable {ε : Type}

/-- The expression under a text, or a new one that joins the cache. -/
def lookupOrCreate (cache : RegexCache) (key : String) (made : Except ε RegExp) :
    Except ε RegExp × RegexCache :=
  match cache.get? key with
  | some regex => (.ok regex, cache)
  | none =>
    match made with
    | .ok regex => (.ok regex, cache.set key regex)
    | .error error => (.error error, cache)

/-- Test a text with an expression that lives in the cache, where its index is kept. -/
def testIn (cache : RegexCache) (engine : RegexEngine) (key : String) (regex : RegExp)
    (text : String) : Bool × RegexCache :=
  let tested := regex.test engine text
  (tested.1, cache.set key tested.2)

/-- Look an expression up, or make it, and test a text with it. -/
def testThrough (cache : RegexCache) (engine : RegexEngine) (key : String)
    (made : Except ε RegExp) (text : String) : Except ε Bool × RegexCache :=
  match cache.lookupOrCreate key made with
  | (.error error, after) => (.error error, after)
  | (.ok regex, after) => ((.ok (after.testIn engine key regex text).1),
      (after.testIn engine key regex text).2)

def Sound (made : String → String → Except ε RegExp) (cache : RegexCache) : Prop :=
  ∀ key regex, cache.get? key = some regex →
    ∃ pattern flags, key = cacheKey pattern flags ∧ '|' ∉ flags.toList ∧
      made pattern flags = .ok regex.rewound

/-- What a lookup would find was made for the same flags, and is at rest. -/
def Quiet (cache : RegexCache) (pattern flags : String) : Prop :=
  match cache.get? (cacheKey pattern flags) with
  | none => True
  | some regex => '|' ∉ flags.toList ∧ regex.AtRest

instance (cache : RegexCache) (pattern flags : String) : Decidable (cache.Quiet pattern flags) := by
  unfold Quiet
  split <;> infer_instance

theorem sound_empty (made : String → String → Except ε RegExp) : Sound made .empty := by
  intro key regex found
  simp at found

variable {engine : RegexEngine} {made : String → String → Except ε RegExp}
  (accepts : ∀ pattern flags regex, made pattern flags = .ok regex →
    RegExp.create engine pattern flags = .ok regex)

include accepts

variable {cache : RegexCache}

theorem Sound.lookupOrCreate {after : RegexCache} {pattern flags : String} {regex : RegExp}
    (sound : Sound made cache)
    (found : cache.lookupOrCreate (cacheKey pattern flags) (made pattern flags) =
      (.ok regex, after)) :
    Sound made after ∧ after.get? (cacheKey pattern flags) = some regex := by
  unfold RegexCache.lookupOrCreate at found
  split at found
  · -- The expression was there.
    rename_i kept
    cases found
    exact ⟨sound, kept⟩
  · split at found
    · -- A new expression joins under its own text.
      rename_i created
      cases found
      refine ⟨?_, OrderedMap.get?_set_self _ _ _⟩
      intro key stored reads
      by_cases same : key = cacheKey pattern flags
      · subst same
        rw [OrderedMap.get?_set_self] at reads
        obtain rfl := Option.some.inj reads
        have fresh := (RegExp.create_eq_ok (accepts _ _ _ created)).1
        refine ⟨pattern, flags, rfl, RegExp.bar_notMem_flags (accepts _ _ _ created), ?_⟩
        rw [created, fresh]
        rfl
      · rw [OrderedMap.get?_set_of_ne _ same] at reads
        exact sound key stored reads
    · cases found

omit accepts in
theorem Sound.testIn {cache : RegexCache} {key : String} {regex : RegExp} (sound : Sound made cache)
    (kept : cache.get? key = some regex) (text : String) :
    Sound made (cache.testIn engine key regex text).2 := by
  intro other stored reads
  simp only [RegexCache.testIn] at reads
  by_cases same : other = key
  · subst same
    rw [OrderedMap.get?_set_self] at reads
    obtain rfl := Option.some.inj reads
    -- The index alone has moved.
    rw [RegExp.rewound_test]
    exact sound other regex kept
  · rw [OrderedMap.get?_set_of_ne _ same] at reads
    exact sound other stored reads

theorem Sound.testThrough (sound : Sound made cache) (pattern flags text : String) :
    Sound made (cache.testThrough engine (cacheKey pattern flags) (made pattern flags) text).2 := by
  unfold RegexCache.testThrough
  split
  · -- Nothing was made, and the cache is the one before.
    rename_i found
    unfold RegexCache.lookupOrCreate at found
    split at found
    · cases found
    · split at found
      · cases found
      · cases found
        exact sound
  · rename_i found
    obtain ⟨kept, reads⟩ := sound.lookupOrCreate accepts found
    exact kept.testIn reads text

theorem Quiet.testThrough {pattern flags other others text : String}
    (quiet : cache.Quiet pattern flags) (still : cache.Quiet other others)
    (failed : ∀ matched, (cache.testThrough engine (cacheKey pattern flags) (made pattern flags)
      text).1 = .ok matched → matched = false)
    (apart : cacheKey other others = cacheKey pattern flags → other = pattern ∧ others = flags) :
    (cache.testThrough engine (cacheKey pattern flags) (made pattern flags)
      text).2.Quiet other others := by
  -- Whatever is stored under the key is left by a test that failed.
  have stored {base : RegexCache} {regex : RegExp} (plain : '|' ∉ flags.toList)
      (unmatched : (regex.test engine text).1 = false) (elsewhere : cacheKey other others ≠
        cacheKey pattern flags → base.get? (cacheKey other others) =
          cache.get? (cacheKey other others)) :
      RegexCache.Quiet (base.set (cacheKey pattern flags) (regex.test engine text).2) other
        others := by
    unfold Quiet at still ⊢
    by_cases same : cacheKey other others = cacheKey pattern flags
    · obtain ⟨rfl, rfl⟩ := apart same
      rw [OrderedMap.get?_set_self]
      exact ⟨plain, RegExp.atRest_of_test unmatched⟩
    · rw [OrderedMap.get?_set_of_ne _ same, elsewhere same]
      exact still
  simp only [RegexCache.testThrough, RegexCache.lookupOrCreate, RegexCache.testIn] at failed ⊢
  cases found : cache.get? (cacheKey pattern flags) with
  | some regex =>
    simp only [found] at failed ⊢
    simp only [Quiet, found] at quiet
    exact stored quiet.1 (failed _ rfl) (fun _ => rfl)
  | none =>
    simp only [found] at failed ⊢
    cases created : made pattern flags with
    | error error => simpa [created] using still
    | ok regex =>
      simp only [created] at failed ⊢
      exact stored (RegExp.bar_notMem_flags (accepts _ _ _ created)) (failed _ rfl)
        fun differ => OrderedMap.get?_set_of_ne _ differ _

omit accepts in
variable (engine) in
theorem testThrough_fresh {cache : RegexCache} (sound : Sound made cache) {pattern flags : String}
    (quiet : cache.Quiet pattern flags) (text : String) :
    (cache.testThrough engine (cacheKey pattern flags) (made pattern flags) text).1 =
      (made pattern flags).map fun regex => (regex.test engine text).1 := by
  unfold Quiet at quiet
  split at quiet
  · -- The cache misses, so the expression is made for this test.
    rename_i missed
    simp only [RegexCache.testThrough, RegexCache.lookupOrCreate, missed]
    cases made pattern flags <;> rfl
  · rename_i regex kept
    obtain ⟨plain, rest⟩ := quiet
    obtain ⟨source, letters, same, plains, created⟩ := sound _ _ kept
    obtain ⟨rfl, rfl⟩ := cacheKey_injective plain plains same
    simp only [RegexCache.testThrough, RegexCache.lookupOrCreate, kept, RegexCache.testIn, created,
      Except.map]
    rw [RegExp.test_of_atRest engine rest]

end RegexCache

end Js
