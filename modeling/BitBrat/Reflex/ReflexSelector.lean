import BitBrat.Js.NumberText
import BitBrat.Js.Sort
import BitBrat.Reflex.CandidateBuilder
import BitBrat.Reflex.ReflexAdmin
import BitBrat.Router.RegexHistory

/-! The choice of a reflex for an event: its conditions, its pattern, and its priority. -/

namespace BitBrat

open Js Machine

/-- The conditions on an event, with any number as the level of authentication. -/
structure EventConditions where
  eventTypes : Option (List String) := none
  channels : Option (List String) := none
  platforms : Option (List String) := none
  userRoles : Option (List String) := none
  minAuthLevel : Option Number := none

structure SelectableReflex where
  id : String
  name : String
  active : Bool
  priority : Number
  patternMatch : CreateMatch
  conditions : Option EventConditions := none

structure SelectorEnv where
  runtime : RegexRuntime
  toLowerCase : String → String

/-- The item of an array under the text of its index, or the length of the array. -/
def arrayProperty (items : List Value) (key : String) : Value :=
  if key = "length" then .num (.finite items.length)
  else
    match key.toNat? with
    | some index => if toString index = key then items.getD index .undefined else .undefined
    | none => .undefined

def eventValues : ScriptValues Value where
  kind := scriptKind
  undefined := .undefined
  kind_undefined := scriptKind_undefined
  prop value key :=
    match value with
    | .arr items => arrayProperty items key
    | other => other.get key
  toText := Value.toText
  stringify _ := none

namespace ConditionEvaluator

def noFilter (allowed : Option (List String)) : Bool := (allowed.getD []).isEmpty

def isAllowed (allowed : Option (List String)) (value : Value) : Bool :=
  (allowed.getD []).any fun text => value = .str text

def checkEventTypes (event : Value) (eventTypes : Option (List String)) : Bool :=
  noFilter eventTypes || isAllowed eventTypes (event.get "type")

def checkChannels (event : Value) (channels : Option (List String)) : Bool :=
  let eventChannel := (event.get "ingress").get "channel"
  noFilter channels || (eventChannel.truthy && isAllowed channels eventChannel)

def checkPlatforms (event : Value) (platforms : Option (List String)) : Bool :=
  let eventPlatform := (event.get "ingress").get "connector"
  noFilter platforms || (eventPlatform.truthy && isAllowed platforms eventPlatform)

/-- The items that a value is spread into, unless it cannot be. -/
def spreadItems (value : Value) : Option (List Value) :=
  match value with
  | .arr items => some items
  | .str text => some (text.toList.map fun char => .str (String.ofList [char]))
  | other => if other.truthy then none else some []

/-- Whether the user has a required role, unless the roles of the event are not a list. -/
def checkUserRoles (event : Value) (userRoles : Option (List String)) : Option Bool :=
  if noFilter userRoles then some true
  else
    -- Roles come from the user's document and from the platform.
    match spreadItems (((event.get "identity").get "user").get "roles"),
        spreadItems (((event.get "identity").get "external").get "roles") with
    | some authRoles, some externalRoles =>
      some ((authRoles ++ externalRoles).any fun role => isAllowed userRoles role)
    | _, _ => none

def hasItems : Value → Bool
  | .arr items => !items.isEmpty
  | .str text => text ≠ ""
  | _ => false

def getAuthLevel (event : Value) : Nat :=
  let identity := event.get "identity"
  let user := identity.get "user"
  let external := identity.get "external"
  if !identity.truthy then 0
  else if external.truthy && !user.truthy then 1
  else if user.truthy then
    if hasItems (user.get "roles") || hasItems (external.get "roles") then 3 else 2
  else 0

def checkMinAuthLevel (event : Value) (minAuthLevel : Option Number) : Bool :=
  minAuthLevel.all fun level => level.le (.finite (getAuthLevel event : ℚ))

def evaluateConditions (event : Value) (conditions : Option EventConditions) : Option Bool :=
  match conditions with
  | none => some true
  | some conditions =>
    if checkEventTypes event conditions.eventTypes && checkChannels event conditions.channels &&
        checkPlatforms event conditions.platforms then
      (checkUserRoles event conditions.userRoles).map fun has =>
        has && checkMinAuthLevel event conditions.minAuthLevel
    else some false

end ConditionEvaluator

section

variable (env : SelectorEnv)

/-- A text and a pattern as they are compared: as they are, or in lower case. -/
def comparedTexts (value pattern : String) (caseSensitive : Bool) : String × String :=
  if caseSensitive then (value, pattern) else (env.toLowerCase value, env.toLowerCase pattern)

def matchPlain (value : String) (reflexMatch : CreateMatch) : Bool :=
  let (text, pattern) := comparedTexts env value reflexMatch.pattern
    (reflexMatch.caseSensitive.getD true)
  match reflexMatch.type with
  | .exact => text = pattern
  | .contains => includes text pattern
  | .prefixed => pattern.toList.isPrefixOf text.toList
  | .suffixed => pattern.toList.isSuffixOf text.toList
  | .regex => false

/-- Whether a text matches a pattern, and the cache of expressions that is left. -/
def matchPattern (value : String) (reflexMatch : CreateMatch) (regexCache : RegexCache) :
    Except PatternError Bool × RegexCache :=
  if reflexMatch.type = .regex then
    matchRegex env.runtime value reflexMatch.pattern reflexMatch.flags regexCache
  else (.ok (matchPlain env value reflexMatch), regexCache)

/-- The text that the pattern of a reflex is compared with, where it gets that far. -/
def comparedText (event : Value) (reflex : SelectableReflex) : Option String :=
  if ConditionEvaluator.evaluateConditions event reflex.conditions = some true then
    let fieldValue := getFieldValue eventValues event reflex.patternMatch.field
    if eventValues.kind fieldValue = .nullish then none else some fieldValue.toText
  else none

inductive MatchReason where
  | conditions_failed
  | field_missing
  | success
  | pattern_mismatch
  | error
  deriving DecidableEq

/-- Whether a reflex matches an event, with the reason that is logged, and the cache after it. -/
def matchReflex (event : Value) (reflex : SelectableReflex) (regexCache : RegexCache) :
    (Bool × MatchReason) × RegexCache :=
  match ConditionEvaluator.evaluateConditions event reflex.conditions with
  | none => ((false, .error), regexCache)
  | some false => ((false, .conditions_failed), regexCache)
  | some true =>
    let fieldValue := getFieldValue eventValues event reflex.patternMatch.field
    if eventValues.kind fieldValue = .nullish then ((false, .field_missing), regexCache)
    else
      match matchPattern env fieldValue.toText reflex.patternMatch regexCache with
      | (.error _, after) => ((false, .error), after)
      | (.ok true, after) => ((true, .success), after)
      | (.ok false, after) => ((false, .pattern_mismatch), after)

/-- Whether a reflex matches an event, without a log, and the cache that is left. -/
def matchReflexSilent (event : Value) (reflex : SelectableReflex) (regexCache : RegexCache) :
    Bool × RegexCache :=
  match ConditionEvaluator.evaluateConditions event reflex.conditions with
  | none => (false, regexCache)
  | some false => (false, regexCache)
  | some true =>
    let fieldValue := getFieldValue eventValues event reflex.patternMatch.field
    if eventValues.kind fieldValue = .nullish then (false, regexCache)
    else
      match matchPattern env fieldValue.toText reflex.patternMatch regexCache with
      | (.error _, after) => (false, after)
      | (.ok matched, after) => (matched, after)

def firstMatching (event : Value) :
    List SelectableReflex → RegexCache → List SelectableReflex × RegexCache
  | [], regexCache => ([], regexCache)
  | reflex :: later, regexCache =>
    match matchReflex env event reflex regexCache with
    | ((true, _), after) => ([reflex], after)
    | ((false, _), after) => firstMatching event later after

def byPriority (left right : SelectableReflex) : Bool :=
  (left.priority.sub right.priority).sign ≠ .gt

def sortedReflexes (reflexes : List SelectableReflex) : List SelectableReflex :=
  (reflexes.filter (·.active)).mergeSort byPriority

/-- The reflex for an event, if there is one, and the cache of expressions that is left. -/
def selectReflexes (event : Value) (reflexes : List SelectableReflex) (regexCache : RegexCache) :
    List SelectableReflex × RegexCache :=
  firstMatching env event (sortedReflexes reflexes) regexCache

/-- Whether a reflex matches an event, with an expression that is made for this one match. -/
def reflexMatches (event : Value) (reflex : SelectableReflex) : Bool :=
  match comparedText event reflex with
  | none => false
  | some text =>
    if reflex.patternMatch.type = .regex then
      (matchFresh env.runtime text reflex.patternMatch.pattern
        reflex.patternMatch.flags).toOption.getD false
    else matchPlain env text reflex.patternMatch

def SelectableReflex.expression (reflex : SelectableReflex) : String × String :=
  (reflex.patternMatch.pattern, textOr reflex.patternMatch.flags "")

/-- An active reflex that matches, and no other one comes before it. -/
structure LeastMatching (event : Value) (reflexes : List SelectableReflex)
    (reflex : SelectableReflex) : Prop where
  member : reflex ∈ reflexes
  active : reflex.active = true
  isMatch : reflexMatches env event reflex = true
  least : ∀ other ∈ reflexes, other.active = true → reflexMatches env event other = true →
    other.priority.lt reflex.priority = false

structure Considered (event : Value) (reflexes : List SelectableReflex)
    (reflex : SelectableReflex) : Prop where
  member : reflex ∈ reflexes
  active : reflex.active = true
  isRegex : reflex.patternMatch.type = .regex
  reached : comparedText event reflex ≠ none
  inTurn : ∀ other ∈ reflexes, other.active = true → reflexMatches env event other = true →
    other.priority.lt reflex.priority = false

/-- What is selected: nothing when nothing matches, and a least matching reflex otherwise. -/
structure Selects (event : Value) (reflexes selected : List SelectableReflex) : Prop where
  empty : selected = [] ↔
    ∀ reflex ∈ reflexes, reflex.active = true → reflexMatches env event reflex = false
  chosen : selected ≠ [] → ∃ reflex, selected = [reflex] ∧ LeastMatching env event reflexes reflex

/-- The law of the selection: what it selects, in any order, and by either matching function. -/
structure ReflexSelectionLaw (event : Value) (reflexes : List SelectableReflex)
    (regexCache : RegexCache) : Prop where
  selects : Selects env event reflexes (selectReflexes env event reflexes regexCache).1
  anyOrder : ∀ order : List SelectableReflex, order.Perm reflexes →
    (selectReflexes env event order regexCache).1 =
      (selectReflexes env event reflexes regexCache).1
  silent : ∀ reflex, (matchReflex env event reflex regexCache).1.1 =
    (matchReflexSilent env event reflex regexCache).1

/--
The priorities are numbers, and every expression that the choice can come to is at rest in the
cache, under a key that stands for no other one.
-/
structure Steady (event : Value) (reflexes : List SelectableReflex) (regexCache : RegexCache) :
    Prop where
  numbers : ∀ reflex ∈ reflexes, reflex.active = true → reflex.priority ≠ .nan
  quiet : ∀ reflex, Considered env event reflexes reflex →
    regexCache.Quiet reflex.expression.1 reflex.expression.2
  apart : ∀ left right, Considered env event reflexes left → Considered env event reflexes right →
    cacheKey left.expression.1 left.expression.2 =
      cacheKey right.expression.1 right.expression.2 → left.expression = right.expression

def Untied (event : Value) (reflexes : List SelectableReflex) : Prop :=
  ∀ left right, LeastMatching env event reflexes left → LeastMatching env event reflexes right →
    left = right

theorem matchReflex_eq_silent (event : Value) (reflex : SelectableReflex)
    (regexCache : RegexCache) :
    ((matchReflex env event reflex regexCache).1.1, (matchReflex env event reflex regexCache).2) =
      matchReflexSilent env event reflex regexCache := by
  unfold matchReflex matchReflexSilent
  -- The conditions come first, then the field, and the pattern last.
  cases ConditionEvaluator.evaluateConditions event reflex.conditions with
  | none => rfl
  | some met =>
    cases met with
    | false => rfl
    | true =>
      simp only
      split
      · rfl
      · generalize matchPattern env _ reflex.patternMatch regexCache = outcome
        obtain ⟨result, after⟩ := outcome
        cases result with
        | error error => rfl
        | ok matched => cases matched <;> rfl

theorem matchReflexSilent_eq (event : Value) (reflex : SelectableReflex)
    (regexCache : RegexCache) :
    matchReflexSilent env event reflex regexCache =
      match comparedText event reflex with
      | none => (false, regexCache)
      | some text =>
        let tested := matchPattern env text reflex.patternMatch regexCache
        (tested.1.toOption.getD false, tested.2) := by
  unfold matchReflexSilent comparedText
  cases ConditionEvaluator.evaluateConditions event reflex.conditions with
  | none => simp
  | some met =>
    cases met with
    | false => simp
    | true =>
      simp only [↓reduceIte]
      split
      · rfl
      · simp only
        generalize matchPattern env _ reflex.patternMatch regexCache = outcome
        obtain ⟨result, after⟩ := outcome
        cases result <;> rfl

def cacheAfter (history : List RegexEvaluation) : RegexCache :=
  (run (evaluateRegex env.runtime) RegexCaches.empty history).regexCache

abbrev SoundCache (regexCache : RegexCache) : Prop :=
  RegexCache.Sound (fun pattern flags => compileSafe env.runtime pattern (some flags)) regexCache

theorem sound_cacheAfter (history : List RegexEvaluation) :
    SoundCache env (cacheAfter env history) := by
  have sound (caches : RegexCaches) (start : caches.Sound env.runtime) :
      (run (evaluateRegex env.runtime) caches history).Sound env.runtime := by
    -- Every evaluation keeps the caches sound, quiet or not.
    induction history generalizing caches with
    | nil => exact start
    | cons evaluation later ih => exact ih _ (start.evaluate evaluation)
  exact (sound .empty ⟨RegexCache.sound_empty _, RegexCache.sound_empty _⟩).regexCache

variable {event : Value} {reflex : SelectableReflex} {regexCache : RegexCache}

theorem matchReflexSilent_fresh (sound : SoundCache env regexCache)
    (quiet : reflex.patternMatch.type = .regex → comparedText event reflex ≠ none →
      regexCache.Quiet reflex.expression.1 reflex.expression.2) :
    (matchReflexSilent env event reflex regexCache).1 = reflexMatches env event reflex := by
  rw [matchReflexSilent_eq]
  unfold reflexMatches
  cases reached : comparedText event reflex with
  | none => rfl
  | some text =>
    simp only [matchPattern]
    by_cases isRegex : reflex.patternMatch.type = .regex
    · simp only [if_pos isRegex]
      have still := quiet isRegex (by simp [reached])
      have answer := RegexCache.testThrough_fresh env.runtime.engine sound still text
      simp only [SelectableReflex.expression] at answer
      rw [matchRegex_eq, answer, compileSafe_textOr, matchFresh]
      generalize compileSafe env.runtime reflex.patternMatch.pattern reflex.patternMatch.flags =
        made
      cases made <;> rfl
    · simp only [if_neg isRegex]
      rfl

theorem sound_matchReflexSilent (sound : SoundCache env regexCache) :
    SoundCache env (matchReflexSilent env event reflex regexCache).2 := by
  rw [matchReflexSilent_eq]
  cases comparedText event reflex with
  | none => exact sound
  | some text =>
    simp only [matchPattern]
    split
    · rw [matchRegex_eq]
      exact sound.testThrough (fun _ _ _ => create_of_compileSafe_some) _ _ _
    · exact sound

theorem quiet_matchReflexSilent {pattern flags : String}
    (quiet : reflex.patternMatch.type = .regex → comparedText event reflex ≠ none →
      regexCache.Quiet reflex.expression.1 reflex.expression.2)
    (failed : (matchReflexSilent env event reflex regexCache).1 = false)
    (still : regexCache.Quiet pattern flags)
    (apart : reflex.patternMatch.type = .regex → comparedText event reflex ≠ none →
      cacheKey pattern flags = cacheKey reflex.expression.1 reflex.expression.2 →
      pattern = reflex.expression.1 ∧ flags = reflex.expression.2) :
    RegexCache.Quiet (matchReflexSilent env event reflex regexCache).2 pattern flags := by
  rw [matchReflexSilent_eq] at failed ⊢
  cases reached : comparedText event reflex with
  | none => exact still
  | some text =>
    simp only [reached, matchPattern] at failed ⊢
    by_cases isRegex : reflex.patternMatch.type = .regex
    · have there : comparedText event reflex ≠ none := by simp [reached]
      simp only [if_pos isRegex, matchRegex_eq] at failed ⊢
      refine RegexCache.Quiet.testThrough (fun _ _ _ => create_of_compileSafe_some)
        (quiet isRegex there) still ?_ (apart isRegex there)
      -- The verdict is the answer of the test, where a failure is no match.
      intro matched answer
      rw [answer] at failed
      exact failed
    · simpa only [if_neg isRegex] using still

theorem firstMatching_cons (event : Value) (reflex : SelectableReflex)
    (later : List SelectableReflex) (regexCache : RegexCache) :
    firstMatching env event (reflex :: later) regexCache =
      if (matchReflexSilent env event reflex regexCache).1 = true then
        ([reflex], (matchReflexSilent env event reflex regexCache).2)
      else firstMatching env event later (matchReflexSilent env event reflex regexCache).2 := by
  have alike := matchReflex_eq_silent env event reflex regexCache
  rw [← alike, firstMatching]
  generalize matchReflex env event reflex regexCache = attempt
  obtain ⟨⟨matched, reason⟩, after⟩ := attempt
  cases matched <;> rfl

/--
On a sound cache, the first reflex that matches is the first one that a fresh expression matches. -/
theorem firstMatching_eq_find {event : Value} (turn : SelectableReflex → Prop)
    {candidates : List SelectableReflex} {regexCache : RegexCache}
    (sound : SoundCache env regexCache)
    (reaches : ∀ before reflex after, candidates = before ++ reflex :: after →
      (∀ earlier ∈ before, reflexMatches env event earlier = false) →
      reflex.patternMatch.type = .regex → comparedText event reflex ≠ none → turn reflex)
    (quiet : ∀ reflex, turn reflex →
      regexCache.Quiet reflex.expression.1 reflex.expression.2)
    (apart : ∀ left right, turn left → turn right →
      cacheKey left.expression.1 left.expression.2 =
        cacheKey right.expression.1 right.expression.2 → left.expression = right.expression) :
    (firstMatching env event candidates regexCache).1 =
      (candidates.find? (reflexMatches env event)).toList := by
  induction candidates generalizing regexCache with
  | nil => rfl
  | cons reflex later ih =>
    have isTurn := reaches [] reflex later rfl (by simp)
    have ready : reflex.patternMatch.type = .regex → comparedText event reflex ≠ none →
        regexCache.Quiet reflex.expression.1 reflex.expression.2 :=
      fun isRegex reached => quiet reflex (isTurn isRegex reached)
    have verdict := matchReflexSilent_fresh env sound ready
    rw [firstMatching_cons, List.find?_cons]
    cases isMatch : reflexMatches env event reflex with
    | true => rw [if_pos (verdict.trans isMatch)]; rfl
    | false =>
      have failed := verdict.trans isMatch
      rw [if_neg (by simp [failed])]
      -- The rest is matched on a cache that is still sound and quiet.
      refine ih (sound_matchReflexSilent env sound) ?_ ?_
      · intro before other after split none
        refine reaches (reflex :: before) other after (by rw [split]; rfl) ?_
        intro earlier member
        rcases List.mem_cons.mp member with rfl | member
        · exact isMatch
        · exact none earlier member
      · intro other isOther
        refine quiet_matchReflexSilent env ready failed (quiet other isOther) ?_
        intro isRegex reached same
        exact Prod.mk.inj (apart other reflex isOther (isTurn isRegex reached) same)

def comesFirst (left right : SelectableReflex) : Bool :=
  right.priority = .nan || (left.priority ≠ .nan && !right.priority.lt left.priority)

omit env in
theorem comesFirst_trans (first second third : SelectableReflex)
    (left : comesFirst first second = true) (right : comesFirst second third = true) :
    comesFirst first third = true := by
  simp only [comesFirst, Bool.or_eq_true, decide_eq_true_eq, Bool.and_eq_true, Bool.not_eq_true',
    ne_eq] at left right ⊢
  rcases right with last | ⟨number, above⟩
  · exact Or.inl last
  · rcases left with absent | ⟨numbers, below⟩
    · exact absurd absent number
    · refine Or.inr ⟨numbers, ?_⟩
      by_contra ahead
      have earlier : third.priority.lt first.priority = true := by simpa using ahead
      by_cases same : first.priority = second.priority
      · rw [same, above] at earlier
        exact absurd earlier (by decide)
      · -- The second number lies above the first one, and so above the third one.
        rcases Number.lt_or_lt same numbers number with up | down
        · exact absurd (Number.lt_trans earlier up) (by simp [above])
        · exact absurd down (by simp [below])

omit env in
theorem comesFirst_total (left right : SelectableReflex) :
    (comesFirst left right || comesFirst right left) = true := by
  by_contra neither
  simp only [comesFirst, Bool.or_eq_true, decide_eq_true_eq, Bool.and_eq_true, Bool.not_eq_true',
    ne_eq, not_or, not_and, Bool.not_eq_false] at neither
  obtain ⟨⟨numbers, first⟩, number, second⟩ := neither
  have around := Number.lt_trans (first number) (second numbers)
  rw [Number.lt_irrefl] at around
  exact absurd around (by decide)

omit env in
theorem byPriority_eq {left right : SelectableReflex} (number : left.priority ≠ .nan)
    (numbers : right.priority ≠ .nan) : byPriority left right = comesFirst left right := by
  simp only [byPriority, comesFirst, number, numbers, decide_false, Bool.false_or, ne_eq,
    not_false_eq_true, decide_true, Bool.true_and]
  by_cases same : left.priority = right.priority
  · -- The difference of a number from itself has no sign.
    rw [same, Number.lt_irrefl]
    cases right.priority with
    | finite value => simp [Number.sub, Number.neg, Number.add, Number.sign]
    | infinity negative => cases negative <;> rfl
    | nan => rfl
  · rw [Number.sign_sub same number numbers]
    by_cases below : left.priority.lt right.priority = true
    · have notAbove : right.priority.lt left.priority = false := by
        by_contra above
        have around := Number.lt_trans below (by simpa using above)
        rw [Number.lt_irrefl] at around
        exact absurd around (by decide)
      simp [below, notAbove]
    · have above := (Number.lt_or_lt same number numbers).resolve_left below
      simp [below, above]

omit env in
theorem sortedReflexes_eq {reflexes : List SelectableReflex}
    (numbers : ∀ reflex ∈ reflexes, reflex.active = true → reflex.priority ≠ .nan) :
    sortedReflexes reflexes = (reflexes.filter (·.active)).mergeSort comesFirst := by
  have alike := List.map_mergeSort (f := id) (l := reflexes.filter (·.active)) (r := byPriority)
    (s := comesFirst) fun left member right other =>
      have inside := List.mem_filter.mp member
      have outside := List.mem_filter.mp other
      byPriority_eq (numbers left inside.1 inside.2) (numbers right outside.1 outside.2)
  simpa [sortedReflexes] using alike

omit env in
theorem mem_sortedReflexes {reflexes : List SelectableReflex} {reflex : SelectableReflex} :
    reflex ∈ sortedReflexes reflexes ↔ reflex ∈ reflexes ∧ reflex.active = true := by
  rw [sortedReflexes, List.mem_mergeSort, List.mem_filter]

omit env in
theorem lt_of_later {reflexes before after : List SelectableReflex}
    {reflex other : SelectableReflex}
    (numbers : ∀ reflex ∈ reflexes, reflex.active = true → reflex.priority ≠ .nan)
    (split : sortedReflexes reflexes = before ++ reflex :: after) (later : other ∈ after) :
    other.priority.lt reflex.priority = false := by
  have ordered := List.pairwise_mergeSort comesFirst_trans comesFirst_total
    (reflexes.filter (·.active))
  rw [← sortedReflexes_eq numbers, split, List.pairwise_append] at ordered
  have first := (List.pairwise_cons.mp ordered.2.1).1 other later
  have inside : other ∈ sortedReflexes reflexes := by simp [split, later]
  obtain ⟨member, active⟩ := mem_sortedReflexes.mp inside
  simp only [comesFirst, numbers other member active, decide_false, Bool.false_or,
    Bool.and_eq_true, Bool.not_eq_true'] at first
  exact first.2

variable {reflexes : List SelectableReflex}

theorem considered_of_split {before after : List SelectableReflex}
    (numbers : ∀ reflex ∈ reflexes, reflex.active = true → reflex.priority ≠ .nan)
    (split : sortedReflexes reflexes = before ++ reflex :: after)
    (unmatched : ∀ earlier ∈ before, reflexMatches env event earlier = false)
    (isRegex : reflex.patternMatch.type = .regex) (reached : comparedText event reflex ≠ none) :
    Considered env event reflexes reflex := by
  have inside : reflex ∈ sortedReflexes reflexes := by simp [split]
  obtain ⟨member, active⟩ := mem_sortedReflexes.mp inside
  refine ⟨member, active, isRegex, reached, ?_⟩
  intro other otherMember otherActive isMatch
  have found := mem_sortedReflexes.mpr ⟨otherMember, otherActive⟩
  rw [split, List.mem_append, List.mem_cons] at found
  -- A reflex that matches is this one or stands behind it.
  rcases found with earlier | rfl | later
  · rw [unmatched other earlier] at isMatch
    exact absurd isMatch (by decide)
  · exact Number.lt_irrefl _
  · exact lt_of_later numbers split later

theorem selectReflexes_eq_find (sound : SoundCache env regexCache)
    (steady : Steady env event reflexes regexCache) :
    (selectReflexes env event reflexes regexCache).1 =
      ((sortedReflexes reflexes).find? (reflexMatches env event)).toList :=
  firstMatching_eq_find env (Considered env event reflexes) sound
    (fun _ _ _ split none isRegex reached =>
      considered_of_split env steady.numbers split none isRegex reached)
    steady.quiet steady.apart

theorem leastMatching_of_find
    (numbers : ∀ reflex ∈ reflexes, reflex.active = true → reflex.priority ≠ .nan)
    (found : (sortedReflexes reflexes).find? (reflexMatches env event) = some reflex) :
    LeastMatching env event reflexes reflex := by
  obtain ⟨isMatch, before, after, split, none⟩ := List.find?_eq_some_iff_append.mp found
  have inside : reflex ∈ sortedReflexes reflexes := by simp [split]
  obtain ⟨member, active⟩ := mem_sortedReflexes.mp inside
  refine ⟨member, active, isMatch, ?_⟩
  intro other otherMember otherActive otherMatch
  have there := mem_sortedReflexes.mpr ⟨otherMember, otherActive⟩
  rw [split, List.mem_append, List.mem_cons] at there
  rcases there with earlier | rfl | later
  · have failed := none other earlier
    rw [otherMatch] at failed
    exact absurd failed (by decide)
  · exact Number.lt_irrefl _
  · exact lt_of_later numbers split later

theorem selects_of_steady (sound : SoundCache env regexCache)
    (steady : Steady env event reflexes regexCache) :
    Selects env event reflexes (selectReflexes env event reflexes regexCache).1 := by
  rw [selectReflexes_eq_find env sound steady]
  cases found : (sortedReflexes reflexes).find? (reflexMatches env event) with
  | none =>
    constructor
    case empty =>
      refine ⟨fun _ reflex member active => ?_, fun _ => rfl⟩
      have failed := List.find?_eq_none.mp found reflex
        (mem_sortedReflexes.mpr ⟨member, active⟩)
      simpa using failed
    case chosen => exact fun nonempty => absurd rfl nonempty
  | some reflex =>
    have least := leastMatching_of_find env steady.numbers found
    constructor
    case empty =>
      refine ⟨fun none => absurd none (by simp), fun none => ?_⟩
      have failed := none reflex least.member least.active
      rw [least.isMatch] at failed
      exact absurd failed (by decide)
    case chosen => exact fun _ => ⟨reflex, rfl, least⟩

theorem selectReflexes_of_head (sound : SoundCache env regexCache)
    (steady : Steady env event (reflex :: reflexes) regexCache)
    (least : LeastMatching env event (reflex :: reflexes) reflex) :
    (selectReflexes env event (reflex :: reflexes) regexCache).1 = [reflex] := by
  rw [selectReflexes_eq_find env sound steady, sortedReflexes_eq steady.numbers,
    List.filter_cons_of_pos least.active]
  -- Sorting puts in front of the first reflex only what has a lower priority value.
  obtain ⟨before, after, split, rest, lower⟩ := List.mergeSort_cons comesFirst_trans
    comesFirst_total reflex (reflexes.filter (·.active))
  have none : ∀ earlier ∈ before, reflexMatches env event earlier = false := by
    intro earlier member
    by_contra isMatch
    have inside : earlier ∈ (reflexes.filter (·.active)).mergeSort comesFirst := by
      simp [rest, member]
    obtain ⟨listed, active⟩ := List.mem_filter.mp (List.mem_mergeSort.mp inside)
    have below := lower earlier member
    have above := least.least earlier (by simp [listed]) active (by simpa using isMatch)
    have number := steady.numbers reflex (by simp) least.active
    simp [comesFirst, above, number] at below
  rw [split, List.find?_append, List.find?_eq_none.mpr (by simpa using none),
    List.find?_cons_of_pos least.isMatch]
  rfl

variable {env} in
private theorem Considered.of_mem_iff {event : Value} {order reflexes : List SelectableReflex}
    (same : ∀ reflex, reflex ∈ order ↔ reflex ∈ reflexes) {reflex : SelectableReflex}
    (considered : Considered env event order reflex) : Considered env event reflexes reflex where
  member := (same reflex).mp considered.member
  active := considered.active
  isRegex := considered.isRegex
  reached := considered.reached
  inTurn other member := considered.inTurn other ((same other).mpr member)

variable {env} in
private theorem LeastMatching.of_mem_iff {event : Value} {order reflexes : List SelectableReflex}
    (same : ∀ reflex, reflex ∈ order ↔ reflex ∈ reflexes) {reflex : SelectableReflex}
    (least : LeastMatching env event order reflex) : LeastMatching env event reflexes reflex where
  member := (same reflex).mp least.member
  active := least.active
  isMatch := least.isMatch
  least other member := least.least other ((same other).mpr member)

variable {env} in
private theorem Steady.of_perm {event : Value} {order reflexes : List SelectableReflex}
    {regexCache : RegexCache} (steady : Steady env event reflexes regexCache)
    (perm : order.Perm reflexes) : Steady env event order regexCache where
  numbers reflex member := steady.numbers reflex (perm.mem_iff.mp member)
  quiet reflex considered := steady.quiet reflex (considered.of_mem_iff fun _ => perm.mem_iff)
  apart left right first second := steady.apart left right
    (first.of_mem_iff fun _ => perm.mem_iff) (second.of_mem_iff fun _ => perm.mem_iff)

theorem exists_order_selecting (sound : SoundCache env regexCache)
    (steady : Steady env event reflexes regexCache)
    (least : LeastMatching env event reflexes reflex) :
    ∃ order : List SelectableReflex, order.Perm reflexes ∧
      (selectReflexes env event order regexCache).1 = [reflex] := by
  -- The reflex is moved to the front of the list.
  obtain ⟨before, after, split⟩ := List.append_of_mem least.member
  have perm : (reflex :: (before ++ after)).Perm reflexes := by
    rw [split]
    exact List.perm_middle.symm
  exact ⟨_, perm, selectReflexes_of_head env sound (steady.of_perm perm)
    (least.of_mem_iff fun _ => perm.mem_iff.symm)⟩

/--
On a steady cache the law of the selection holds exactly when no two of the reflexes that match
share the least priority value.
-/
theorem selectReflexes_iff (history : List RegexEvaluation) (event : Value)
    (reflexes : List SelectableReflex)
    (steady : Steady env event reflexes (cacheAfter env history)) :
    ReflexSelectionLaw env event reflexes (cacheAfter env history) ↔ Untied env event reflexes := by
  have sound := sound_cacheAfter env history
  constructor
  · intro law left right first second
    -- Each of the two is selected in an order of its own, and so in every order.
    obtain ⟨order, perm, selected⟩ := exists_order_selecting env sound steady first
    obtain ⟨another, permuted, other⟩ := exists_order_selecting env sound steady second
    rw [law.anyOrder order perm] at selected
    rw [law.anyOrder another permuted, selected] at other
    exact List.head_eq_of_cons_eq other
  · intro untied
    have selects := selects_of_steady env sound steady
    refine ⟨selects, ?_, ?_⟩
    · intro order perm
      have others := selects_of_steady env sound (steady.of_perm perm)
      -- Either nothing matches in both orders, or the same reflex is the least in both.
      by_cases nothing : ∀ reflex ∈ reflexes, reflex.active = true →
          reflexMatches env event reflex = false
      · rw [selects.empty.mpr nothing, others.empty.mpr fun reflex member =>
          nothing reflex (perm.mem_iff.mp member)]
      · have some : (selectReflexes env event reflexes (cacheAfter env history)).1 ≠ [] :=
          fun empty => nothing (selects.empty.mp empty)
        have any : (selectReflexes env event order (cacheAfter env history)).1 ≠ [] :=
          fun empty => nothing fun reflex member =>
            others.empty.mp empty reflex (perm.mem_iff.mpr member)
        obtain ⟨left, chosen, first⟩ := selects.chosen some
        obtain ⟨right, chose, second⟩ := others.chosen any
        rw [chosen, chose,
          untied right left (second.of_mem_iff fun _ => perm.mem_iff) first]
    · intro reflex
      exact congrArg Prod.fst (matchReflex_eq_silent env event reflex (cacheAfter env history))

end

def letterSelector : SelectorEnv := ⟨letterRuntime, String.toLower⟩

def commandReflex (id : String) (priority : ℚ) (type : PatternMatchType) : SelectableReflex where
  id
  name := id
  active := true
  priority := .finite priority
  patternMatch := { type, pattern := "fail", field := "message.text" }

def commandEvent : Value := .obj [("message", .obj [("text", .str "fail")])]

theorem steady_commandReflexes :
    Steady letterSelector commandEvent
      [commandReflex "r-2" 10 .regex, commandReflex "r-1" 5 .exact]
      (cacheAfter letterSelector []) where
  numbers := by
    intro reflex member _
    simp only [List.mem_cons, List.not_mem_nil, or_false] at member
    rcases member with rfl | rfl <;> simp [commandReflex]
  quiet _ _ := trivial
  apart := by
    intro left right first second _
    have member := first.member
    have members := second.member
    simp only [List.mem_cons, List.not_mem_nil, or_false] at member members
    -- The pattern and the flags are the same for both.
    rcases member with rfl | rfl <;> rcases members with rfl | rfl <;> rfl

/-- Of two commands with priorities of their own, the selection does not depend on the order. -/
theorem selectReflexes_iff_example :
    ReflexSelectionLaw letterSelector commandEvent
        [commandReflex "r-2" 10 .regex, commandReflex "r-1" 5 .exact]
        (cacheAfter letterSelector []) ↔
      Untied letterSelector commandEvent
        [commandReflex "r-2" 10 .regex, commandReflex "r-1" 5 .exact] :=
  selectReflexes_iff letterSelector [] commandEvent _ steady_commandReflexes

/-- Of two commands with one priority, the one that is listed first is selected. -/
theorem selectReflexes_fails :
    ¬ ∀ (env : SelectorEnv) (history : List RegexEvaluation) (event : Value)
      (reflexes : List SelectableReflex),
      ReflexSelectionLaw env event reflexes (cacheAfter env history) := by
  intro always
  have selected (first second : String) (named : first = "r-1" ∨ first = "r-2") :
      (selectReflexes letterSelector commandEvent
        [commandReflex first 5 .exact, commandReflex second 5 .exact]
        (cacheAfter letterSelector [])).1 = [commandReflex first 5 .exact] := by
    refine selectReflexes_of_head letterSelector (sound_cacheAfter letterSelector []) ?_ ?_
    · refine ⟨?_, fun _ _ => trivial, ?_⟩
      · intro reflex member _
        simp only [List.mem_cons, List.not_mem_nil, or_false] at member
        rcases member with rfl | rfl <;> simp [commandReflex]
      · intro left right considered _ _
        -- Neither of the two has a regular expression.
        have isRegex := considered.isRegex
        have member := considered.member
        simp only [List.mem_cons, List.not_mem_nil, or_false] at member
        rcases member with rfl | rfl <;> cases isRegex
    · have isMatch : reflexMatches letterSelector commandEvent (commandReflex first 5 .exact) =
          true := by
        rcases named with rfl | rfl <;> decide +kernel
      refine ⟨by simp, rfl, isMatch, ?_⟩
      intro other member _ _
      simp only [List.mem_cons, List.not_mem_nil, or_false] at member
      rcases member with rfl | rfl <;> exact Number.lt_irrefl _
  have law := always letterSelector [] commandEvent
    [commandReflex "r-1" 5 .exact, commandReflex "r-2" 5 .exact]
  have swapped := law.anyOrder [commandReflex "r-2" 5 .exact, commandReflex "r-1" 5 .exact]
    (List.Perm.swap _ _ _)
  rw [selected _ _ (Or.inr rfl), selected _ _ (Or.inl rfl)] at swapped
  simp [commandReflex] at swapped

end BitBrat
