import BitBrat.Js.RegExp
import BitBrat.Logging.Redaction

/-! What the tools show of a configuration, whose sensitive texts are redacted. -/

namespace BitBrat

open Js

inductive ConfigScalar where
  | undefined
  | null
  | bool (flag : Bool)
  | num (number : Number)

def ConfigScalar.shown : ConfigScalar → LogValue
  | undefined => .undefined
  | null => .null
  | bool flag => .bool flag
  | num number => .num number

/-- A configuration value, in which an array or an object is known again by its number. -/
inductive ConfigValue where
  | scalar (value : ConfigScalar)
  | text (units : CodeUnits)
  | arr (id : Nat) (items : List ConfigValue)
  | obj (id : Nat) (fields : List (String × ConfigValue))
  | back

inductive ConfigStep where
  | key (name : String)
  | index (position : Nat)
  deriving DecidableEq

abbrev ConfigPath := List ConfigStep

def configPathText (path : ConfigPath) : String :=
  path.foldl (fun path step =>
    match step with
    | .key name => if path = "" then name else path ++ "." ++ name
    | .index position => path ++ "[" ++ toString position ++ "]") ""

inductive CircularRefHandler where
  | throw | marker | ignore
  deriving DecidableEq

structure RedactionOptions where
  additionalPatterns : List RegExp := []
  prefixLength : Option Nat := none
  redactionLength : Option Nat := none
  circularRefHandler : Option CircularRefHandler := none

def RedactionOptions.handler (options : RedactionOptions) : CircularRefHandler :=
  options.circularRefHandler.getD .marker

structure RedactionResult where
  value : LogValue
  redactedPaths : List ConfigPath

def RedactionResult.redactedCount (result : RedactionResult) : Nat := result.redactedPaths.length

def SENSITIVE_PATTERNS : List String :=
  ["password", "token", "secret", "apikey", "api_key", "auth", "credential"]

/-- Whether a pattern matches, after those before it have not, and what is left of the patterns. -/
def someMatches (engine : RegexEngine) (fieldName : String) : List RegExp → Bool × List RegExp
  | [] => (false, [])
  | pattern :: rest =>
    let tested := pattern.test engine fieldName
    if tested.1 then (true, tested.2 :: rest)
    else
      let others := someMatches engine fieldName rest
      (others.1, tested.2 :: others.2)

/-- Whether the name of a field is sensitive, and what is left of the additional patterns. -/
def isSensitiveField (engine : RegexEngine) (fieldName : String)
    (additionalPatterns : List RegExp) : Bool × List RegExp :=
  let name := fieldName.toList.map Char.toLower
  if SENSITIVE_PATTERNS.any fun word => name.tails.any word.toList.isPrefixOf then
    (true, additionalPatterns)
  else someMatches engine fieldName additionalPatterns

def redactString (options : RedactionOptions) (value : CodeUnits) : CodeUnits :=
  let stars (count : Nat) : CodeUnits := List.replicate count 0x2A
  let redactionLength := options.redactionLength.getD 8
  if value = [] then []
  else if (codeUnits "$\x7b").isPrefixOf value && (codeUnits "\x7d").isSuffixOf value then
    codeUnits "$\x7b" ++ stars redactionLength ++ codeUnits "\x7d"
  else if value.length ≤ 4 then stars value.length
  else value.take (options.prefixLength.getD 2) ++ stars redactionLength

/-- The objects that were visited, and the patterns as the tests have left them. -/
structure RedactionState where
  visited : List Nat := []
  patterns : List RegExp

/-- What is redacted, at which paths below it, and the state after it; or where it fails. -/
abbrev Redacted (α : Type) := Except ConfigPath (α × List ConfigPath × RedactionState)

def circularRef (options : RedactionOptions) (state : RedactionState) : Redacted LogValue :=
  match options.handler with
  | .throw => .error []
  | .marker => .ok (.text (codeUnits "[Circular Reference]"), [], state)
  | .ignore => .ok (.undefined, [], state)

def joined {α : Type} (step : ConfigStep) (entry : LogValue → List α) (first : Redacted LogValue)
    (rest : RedactionState → Redacted (List α)) : Redacted (List α) :=
  match first with
  | .error path => .error (step :: path)
  | .ok (value, paths, state) =>
    match rest state with
    | .error path => .error path
    | .ok (values, others, after) =>
      .ok (entry value ++ values, paths.map (step :: ·) ++ others, after)

section

variable (engine : RegexEngine) (options : RedactionOptions)

mutual

def redactConfig : ConfigValue → RedactionState → Redacted LogValue
  | .scalar value, state => .ok (value.shown, [], state)
  | .text units, state => .ok (.text units, [], state)
  -- What encloses this place has been visited.
  | .back, state => circularRef options state
  | .arr id items, state =>
    if id ∈ state.visited then circularRef options state
    else (redactConfigItems 0 items { state with visited := id :: state.visited }).map
      fun items => (.arr items.1, items.2)
  | .obj id fields, state =>
    if id ∈ state.visited then circularRef options state
    else (redactConfigFields fields { state with visited := id :: state.visited }).map
      fun fields => (.obj fields.1, fields.2)

def redactConfigItems (index : Nat) : List ConfigValue → RedactionState → Redacted (List LogValue)
  | [], state => .ok ([], [], state)
  | item :: rest, state =>
    joined (.index index) (fun value => [value]) (redactConfig item state)
      (redactConfigItems (index + 1) rest)

def redactConfigFields : List (String × ConfigValue) → RedactionState →
    Redacted (List (CodeUnits × LogValue))
  | [], state => .ok ([], [], state)
  | (key, value) :: rest, state =>
    let tested := isSensitiveField engine key state.patterns
    let state := { state with patterns := tested.2 }
    joined (.key key)
      -- An assignment under this key makes no property.
      (fun value => if key = "__proto__" then [] else [(codeUnits key, value)])
      (match tested.1, value with
        | true, .text units => .ok (.text (redactString options units), [[]], state)
        | _, _ => redactConfig value state)
      (redactConfigFields rest)

end

def redactSensitiveValues (value : ConfigValue) : Except String RedactionResult :=
  match redactConfig engine options value { patterns := options.additionalPatterns } with
  | .error path => .error ("Circular reference detected at path: " ++ configPathText path)
  | .ok (value, redactedPaths, _) => .ok { value, redactedPaths }

def sensitiveName (name : String) : Bool :=
  (isSensitiveField engine name (options.additionalPatterns.map RegExp.rewound)).1

mutual

/-- A value with every text redacted if it is below a sensitive key, and where these texts are. -/
def shownConfig (below : Bool) : ConfigValue → LogValue × List ConfigPath
  | .scalar value => (value.shown, [])
  | .text units =>
    if below then (.text (redactString options units), [[]]) else (.text units, [])
  | .back =>
    (if options.handler = .ignore then .undefined
      else .text (codeUnits "[Circular Reference]"), [])
  | .arr _ items => (.arr (shownItems below 0 items).1, (shownItems below 0 items).2)
  | .obj _ fields => (.obj (shownFields below fields).1, (shownFields below fields).2)

def shownItems (below : Bool) (index : Nat) : List ConfigValue → List LogValue × List ConfigPath
  | [] => ([], [])
  | item :: rest =>
    let first := shownConfig below item
    let others := shownItems below (index + 1) rest
    (first.1 :: others.1, first.2.map (.index index :: ·) ++ others.2)

def shownFields (below : Bool) : List (String × ConfigValue) →
    List (CodeUnits × LogValue) × List ConfigPath
  | [] => ([], [])
  | (key, value) :: rest =>
    let first := shownConfig (below || sensitiveName engine options key) value
    let others := shownFields below rest
    ((codeUnits key, first.1) :: others.1, first.2.map (.key key :: ·) ++ others.2)

end

mutual

def visitConfig (below : Bool) : ConfigValue → RedactionState → Option RedactionState
  | .scalar _, state | .back, state => some state
  -- A text that is no property is not redacted.
  | .text _, state => if below then none else some state
  | .arr id items, state =>
    if id ∈ state.visited then none
    else visitItems below items { state with visited := id :: state.visited }
  | .obj id fields, state =>
    if id ∈ state.visited then none
    else visitFields below fields { state with visited := id :: state.visited }

def visitItems (below : Bool) : List ConfigValue → RedactionState → Option RedactionState
  | [], state => some state
  | item :: rest, state => (visitConfig below item state).bind (visitItems below rest)

def visitFields (below : Bool) : List (String × ConfigValue) → RedactionState →
    Option RedactionState
  | [], state => some state
  | (key, value) :: rest, state =>
    let inside := below || sensitiveName engine options key
    let tested := isSensitiveField engine key state.patterns
    let state := { state with patterns := tested.2 }
    if key = "__proto__" then none
    else
      (match value with
        -- The test of its own key says of a text whether it is below a sensitive key.
        | .text _ => if tested.1 = inside then some state else none
        | value => visitConfig inside value state).bind (visitFields below rest)

end

end

mutual

def ConfigValue.cyclic : ConfigValue → Bool
  | .scalar _ | .text _ => false
  | .back => true
  | .arr _ items => cyclicItems items
  | .obj _ fields => cyclicFields fields

def cyclicItems : List ConfigValue → Bool
  | [] => false
  | item :: rest => item.cyclic || cyclicItems rest

def cyclicFields : List (String × ConfigValue) → Bool
  | [] => false
  | (_, value) :: rest => value.cyclic || cyclicFields rest

end

mutual

def ConfigValue.Distinct : ConfigValue → Prop
  | .scalar _ | .text _ | .back => True
  | .arr _ items => DistinctItems items
  | .obj _ fields => DistinctFields fields

def DistinctItems : List ConfigValue → Prop
  | [] => True
  | item :: rest => item.Distinct ∧ DistinctItems rest

def DistinctFields : List (String × ConfigValue) → Prop
  | [] => True
  | (key, value) :: rest =>
    key ∉ rest.map Prod.fst ∧ value.Distinct ∧ DistinctFields rest

end

/-- The redaction that is promised: a value that contains itself is handled as the option says. -/
def RedactionLaw (engine : RegexEngine) (options : RedactionOptions) (value : ConfigValue) : Prop :=
  if options.handler = .throw ∧ value.cyclic = true then
    ∃ path, redactSensitiveValues engine options value =
      .error ("Circular reference detected at path: " ++ configPathText path)
  else
    redactSensitiveValues engine options value = .ok
      { value := (shownConfig engine options false value).1
        redactedPaths := (shownConfig engine options false value).2 }

theorem append_map_cons_inj {α : Type} [DecidableEq α] {step : α}
    {left right rest others : List (List α)}
    (same : left.map (step :: ·) ++ rest = right.map (step :: ·) ++ others)
    (apart : ∀ path ∈ rest, path.head? ≠ some step)
    (distant : ∀ path ∈ others, path.head? ≠ some step) : left = right ∧ rest = others := by
  -- Of each list, the first part is what begins with the step.
  have part {first tail : List (List α)} (elsewhere : ∀ path ∈ tail, path.head? ≠ some step) :
      (first.map (step :: ·) ++ tail).filter (fun path => path.head? = some step) =
        first.map (step :: ·) := by
    rw [List.filter_append, List.filter_eq_self.mpr (by simp),
      List.filter_eq_nil_iff.mpr (by simpa using elsewhere), List.append_nil]
  have heads : left.map (step :: ·) = right.map (step :: ·) := by
    rw [← part apart, same, part distant]
  refine ⟨List.map_injective_iff.mpr (fun _ _ tails => (List.cons.inj tails).2) heads, ?_⟩
  rw [heads] at same
  exact List.append_cancel_left same

section

variable {α : Type} {step : ConfigStep} {entry : LogValue → List α} {first : Redacted LogValue}
  {rest : RedactionState → Redacted (List α)}

theorem joined_eq_ok {values : List α} {paths : List ConfigPath} {after : RedactionState}
    (joins : joined step entry first rest = .ok (values, paths, after)) :
    ∃ value own state others more, first = .ok (value, own, state) ∧
      rest state = .ok (others, more, after) ∧ values = entry value ++ others ∧
      paths = own.map (step :: ·) ++ more := by
  unfold joined at joins
  cases found : first with
  | error path => simp [found] at joins
  | ok redacted =>
    cases remains : rest redacted.2.2 with
    | error path => simp [found, remains] at joins
    | ok others =>
      simp only [found, remains, Except.ok.injEq, Prod.mk.injEq] at joins
      obtain ⟨rfl, rfl, rfl⟩ := joins
      exact ⟨_, _, _, _, _, rfl, remains, rfl, rfl⟩

theorem joined_ok_iff {make : LogValue → α} (injective : Function.Injective make)
    {value : LogValue} {own more : List ConfigPath} {others : List α} {after : RedactionState}
    (apart : ∀ state values paths, rest state = .ok (values, paths, after) →
      ∀ path ∈ paths, path.head? ≠ some step)
    (distant : ∀ path ∈ more, path.head? ≠ some step) :
    joined step (fun value => [make value]) first rest =
        .ok (make value :: others, own.map (step :: ·) ++ more, after) ↔
      ∃ state, first = .ok (value, own, state) ∧ rest state = .ok (others, more, after) := by
  constructor
  · intro joins
    obtain ⟨found, places, state, values, paths, is_first, is_rest, same, split⟩ :=
      joined_eq_ok joins
    obtain ⟨head, rfl⟩ := List.cons.inj same
    obtain ⟨rfl, rfl⟩ := append_map_cons_inj split distant (apart _ _ _ is_rest)
    rw [injective head]
    exact ⟨state, is_first, is_rest⟩
  · rintro ⟨state, is_first, is_rest⟩
    simp [joined, is_first, is_rest]

end

section

variable {engine : RegexEngine} {options : RedactionOptions}

variable {state after : RedactionState}

theorem head_redactConfigItems {index : Nat} {items : List ConfigValue}
    {values : List LogValue} {paths : List ConfigPath}
    (redacts : redactConfigItems engine options index items state = .ok (values, paths, after)) :
    ∀ path ∈ paths, ∃ position, index ≤ position ∧ path.head? = some (.index position) := by
  induction items generalizing index values paths state with
  | nil =>
    cases redacts
    simp
  | cons item rest ih =>
    rw [redactConfigItems] at redacts
    obtain ⟨_, _, _, _, _, _, is_rest, _, rfl⟩ := joined_eq_ok redacts
    intro path member
    rcases List.mem_append.mp member with here | later
    · obtain ⟨below, -, rfl⟩ := List.mem_map.mp here
      exact ⟨index, le_rfl, rfl⟩
    · obtain ⟨position, beyond, head⟩ := ih is_rest path later
      exact ⟨position, by omega, head⟩

theorem head_shownItems {below : Bool} {index : Nat} {items : List ConfigValue} :
    ∀ path ∈ (shownItems engine options below index items).2,
      ∃ position, index ≤ position ∧ path.head? = some (.index position) := by
  induction items generalizing index with
  | nil => simp [shownItems]
  | cons item rest ih =>
    intro path member
    rw [shownItems] at member
    rcases List.mem_append.mp member with here | later
    · obtain ⟨below, -, rfl⟩ := List.mem_map.mp here
      exact ⟨index, le_rfl, rfl⟩
    · obtain ⟨position, beyond, head⟩ := ih path later
      exact ⟨position, by omega, head⟩

theorem head_redactConfigFields {fields : List (String × ConfigValue)}
    {values : List (CodeUnits × LogValue)} {paths : List ConfigPath}
    (redacts : redactConfigFields engine options fields state = .ok (values, paths, after)) :
    values.length ≤ fields.length ∧
      ∀ path ∈ paths, ∃ name ∈ fields.map Prod.fst, path.head? = some (.key name) := by
  induction fields generalizing values paths state with
  | nil =>
    cases redacts
    simp
  | cons field rest ih =>
    unfold redactConfigFields at redacts
    obtain ⟨_, _, _, _, _, _, is_rest, rfl, rfl⟩ := joined_eq_ok redacts
    obtain ⟨short, heads⟩ := ih is_rest
    refine ⟨?_, fun path member => ?_⟩
    · split <;> simp <;> omega
    · rcases List.mem_append.mp member with here | later
      · obtain ⟨below, -, rfl⟩ := List.mem_map.mp here
        exact ⟨field.1, List.mem_cons_self, rfl⟩
      · obtain ⟨name, among, head⟩ := heads path later
        exact ⟨name, List.mem_cons_of_mem _ among, head⟩

theorem head_shownFields {below : Bool} {fields : List (String × ConfigValue)} :
    (shownFields engine options below fields).1.length = fields.length ∧
      ∀ path ∈ (shownFields engine options below fields).2,
        ∃ name ∈ fields.map Prod.fst, path.head? = some (.key name) := by
  induction fields with
  | nil => simp [shownFields]
  | cons field rest ih =>
    obtain ⟨whole, heads⟩ := ih
    refine ⟨by simp [shownFields, whole], fun path member => ?_⟩
    rw [shownFields] at member
    rcases List.mem_append.mp member with here | later
    · obtain ⟨below, -, rfl⟩ := List.mem_map.mp here
      exact ⟨field.1, List.mem_cons_self, rfl⟩
    · obtain ⟨name, among, head⟩ := heads path later
      exact ⟨name, List.mem_cons_of_mem _ among, head⟩

theorem circularRef_ne {shown : LogValue × List ConfigPath}
    (object : ∀ units, shown.1 ≠ .text units) (present : shown.1 ≠ .undefined) :
    circularRef options state ≠ .ok (shown.1, shown.2, after) := by
  intro same
  unfold circularRef at same
  split at same
  · cases same
  · exact object _ (congrArg Prod.fst (Except.ok.inj same)).symm
  · exact present (congrArg Prod.fst (Except.ok.inj same)).symm

mutual

theorem redactConfig_ok_iff :
    ∀ (value : ConfigValue) (below : Bool) (state after : RedactionState),
    value.Distinct → (options.handler = .throw → value.cyclic = false) →
    (redactConfig engine options value state = .ok ((shownConfig engine options below value).1,
        (shownConfig engine options below value).2, after) ↔
      visitConfig engine options below value state = some after)
  | .scalar value, below, state, after, _, _ => by
    simp [redactConfig, shownConfig, visitConfig]
  | .text units, below, state, after, _, _ => by
    cases below <;> simp [redactConfig, shownConfig, visitConfig]
  | .back, below, state, after, _, acyclic => by
    simp only [redactConfig, circularRef, shownConfig, visitConfig]
    cases chosen : options.handler with
    | throw => exact absurd (acyclic chosen) (by simp [ConfigValue.cyclic])
    | marker => simp
    | ignore => simp
  | .arr id items, below, state, after, distinct, acyclic => by
    have within := redactConfigItems_ok_iff items 0 below
      { state with visited := id :: state.visited } after distinct acyclic
    rw [redactConfig, shownConfig, visitConfig]
    by_cases seen : id ∈ state.visited
    · rw [if_pos seen, if_pos seen]
      exact iff_of_false (circularRef_ne nofun nofun) nofun
    · rw [if_neg seen, if_neg seen, ← within]
      cases redactConfigItems engine options 0 items _ <;> simp [Except.map, Prod.ext_iff]
  | .obj id fields, below, state, after, distinct, acyclic => by
    have within := redactConfigFields_ok_iff fields below
      { state with visited := id :: state.visited } after distinct acyclic
    rw [redactConfig, shownConfig, visitConfig]
    by_cases seen : id ∈ state.visited
    · rw [if_pos seen, if_pos seen]
      exact iff_of_false (circularRef_ne nofun nofun) nofun
    · rw [if_neg seen, if_neg seen, ← within]
      cases redactConfigFields engine options fields _ <;> simp [Except.map, Prod.ext_iff]

theorem redactConfigItems_ok_iff : ∀ (items : List ConfigValue) (index : Nat) (below : Bool)
    (state after : RedactionState), DistinctItems items →
    (options.handler = .throw → cyclicItems items = false) →
    (redactConfigItems engine options index items state =
        .ok ((shownItems engine options below index items).1,
          (shownItems engine options below index items).2, after) ↔
      visitItems engine options below items state = some after)
  | [], index, below, state, after, _, _ => by
    simp [redactConfigItems, shownItems, visitItems]
  | item :: rest, index, below, state, after, distinct, acyclic => by
    rw [redactConfigItems, shownItems, visitItems, Option.bind_eq_some_iff]
    have later {paths : List ConfigPath} (heads : ∀ path ∈ paths, ∃ position,
        index + 1 ≤ position ∧ path.head? = some (.index position)) :
        ∀ path ∈ paths, path.head? ≠ some (.index index) := by
      intro path member same
      obtain ⟨position, beyond, head⟩ := heads path member
      rw [head] at same
      cases same
      omega
    refine (joined_ok_iff (fun _ _ same => same) (fun _ _ _ is_rest =>
      later (head_redactConfigItems is_rest)) (later head_shownItems)).trans ?_
    refine exists_congr fun middle => and_congr ?_ ?_
    · exact redactConfig_ok_iff item below state middle distinct.1
        fun throws => (Bool.or_eq_false_iff.mp (acyclic throws)).1
    · exact redactConfigItems_ok_iff rest (index + 1) below middle after distinct.2
        fun throws => (Bool.or_eq_false_iff.mp (acyclic throws)).2

theorem redactConfigFields_ok_iff : ∀ (fields : List (String × ConfigValue)) (below : Bool)
    (state after : RedactionState), DistinctFields fields →
    (options.handler = .throw → cyclicFields fields = false) →
    (redactConfigFields engine options fields state =
        .ok ((shownFields engine options below fields).1,
          (shownFields engine options below fields).2, after) ↔
      visitFields engine options below fields state = some after)
  | [], below, state, after, _, _ => by
    simp [redactConfigFields, shownFields, visitFields]
  | (key, value) :: rest, below, state, after, distinct, acyclic => by
    have within := fun tested middle => redactConfig_ok_iff value
      (below || sensitiveName engine options key) tested middle distinct.2.1
        fun throws => (Bool.or_eq_false_iff.mp (acyclic throws)).1
    have behind := fun middle => redactConfigFields_ok_iff rest below middle after distinct.2.2
      fun throws => (Bool.or_eq_false_iff.mp (acyclic throws)).2
    have later {paths : List ConfigPath} (heads : ∀ path ∈ paths, ∃ name ∈ rest.map Prod.fst,
        path.head? = some (.key name)) : ∀ path ∈ paths, path.head? ≠ some (.key key) := by
      intro path member same
      obtain ⟨name, among, head⟩ := heads path member
      rw [head] at same
      cases same
      exact distinct.1 among
    unfold redactConfigFields visitFields
    rw [shownFields]
    by_cases proto : key = "__proto__"
    · -- The property is missing.
      simp only [if_pos proto]
      refine iff_of_false (fun redacts => ?_) nofun
      obtain ⟨_, _, _, _, _, _, is_rest, same, _⟩ := joined_eq_ok redacts
      have short := (head_redactConfigFields is_rest).1
      have whole := (@head_shownFields engine options below rest).1
      rw [List.nil_append] at same
      rw [← same, List.length_cons, whole] at short
      omega
    · simp only [if_neg proto, Option.bind_eq_some_iff]
      refine (joined_ok_iff (fun _ _ same => (Prod.mk.inj same).2) (fun _ _ _ is_rest =>
        later (head_redactConfigFields is_rest).2) (later head_shownFields.2)).trans ?_
      refine exists_congr fun middle => and_congr ?_ (behind middle)
      specialize within
        { state with patterns := (isSensitiveField engine key state.patterns).2 } middle
      cases value with
      | text units =>
        cases (isSensitiveField engine key state.patterns).1 <;>
          cases below || sensitiveName engine options key <;> simp [redactConfig, shownConfig]
      | _ => simpa using within

end

theorem joined_throws {α : Type} {step : ConfigStep} {entry : LogValue → List α}
    {first : Redacted LogValue} {rest : RedactionState → Redacted (List α)}
    (fails : (∃ path, first = .error path) ∨ ∀ state, ∃ path, rest state = .error path) :
    ∃ path, joined step entry first rest = .error path := by
  unfold joined
  cases first with
  | error path => exact ⟨_, rfl⟩
  | ok redacted =>
    obtain ⟨path, failed⟩ := fails.resolve_left nofun redacted.2.2
    exact ⟨path, by simp only [failed]⟩

mutual

theorem redactConfig_throws (throws : options.handler = .throw) : ∀ (value : ConfigValue)
    (state : RedactionState), value.cyclic = true →
    ∃ path, redactConfig engine options value state = .error path
  | .back, state, _ => ⟨[], by simp [redactConfig, circularRef, throws]⟩
  | .arr id items, state, cyclic => by
    rw [redactConfig]
    split
    · exact ⟨[], by simp [circularRef, throws]⟩
    · obtain ⟨path, failed⟩ := redactConfigItems_throws throws items 0 _ cyclic
      exact ⟨path, by rw [failed]; rfl⟩
  | .obj id fields, state, cyclic => by
    rw [redactConfig]
    split
    · exact ⟨[], by simp [circularRef, throws]⟩
    · obtain ⟨path, failed⟩ := redactConfigFields_throws throws fields _ cyclic
      exact ⟨path, by rw [failed]; rfl⟩

theorem redactConfigItems_throws (throws : options.handler = .throw) :
    ∀ (items : List ConfigValue) (index : Nat) (state : RedactionState),
      cyclicItems items = true →
      ∃ path, redactConfigItems engine options index items state = .error path
  | item :: rest, index, state, cyclic => by
    rw [redactConfigItems]
    refine joined_throws ((Bool.or_eq_true_iff.mp cyclic).imp (fun here => ?_) fun later => ?_)
    · exact redactConfig_throws throws item state here
    · exact fun state => redactConfigItems_throws throws rest (index + 1) state later

theorem redactConfigFields_throws (throws : options.handler = .throw) :
    ∀ (fields : List (String × ConfigValue)) (state : RedactionState),
      cyclicFields fields = true →
      ∃ path, redactConfigFields engine options fields state = .error path
  | (key, value) :: rest, state, cyclic => by
    unfold redactConfigFields
    refine joined_throws ((Bool.or_eq_true_iff.mp cyclic).imp (fun here => ?_) fun later => ?_)
    · have thrown := redactConfig_throws throws value
        { state with patterns := (isSensitiveField engine key state.patterns).2 } here
      cases value with
      | text units => cases here
      | _ => simpa using thrown
    · exact fun state => redactConfigFields_throws throws rest state later

end

end

/--
A configuration is redacted as promised exactly when its visit comes to its end.
One that contains itself is always refused where that is the option.
-/
theorem redactionLaw_iff (engine : RegexEngine) (options : RedactionOptions) (value : ConfigValue)
    (distinct : value.Distinct) :
    RedactionLaw engine options value ↔
      (options.handler = .throw ∧ value.cyclic = true) ∨
        (visitConfig engine options false value { patterns := options.additionalPatterns }).isSome =
          true := by
  unfold RedactionLaw
  by_cases refused : options.handler = .throw ∧ value.cyclic = true
  · obtain ⟨path, failed⟩ := @redactConfig_throws engine options refused.1 value
      { patterns := options.additionalPatterns } refused.2
    rw [if_pos refused]
    exact iff_of_true ⟨path, by rw [redactSensitiveValues, failed]⟩ (.inl refused)
  · have acyclic : options.handler = .throw → value.cyclic = false :=
      fun throws => by simpa [throws] using refused
    rw [if_neg refused, or_iff_right refused, Option.isSome_iff_exists]
    simp only [← redactConfig_ok_iff value false _ _ distinct acyclic, redactSensitiveValues]
    cases redactConfig engine options value _ with
    | error path => simp
    | ok redacted => simp [Prod.ext_iff]

def noPatterns : RegexEngine where
  syntaxError _ _ := some "no patterns"
  exec _ _ _ _ := none
  flags_known _ _ accepted := by cases accepted

/-- A configuration with a token in a nested object. -/
theorem redactionLaw_gateway :
    RedactionLaw noPatterns {} (.obj 0 [("gateway", .obj 1 [("url", .text (codeUnits "http://x")),
      ("authToken", .text (codeUnits "abcdefgh"))])]) :=
  (redactionLaw_iff noPatterns {} _ (by simp [ConfigValue.Distinct, DistinctFields])).mpr
    (.inr (by decide +kernel))

private def secondText : Except String RedactionResult → Bool
  | .ok { value := .obj [_, (_, .text _)], .. } => true
  | _ => false

/-- An object in two places is taken for one that contains itself. -/
theorem not_redactionLaw :
    ¬ ∀ (engine : RegexEngine) (options : RedactionOptions) (value : ConfigValue),
      value.Distinct → RedactionLaw engine options value := by
  intro all
  let limits : ConfigValue := .obj 1 [("cpu", .text (codeUnits "1"))]
  have law := all noPatterns {} (.obj 0 [("bot", limits), ("gateway", limits)])
    (by simp [limits, ConfigValue.Distinct, DistinctFields])
  -- The second object is shown as a text.
  have second := congrArg secondText law
  exact absurd second (by decide +kernel)

end BitBrat
