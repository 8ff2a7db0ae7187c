import BitBrat.Bus.Dedupe
import BitBrat.Js.Text

/-! Transport attributes: how publishers spell them, and which spellings a receiver can read. -/

namespace BitBrat

open Js

def isWordChar (char : Char) : Bool := char.isAlpha || char.isDigit

/-- The words of a name: its runs of letters and digits. -/
def words (name : List Char) : List (List Char) :=
  (name.splitOnP fun char => ¬ isWordChar char).filter fun word => ¬ word.isEmpty

def capitalize : List Char → List Char
  | [] => []
  | first :: rest => first.toUpper :: rest

/-- The lower camel case spelling of a name, in which every word but the first is raised. -/
def toLowerCamelCase (name : String) : String :=
  -- Each word is lowered first, so that humps already in the name are lost.
  match (words name.toList).map fun word => word.map Char.toLower with
  | [] => ""
  | first :: rest => String.ofList (first ++ (rest.map capitalize).flatten)

def normalizeAttributes (input : AttributeMap) : AttributeMap :=
  input.entries.foldl (fun out entry => out.set (toLowerCamelCase entry.1) entry.2) .empty

def busAttrsFromEvent (event : Event) : AttributeMap :=
  let typed : AttributeMap := OrderedMap.empty.set "type" event.type
  let identified :=
    if event.correlationId = "" then typed
    else (typed.set "correlationId" event.correlationId).set "idempotencyKey" event.correlationId
  let sourced := write identified "source" (event.ingress.map (·.source))
  let traced := write sourced "traceId" event.traceId
  write traced "channel" (event.ingress.bind (·.channel))
where
  write (attributes : AttributeMap) (name : String) (text : Option String) : AttributeMap :=
    match text.bind nonEmpty with
    | some found => attributes.set name found
    | none => attributes

theorem get?_foldl_set {name value : String} {entries : List (String × String)}
    (rename : String → String) {base : AttributeMap}
    (found : (entries.foldl (fun out entry => out.set (rename entry.1) entry.2) base).get? name =
      some value) :
    base.get? name = some value ∨ ∃ entry ∈ entries, rename entry.1 = name ∧ entry.2 = value := by
  -- The induction is on the writes, each of which only touches its own name.
  induction entries generalizing base with
  | nil => exact .inl found
  | cons entry rest ih =>
    rcases ih found with before | ⟨written, member, same⟩
    · rw [OrderedMap.get?_set] at before
      split at before
      · rename_i here
        exact .inr ⟨entry, List.mem_cons_self, here.symm, Option.some.inj before⟩
      · exact .inl before
    · exact .inr ⟨written, List.mem_cons_of_mem _ member, same⟩

theorem exists_of_get?_normalizeAttributes {input : AttributeMap} {name value : String}
    (found : (normalizeAttributes input).get? name = some value) :
    ∃ written, toLowerCamelCase written = name ∧ input.get? written = some value := by
  rcases get?_foldl_set toLowerCamelCase found with before | ⟨entry, member, named, same⟩
  · cases before
  · refine ⟨entry.1, named, ?_⟩
    rw [← same]
    exact lookup_of_mem input.distinct member

/-! Whether a receiver finds in the normalized attributes what the publisher wrote. -/

/-- Attributes as a publisher hands them over, of which some may be undefined or null. -/
abbrev AttributeRecord := OrderedMap String (Option String)

def AttributeRecord.present (input : AttributeRecord) : AttributeMap where
  entries := input.entries.filterMap fun entry => entry.2.map (entry.1, ·)
  distinct := by
    refine input.distinct.sublist ?_
    induction input.entries with
    | nil => exact .slnil
    | cons entry rest ih =>
      obtain ⟨name, value⟩ := entry
      cases value with
      | none => exact ih.cons _
      | some text => exact ih.cons_cons _

def normalizeRecord (input : AttributeRecord) : AttributeMap :=
  input.entries.foldl (fun out entry =>
    match entry.2 with
    | none => out
    | some text => out.set (toLowerCamelCase entry.1) text) .empty

def LowerCamel (name : String) : Prop :=
  name.toList.head?.any Char.isLower = true ∧ name.toList.all isWordChar = true

/-- A name of several words, of which a later one begins with a letter. -/
def Humped (name : String) : Prop :=
  ∃ word ∈ (words name.toList).tail, ∃ first ∈ word.head?, first.isAlpha = true

def Capital (name : String) : Prop := ∃ char ∈ name.toList, char.isUpper = true

instance (name : String) : Decidable (LowerCamel name) :=
  inferInstanceAs (Decidable (_ ∧ _))

instance (name : String) : Decidable (Capital name) :=
  decidable_of_iff (name.toList.any Char.isUpper = true) List.any_eq_true

namespace AttributeRecord

variable (input : AttributeRecord)

def names : List String := input.present.entries.map Prod.fst

def Idempotent : Prop :=
  ∀ name, (normalizeAttributes (normalizeRecord input)).get? name =
    (normalizeRecord input).get? name

def KeepsNames : Prop :=
  ∀ name ∈ input.names, LowerCamel name → ((normalizeRecord input).get? name).isSome

def OwnNames : Prop := ∀ name ∈ input.names, LowerCamel name

def ReceivedAlike : Prop :=
  (∀ fallbackId, buildDedupeKey (normalizeRecord input) fallbackId =
    buildDedupeKey input.present fallbackId) ∧
  pick (normalizeRecord input) correlationIdNames = pick input.present correlationIdNames

end AttributeRecord

theorem normalizeRecord_eq (input : AttributeRecord) :
    normalizeRecord input = normalizeAttributes input.present := by
  unfold normalizeRecord normalizeAttributes AttributeRecord.present
  dsimp only
  generalize (OrderedMap.empty : AttributeMap) = base
  induction input.entries generalizing base with
  | nil => rfl
  | cons entry rest ih =>
    obtain ⟨name, value⟩ := entry
    cases value with
    | none => exact ih base
    | some text => exact ih _

theorem word_of_mem_words {name word : List Char} (member : word ∈ words name) :
    word ≠ [] ∧ ∀ char ∈ word, isWordChar char = true := by
  obtain ⟨piece, nonempty⟩ := List.mem_filter.mp member
  constructor
  · rintro rfl
    simp at nonempty
  · intro char inside
    simpa using (of_mem_splitOnP piece inside).2

theorem words_of_all {name : List Char} (nonempty : name ≠ [])
    (all : ∀ char ∈ name, isWordChar char = true) : words name = [name] := by
  unfold words
  rw [List.splitOnP_eq_singleton (by simpa using all)]
  simp [nonempty]

theorem isUpper_toLower (char : Char) : char.toLower.isUpper = false := by
  unfold Char.isUpper Char.toLower
  split <;> grind [UInt32.toNat_add, Char.toNat_val]

theorem isUpper_toUpper_toLower (char : Char) :
    char.toLower.toUpper.isUpper = char.isAlpha := by
  rw [Bool.eq_iff_iff]
  unfold Char.isAlpha Char.isUpper Char.isLower Char.toUpper Char.toLower
  split <;> split <;> grind [UInt32.toNat_add, Char.toNat_val]

theorem toLower_of_not_isUpper {char : Char} (small : char.isUpper = false) :
    char.toLower = char := by
  unfold Char.isUpper at small
  unfold Char.toLower
  split <;> grind [UInt32.toNat_add, Char.toNat_val]

@[simp] theorem isWordChar_toLower (char : Char) : isWordChar char.toLower = isWordChar char := by
  unfold isWordChar Char.isAlpha Char.isUpper Char.isLower Char.isDigit Char.toLower
  split <;> grind [UInt32.toNat_add, Char.toNat_val]

@[simp] theorem isWordChar_toUpper (char : Char) : isWordChar char.toUpper = isWordChar char := by
  unfold isWordChar Char.isAlpha Char.isUpper Char.isLower Char.isDigit Char.toUpper
  split <;> grind [UInt32.toNat_add, Char.toNat_val]

theorem toList_toLowerCamelCase (name : String) : (toLowerCamelCase name).toList =
    (match words name.toList with
      | [] => []
      | first :: rest =>
        first.map Char.toLower ++
          (rest.map fun word => capitalize (word.map Char.toLower)).flatten) := by
  unfold toLowerCamelCase
  cases words name.toList with
  | nil => rfl
  | cons first rest => simp [Function.comp_def]

variable {name : String}

theorem isWordChar_of_normalized {char : Char}
    (inside : char ∈ (toLowerCamelCase name).toList) : isWordChar char = true := by
  rw [toList_toLowerCamelCase] at inside
  have each : ∀ word ∈ words name.toList, ∀ char ∈ word, isWordChar char = true :=
    fun word member => (word_of_mem_words member).2
  cases split : words name.toList with
  | nil => simp [split] at inside
  | cons first rest =>
    rw [split] at each inside
    rcases List.mem_append.mp inside with early | late
    · obtain ⟨original, member, rfl⟩ := List.mem_map.mp early
      simpa using each first List.mem_cons_self original member
    · obtain ⟨raised, member, within⟩ := List.mem_flatten.mp late
      obtain ⟨word, later, rfl⟩ := List.mem_map.mp member
      have letters := each word (List.mem_cons_of_mem _ later)
      cases word with
      | nil => simp [capitalize] at within
      | cons head tail =>
        rcases List.mem_cons.mp within with same | further
        · simpa [same] using letters head List.mem_cons_self
        · obtain ⟨original, inTail, rfl⟩ := List.mem_map.mp further
          simpa using letters original (List.mem_cons_of_mem _ inTail)

theorem capital_toLowerCamelCase_iff : Capital (toLowerCamelCase name) ↔ Humped name := by
  unfold Capital Humped
  rw [toList_toLowerCamelCase]
  cases words name.toList with
  | nil => simp
  | cons first rest =>
    simp only [List.tail_cons]
    constructor
    · rintro ⟨char, inside, upper⟩
      rcases List.mem_append.mp inside with early | late
      · -- The first word has none.
        obtain ⟨original, _, rfl⟩ := List.mem_map.mp early
        rw [isUpper_toLower] at upper
        cases upper
      · obtain ⟨raised, member, within⟩ := List.mem_flatten.mp late
        obtain ⟨word, later, rfl⟩ := List.mem_map.mp member
        cases word with
        | nil => simp [capitalize] at within
        | cons head tail =>
          refine ⟨head :: tail, later, head, rfl, ?_⟩
          rcases List.mem_cons.mp within with same | further
          · rw [← isUpper_toUpper_toLower, ← same]
            exact upper
          · obtain ⟨original, _, rfl⟩ := List.mem_map.mp further
            rw [isUpper_toLower] at upper
            cases upper
    · rintro ⟨word, later, head, first_eq, letter⟩
      cases word with
      | nil => cases first_eq
      | cons start tail =>
        cases first_eq
        refine ⟨head.toLower.toUpper, List.mem_append_right _ ?_, ?_⟩
        · exact List.mem_flatten.mpr ⟨_, List.mem_map_of_mem later, List.mem_cons_self⟩
        · rw [isUpper_toUpper_toLower]
          exact letter

theorem toLowerCamelCase_of_all (all : ∀ char ∈ name.toList, isWordChar char = true) :
    (toLowerCamelCase name).toList = name.toList.map Char.toLower := by
  rw [toList_toLowerCamelCase]
  by_cases empty : name.toList = []
  · simp [empty, words]
  · rw [words_of_all empty all]
    simp

theorem not_capital_of_all (all : ∀ char ∈ name.toList, isWordChar char = true) :
    ¬ Capital (toLowerCamelCase name) := by
  rintro ⟨char, inside, upper⟩
  rw [toLowerCamelCase_of_all all] at inside
  obtain ⟨original, _, rfl⟩ := List.mem_map.mp inside
  rw [isUpper_toLower] at upper
  cases upper

theorem toLowerCamelCase_of_small (all : ∀ char ∈ name.toList, isWordChar char = true)
    (small : ¬ Capital name) : toLowerCamelCase name = name := by
  rw [← String.toList_inj, toLowerCamelCase_of_all all]
  have each : ∀ char ∈ name.toList, char.toLower = id char := fun char inside =>
    toLower_of_not_isUpper (by simpa using fun upper => small ⟨char, inside, upper⟩)
  rw [List.map_congr_left each, List.map_id]

theorem isSome_foldl_set {entries : List (String × String)} (rename : String → String)
    {base : AttributeMap}
    (written : (base.get? name).isSome ∨ ∃ entry ∈ entries, rename entry.1 = name) :
    ((entries.foldl (fun out entry => out.set (rename entry.1) entry.2) base).get?
      name).isSome := by
  induction entries generalizing base with
  | nil => simpa using written
  | cons entry rest ih =>
    refine ih ?_
    rw [OrderedMap.get?_set]
    by_cases here : name = rename entry.1
    · simp [here]
    · rw [if_neg here]
      rcases written with before | ⟨other, member, named⟩
      · exact .inl before
      · rcases List.mem_cons.mp member with rfl | later
        · exact absurd named.symm here
        · exact .inr ⟨other, later, named⟩

theorem isSome_normalizeAttributes {input : AttributeMap}
    (member : name ∈ input.entries.map Prod.fst) :
    ((normalizeAttributes input).get? (toLowerCamelCase name)).isSome := by
  obtain ⟨entry, inside, rfl⟩ := List.mem_map.mp member
  exact isSome_foldl_set toLowerCamelCase (.inr ⟨entry, inside, rfl⟩)

theorem normalizeAttributes_of_fixed {input : AttributeMap}
    (fixed : ∀ name ∈ input.entries.map Prod.fst, toLowerCamelCase name = name) :
    normalizeAttributes input = input := by
  -- Each entry is appended to those before it, which have other names.
  have general : ∀ (later : List (String × String)) (base : AttributeMap),
      ((base.entries ++ later).map Prod.fst).Nodup →
      (∀ name ∈ later.map Prod.fst, toLowerCamelCase name = name) →
      (later.foldl (fun out entry => out.set (toLowerCamelCase entry.1) entry.2) base).entries =
        base.entries ++ later := by
    intro later
    induction later with
    | nil => intro base _ _; simp
    | cons entry rest ih =>
      intro base distinct same
      have absent : entry.1 ∉ base.entries.map Prod.fst := by
        intro there
        rw [List.map_append] at distinct
        exact List.disjoint_of_nodup_append distinct there (by simp)
      have appended : (base.set entry.1 entry.2).entries = base.entries ++ [entry] :=
        setEntry_of_not_mem entry.2 absent
      rw [List.foldl_cons, same entry.1 (by simp), ih]
      · simp [appended]
      · simpa [appended] using distinct
      · exact fun name member => same name (by simp only [List.map_cons]; exact .tail _ member)
  exact OrderedMap.ext (general input.entries .empty input.distinct fixed)

namespace AttributeRecord

variable {input : AttributeRecord}

variable {name : String}

theorem exists_of_normalized (there : ((normalizeRecord input).get? name).isSome) :
    ∃ written ∈ input.names, toLowerCamelCase written = name := by
  obtain ⟨value, found⟩ := Option.isSome_iff_exists.mp there
  rw [normalizeRecord_eq] at found
  obtain ⟨written, named, stored⟩ := exists_of_get?_normalizeAttributes found
  exact ⟨written, List.mem_map_of_mem (mem_of_lookup stored), named⟩

theorem isSome_normalizeRecord (member : name ∈ input.names) :
    ((normalizeRecord input).get? (toLowerCamelCase name)).isSome := by
  rw [normalizeRecord_eq]
  exact isSome_normalizeAttributes member

theorem idempotent_iff : input.Idempotent ↔ ∀ name ∈ input.names, ¬ Humped name := by
  constructor
  · intro idempotent name member humped
    -- The second time, the hump would come from a name of letters and digits.
    have there := isSome_normalizeRecord member
    rw [← idempotent] at there
    obtain ⟨value, found⟩ := Option.isSome_iff_exists.mp there
    obtain ⟨written, named, stored⟩ := exists_of_get?_normalizeAttributes found
    obtain ⟨first, _, rfl⟩ := exists_of_normalized (Option.isSome_iff_exists.mpr ⟨value, stored⟩)
    have capital := capital_toLowerCamelCase_iff.mpr humped
    rw [← named] at capital
    exact not_capital_of_all (fun _ inside => isWordChar_of_normalized inside) capital
  · intro flat name
    rw [normalizeAttributes_of_fixed]
    intro normalized member
    have there : ((normalizeRecord input).get? normalized).isSome := by
      by_contra missing
      exact lookup_eq_none_iff_not_mem.mp (Option.not_isSome_iff_eq_none.mp missing) member
    obtain ⟨written, named, rfl⟩ := exists_of_normalized there
    exact toLowerCamelCase_of_small (fun _ inside => isWordChar_of_normalized inside)
      fun capital => flat written named (capital_toLowerCamelCase_iff.mp capital)

theorem keepsNames_iff : input.KeepsNames ↔ ∀ name ∈ input.names, LowerCamel name →
    ¬ Capital name ∨ ∃ other ∈ input.names, Humped other ∧ toLowerCamelCase other = name := by
  constructor
  · intro keeps name member camel
    by_cases capital : Capital name
    · obtain ⟨other, inside, rfl⟩ := exists_of_normalized (keeps name member camel)
      exact .inr ⟨other, inside, capital_toLowerCamelCase_iff.mp capital, rfl⟩
    · exact .inl capital
  · intro spelled name member camel
    rcases spelled name member camel with small | ⟨other, inside, _, rfl⟩
    · have fixed : toLowerCamelCase name = name :=
        toLowerCamelCase_of_small (List.all_eq_true.mp camel.2) small
      rw [← fixed]
      exact isSome_normalizeRecord member
    · exact isSome_normalizeRecord inside

theorem ne_empty_of_pick {attrs : AttributeMap} {names : List String} {value : String}
    (picked : pick attrs names = some value) : value ≠ "" := by
  obtain ⟨name, _, found⟩ := List.exists_of_findSome?_eq_some picked
  obtain ⟨stored, _, nonempty⟩ := Option.bind_eq_some_iff.mp found
  unfold nonEmpty at nonempty
  split at nonempty
  case isTrue => cases nonempty
  case isFalse full =>
    cases nonempty
    exact full

theorem eq_empty_of_pick_eq_none {attrs : AttributeMap} {value : String}
    {names : List String} (nothing : pick attrs names = none) (member : name ∈ names)
    (found : attrs.get? name = some value) : value = "" := by
  have skipped := List.findSome?_eq_none_iff.mp nothing name member
  rw [found, Option.bind_some] at skipped
  unfold nonEmpty at skipped
  split at skipped
  case isTrue empty => exact empty
  case isFalse => cases skipped

theorem pick_normalizeRecord {names : List String} (own : input.OwnNames)
    (spelled : ∀ name ∈ names, Capital name ∨ ¬ name.toList.all isWordChar = true) :
    pick (normalizeRecord input) names = none := by
  refine pick_eq_none fun name member value found => ?_
  obtain ⟨written, inside, rfl⟩ := exists_of_normalized (Option.isSome_iff_exists.mpr ⟨_, found⟩)
  rcases spelled _ member with capital | other
  · exact absurd capital (not_capital_of_all (List.all_eq_true.mp (own written inside).2))
  · exact absurd (List.all_eq_true.mpr fun _ within => isWordChar_of_normalized within) other

theorem pick_present {others : List String} (own : input.OwnNames)
    (foreign : ∀ other ∈ others, ¬ LowerCamel other)
    (empty : ∀ value, input.present.get? name = some value → value = "") :
    pick input.present (name :: others) = none := by
  refine pick_eq_none fun other member value found => ?_
  rcases List.mem_cons.mp member with rfl | later
  · exact empty value found
  · have inside : other ∈ input.names := List.mem_map_of_mem (mem_of_lookup found)
    exact absurd (own other inside) (foreign other later)

theorem receivedAlike_iff (own : input.OwnNames) : input.ReceivedAlike ↔
    ∀ name ∈ ["idempotencyKey", "correlationId"], ∀ value,
      input.present.get? name = some value → value = "" := by
  have noKey : pick (normalizeRecord input) idempotencyKeyNames = none :=
    pick_normalizeRecord own (by decide +kernel)
  have noCorrelation : pick (normalizeRecord input) correlationIdNames = none :=
    pick_normalizeRecord own (by decide +kernel)
  constructor
  · rintro ⟨sameKey, sameCorrelation⟩
    rw [noCorrelation] at sameCorrelation
    -- Without a message id nothing else could give the receiver a key.
    have nothing := sameKey none
    unfold buildDedupeKey at nothing
    rw [noKey, noCorrelation, ← sameCorrelation] at nothing
    have unidentified : pick input.present idempotencyKeyNames = none := by
      cases picked : pick input.present idempotencyKeyNames with
      | none => rfl
      | some explicit =>
        rw [picked] at nothing
        exact absurd nothing.symm (ne_empty_of_pick picked)
    intro name member value found
    rcases List.mem_pair.mp member with rfl | rfl
    · exact eq_empty_of_pick_eq_none unidentified (by decide) found
    · exact eq_empty_of_pick_eq_none sameCorrelation.symm (by decide) found
  · intro empty
    have unidentified : pick input.present idempotencyKeyNames = none :=
      pick_present own (by decide +kernel) (empty _ (by simp))
    have uncorrelated : pick input.present correlationIdNames = none :=
      pick_present own (by decide +kernel) (empty _ (by simp))
    constructor
    · intro fallbackId
      unfold buildDedupeKey
      rw [noKey, noCorrelation, unidentified, uncorrelated]
    · rw [noCorrelation, uncorrelated]

end AttributeRecord

/-- Where each part of the agreement between publisher and receiver holds. -/
theorem attributeAgreement_iff (input : AttributeRecord) :
    (input.Idempotent ↔ ∀ name ∈ input.names, ¬ Humped name) ∧
    (input.KeepsNames ↔ ∀ name ∈ input.names, LowerCamel name →
      ¬ Capital name ∨ ∃ other ∈ input.names, Humped other ∧ toLowerCamelCase other = name) ∧
    (input.OwnNames → (input.ReceivedAlike ↔
      ∀ name ∈ ["idempotencyKey", "correlationId"], ∀ value,
        input.present.get? name = some value → value = "")) :=
  ⟨AttributeRecord.idempotent_iff, AttributeRecord.keepsNames_iff,
    AttributeRecord.receivedAlike_iff⟩

/-- A map without capitals and identities is received as it was written. -/
theorem attributeAgreement_plain :
    let input : AttributeRecord :=
      (OrderedMap.empty.set "type" (some "llm.request.v1")).set "source" (some "auth")
    input.ReceivedAlike :=
  ((attributeAgreement_iff _).2.2 (by unfold AttributeRecord.OwnNames; decide +kernel)).mpr
    (by decide +kernel)

/-- A correlation id is lost under its own name, and a spelling in words is not stable. -/
theorem attributeAgreement_fails :
    let identified : AttributeRecord := OrderedMap.empty.set "correlationId" (some "c-1")
    let spelled : AttributeRecord := OrderedMap.empty.set "correlation_id" (some "c-1")
    ¬ identified.KeepsNames ∧ ¬ identified.ReceivedAlike ∧ ¬ spelled.Idempotent := by
  refine ⟨fun keeps => ?_, fun received => ?_, fun idempotent => ?_⟩
  · exact absurd (keeps "correlationId" (by decide) (by decide)) (by decide +kernel)
  · exact absurd received.2 (by decide +kernel)
  · exact absurd (idempotent "correlationId") (by decide +kernel)

end BitBrat
