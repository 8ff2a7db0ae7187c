import BitBrat.Js.Assignment
import BitBrat.Persistence.PostgresEval
import BitBrat.State.StateEngineStore

/-! Looking up the states under a prefix, as a range of identifiers. -/

namespace BitBrat

open Js

def prefixEnd (keyPrefix : String) : String := keyPrefix ++ "\uf8ff"

/-- Whether an identifier lies in a range, in the order of the characters. -/
def inRange (lower upper key : String) : Bool :=
  ¬ key.toList < lower.toList ∧ key.toList < upper.toList

/-- The documents in a range of identifiers, which the client checks as identifiers. -/
def documentsInRange (accepts : String → Bool) (lower upper : String)
    (documents : OrderedMap String StateSnapshot) :
    Except String (List (String × StateSnapshot)) :=
  if accepts lower && accepts upper then
    .ok ((documents.entries.filter fun entry => inRange lower upper entry.1).insertionSort
      fun left right => ¬ right.1.toList < left.1.toList)
  else .error "invalid document identifier"

def FirestoreStateEngineStore.getState (store : StateCollections) (key : String) :
    Option StateSnapshot := store.state.get? key

def FirestoreStateEngineStore.getStateByPrefix (accepts : String → Bool)
    (store : StateCollections) (keyPrefix : String) :
    Except String (List (String × StateSnapshot)) :=
  (documentsInRange accepts keyPrefix (prefixEnd keyPrefix) store.state).map fun documents =>
    documents.foldl (fun results entry => setEntry entry.1 entry.2 results) []

section

variable {ν τ : Type} [LinearOrder ν] [LinearOrder τ]

def DocumentStoreStateEngineStore.getState (table : Postgres.Table) (key : String) :
    Option Value := (table.rows.find? fun row => row.id = key).map (·.data)

def prefixQuery (keyPrefix : String) : Postgres.TypedQuery where
  filters :=
    [{ field := "id", sign := .ge, value := .str keyPrefix },
      { field := "id", sign := .lt, value := .str (prefixEnd keyPrefix) }]

def DocumentStoreStateEngineStore.getStateByPrefix (db : Postgres.Database ν τ)
    (table : Postgres.Table) (keyPrefix : String) : Except String (List (String × Value)) :=
  (db.query table (prefixQuery keyPrefix)).map fun records =>
    records.foldl (fun results record =>
      match record.get "id" with
      | .str id =>
        if id ≠ "" ∧ keyPrefix.toList.isPrefixOf id.toList then setEntry id record results
        else results
      | _ => results) []

end

/-- A lookup returns the states whose keys have a prefix, and no others. -/
def PrefixLookup {σ : Type} (keyPrefix : String) (getState : String → Option σ)
    (outcome : Except String (List (String × σ))) : Prop :=
  ∃ results, outcome = .ok results ∧
    ∀ key, results.lookup key =
      if keyPrefix.toList.isPrefixOf key.toList then getState key else none

/-- What follows a prefix in a key does not start with a character behind the last one. -/
def Continues (keyPrefix key : String) : Prop :=
  ∀ char rest, key.toList = keyPrefix.toList ++ char :: rest → char < '\uf8ff'

theorem prefix_of_range {lower key : List Char} {last : Char} (above : ¬ key < lower)
    (below : key < lower ++ [last]) : lower <+: key := by
  -- The induction is on the prefix, whose characters the text cannot leave in either direction.
  induction lower generalizing key with
  | nil => exact List.nil_prefix
  | cons char rest ih =>
    cases key with
    | nil => exact absurd (List.nil_lt_cons char rest) above
    | cons head tail =>
      rw [List.cons_append, List.cons_lt_cons_iff] at below
      rw [List.cons_lt_cons_iff, not_or] at above
      rcases below with smaller | ⟨rfl, below⟩
      · exact absurd smaller above.1
      · have above' : ¬ tail < rest := fun less => above.2 ⟨rfl, less⟩
        exact List.cons_prefix_cons.mpr ⟨rfl, ih above' below⟩

theorem append_lt_append_iff (front left right : List Char) :
    front ++ left < front ++ right ↔ left < right := by
  induction front with
  | nil => rfl
  | cons char rest ih =>
    rw [List.cons_append, List.cons_append, List.cons_lt_cons_iff, ih]
    simp

theorem inRange_iff (keyPrefix key : String) :
    inRange keyPrefix (prefixEnd keyPrefix) key = true ↔
      keyPrefix.toList <+: key.toList ∧ Continues keyPrefix key := by
  have upper : (prefixEnd keyPrefix).toList = keyPrefix.toList ++ ['\uf8ff'] := by
    rw [prefixEnd, String.toList_append]
    rfl
  unfold inRange Continues
  rw [decide_eq_true_eq, upper]
  constructor
  · rintro ⟨above, below⟩
    -- Within the range, the next character is compared to the last one of the range.
    refine ⟨prefix_of_range above below, ?_⟩
    intro char rest split
    rw [split, append_lt_append_iff, List.cons_lt_cons_iff] at below
    rcases below with less | ⟨_, less⟩
    · exact less
    · exact absurd less (List.not_lt_nil rest)
  · rintro ⟨⟨rest, split⟩, continues⟩
    rw [← split]
    constructor
    · -- A text with the prefix is not in front of the prefix.
      intro less
      have behind := (append_lt_append_iff keyPrefix.toList rest []).mp (by simpa using less)
      exact List.not_lt_nil rest behind
    · rw [append_lt_append_iff]
      cases rest with
      | nil => exact List.nil_lt_cons _ _
      | cons char rest =>
        exact List.cons_lt_cons_iff.mpr (.inl (continues char rest split.symm))

theorem lookup_documentsInRange {accepts : String → Bool} {lower upper : String}
    {documents : OrderedMap String StateSnapshot} {found : List (String × StateSnapshot)}
    (returned : documentsInRange accepts lower upper documents = .ok found) (key : String) :
    (found.foldl (fun results entry => setEntry entry.1 entry.2 results) []).lookup key =
      if inRange lower upper key then documents.get? key else none := by
  unfold documentsInRange at returned
  split at returned
  · obtain rfl := Except.ok.inj returned
    -- Sorting changes no entry, and each identifier has one.
    have perm := List.perm_insertionSort
      (fun (left right : String × StateSnapshot) => ¬ right.1.toList < left.1.toList)
      (documents.filter fun entry => inRange lower upper entry.1).entries
    have reversed := (List.reverse_perm _).trans perm
    rw [lookup_foldl_setEntry, List.lookup_nil, Option.or_none]
    refine (lookup_of_perm reversed (OrderedMap.distinct _) key).trans ?_
    have read := OrderedMap.get?_filter documents (fun entry => inRange lower upper entry.1) key
    refine read.trans ?_
    cases documents.get? key with
    | none => simp
    | some value => by_cases within : inRange lower upper key <;> simp [within]
  · cases returned

theorem firestore_prefixLookup_iff (accepts : String → Bool) (store : StateCollections)
    (keyPrefix : String) :
    PrefixLookup keyPrefix (FirestoreStateEngineStore.getState store)
        (FirestoreStateEngineStore.getStateByPrefix accepts store keyPrefix) ↔
      (accepts keyPrefix = true ∧ accepts (prefixEnd keyPrefix) = true) ∧
        ∀ key, (store.state.get? key).isSome → keyPrefix.toList <+: key.toList →
          Continues keyPrefix key := by
  unfold FirestoreStateEngineStore.getStateByPrefix
  cases returned : documentsInRange accepts keyPrefix (prefixEnd keyPrefix) store.state with
  | error error =>
    have refused : ¬ (accepts keyPrefix = true ∧ accepts (prefixEnd keyPrefix) = true) := by
      intro accepted
      simp [documentsInRange, accepted] at returned
    refine iff_of_false ?_ fun condition => refused condition.1
    rintro ⟨results, outcome, _⟩
    cases outcome
  | ok found =>
    have accepted : accepts keyPrefix = true ∧ accepts (prefixEnd keyPrefix) = true := by
      by_contra refused
      simp [documentsInRange, refused] at returned
    -- What is returned reads the keys in the range, and these are compared to those wanted.
    have read := lookup_documentsInRange returned
    constructor
    · rintro ⟨results, outcome, complete⟩
      obtain rfl := Except.ok.inj outcome
      refine ⟨accepted, ?_⟩
      intro key stored leads
      -- A stored key that is looked up is in the range.
      have same := (read key).symm.trans (complete key)
      rw [if_pos (List.isPrefixOf_iff_prefix.mpr leads)] at same
      split at same
      · rename_i within
        exact ((inRange_iff keyPrefix key).mp within).2
      · have missing : store.state.get? key = none := same.symm
        rw [missing] at stored
        cases stored
    · rintro ⟨_, continues⟩
      refine ⟨_, rfl, ?_⟩
      intro key
      refine (read key).trans ?_
      by_cases leads : keyPrefix.toList <+: key.toList
      · rw [if_pos (List.isPrefixOf_iff_prefix.mpr leads)]
        cases stored : store.state.get? key with
        | none => simp [FirestoreStateEngineStore.getState, stored]
        | some value =>
          have within := (inRange_iff keyPrefix key).mpr
            ⟨leads, continues key (by simp [stored]) leads⟩
          rw [if_pos within, FirestoreStateEngineStore.getState, stored]
      · have outside : ¬ inRange keyPrefix (prefixEnd keyPrefix) key = true := fun within =>
          leads ((inRange_iff keyPrefix key).mp within).1
        have unled : ¬ keyPrefix.toList.isPrefixOf key.toList = true := fun led =>
          leads (List.isPrefixOf_iff_prefix.mp led)
        rw [if_neg outside, if_neg unled]

theorem ascii_of_matchesShape {shape text : List Char}
    (plain : ∀ mark ∈ shape, mark.toNat < 128)
    (fits : Postgres.matchesShape shape text = true) : ∀ char ∈ text, char.toNat < 128 := by
  fun_induction Postgres.matchesShape shape text with
  | case1 => simp
  | case2 shape char rest ih =>
    obtain ⟨digit, later⟩ : char.isDigit = true ∧ _ := by simpa using fits
    have small : char.toNat ≤ 57 := (Char.isDigit_iff_toNat.mp digit).2
    rw [List.forall_mem_cons]
    exact ⟨by omega, ih (fun mark member => plain mark (List.mem_cons_of_mem _ member)) later⟩
  | case3 mark shape char rest _ ih =>
    obtain ⟨rfl, later⟩ : mark = char ∧ _ := by simpa using fits
    rw [List.forall_mem_cons]
    exact ⟨plain mark List.mem_cons_self,
      ih (fun other member => plain other (List.mem_cons_of_mem _ member)) later⟩
  | case4 => cases fits

theorem last_mem_prefixEnd (keyPrefix : String) :
    '\uf8ff' ∈ (prefixEnd keyPrefix).toList := by
  rw [prefixEnd, String.toList_append]
  exact List.mem_append_right _ (by decide)

theorem not_isDateString_prefixEnd (keyPrefix : String) :
    Postgres.isDateString (.str (prefixEnd keyPrefix)) = false := by
  rw [Postgres.isDateString, List.any_eq_false]
  intro shape listed fits
  have plain : shape.toList.all (fun mark => mark.toNat < 128) = true := by
    simp only [List.mem_cons, List.not_mem_nil, or_false] at listed
    rcases listed with rfl | rfl | rfl | rfl | rfl <;> decide
  have small := ascii_of_matchesShape
    (fun mark member => of_decide_eq_true (List.all_eq_true.mp plain mark member)) fits _
    (last_mem_prefixEnd keyPrefix)
  exact absurd small (by decide)

section

variable {ν τ : Type} [LinearOrder ν] [LinearOrder τ]

def PlainNumbers (numericIn : String → Option ν) : Prop :=
  ∀ text : String, (∃ char ∈ text.toList, 128 ≤ char.toNat) → numericIn text = none

theorem documentStore_not_prefixLookup {db : Postgres.Database ν τ}
    (plain : PlainNumbers db.numericIn) (table : Postgres.Table) (keyPrefix : String) :
    ¬ PrefixLookup keyPrefix (DocumentStoreStateEngineStore.getState table)
      (DocumentStoreStateEngineStore.getStateByPrefix db table keyPrefix) := by
  -- The last character of the range is in no number.
  have unread : db.numericIn (prefixEnd keyPrefix) = none :=
    plain _ ⟨_, last_mem_prefixEnd keyPrefix, by decide⟩
  have unreadable : (prefixQuery keyPrefix).clauses.all db.readable = false := by
    simp [prefixQuery, Postgres.TypedQuery.clauses, Postgres.TypedFilter.clause,
      Postgres.TypedFilter.cast, not_isDateString_prefixEnd, Postgres.Database.readable,
      Postgres.Database.valueText, Value.toText, unread]
  rintro ⟨results, outcome, _⟩
  unfold DocumentStoreStateEngineStore.getStateByPrefix Postgres.Database.query
    Postgres.Database.select at outcome
  simp [unreadable, Except.map] at outcome

/--
Looking up a prefix is right in one store for keys below the end of the range, and never in the
other.
-/
theorem getStateByPrefix_iff (accepts : String → Bool) (store : StateCollections)
    (db : Postgres.Database ν τ) (plain : PlainNumbers db.numericIn) (table : Postgres.Table)
    (keyPrefix : String) :
    (PrefixLookup keyPrefix (FirestoreStateEngineStore.getState store)
        (FirestoreStateEngineStore.getStateByPrefix accepts store keyPrefix) ↔
      (accepts keyPrefix = true ∧ accepts (prefixEnd keyPrefix) = true) ∧
        ∀ key, (store.state.get? key).isSome → keyPrefix.toList <+: key.toList →
          Continues keyPrefix key) ∧
      ¬ PrefixLookup keyPrefix (DocumentStoreStateEngineStore.getState table)
        (DocumentStoreStateEngineStore.getStateByPrefix db table keyPrefix) :=
  ⟨firestore_prefixLookup_iff accepts store keyPrefix,
    documentStore_not_prefixLookup plain table keyPrefix⟩

end

theorem plainNumbers_wholeNumbers : PlainNumbers Postgres.wholeNumbers.numericIn := by
  rintro text ⟨char, member, large⟩
  refine if_neg ?_
  intro digits
  have small : char.toNat ≤ 57 :=
    (Char.isDigit_iff_toNat.mp (List.all_eq_true.mp digits char member)).2
  omega

def streamSnapshot : StateSnapshot where
  value := .str "on"
  updatedAt := "2026-01-01T00:00:00Z"
  updatedBy := "ingress-egress"
  version := 1
  ttl := none
  metadata := .obj []

def streamStore : StateCollections := StateCollections.empty.setState "stream.state" streamSnapshot

def emptyTable : Postgres.Table where
  rows := []
  distinct := List.nodup_nil

/-- The states of a stream are found in the collection, and in no table. -/
theorem getStateByPrefix_iff_example :
    PrefixLookup "stream." (FirestoreStateEngineStore.getState streamStore)
        (FirestoreStateEngineStore.getStateByPrefix (· ≠ "") streamStore "stream.") ∧
      ¬ PrefixLookup "stream." (DocumentStoreStateEngineStore.getState emptyTable)
        (DocumentStoreStateEngineStore.getStateByPrefix Postgres.wholeNumbers emptyTable
          "stream.") := by
  obtain ⟨iff, never⟩ := getStateByPrefix_iff (· ≠ "") streamStore Postgres.wholeNumbers
    plainNumbers_wholeNumbers emptyTable "stream."
  refine ⟨iff.mpr ⟨⟨by decide, by decide⟩, ?_⟩, never⟩
  intro key stored leads char rest split
  -- The only key goes on with a letter.
  have named : key = "stream.state" := by
    by_contra other
    simp [streamStore, StateCollections.setState, StateCollections.empty, other] at stored
  subst named
  obtain ⟨rfl, -⟩ : 's' = char ∧ _ := by simpa using split
  decide

/-- A key behind the end of the range is left out, and an empty table is an error. -/
theorem getStateByPrefix_fails :
    (¬ ∀ (store : StateCollections) (keyPrefix : String),
        PrefixLookup keyPrefix (FirestoreStateEngineStore.getState store)
          (FirestoreStateEngineStore.getStateByPrefix (· ≠ "") store keyPrefix)) ∧
      ¬ ∀ (table : Postgres.Table) (keyPrefix : String),
        PrefixLookup keyPrefix (DocumentStoreStateEngineStore.getState table)
          (DocumentStoreStateEngineStore.getStateByPrefix Postgres.wholeNumbers table
            keyPrefix) := by
  constructor
  · intro all
    let store := StateCollections.empty.setState "emoji.\uff01" streamSnapshot
    obtain ⟨results, outcome, complete⟩ := all store "emoji."
    have nothing : FirestoreStateEngineStore.getStateByPrefix (· ≠ "") store "emoji." = .ok [] := by
      decide
    obtain rfl : results = [] := Except.ok.inj (outcome.symm.trans nothing)
    -- The key is stored, and has the prefix.
    have missing := complete "emoji.\uff01"
    revert missing
    decide
  · intro all
    obtain ⟨results, outcome, -⟩ := all emptyTable "stream."
    have refused : DocumentStoreStateEngineStore.getStateByPrefix Postgres.wholeNumbers emptyTable
        "stream." = .error "invalid input syntax" := by decide
    rw [refused] at outcome
    cases outcome

end BitBrat
