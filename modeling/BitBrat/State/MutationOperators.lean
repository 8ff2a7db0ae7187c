import BitBrat.State.History

/-! The operators of mutations: what they mean, and when the stored value is what they amount to. -/

namespace BitBrat

open Js Machine

/-- The number that an increment starts from, where an absent value counts as zero. -/
def numberAt : Option Value → Option Number
  | none => some (.finite 0)
  | some (.num number) => some number
  -- Nothing can be added to any other value.
  | some _ => none

/-- The list that a push appends to, where an absent value counts as no items. -/
def listAt : Option Value → Option (List Value)
  | none => some []
  | some (.arr items) => some items
  | some _ => none

def MutationOp.meaning (op : MutationOp) (value : Value) (current : Option Value) :
    Option (Option Value) :=
  match op with
  | .set => some (some value)
  | .delete => some none
  | .increment =>
    match numberAt current, value with
    | some number, .num amount => some (some (.num (number.add amount)))
    | _, _ => none
  | .push => (listAt current).map fun items => some (.arr (items ++ [value]))

/-- The operators of some mutations, applied one after the other to an absent value. -/
def foldOperators (mutations : List MutationProposal) : Option (Option Value) :=
  mutations.foldlM (fun current mutation => mutation.op.meaning mutation.value current) none

def acceptedMutations (backend : Backend) (allowedKeys : List String) (key : String) :
    StateCollections → List MutationMessage → List MutationProposal
  | _, [] => []
  | store, message :: rest =>
    let later := acceptedMutations backend allowedKeys key
      (mutationStep backend allowedKeys store message) rest
    if message.mutation.key = key ∧ refusal allowedKeys store message.mutation = none then
      message.mutation :: later
    else later

def StateCollections.currentValue (store : StateCollections) (key : String) : Option Value :=
  (store.state.get? key).map (·.value)

/-- Wherever the operators mean anything together, the value under the key is what they mean. -/
def OperatorsFold (mutations : List MutationProposal) (store : StateCollections) (key : String) :
    Prop :=
  ∀ result, foldOperators mutations = some result → store.currentValue key = result

/-- The last mutation means just that its own value is there from now on, if it means anything. -/
def LastReplaces (mutations : List MutationProposal) : Prop :=
  match mutations.getLast? with
  | none => True
  | some last =>
    ∀ current, foldOperators mutations.dropLast = some current →
      match last.op with
      | .set => True
      -- No value is there after a deletion.
      | .delete => False
      | .increment => ∀ number amount, numberAt current = some number → last.value = .num amount →
          number.add amount = amount
      -- A list is never its own last item.
      | .push => listAt current = none

section

variable {backend : Backend} {allowedKeys : List String} {store : StateCollections}
  {message : MutationMessage} {key : String}

theorem currentValue_setState (store : StateCollections) (written other : String)
    (snapshot : StateSnapshot) :
    (store.setState written snapshot).currentValue other =
      if other = written then some snapshot.value else store.currentValue other := by
  simp only [StateCollections.currentValue, StateCollections.setState, OrderedMap.get?_set]
  split <;> rfl

theorem currentValue_mutationStep :
    (mutationStep backend allowedKeys store message).currentValue key =
      if message.mutation.key = key ∧ refusal allowedKeys store message.mutation = none then
        some message.mutation.value
      else store.currentValue key := by
  -- A refused mutation writes nothing, and an accepted one writes its value and nothing else.
  cases refused : refusal allowedKeys store message.mutation with
  | some error =>
    -- A refusal is logged, and leaves the state.
    rw [mutationStep_of_refused refused, if_neg (by simp)]
    rfl
  | none =>
    rw [mutationStep_of_accepted refused]
    have written := currentValue_setState store message.mutation.key key
      (mutationSnapshot message.mutation message.stamp.updatedAt
        (store.currentVersion message.mutation.key + 1))
    -- The log entry does not touch the state.
    refine Eq.trans written ?_
    by_cases same : message.mutation.key = key
    · simp [same, mutationSnapshot]
    · simp [same, Ne.symm same]

theorem currentValue_run (messages : List MutationMessage) :
    (run (mutationStep backend allowedKeys) store messages).currentValue key =
      match (acceptedMutations backend allowedKeys key store messages).getLast? with
      | some last => some last.value
      | none => store.currentValue key := by
  -- The induction is on the deliveries, for every store before them.
  induction messages generalizing store with
  | nil => rfl
  | cons message rest ih =>
    rw [run_cons, ih, acceptedMutations]
    have stepped : (mutationStep backend allowedKeys store message).currentValue key = _ :=
      currentValue_mutationStep
    -- Only where no later mutation is accepted does the first one decide.
    split_ifs at stepped ⊢ with accepted
    · rw [List.getLast?_cons]
      cases (acceptedMutations backend allowedKeys key
        (mutationStep backend allowedKeys store message) rest).getLast? with
      | none => exact stepped
      | some last => rfl
    · rw [stepped]

end

theorem ne_arr_append (items : List Value) (value : Value) :
    value ≠ .arr (items ++ [value]) := by
  intro same
  -- The list would be larger than itself.
  have smaller : sizeOf value < sizeOf (items ++ [value]) :=
    List.sizeOf_lt_of_mem (List.mem_append_right items (List.mem_singleton_self value))
  have larger : sizeOf value = 1 + sizeOf (items ++ [value]) := by
    conv_lhs => rw [same]
    simp only [Value.arr.sizeOf_spec]
  omega

theorem foldOperators_concat (earlier : List MutationProposal) (last : MutationProposal) :
    foldOperators (earlier ++ [last]) =
      (foldOperators earlier).bind (last.op.meaning last.value) := by
  simp only [foldOperators, List.foldlM_append, List.foldlM_cons, List.foldlM_nil, bind_pure]
  rfl

theorem meaning_iff_replaces (last : MutationProposal) (current : Option Value) :
    (∀ result, last.op.meaning last.value current = some result → some last.value = result) ↔
      match last.op with
      | .set => True
      | .delete => False
      | .increment => ∀ number amount, numberAt current = some number → last.value = .num amount →
          number.add amount = amount
      | .push => listAt current = none := by
  -- One case for each operator.
  cases op : last.op with
  | set => simp [MutationOp.meaning]
  | delete => simp [MutationOp.meaning]
  | increment =>
    simp only [MutationOp.meaning]
    constructor
    · intro replaced number amount at_number is_amount
      have summed := replaced (some (.num (number.add amount)))
        (by rw [at_number, is_amount])
      rw [is_amount] at summed
      simpa using summed.symm
    · intro absorbed result means
      -- The meaning is a sum only where there are two numbers to add.
      split at means
      · rename_i number amount at_number is_amount
        cases means
        rw [is_amount, absorbed number amount at_number is_amount]
      · cases means
  | push =>
    simp only [MutationOp.meaning]
    constructor
    · intro replaced
      -- A list would have to be its own last item.
      cases at_list : listAt current with
      | none => rfl
      | some items =>
        have same := replaced (some (.arr (items ++ [last.value]))) (by rw [at_list]; rfl)
        exact absurd (Option.some.inj same) (ne_arr_append items last.value)
    · intro no_list result means
      rw [no_list] at means
      cases means

/--
The stored value is the fold of the accepted operators exactly when the last one only replaces.

Both stores write the value of the mutation whatever its operator is.
-/
theorem operatorsFold_iff (backend : Backend) (allowedKeys : List String) (key : String)
    (messages : List MutationMessage) :
    OperatorsFold (acceptedMutations backend allowedKeys key .empty messages)
        (run (mutationStep backend allowedKeys) .empty messages) key ↔
      LastReplaces (acceptedMutations backend allowedKeys key .empty messages) := by
  -- What is stored is the last accepted value, and the fold has to come to just that.
  have stored : (run (mutationStep backend allowedKeys) .empty messages).currentValue key = _ :=
    currentValue_run messages
  unfold OperatorsFold LastReplaces
  rw [stored]
  generalize acceptedMutations backend allowedKeys key .empty messages = mutations
  -- Either no mutation was accepted, or there is a last one behind the earlier ones.
  rcases List.eq_nil_or_concat' mutations with rfl | ⟨earlier, last, rfl⟩
  · simp [foldOperators, StateCollections.currentValue, StateCollections.empty]
  · simp only [List.getLast?_append, List.getLast?_singleton, Option.some_or,
      List.dropLast_concat, foldOperators_concat]
    constructor
    · intro folded current before
      refine (meaning_iff_replaces last current).mp fun result means => folded result ?_
      rw [before, Option.bind_some, means]
    · intro replaces result means
      -- What the earlier operators amount to is what the last one applies to.
      obtain ⟨current, before, at_last⟩ := Option.bind_eq_some_iff.mp means
      exact (meaning_iff_replaces last current).mpr (replaces current before) result at_last

def countUp (id : String) (amount : ℚ) : MutationMessage where
  mutation := {
    id, op := .increment, key := "stream.count", value := .num (.finite amount)
    actor := "llm-bot", reason := "count", ts := "2024-01-01T00:00:00.000Z" }
  stamp := {
    updatedAt := "2024-01-01T00:00:01.000Z", committedAt := "2024-01-01T00:00:01.000Z"
    rejectedAt := "2024-01-01T00:00:01.000Z" }

/-- Counting up by one and then by two stores two. -/
theorem increments_do_not_add :
    ¬ ∀ (backend : Backend) (allowedKeys : List String) (key : String)
        (messages : List MutationMessage),
      OperatorsFold (acceptedMutations backend allowedKeys key .empty messages)
        (run (mutationStep backend allowedKeys) .empty messages) key := by
  intro folds
  -- The two operators amount to three.
  have stored := folds .firestore ["stream.*"] "stream.count" [countUp "m-1" 1, countUp "m-2" 2]
    (some (.num (.finite 3))) (by decide +kernel)
  revert stored
  decide +kernel

end BitBrat
