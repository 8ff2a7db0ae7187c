import BitBrat.Logging.Redaction
import BitBrat.Machine.Cells

/-! Masking among the objects of the caller: what is returned is new, and nothing else changes. -/

namespace BitBrat

open Js Machine

/-- What a variable holds: a primitive value, or a reference to an array or object. -/
inductive Slot where
  | undefined
  | null
  | bool (flag : Bool)
  | num (number : Number)
  | text (units : CodeUnits)
  | ref (cell : Nat)

inductive LogCell where
  | arr (items : List Slot)
  | obj (properties : List (CodeUnits × Slot))

def LogCell.assign (key : CodeUnits) (slot : Slot) : LogCell → LogCell
  | .obj properties => .obj (properties ++ [(key, slot)])
  | .arr items => .arr items

def assignProperty (out : Nat) (key : CodeUnits) (slot : Slot) (memory : Cells LogCell) :
    Cells LogCell :=
  if key = PROTO_KEY then memory
  else memory.write out ((memory.get out).assign key slot)

mutual

/-- Mask the secrets of a value: the result, and the memory with what was made for it. -/
def redactAnyIn (key : CodeUnits) : LogValue → Cells LogCell → Slot × Cells LogCell
  | .text text, memory =>
    (.text (if sensitiveKey key || looksLikeSecret text then maskString text else text), memory)
  | .arr items, memory =>
    let (slots, memory) := redactItemsIn 0 items memory
    (.ref memory.next, memory.push (.arr slots))
  | .obj properties, memory =>
    (.ref memory.next, redactPropertiesIn memory.next properties (memory.push (.obj [])))
  | .undefined, memory => (.undefined, memory)
  | .null, memory => (.null, memory)
  | .bool flag, memory => (.bool flag, memory)
  | .num number, memory => (.num number, memory)

def redactItemsIn (index : Nat) : List LogValue → Cells LogCell → List Slot × Cells LogCell
  | [], memory => ([], memory)
  | item :: rest, memory =>
    let (slot, memory) := redactAnyIn (codeUnits (toString index)) item memory
    let (slots, memory) := redactItemsIn (index + 1) rest memory
    (slot :: slots, memory)

def redactPropertiesIn (out : Nat) :
    List (CodeUnits × LogValue) → Cells LogCell → Cells LogCell
  | [], memory => memory
  | (key, value) :: rest, memory =>
    let (slot, memory) :=
      if sensitiveKey key then
        match value with
        | .text text => (.text (maskString text), memory)
        | .arr _ | .obj _ => redactAnyIn key value memory
        | _ => (.text (codeUnits "***"), memory)
      else redactAnyIn key value memory
    redactPropertiesIn out rest (assignProperty out key slot memory)

end

mutual

/-- A slot holds a value, of which all references are from the given one on. -/
def Reads (first : Nat) (memory : Cells LogCell) : LogValue → Slot → Prop
  | .undefined, slot => slot = .undefined
  | .null, slot => slot = .null
  | .bool flag, slot => slot = .bool flag
  | .num number, slot => slot = .num number
  | .text text, slot => slot = .text text
  | .arr items, slot => ∃ cell slots, slot = .ref cell ∧ first ≤ cell ∧ cell < memory.next ∧
      memory.get cell = .arr slots ∧ ReadsItems first memory items slots
  | .obj properties, slot => ∃ cell slots, slot = .ref cell ∧ first ≤ cell ∧ cell < memory.next ∧
      memory.get cell = .obj slots ∧ ReadsProperties first memory properties slots

def ReadsItems (first : Nat) (memory : Cells LogCell) : List LogValue → List Slot → Prop
  | [], slots => slots = []
  | item :: rest, slots => ∃ slot others, slots = slot :: others ∧
      Reads first memory item slot ∧ ReadsItems first memory rest others

def ReadsProperties (first : Nat) (memory : Cells LogCell) :
    List (CodeUnits × LogValue) → List (CodeUnits × Slot) → Prop
  | [], slots => slots = []
  | (key, value) :: rest, slots => ∃ slot others, slots = (key, slot) :: others ∧
      Reads first memory value slot ∧ ReadsProperties first memory rest others

end

structure Holds (first : Nat) (memory later : Cells LogCell) : Prop where
  grows : memory.next ≤ later.next
  same : ∀ cell, first ≤ cell → cell < memory.next → later.get cell = memory.get cell

section

variable {first lower : Nat} {memory later : Cells LogCell}

mutual

theorem Reads.later (holds : Holds first memory later) (below : lower ≤ first) :
    ∀ {value : LogValue} {slot : Slot}, Reads first memory value slot → Reads lower later value slot
  | .undefined, _, reads => reads
  | .null, _, reads => reads
  | .bool _, _, reads => reads
  | .num _, _, reads => reads
  | .text _, _, reads => reads
  | .arr _, _, ⟨cell, slots, ref, above, inside, found, items⟩ =>
    ⟨cell, slots, ref, below.trans above, inside.trans_le holds.grows,
      (holds.same cell above inside).trans found, ReadsItems.later holds below items⟩
  | .obj _, _, ⟨cell, slots, ref, above, inside, found, properties⟩ =>
    ⟨cell, slots, ref, below.trans above, inside.trans_le holds.grows,
      (holds.same cell above inside).trans found, ReadsProperties.later holds below properties⟩

theorem ReadsItems.later (holds : Holds first memory later) (below : lower ≤ first) :
    ∀ {items : List LogValue} {slots : List Slot}, ReadsItems first memory items slots →
      ReadsItems lower later items slots
  | [], _, reads => reads
  | _ :: _, _, ⟨slot, others, listed, item, rest⟩ =>
    ⟨slot, others, listed, Reads.later holds below item, ReadsItems.later holds below rest⟩

theorem ReadsProperties.later (holds : Holds first memory later) (below : lower ≤ first) :
    ∀ {properties : List (CodeUnits × LogValue)} {slots : List (CodeUnits × Slot)},
      ReadsProperties first memory properties slots →
      ReadsProperties lower later properties slots
  | [], _, reads => reads
  | (_, _) :: _, _, ⟨slot, others, listed, value, rest⟩ =>
    ⟨slot, others, listed, Reads.later holds below value, ReadsProperties.later holds below rest⟩

end

end

theorem Holds.refl (first : Nat) (memory : Cells LogCell) : Holds first memory memory where
  grows := Nat.le_refl _
  same := fun _ _ _ => rfl

private theorem Holds.of_keeps {memory later : Cells LogCell} (keeps : memory.Keeps later)
    (first : Nat) : Holds first memory later where
  grows := keeps.grows
  same := fun cell _ inside => keeps.same cell inside

private theorem Holds.of_write (memory : Cells LogCell) (out : Nat) (cell : LogCell) :
    Holds (out + 1) memory (memory.write out cell) where
  grows := Nat.le_refl _
  same := by
    intro other above _
    have apart : other ≠ out := by omega
    exact Function.update_of_ne apart ..

theorem ReadsProperties.append {first : Nat} {memory : Cells LogCell} {key : CodeUnits}
    {value : LogValue} {slot : Slot} (reads : Reads first memory value slot) :
    ∀ {done : List (CodeUnits × LogValue)} {slots : List (CodeUnits × Slot)},
      ReadsProperties first memory done slots →
      ReadsProperties first memory (done ++ [(key, value)]) (slots ++ [(key, slot)])
  | [], _, rfl => ⟨slot, [], rfl, reads, rfl⟩
  | (_, _) :: _, _, ⟨held, others, listed, here, rest⟩ =>
    ⟨held, others ++ [(key, slot)], by rw [listed]; rfl, here, ReadsProperties.append reads rest⟩

def redactPropertyIn (key : CodeUnits) (value : LogValue) (memory : Cells LogCell) :
    Slot × Cells LogCell :=
  if sensitiveKey key then
    match value with
    | .text text => (.text (maskString text), memory)
    | .arr _ | .obj _ => redactAnyIn key value memory
    | _ => (.text (codeUnits "***"), memory)
  else redactAnyIn key value memory

/-- What a program makes for a value: new objects that hold the result, beside the old ones. -/
structure Makes (memory : Cells LogCell) (value : LogValue) (made : Slot × Cells LogCell) :
    Prop where
  keeps : memory.Keeps made.2
  reads : Reads memory.next made.2 value made.1

theorem makes_redactPropertyIn {key : CodeUnits} {value : LogValue} {memory : Cells LogCell}
    (makes : Makes memory (redactAny key value) (redactAnyIn key value memory)) :
    Makes memory (redactProperty key value) (redactPropertyIn key value memory) := by
  unfold redactProperty redactPropertyIn
  split
  · cases value with
    | arr items => exact makes
    | obj properties => exact makes
    | _ => exact ⟨Cells.Keeps.refl memory, rfl⟩
  · exact makes

/-- The loop over the properties of an object, from a memory in which some have been assigned. -/
structure Assigns (out : Nat) (memory later : Cells LogCell)
    (properties : List (CodeUnits × LogValue)) : Prop where
  grows : memory.next ≤ later.next
  same : ∀ cell < memory.next, cell ≠ out → later.get cell = memory.get cell
  reads : ∃ slots, later.get out = .obj slots ∧
    ReadsProperties (out + 1) later properties slots

private theorem Assigns.of_keeps {out : Nat} {memory middle later : Cells LogCell}
    {properties : List (CodeUnits × LogValue)} (keeps : memory.Keeps middle)
    (assigns : Assigns out middle later properties) : Assigns out memory later properties where
  grows := keeps.grows.trans assigns.grows
  same := fun cell old other =>
    (assigns.same cell (old.trans_le keeps.grows) other).trans (keeps.same cell old)
  reads := assigns.reads

private theorem Assigns.of_write {out : Nat} {memory later : Cells LogCell} {cell : LogCell}
    {properties : List (CodeUnits × LogValue)}
    (assigns : Assigns out (memory.write out cell) later properties) :
    Assigns out memory later properties where
  grows := assigns.grows
  same := fun other old apart =>
    (assigns.same other old apart).trans (Function.update_of_ne apart ..)
  reads := assigns.reads

mutual

theorem makes_redactAnyIn (key : CodeUnits) (memory : Cells LogCell) :
    ∀ value : LogValue, Makes memory (redactAny key value) (redactAnyIn key value memory)
  | .undefined | .null | .bool _ | .num _ | .text _ => ⟨Cells.Keeps.refl memory, rfl⟩
  | .arr items => by
    obtain ⟨keeps, reads⟩ := makes_redactItemsIn 0 memory items
    have pushed := (Cells.Keeps.refl (redactItemsIn 0 items memory).2).push
      (.arr (redactItemsIn 0 items memory).1)
    refine ⟨keeps.push _, _, _, rfl, keeps.grows, Nat.lt_succ_self _, Cells.get_push .., ?_⟩
    exact reads.later (.of_keeps pushed _) (Nat.le_refl _)
  | .obj properties => by
    -- The new object is made first, and every assignment writes to it.
    obtain ⟨grows, same, slots, found, reads⟩ := assigns_redactPropertiesIn memory.next
      (memory.push (.obj [])) (Nat.lt_succ_self _) [] ⟨[], Cells.get_push .., rfl⟩ properties
    have pushed := (Cells.Keeps.refl memory).push (.obj [])
    refine ⟨⟨pushed.grows.trans grows, ?_⟩, _, slots, rfl, Nat.le_refl _, grows, found, ?_⟩
    · intro cell old
      have other : cell ≠ memory.next := by omega
      exact (same cell (old.trans_le pushed.grows) other).trans (pushed.same cell old)
    · exact reads.later (.refl _ _) (Nat.le_succ _)

theorem makes_redactItemsIn (index : Nat) (memory : Cells LogCell) :
    ∀ items : List LogValue,
      memory.Keeps (redactItemsIn index items memory).2 ∧
      ReadsItems memory.next (redactItemsIn index items memory).2 (redactItems index items)
        (redactItemsIn index items memory).1
  | [] => ⟨Cells.Keeps.refl memory, rfl⟩
  | item :: rest => by
    obtain ⟨keeps, reads⟩ := makes_redactAnyIn (codeUnits (toString index)) memory item
    obtain ⟨keepsRest, readsRest⟩ := makes_redactItemsIn (index + 1)
      (redactAnyIn (codeUnits (toString index)) item memory).2 rest
    exact ⟨keeps.trans keepsRest, _, _, rfl, reads.later (.of_keeps keepsRest _) (Nat.le_refl _),
      readsRest.later (.refl _ _) keeps.grows⟩

theorem assigns_redactPropertiesIn (out : Nat) (memory : Cells LogCell)
    (inside : out < memory.next) (done : List (CodeUnits × LogValue))
    (reads : ∃ slots, memory.get out = .obj slots ∧
      ReadsProperties (out + 1) memory done slots) :
    ∀ properties : List (CodeUnits × LogValue),
      Assigns out memory (redactPropertiesIn out properties memory)
        (done ++ redactProperties properties)
  | [] => ⟨Nat.le_refl _, fun _ _ _ => rfl, by rwa [redactProperties, List.append_nil]⟩
  | (key, value) :: rest => by
    obtain ⟨keeps, made⟩ := makes_redactPropertyIn (makes_redactAnyIn key memory value)
    obtain ⟨slots, found, held⟩ := reads
    have still := (keeps.same out inside).trans found
    have later := held.later (.of_keeps keeps _) (Nat.le_refl _)
    change Assigns out memory (redactPropertiesIn out rest (assignProperty out key
      (redactPropertyIn key value memory).1 (redactPropertyIn key value memory).2)) _
    have inner := inside.trans_le keeps.grows
    apply Assigns.of_keeps keeps
    unfold assignProperty
    split
    · rename_i proto
      rw [redactProperties_cons, if_pos proto]
      exact assigns_redactPropertiesIn out _ inner done ⟨slots, still, later⟩ rest
    · rename_i named
      -- The property comes to stand behind those that have been assigned.
      have more : done ++ (key, redactProperty key value) :: redactProperties rest =
          (done ++ [(key, redactProperty key value)]) ++ redactProperties rest := by
        simp
      have assigned : LogCell.assign key (redactPropertyIn key value memory).1
          ((redactPropertyIn key value memory).2.get out) =
          .obj (slots ++ [(key, (redactPropertyIn key value memory).1)]) := by
        rw [still]
        rfl
      rw [redactProperties_cons, if_neg named, more, assigned]
      apply Assigns.of_write
      refine assigns_redactPropertiesIn out ((redactPropertyIn key value memory).2.write out _)
        inner _ ⟨_, Cells.get_write .., ?_⟩ rest
      apply ReadsProperties.append
      · have behind := made.later (.refl _ _) (Nat.succ_le_of_lt inside)
        exact behind.later (.of_write _ out _) (Nat.le_refl _)
      · exact later.later (.of_write _ out _) (Nat.le_refl _)

end

def redactSecretsIn (value : LogValue) (memory : Cells LogCell) : Slot × Cells LogCell :=
  redactAnyIn [] value memory

theorem sensitiveKey_lastKey {path : List LogStep} (key : CodeUnits)
    (ends : atSensitive path = true) : sensitiveKey (lastKey key path) = true := by
  unfold atSensitive at ends
  unfold lastKey
  cases last : path.getLast? with
  | none => simp [last] at ends
  | some step =>
    cases step with
    | key name => simpa [last, LogStep.sensitive, LogStep.keyText] using ends
    | index position => simp [last, LogStep.sensitive] at ends

theorem masksAt_atSensitive (value : LogValue) : MasksAt atSensitive value := by
  intro path text found must
  split
  · rename_i assignable
    have secret : (sensitiveKey (lastKey [] path) || looksLikeSecret text) = true := by
      rcases Bool.or_eq_true_iff.mp must with ends | looks
      · simp [sensitiveKey_lastKey [] ends]
      · simp [looks]
    rw [redactSecrets, at?_redactAny assignable found, if_pos secret]
  · rename_i lost
    exact at?_redactAny_proto [] value (Bool.eq_false_iff.mpr lost)

/--
Every text that is itself the value of a sensitive key, and every text that looks like a secret, is
masked at any depth; masks show little; the result is made of new objects, and nothing else changes.
-/
theorem redactSecrets_masks (value : LogValue) (memory : Cells LogCell) :
    MasksAt atSensitive value ∧
    (∀ text, ShowsLittle (halfHiddenFrom text) text) ∧
    Reads memory.next (redactSecretsIn value memory).2 (redactSecrets value)
      (redactSecretsIn value memory).1 ∧
    memory.Keeps (redactSecretsIn value memory).2 ∧
    ∀ first slot, Reads first memory value slot →
      Reads first (redactSecretsIn value memory).2 value slot := by
  obtain ⟨keeps, reads⟩ := makes_redactAnyIn [] memory value
  refine ⟨masksAt_atSensitive value, maskString_showsLittle, reads, keeps, ?_⟩
  intro first slot held
  exact held.later (.of_keeps keeps first) (Nat.le_refl first)

def passwordList : LogValue := .obj [(codeUnits "password", .arr [.text (codeUnits "hunter22")])]

/-- A text in an array below a sensitive key stays as it is, and a mask of eight characters hides
two of them. -/
theorem redactSecrets_leaks :
    (¬ ∀ input, MasksAt belowSensitive input) ∧ ¬ ∀ text, ShowsLittle 8 text := by
  constructor
  · intro masks
    have masked := masks passwordList [.key (codeUnits "password"), .index 0]
      (codeUnits "hunter22") rfl (by decide)
    have plain : (redactSecrets passwordList).at? [.key (codeUnits "password"), .index 0] =
        some (.text (codeUnits "hunter22")) := rfl
    rw [plain, if_pos (by decide)] at masked
    have same := LogValue.text.inj (Option.some.inj masked)
    exact absurd same (by decide)
  · intro little
    obtain ⟨shown, hidden, last, whole, masked, _, _, half⟩ := little (codeUnits "hunter22")
    have eight : (codeUnits "hunter22").length = 8 := by decide
    have nine : (maskString (codeUnits "hunter22")).length = 9 := by decide
    have three : (codeUnits "***").length = 3 := by decide
    have enough := half eight.ge
    rw [masked] at nine
    rw [whole] at eight enough
    simp only [List.length_append] at eight nine enough
    omega

end BitBrat
