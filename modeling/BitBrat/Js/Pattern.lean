import Mathlib.Data.List.Basic
import Mathlib.Data.List.TakeWhile

/-! Backtracking patterns without look-around: their matches by preference, and replacement. -/

namespace Js

inductive Pattern where
  | lit (text : List Char)
  /-- One or more characters that are kept, as many as possible first. -/
  | run (keep : Char → Bool)
  | optional (inner : Pattern)
  | seq (first next : Pattern)
  | alt (first next : Pattern)
  | group (inner : Pattern)

/-- A match: how many characters it takes, and the remembered text, if there is one. -/
structure Match where
  size : Nat
  group : Option (List Char) := none
  deriving DecidableEq

namespace Pattern

def matchesAt : Pattern → List Char → List Match
  | lit text, chars => if text.isPrefixOf chars then [{ size := text.length }] else []
  | run keep, chars =>
    -- A shorter run is only tried after a longer one has failed.
    (List.range (chars.takeWhile keep).length).reverse.map fun shorter => { size := shorter + 1 }
  | optional inner, chars => inner.matchesAt chars ++ [{ size := 0 }]
  | seq first next, chars =>
    (first.matchesAt chars).flatMap fun left =>
      (next.matchesAt (chars.drop left.size)).map fun right =>
        { size := left.size + right.size, group := right.group.or left.group }
  | alt first next, chars => first.matchesAt chars ++ next.matchesAt chars
  | group inner, chars =>
    (inner.matchesAt chars).map fun found => { found with group := some (chars.take found.size) }

def first? (pattern : Pattern) (chars : List Char) : Option Match :=
  (pattern.matchesAt chars).head?

theorem filter_range (count bound : Nat) :
    (List.range count).filter (fun number => number + 1 ≤ bound) =
      List.range (min count bound) := by
  induction count with
  | zero => simp
  | succ count ih =>
    rw [List.range_succ, List.filter_append, ih]
    -- The last number of a longer range is kept exactly while it fits.
    by_cases fits : count + 1 ≤ bound
    · have last : min (count + 1) bound = min count bound + 1 := by omega
      have whole : min count bound = count := by omega
      have kept : [count].filter (fun number => number + 1 ≤ bound) = [count] :=
        List.filter_cons_of_pos (decide_eq_true fits)
      rw [last, List.range_succ, whole, kept]
    · have same : min (count + 1) bound = min count bound := by omega
      have dropped : [count].filter (fun number => number + 1 ≤ bound) = [] :=
        List.filter_cons_of_neg fun yes => fits (of_decide_eq_true yes)
      rw [same, dropped, List.append_nil]

theorem flatMap_of_filter {α β : Type} {items : List α} {keep : α → Bool}
    {results others : α → List β}
    (kept : ∀ item ∈ items, keep item = true → results item = others item)
    (dropped : ∀ item ∈ items, keep item = false → results item = []) :
    items.flatMap results = (items.filter keep).flatMap others := by
  induction items with
  | nil => rfl
  | cons item rest ih =>
    have below := ih (fun other member => kept other (List.mem_cons_of_mem _ member))
      fun other member => dropped other (List.mem_cons_of_mem _ member)
    -- An item that is dropped contributes nothing on either side.
    cases holds : keep item with
    | true =>
      rw [List.flatMap_cons, List.filter_cons_of_pos holds, List.flatMap_cons, below,
        kept item List.mem_cons_self holds]
    | false =>
      rw [List.flatMap_cons, List.filter_cons_of_neg (by simp [holds]), below,
        dropped item List.mem_cons_self holds, List.nil_append]

theorem filter_matchesAt (pattern : Pattern) (near far : List Char) :
    (pattern.matchesAt (near ++ far)).filter (fun found => found.size ≤ near.length) =
      pattern.matchesAt near := by
  induction pattern generalizing near with
  | lit text =>
    simp only [matchesAt]
    by_cases fits : text.length ≤ near.length
    · -- Whether a short text stands at the start is decided within the first part.
      have same : text.isPrefixOf (near ++ far) = text.isPrefixOf near := by
        rw [Bool.eq_iff_iff, List.isPrefixOf_iff_prefix, List.isPrefixOf_iff_prefix]
        constructor
        · intro leads
          exact List.prefix_of_prefix_length_le leads (List.prefix_append near far) fits
        · intro leads
          exact leads.trans (List.prefix_append near far)
      rw [same]
      split <;> simp [fits]
    · -- A longer text stands nowhere in the first part, and its match is filtered out.
      have short : text.isPrefixOf near = false := by
        rw [Bool.eq_false_iff]
        intro leads
        exact fits (List.isPrefixOf_iff_prefix.mp leads).length_le
      rw [short]
      split <;> simp [fits]
  | run keep =>
    simp only [matchesAt]
    -- The run may go on behind the first part, and is cut there.
    have cut : min ((near ++ far).takeWhile keep).length near.length =
        (near.takeWhile keep).length := by
      have short : (near.takeWhile keep).length ≤ near.length :=
        (List.takeWhile_prefix keep).length_le
      rw [List.takeWhile_append]
      split
      · rename_i whole
        rw [List.length_append, whole]
        omega
      · omega
    rw [List.filter_map, List.filter_reverse, ← cut, ← filter_range]
    rfl
  | optional inner ih => simp [matchesAt, List.filter_append, ih]
  | alt first next ih_first ih_next =>
    simp only [matchesAt, List.filter_append, ih_first, ih_next]
  | group inner ih =>
    simp only [matchesAt]
    rw [List.filter_map, ← ih near]
    refine List.map_congr_left fun found member => ?_
    -- What is remembered of a near match is remembered from the first part.
    have near_found : found.size ≤ near.length := by simpa using (List.mem_filter.mp member).2
    rw [List.take_append_of_le_length near_found]
  | seq first next ih_first ih_next =>
    simp only [matchesAt]
    rw [List.filter_flatMap, ← ih_first near]
    refine flatMap_of_filter ?_ ?_
    · intro left _ near_left
      have fits : left.size ≤ near.length := by simpa using near_left
      -- What the second pattern may take is what the first one leaves of the first part.
      rw [List.drop_append_of_le_length fits, ← ih_next (near.drop left.size), List.filter_map]
      refine congrArg _ (List.filter_congr fun right _ => ?_)
      simp only [Function.comp_apply, List.length_drop, decide_eq_decide]
      omega
    · -- Where the first pattern takes too much, so does every continuation.
      intro left _ far_left
      have beyond : ¬ left.size ≤ near.length := by simpa using far_left
      rw [List.filter_eq_nil_iff]
      intro found member
      obtain ⟨right, _, rfl⟩ := List.mem_map.mp member
      simp only [decide_eq_true_eq]
      omega

theorem first?_of_append {pattern : Pattern} {near far : List Char} {found : Match}
    (matched : pattern.first? (near ++ far) = some found) (fits : found.size ≤ near.length) :
    pattern.first? near = some found := by
  unfold first? at matched ⊢
  obtain ⟨rest, listed⟩ := List.head?_eq_some_iff.mp matched
  rw [← filter_matchesAt pattern near far, listed, List.filter_cons_of_pos (by simpa using fits)]
  rfl

theorem first?_none_of_append {pattern : Pattern} {near far : List Char}
    (unmatched : pattern.first? (near ++ far) = none) : pattern.first? near = none := by
  unfold first? at unmatched ⊢
  rw [List.head?_eq_none_iff] at unmatched ⊢
  rw [← filter_matchesAt pattern near far, unmatched, List.filter_nil]

end Pattern

/--
Replace every match of a pattern, from left to right.

The patterns that are replaced take at least one character, and so many are skipped behind the
place at which one has matched.
-/
def replaceAll (pattern : Pattern) (replace : Match → List Char → List Char) :
    Nat → List Char → List Char
  | _, [] => []
  -- What a match has taken is passed over.
  | skip + 1, _ :: rest => replaceAll pattern replace skip rest
  | 0, char :: rest =>
    match pattern.first? (char :: rest) with
    | some found =>
      replace found ((char :: rest).take found.size) ++
        replaceAll pattern replace (found.size - 1) rest
    | none => char :: replaceAll pattern replace 0 rest

/-- A piece of a template: a character of its own, or a hole for a value. -/
inductive Piece (Hole : Type) where
  | char (letter : Char)
  | hole (name : Hole)

namespace Piece

variable {Hole : Type}

def fill (value : Hole → List Char) : List (Piece Hole) → List Char
  | [] => []
  | .char letter :: rest => letter :: fill value rest
  | .hole name :: rest => value name ++ fill value rest

def leading : List (Piece Hole) → List Char
  | .char letter :: rest => letter :: leading rest
  | _ => []

/-- What follows the characters before the first hole. -/
def trailing : List (Piece Hole) → List (Piece Hole)
  | .char _ :: rest => trailing rest
  | pieces => pieces

def replacePieces (pattern : Pattern) (replace : Match → List Char → List (Piece Hole)) :
    Nat → List (Piece Hole) → List (Piece Hole)
  | _, [] => []
  | skip + 1, _ :: rest => replacePieces pattern replace skip rest
  -- A hole is never part of a match.
  | 0, .hole name :: rest => .hole name :: replacePieces pattern replace 0 rest
  | 0, .char letter :: rest =>
    match pattern.first? (letter :: leading rest) with
    | some found =>
      replace found ((letter :: leading rest).take found.size) ++
        replacePieces pattern replace (found.size - 1) rest
    | none => .char letter :: replacePieces pattern replace 0 rest

def Clean (pattern : Pattern) (value : Hole → List Char) : Nat → List (Piece Hole) → Prop
  | _, [] => True
  | skip + 1, _ :: rest => Clean pattern value skip rest
  | 0, .hole name :: rest =>
    -- No match starts within the value.
    (∀ index < (value name).length,
      pattern.first? ((value name).drop index ++ fill value rest) = none) ∧
      Clean pattern value 0 rest
  | 0, .char letter :: rest =>
    match pattern.first? (letter :: fill value rest) with
    | some found => found.size ≤ (letter :: leading rest).length ∧
        Clean pattern value (found.size - 1) rest
    | none => Clean pattern value 0 rest

instance Clean.decidable (pattern : Pattern) (value : Hole → List Char) :
    ∀ skip pieces, Decidable (Clean pattern value skip pieces)
  | _, [] => inferInstanceAs (Decidable True)
  | skip + 1, _ :: rest => Clean.decidable pattern value skip rest
  | 0, .hole name :: rest =>
    have : Decidable (Clean pattern value 0 rest) := Clean.decidable pattern value 0 rest
    inferInstanceAs (Decidable ((∀ index < (value name).length,
      pattern.first? ((value name).drop index ++ fill value rest) = none) ∧
      Clean pattern value 0 rest))
  | 0, .char letter :: rest => by
    have later (skip : Nat) : Decidable (Clean pattern value skip rest) :=
      Clean.decidable pattern value skip rest
    unfold Clean
    split <;> infer_instance

theorem fill_eq (value : Hole → List Char) (pieces : List (Piece Hole)) :
    fill value pieces = leading pieces ++ fill value (trailing pieces) := by
  induction pieces with
  | nil => rfl
  | cons piece rest ih =>
    cases piece with
    | char letter => simp only [fill, leading, trailing, List.cons_append, ← ih]
    | hole name => rfl

@[simp] theorem fill_append (value : Hole → List Char) (before after : List (Piece Hole)) :
    fill value (before ++ after) = fill value before ++ fill value after := by
  induction before with
  | nil => rfl
  | cons piece rest ih => cases piece <;> simp [fill, ih]

@[simp] theorem fill_chars (value : Hole → List Char) (letters : List Char) :
    fill value (letters.map .char) = letters := by
  induction letters with
  | nil => rfl
  | cons letter rest ih => simp [fill, ih]

theorem replaceAll_of_unmatched {pattern : Pattern}
    {replace : Match → List Char → List Char} {letters rest : List Char}
    (unmatched : ∀ index < letters.length, pattern.first? (letters.drop index ++ rest) = none) :
    replaceAll pattern replace 0 (letters ++ rest) =
      letters ++ replaceAll pattern replace 0 rest := by
  induction letters with
  | nil => rfl
  | cons letter letters ih =>
    -- No match starts at the first character, and none at a later one.
    have here := unmatched 0 (by simp)
    rw [List.drop_zero, List.cons_append] at here
    rw [List.cons_append, replaceAll, here]
    refine congrArg _ (ih fun index below => ?_)
    simpa using unmatched (index + 1) (by simpa using below)

/--
Where every match consists of the template's own characters, replacing in the filled text is
filling after replacing among the pieces.
-/
theorem replaceAll_fill {pattern : Pattern} {value : Hole → List Char}
    {replace : Match → List Char → List Char} {place : Match → List Char → List (Piece Hole)}
    (fills : ∀ found letters, fill value (place found letters) = replace found letters)
    {skip : Nat} {pieces : List (Piece Hole)} (inside : skip ≤ (leading pieces).length)
    (clean : Clean pattern value skip pieces) :
    replaceAll pattern replace skip (fill value pieces) =
      fill value (replacePieces pattern place skip pieces) := by
  -- The induction follows the pieces, whose characters stand one by one in the text.
  induction pieces generalizing skip with
  | nil => cases skip <;> rfl
  | cons piece rest ih =>
    cases piece with
    -- Nothing matches within a value, which is carried over.
    | hole name =>
      have zero : skip = 0 := by simpa [leading] using inside
      subst zero
      obtain ⟨unmatched, later⟩ := clean
      simp only [fill, replacePieces]
      rw [replaceAll_of_unmatched unmatched, ih (Nat.zero_le _) later]
    | char letter =>
      cases skip with
      -- The character was taken by a match before it.
      | succ skip =>
        simp only [fill, replaceAll, replacePieces]
        exact ih (by simpa [leading] using inside) clean
      | zero =>
        simp only [Clean] at clean
        have text : letter :: fill value rest =
            (letter :: leading rest) ++ fill value (trailing rest) := by
          rw [List.cons_append, ← fill_eq]
        simp only [fill, replaceAll, replacePieces]
        cases matched : pattern.first? (letter :: fill value rest) with
        | none =>
          rw [matched] at clean
          have none_near : pattern.first? (letter :: leading rest) = none :=
            Pattern.first?_none_of_append (text ▸ matched)
          simp only [none_near, fill]
          rw [ih (Nat.zero_le _) clean]
        | some found =>
          rw [matched] at clean
          obtain ⟨fits, later⟩ := clean
          -- The match takes neighbouring characters alone, which both texts share.
          have near : pattern.first? (letter :: leading rest) = some found :=
            Pattern.first?_of_append (text ▸ matched) fits
          have below : found.size - 1 ≤ (leading rest).length := by
            simp only [List.length_cons] at fits
            omega
          simp only [near, fill_append, fills]
          rw [ih below later, text, List.take_append_of_le_length fits]

end Piece

end Js
