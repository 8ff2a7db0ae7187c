import Mathlib.Data.List.Infix
import BitBrat.Js.Pattern

/-! Replacing a text where it occurs for the first time. -/

namespace Js

/-- What stands in front of a text where it occurs for the first time, and what follows it. -/
def splitAtText (found : List Char) : List Char → Option (List Char × List Char)
  | [] => if found = [] then some ([], []) else none
  | char :: rest =>
    if found.isPrefixOf (char :: rest) then some ([], (char :: rest).drop found.length)
    else (splitAtText found rest).map fun (before, after) => (char :: before, after)

/-- The text that a replacement stands for, with its references to the text around it. -/
def expandReplacement (before matched after : List Char) : List Char → List Char
  | '$' :: '$' :: rest => '$' :: expandReplacement before matched after rest
  | '$' :: '&' :: rest => matched ++ expandReplacement before matched after rest
  | '$' :: '\'' :: rest => after ++ expandReplacement before matched after rest
  | '$' :: '\x60' :: rest => before ++ expandReplacement before matched after rest
  | char :: rest => char :: expandReplacement before matched after rest
  | [] => []

/-- Replace a text where it occurs for the first time. -/
def replaceFirst (text found replacement : String) : String :=
  match splitAtText found.toList text.toList with
  | some (before, after) =>
    String.ofList (before ++
      expandReplacement before found.toList after replacement.toList ++ after)
  | none => text

/-- The characters after a text is replaced where it occurs for the first time. -/
def replaceFirstIn (text found replacement : List Char) : List Char :=
  match splitAtText found text with
  | some (before, after) => before ++ expandReplacement before found after replacement ++ after
  | none => text

def includesText (text found : String) : Bool := (splitAtText found.toList text.toList).isSome

theorem toList_replaceFirst (text found replacement : String) :
    (replaceFirst text found replacement).toList =
      replaceFirstIn text.toList found.toList replacement.toList := by
  unfold replaceFirst replaceFirstIn
  split <;> simp

theorem splitAtText_eq_some {found text before after : List Char}
    (split : splitAtText found text = some (before, after)) :
    text = before ++ found ++ after ∧
      ∀ index < before.length, ¬ found <+: text.drop index := by
  induction text generalizing before with
  | nil =>
    simp only [splitAtText] at split
    split at split
    · rename_i empty
      obtain ⟨rfl, rfl⟩ : [] = before ∧ [] = after := by simpa using split
      simp [empty]
    · simp at split
  | cons char rest ih =>
    simp only [splitAtText] at split
    split at split
    · rename_i leads
      obtain ⟨rfl, rfl⟩ : [] = before ∧ (char :: rest).drop found.length = after := by
        simpa using split
      have whole := List.prefix_iff_eq_append.mp (List.isPrefixOf_iff_prefix.mp leads)
      exact ⟨by rw [List.nil_append, whole], by simp⟩
    · rename_i absent
      obtain ⟨⟨before', after'⟩, found_later, pair⟩ := Option.map_eq_some_iff.mp split
      obtain ⟨rfl, rfl⟩ : char :: before' = before ∧ after' = after := by simpa using pair
      obtain ⟨whole, earlier⟩ := ih found_later
      refine ⟨by rw [List.cons_append, List.cons_append, ← whole], ?_⟩
      -- The text does not stand at the front, nor earlier in the rest.
      intro index below
      cases index with
      | zero =>
        intro leads
        exact absent (List.isPrefixOf_iff_prefix.mpr leads)
      | succ index => exact earlier index (by simpa using below)

theorem splitAtText_eq_none {found text : List Char}
    (missing : splitAtText found text = none) (index : Nat) : ¬ found <+: text.drop index := by
  induction text generalizing index with
  | nil =>
    intro leads
    have empty : found = [] := by simpa using leads
    simp [splitAtText, empty] at missing
  | cons char rest ih =>
    simp only [splitAtText] at missing
    split at missing
    · simp at missing
    · rename_i absent
      cases index with
      | zero =>
        intro leads
        exact absent (List.isPrefixOf_iff_prefix.mpr leads)
      | succ index => exact ih (by simpa using missing) index

theorem expandReplacement_of_plain {before matched after replacement : List Char}
    (plain : '$' ∉ replacement) :
    expandReplacement before matched after replacement = replacement := by
  induction replacement with
  | nil => rfl
  | cons char rest ih =>
    obtain ⟨other, later⟩ : char ≠ '$' ∧ '$' ∉ rest := by
      simpa [eq_comm] using plain
    unfold expandReplacement
    split <;> simp_all

/-! Filling the named places of a template: all at once, and one name after another. -/

/-- The names of the places of a template, each of which opens with a brace and has no other. -/
structure PlaceNames (Hole : Type) where
  tail : Hole → List Char
  holes : List Hole
  closed : ∀ hole, '\x7b' ∉ tail hole
  distinct : ∀ left right, tail left <+: tail right → left = right

namespace PlaceNames

variable {Hole : Type} (names : PlaceNames Hole)

/-- The name of a place, as it stands in a template. -/
def name (hole : Hole) : List Char := '\x7b' :: names.tail hole

/-- The places and the other characters of a template, from left to right. -/
def pieces : Nat → List Char → List (Piece Hole)
  | _, [] => []
  -- The rest of a name that was read is passed over.
  | skip + 1, _ :: rest => pieces skip rest
  | 0, char :: rest =>
    match names.holes.find? fun hole => (names.name hole).isPrefixOf (char :: rest) with
    | some hole => .hole hole :: pieces (names.tail hole).length rest
    | none => .char char :: pieces 0 rest

/-- A template with every place filled, all at once. -/
def fillAtOnce (value : Hole → List Char) (template : List Char) : List Char :=
  Piece.fill value (names.pieces 0 template)

/-- A text with the first occurrence of one name after another replaced. -/
def fillInTurn (value : Hole → List Char) : List Hole → List Char → List Char
  | [], text => text
  | hole :: rest, text =>
    fillInTurn value rest (replaceFirstIn text (names.name hole) (value hole))

def plug [DecidableEq Hole] (hole : Hole) (text : List Char) : List (Piece Hole) → List (Piece Hole)
  | [] => []
  | .char letter :: rest => .char letter :: plug hole text rest
  | .hole other :: rest =>
    if other = hole then text.map .char ++ plug hole text rest
    else .hole other :: plug hole text rest

/-- Where the name of a place is found first, it stands for the only such place, verbatim. -/
def Settles (hole : Hole) (text : List Char) (template : List (Piece Hole)) : Prop :=
  ∀ before after,
    splitAtText (names.name hole) (Piece.fill names.name template) = some (before, after) →
    expandReplacement before (names.name hole) after text = text ∧
      ∃ front back, template = front ++ .hole hole :: back ∧ .hole hole ∉ front ++ back ∧
        Piece.fill names.name front = before

/-- Each name settles in the template in which the places before it are filled. -/
def Settled [DecidableEq Hole] (value : Hole → List Char) : List Hole → List (Piece Hole) → Prop
  | [], _ => True
  | hole :: rest, template =>
    names.Settles hole (value hole) template ∧
      Settled value rest (plug hole (value hole) template)

def Plain (text : List Char) : Prop :=
  ∃ first rest, text = first :: rest ∧ first ≠ '\x7b' ∧ '$' ∉ text

/-- Each name settles, up to one from which on all values are plain. -/
def PlainFrom [DecidableEq Hole] (value : Hole → List Char) : List Hole → List (Piece Hole) → Prop
  | [], _ => True
  | hole :: rest, template =>
    (∀ other ∈ hole :: rest, Plain (value other)) ∨
      names.Settles hole (value hole) template ∧
        PlainFrom value rest (plug hole (value hole) template)

theorem fill_name_pieces (skip : Nat) (template : List Char) :
    Piece.fill names.name (names.pieces skip template) = template.drop skip := by
  induction template generalizing skip with
  | nil => cases skip <;> rfl
  | cons char rest ih =>
    cases skip with
    | succ skip => simpa [pieces] using ih skip
    | zero =>
      simp only [pieces, List.drop_zero]
      split
      · rename_i hole found
        have leads : names.name hole <+: char :: rest := by
          simpa using List.find?_some found
        have whole := List.prefix_iff_eq_append.mp leads
        simpa [Piece.fill, ih, name] using whole
      · simp [Piece.fill, ih]

@[simp] theorem plug_append [DecidableEq Hole] (hole : Hole) (text : List Char)
    (front back : List (Piece Hole)) :
    plug hole text (front ++ back) = plug hole text front ++ plug hole text back := by
  induction front with
  | nil => rfl
  | cons piece rest ih =>
    cases piece with
    | char letter => simp [plug, ih]
    | hole other =>
      simp only [List.cons_append, plug, ih]
      split <;> simp

variable {hole : Hole} {text : List Char} {template : List (Piece Hole)}

theorem plug_of_not_mem [DecidableEq Hole] (missing : .hole hole ∉ template) :
    plug hole text template = template := by
  induction template with
  | nil => rfl
  | cons piece rest ih =>
    obtain ⟨other, later⟩ : .hole hole ≠ piece ∧ .hole hole ∉ rest := by simpa using missing
    cases piece with
    | char letter => rw [plug, ih later]
    | hole name =>
      have different : name ≠ hole := fun same => other (by rw [same])
      rw [plug, if_neg different, ih later]

theorem mem_plug [DecidableEq Hole] {other : Hole}
    (member : .hole other ∈ plug hole text template) : other ≠ hole ∧ .hole other ∈ template := by
  induction template with
  | nil => simp [plug] at member
  | cons piece rest ih =>
    cases piece with
    | char letter =>
      obtain ⟨different, later⟩ := ih (by simpa [plug] using member)
      exact ⟨different, List.mem_cons_of_mem _ later⟩
    | hole name =>
      simp only [plug] at member
      split at member
      · obtain ⟨different, later⟩ := ih (by simpa using member)
        exact ⟨different, List.mem_cons_of_mem _ later⟩
      · rename_i differs
        rcases List.mem_cons.mp member with here | later
        · obtain rfl : other = name := by simpa using here
          exact ⟨differs, List.mem_cons_self⟩
        · obtain ⟨different, later⟩ := ih later
          exact ⟨different, List.mem_cons_of_mem _ later⟩

theorem fill_plug [DecidableEq Hole] (value : Hole → List Char) (hole : Hole)
    (template : List (Piece Hole)) :
    Piece.fill value (plug hole (value hole) template) = Piece.fill value template := by
  induction template with
  | nil => rfl
  | cons piece rest ih =>
    cases piece with
    | char letter => simp [plug, Piece.fill, ih]
    | hole other =>
      simp only [plug]
      split
      · rename_i same
        simp [Piece.fill, ih, same]
      · simp [Piece.fill, ih]

variable {value : Hole → List Char}

theorem fill_of_no_hole {other : Hole → List Char}
    (none_left : ∀ hole, .hole hole ∉ template) :
    Piece.fill value template = Piece.fill other template := by
  induction template with
  | nil => rfl
  | cons piece rest ih =>
    have later := ih fun hole member => none_left hole (List.mem_cons_of_mem _ member)
    cases piece with
    | char letter => rw [Piece.fill, Piece.fill, later]
    | hole name => exact absurd List.mem_cons_self (none_left name)

theorem append_cut {left right left' right' : List Char}
    (whole : left ++ right = left' ++ right') :
    (∃ more, left' = left ++ more ∧ right = more ++ right') ∨
      ∃ letter more, left = left' ++ letter :: more ∧ right' = letter :: more ++ right := by
  rcases List.append_eq_append_iff.mp whole with later | ⟨between, longer, rest⟩
  · exact .inl later
  · cases between with
    | nil => exact .inl ⟨[], by simpa using longer.symm, by simpa using rest.symm⟩
    | cons letter more => exact .inr ⟨letter, more, longer, rest⟩

variable {behind before after : List Char}

theorem exists_piece_of_occurs
    (whole : Piece.fill names.name template ++ behind = before ++ (names.name hole ++ after))
    (inside : before.length < (Piece.fill names.name template).length) :
    ∃ front piece back, template = front ++ piece :: back ∧
      Piece.fill names.name front = before ∧
      (piece = .char '\x7b' ∨
        piece = .hole hole ∧ after = Piece.fill names.name back ++ behind) := by
  -- The induction is on the pieces in front of the place at which the name starts.
  induction template generalizing before with
  | nil => simp [Piece.fill] at inside
  | cons piece rest ih =>
    cases piece with
    | char letter =>
      cases before with
      | nil =>
        have brace : letter = '\x7b' := by
          simp only [Piece.fill, name, List.cons_append, List.nil_append, List.cons.injEq] at whole
          exact whole.1
        exact ⟨[], .char letter, rest, rfl, rfl, .inl (by rw [brace])⟩
      | cons first before =>
        simp only [Piece.fill, List.cons_append, List.cons.injEq] at whole
        obtain ⟨rfl, later⟩ := whole
        obtain ⟨front, piece, back, rfl, rfl, at_name⟩ :=
          ih later (by simpa [Piece.fill] using inside)
        exact ⟨.char letter :: front, piece, back, rfl, rfl, at_name⟩
    | hole other =>
      simp only [Piece.fill, List.append_assoc] at whole
      rcases append_cut whole with ⟨before', rfl, later⟩ | ⟨letter, inner, opened, later⟩
      · -- The name starts behind this place.
        obtain ⟨front, piece, back, rfl, rfl, at_name⟩ :=
          ih later (by simpa [Piece.fill] using inside)
        exact ⟨.hole other :: front, piece, back, rfl, rfl, at_name⟩
      · cases before with
        | nil =>
          -- The name starts with this place, whose name is then no other one.
          simp only [List.nil_append] at whole
          have same : other = hole := by
            simp only [name, List.cons_append, List.cons.injEq, true_and] at whole
            rcases List.append_eq_append_iff.mp whole with ⟨more, longer, _⟩ | ⟨more, longer, _⟩
            · exact names.distinct _ _ ⟨more, longer.symm⟩
            · exact (names.distinct _ _ ⟨more, longer.symm⟩).symm
          subst same
          exact ⟨[], .hole other, rest, rfl, rfl, .inr ⟨rfl, (List.append_cancel_left whole).symm⟩⟩
        | cons first before =>
          -- A name has no brace behind its first one.
          exfalso
          simp only [name, List.cons_append, List.cons.injEq] at opened later
          apply names.closed other
          rw [opened.2, ← later.1]
          simp

theorem not_mem_of_absent (behind : List Char)
    (absent : ∀ index < (Piece.fill names.name template).length,
      ¬ names.name hole <+: (Piece.fill names.name template ++ behind).drop index) :
    .hole hole ∉ template := by
  intro member
  obtain ⟨front, back, rfl⟩ := List.append_of_mem member
  apply absent (Piece.fill names.name front).length
  · simp [Piece.fill, name]
  · simp [Piece.fill]

theorem exists_piece_of_first
    (found : splitAtText (names.name hole) (Piece.fill names.name template ++ behind) =
      some (before, after)) (inside : before.length < (Piece.fill names.name template).length) :
    ∃ front piece back, template = front ++ piece :: back ∧
      Piece.fill names.name front = before ∧ .hole hole ∉ front ∧
      (piece = .char '\x7b' ∨
        piece = .hole hole ∧ after = Piece.fill names.name back ++ behind) := by
  obtain ⟨whole, first⟩ := splitAtText_eq_some found
  obtain ⟨front, piece, back, rfl, rfl, at_name⟩ :=
    names.exists_piece_of_occurs (by rw [whole, List.append_assoc]) inside
  refine ⟨front, piece, back, rfl, rfl, ?_, at_name⟩
  apply names.not_mem_of_absent (Piece.fill names.name (piece :: back) ++ behind)
  intro index below
  simpa using first index below

theorem replaceFirstIn_of_settles [DecidableEq Hole]
    (settles : names.Settles hole text template) :
    replaceFirstIn (Piece.fill names.name template) (names.name hole) text =
      Piece.fill names.name (plug hole text template) := by
  unfold replaceFirstIn
  cases found : splitAtText (names.name hole) (Piece.fill names.name template) with
  | none =>
    -- A name that is not found has no place.
    have missing : .hole hole ∉ template := by
      apply names.not_mem_of_absent []
      intro index _
      rw [List.append_nil]
      exact splitAtText_eq_none found index
    rw [plug_of_not_mem missing]
  | some cut =>
    obtain ⟨before, after⟩ := cut
    obtain ⟨verbatim, front, back, rfl, only, rfl⟩ := settles before after found
    obtain ⟨not_front, not_back⟩ : .hole hole ∉ front ∧ .hole hole ∉ back := by
      simpa using only
    have whole := (splitAtText_eq_some found).1
    obtain rfl : after = Piece.fill names.name back := by
      simpa [Piece.fill] using whole.symm
    simp [plug, plug_of_not_mem not_front, plug_of_not_mem not_back, verbatim]

variable {order : List Hole}

theorem fillInTurn_of_settled [DecidableEq Hole]
    (listed : ∀ hole, .hole hole ∈ template → hole ∈ order)
    (settled : names.Settled value order template) :
    names.fillInTurn value order (Piece.fill names.name template) = Piece.fill value template := by
  -- The induction is on the names that are still to be replaced.
  induction order generalizing template with
  | nil => exact fill_of_no_hole fun hole member => by simpa using listed hole member
  | cons hole rest ih =>
    obtain ⟨settles, later⟩ := settled
    rw [fillInTurn, names.replaceFirstIn_of_settles settles, ih ?_ later, fill_plug]
    intro other member
    obtain ⟨different, kept⟩ := mem_plug member
    simpa [different] using listed other kept

/-- Where two texts part: one has a character, and the other has another one or a passed name. -/
def Clash (passed : List Hole) (letter : Char) (rest : List Char) : Prop :=
  if letter = '\x7b' then ∃ first more, rest = first :: more ∧ first ≠ '\x7b'
  else ∃ hole ∈ passed, names.name hole <+: rest

/-- A text that is no filling of a template, whatever is put into the places that are left. -/
def Apart (passed : List Hole) (template : List (Piece Hole)) (text : List Char) : Prop :=
  ∃ front letter back rest, template = front ++ .char letter :: back ∧
    text = Piece.fill names.name front ++ rest ∧ names.Clash passed letter rest

variable {passed : List Hole}

theorem ne_of_apart (apart : names.Apart passed template text) :
    text ≠ Piece.fill names.name template := by
  obtain ⟨front, letter, back, rest, rfl, rfl, clash⟩ := apart
  intro same
  obtain rfl : rest = letter :: Piece.fill names.name back := by
    simpa [Piece.fill] using same
  unfold Clash at clash
  split at clash
  · rename_i brace
    obtain ⟨first, more, starts, other⟩ := clash
    obtain ⟨rfl, -⟩ : letter = first ∧ _ := by simpa using starts
    exact other brace
  · rename_i no_brace
    obtain ⟨hole, _, more, leads⟩ := clash
    simp only [name, List.cons_append, List.cons.injEq] at leads
    exact no_brace leads.1.symm

theorem apart_or_place [DecidableEq Hole] {front : List (Piece Hole)} (passed : List Hole)
    (back : List (Piece Hole)) (plain : Plain text)
    (found : splitAtText (names.name hole) (Piece.fill names.name front ++ behind) =
      some (before, after)) (inside : before.length < (Piece.fill names.name front).length) :
    names.Apart (hole :: passed) (plug hole text (front ++ back)) (before ++ text ++ after) ∨
      ∃ near far, front = near ++ .hole hole :: far ∧ .hole hole ∉ near ++ far ∧
        Piece.fill names.name near = before ∧ after = Piece.fill names.name far ++ behind := by
  obtain ⟨near, piece, far, rfl, rfl, not_near, at_name⟩ :=
    names.exists_piece_of_first found inside
  obtain ⟨first, more, rfl, other, -⟩ := plain
  rcases at_name with rfl | ⟨rfl, rfl⟩
  · -- The value stands where the template has a brace of its own.
    left
    refine ⟨near, '\x7b', plug hole (first :: more) (far ++ back), first :: more ++ after,
      ?_, ?_, ?_⟩
    · simp [plug, plug_of_not_mem not_near]
    · simp
    · unfold Clash
      rw [if_pos rfl]
      exact ⟨first, more ++ after, rfl, other⟩
  · by_cases member : .hole hole ∈ far
    · -- A second place keeps its name, where the filled template has the value.
      left
      obtain ⟨far, rest, rfl, not_far⟩ := List.eq_append_cons_of_mem member
      refine ⟨near ++ (first :: more).map .char ++ far, first,
        more.map .char ++ plug hole (first :: more) (rest ++ back),
        names.name hole ++ (Piece.fill names.name rest ++ behind), ?_, ?_, ?_⟩
      · simp [plug, plug_of_not_mem not_near, plug_of_not_mem not_far]
      · simp [Piece.fill]
      · unfold Clash
        rw [if_neg other]
        exact ⟨hole, List.mem_cons_self, List.prefix_append _ _⟩
    · right
      exact ⟨near, far, rfl, by simpa using ⟨not_near, member⟩, rfl, rfl⟩

theorem clash_cons {letter : Char} {rest : List Char} (hole : Hole)
    (clash : names.Clash passed letter rest) : names.Clash (hole :: passed) letter rest := by
  unfold Clash at clash ⊢
  split
  · rename_i brace
    rwa [if_pos brace] at clash
  · rename_i no_brace
    rw [if_neg no_brace] at clash
    obtain ⟨other, member, leads⟩ := clash
    exact ⟨other, List.mem_cons_of_mem _ member, leads⟩

theorem clash_of_found {letter : Char} {between : List Char} (fresh : hole ∉ passed)
    (clash : names.Clash passed letter (between ++ (names.name hole ++ after))) :
    names.Clash (hole :: passed) letter (between ++ text ++ after) := by
  unfold Clash at clash ⊢
  split
  · rename_i brace
    rw [if_pos brace] at clash
    obtain ⟨first, more, starts, other⟩ := clash
    cases between with
    | nil =>
      -- The name itself would start with the brace.
      simp only [name, List.nil_append, List.cons_append, List.cons.injEq] at starts
      exact absurd starts.1.symm other
    | cons head between =>
      simp only [List.cons_append, List.cons.injEq] at starts
      exact ⟨head, between ++ text ++ after, by simp, by rw [starts.1]; exact other⟩
  · rename_i no_brace
    rw [if_neg no_brace] at clash
    obtain ⟨passed_hole, member, more, leads⟩ := clash
    refine ⟨passed_hole, List.mem_cons_of_mem _ member, ?_⟩
    rcases append_cut leads with ⟨rest, rfl, _⟩ | ⟨head, inner, opened, _⟩
    · rw [List.append_assoc, List.append_assoc]
      exact List.prefix_append _ _
    · -- One name would start within another one.
      have whole : Piece.fill names.name [.hole passed_hole] ++ more =
          between ++ (names.name hole ++ after) := by simpa [Piece.fill] using leads
      obtain ⟨front, piece, back, listed, _, at_name⟩ :=
        names.exists_piece_of_occurs whole (by simp [Piece.fill, opened])
      have here : piece = .hole passed_hole := by
        have within : piece ∈ [Piece.hole passed_hole] := by rw [listed]; simp
        simpa using within
      subst here
      rcases at_name with brace | ⟨same, _⟩
      · cases brace
      · obtain rfl : passed_hole = hole := by simpa using same
        exact absurd member fresh

theorem apart_of_apart [DecidableEq Hole] {current : List Char} (plain : Plain text)
    (fresh : hole ∉ passed) (apart : names.Apart passed template current) :
    names.Apart (hole :: passed) (plug hole text template)
      (replaceFirstIn current (names.name hole) text) := by
  obtain ⟨front, letter, back, rest, rfl, rfl, clash⟩ := apart
  have later := names.clash_cons hole clash
  unfold replaceFirstIn
  cases found : splitAtText (names.name hole) (Piece.fill names.name front ++ rest) with
  | none =>
    have missing : .hole hole ∉ front :=
      names.not_mem_of_absent rest fun index _ => splitAtText_eq_none found index
    refine ⟨front, letter, plug hole text back, rest, ?_, rfl, later⟩
    simp [plug, plug_of_not_mem missing]
  | some cut =>
    obtain ⟨before, after⟩ := cut
    have verbatim : expandReplacement before (names.name hole) after text = text := by
      obtain ⟨_, _, _, _, no_dollar⟩ := plain
      exact expandReplacement_of_plain no_dollar
    obtain ⟨whole, first⟩ := splitAtText_eq_some found
    simp only [verbatim]
    by_cases inside : before.length < (Piece.fill names.name front).length
    · rcases names.apart_or_place passed (.char letter :: back) plain found inside with
        parted | ⟨near, far, rfl, only, rfl, rfl⟩
      · exact parted
      · -- The place stands in front of where the texts part, and is filled in both.
        obtain ⟨not_near, not_far⟩ : .hole hole ∉ near ∧ .hole hole ∉ far := by simpa using only
        refine ⟨near ++ text.map .char ++ far, letter, plug hole text back, rest, ?_, ?_, later⟩
        · simp [plug, plug_of_not_mem not_near, plug_of_not_mem not_far]
        · simp
    · have missing : .hole hole ∉ front :=
        names.not_mem_of_absent rest fun index below => first index (by omega)
      rw [List.append_assoc] at whole
      rcases append_cut whole with ⟨between, rfl, later_found⟩ | ⟨head, more, longer, _⟩
      · refine ⟨front, letter, plug hole text back, between ++ text ++ after, ?_, ?_, ?_⟩
        · simp [plug, plug_of_not_mem missing]
        · simp
        · rw [later_found] at clash
          exact names.clash_of_found fresh clash
      · rw [longer] at inside
        simp at inside

theorem settles_or_apart [DecidableEq Hole] (template : List (Piece Hole))
    (plain : Plain text) : names.Settles hole text template ∨
      names.Apart [hole] (plug hole text template)
        (replaceFirstIn (Piece.fill names.name template) (names.name hole) text) := by
  unfold replaceFirstIn
  cases found : splitAtText (names.name hole) (Piece.fill names.name template) with
  | none =>
    left
    intro before after cut
    rw [found] at cut
    cases cut
  | some cut =>
    obtain ⟨before, after⟩ := cut
    have verbatim : expandReplacement before (names.name hole) after text = text := by
      obtain ⟨_, _, _, _, no_dollar⟩ := plain
      exact expandReplacement_of_plain no_dollar
    have inside : before.length < (Piece.fill names.name template).length := by
      rw [(splitAtText_eq_some found).1]
      simp [name]
    simp only [verbatim]
    have found' : splitAtText (names.name hole) (Piece.fill names.name template ++ []) =
        some (before, after) := by rw [List.append_nil, found]
    rcases names.apart_or_place [] [] plain found' inside with
      parted | ⟨near, far, rfl, only, rfl, rfl⟩
    · right
      rwa [List.append_nil] at parted
    · left
      intro before' after' cut
      rw [found] at cut
      obtain ⟨rfl, rfl⟩ : _ = before' ∧ _ = after' := by simpa using cut
      exact ⟨by simpa using verbatim, near, far, rfl, only, rfl⟩

theorem fillInTurn_ne [DecidableEq Hole] (plain : ∀ hole ∈ order, Plain (value hole))
    (distinct : order.Nodup) (fresh : ∀ hole ∈ order, hole ∉ passed)
    (listed : ∀ hole, .hole hole ∈ template → hole ∈ order)
    (apart : names.Apart passed template text) :
    names.fillInTurn value order text ≠ Piece.fill value template := by
  -- The induction is on the names that are still to be replaced, none of which joins the texts.
  induction order generalizing passed template text with
  | nil =>
    have empty : Piece.fill value template = Piece.fill names.name template :=
      fill_of_no_hole fun hole member => by simpa using listed hole member
    rw [fillInTurn, empty]
    exact names.ne_of_apart apart
  | cons hole rest ih =>
    obtain ⟨not_again, distinct⟩ := List.nodup_cons.mp distinct
    rw [fillInTurn, ← fill_plug value hole template]
    apply ih (fun other member => plain other (List.mem_cons_of_mem _ member)) distinct
    · intro other member
      have unpassed := fresh other (List.mem_cons_of_mem _ member)
      have different : other ≠ hole := fun same => not_again (same ▸ member)
      exact List.not_mem_cons_of_ne_of_not_mem different unpassed
    · intro other member
      obtain ⟨different, kept⟩ := mem_plug member
      simpa [different] using listed other kept
    · exact names.apart_of_apart (plain hole List.mem_cons_self)
        (fresh hole List.mem_cons_self) apart

theorem settled_of_fillInTurn [DecidableEq Hole] (distinct : order.Nodup)
    (listed : ∀ hole, .hole hole ∈ template → hole ∈ order)
    (plain : names.PlainFrom value order template)
    (same : names.fillInTurn value order (Piece.fill names.name template) =
      Piece.fill value template) : names.Settled value order template := by
  induction order generalizing template with
  | nil => trivial
  | cons hole rest ih =>
    obtain ⟨not_again, distinct_rest⟩ := List.nodup_cons.mp distinct
    have listed_rest : ∀ other, .hole other ∈ plug hole (value hole) template → other ∈ rest := by
      intro other member
      obtain ⟨different, kept⟩ := mem_plug member
      simpa [different] using listed other kept
    have settles : names.Settles hole (value hole) template := by
      rcases plain with all_plain | ⟨settles, _⟩
      · rcases names.settles_or_apart template (all_plain hole List.mem_cons_self) with
          settles | parted
        · exact settles
        · -- Once parted, the texts would differ in the end.
          exfalso
          have plain_rest : ∀ other ∈ rest, Plain (value other) := fun other member =>
            all_plain other (List.mem_cons_of_mem _ member)
          refine names.fillInTurn_ne plain_rest distinct_rest ?_ listed_rest parted ?_
          · intro other member
            have different : other ≠ hole := fun equal => not_again (equal ▸ member)
            simpa using different
          · rw [fill_plug]
            exact same
      · exact settles
    refine ⟨settles, ih distinct_rest listed_rest ?_ ?_⟩
    · rcases plain with all_plain | ⟨_, later⟩
      · cases rest with
        | nil => trivial
        | cons next rest =>
          exact .inl fun other member => all_plain other (List.mem_cons_of_mem _ member)
      · exact later
    · rw [fill_plug, ← names.replaceFirstIn_of_settles settles]
      exact same

end PlaceNames

end Js
