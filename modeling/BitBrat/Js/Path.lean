import BitBrat.Js.Text

/-! Paths of files: how their parts are joined, and how `.` and `..` are taken out. -/

namespace Js

abbrev Segment := List Char

def hereSegment : Segment := ['.']

def upSegment : Segment := ['.', '.']

/-- One more segment of a path, whose segments so far are given from the last one on. -/
def pushSegment (absolute : Bool) (stack : List Segment) (segment : Segment) : List Segment :=
  if segment = [] ∨ segment = hereSegment then stack
  else if segment = upSegment then
    match stack with
    | [] => if absolute then [] else [upSegment]
    | last :: rest => if last = upSegment then upSegment :: stack else rest
  else segment :: stack

def normalizeSegments (absolute : Bool) (segments : List Segment) : List Segment :=
  (segments.foldl (pushSegment absolute) []).reverse

def normalizePath (path : List Char) : List Char :=
  if path = [] then hereSegment
  else
    let absolute := path.head? = some '/'
    let slash : List Char := if path.getLast? = some '/' then ['/'] else []
    let text := ['/'].intercalate (normalizeSegments absolute (path.splitOn '/'))
    if text = [] then if absolute then ['/'] else hereSegment ++ slash
    else (if absolute then ['/'] else []) ++ text ++ slash

/-- The path that the parts make, one after the other. -/
def joinPath (parts : List String) : String :=
  let joined := ['/'].intercalate ((parts.map String.toList).filter (· ≠ []))
  String.ofList (if joined = [] then hereSegment else normalizePath joined)

/-- Where the file of an absolute path is: the segments down to it. -/
def locate (path : String) : List Segment := normalizeSegments true (path.toList.splitOn '/')

structure Segment.Plain (segment : Segment) : Prop where
  nonempty : segment ≠ []
  moves : segment ≠ hereSegment
  down : segment ≠ upSegment
  single : '/' ∉ segment

variable {segment : Segment}

theorem pushSegment_of_plain (plain : segment.Plain) (absolute : Bool)
    (stack : List Segment) : pushSegment absolute stack segment = segment :: stack := by
  unfold pushSegment
  rw [if_neg (not_or.mpr ⟨plain.nonempty, plain.moves⟩), if_neg plain.down]

variable {segments : List Segment}

theorem foldl_pushSegment_of_plain (plain : ∀ segment ∈ segments, segment.Plain)
    (absolute : Bool) (stack : List Segment) :
    segments.foldl (pushSegment absolute) stack = segments.reverse ++ stack := by
  induction segments generalizing stack with
  | nil => rfl
  | cons segment rest ih =>
    rw [List.foldl_cons, pushSegment_of_plain (plain segment List.mem_cons_self),
      ih fun other member => plain other (List.mem_cons_of_mem _ member)]
    simp

theorem plain_of_mem_pushSegment {stack : List Segment}
    (kept : ∀ other ∈ stack, other.Plain) (single : '/' ∉ segment) :
    ∀ other ∈ pushSegment true stack segment, other.Plain := by
  unfold pushSegment
  split
  case isTrue => exact kept
  case isFalse named =>
    rw [not_or] at named
    split
    case isTrue up =>
      -- Going up takes the last segment away, which is not one that goes up itself.
      cases stack with
      | nil => exact kept
      | cons last rest =>
        simp only [if_neg (kept last List.mem_cons_self).down]
        exact fun other member => kept other (List.mem_cons_of_mem _ member)
    case isFalse down =>
      intro other member
      rcases List.mem_cons.mp member with rfl | earlier
      · exact ⟨named.1, named.2, down, single⟩
      · exact kept other earlier

theorem plain_of_mem_normalizeSegments (single : ∀ segment ∈ segments, '/' ∉ segment) :
    ∀ other ∈ normalizeSegments true segments, other.Plain := by
  have stacked : ∀ stack : List Segment, (∀ other ∈ stack, other.Plain) →
      ∀ other ∈ segments.foldl (pushSegment true) stack, other.Plain := by
    induction segments with
    | nil => exact fun _ kept => kept
    | cons segment rest ih =>
      intro stack kept
      exact ih (fun other member => single other (List.mem_cons_of_mem _ member)) _
        (plain_of_mem_pushSegment kept (single segment List.mem_cons_self))
  intro other member
  exact stacked [] (by simp) other (List.mem_reverse.mp member)

theorem normalizeSegments_of_plain (plain : ∀ segment ∈ segments, segment.Plain) :
    normalizeSegments true segments = segments := by
  simp [normalizeSegments, foldl_pushSegment_of_plain plain]

theorem normalizeSegments_cons_nil (segments : List Segment) :
    normalizeSegments true ([] :: segments) = normalizeSegments true segments := by
  simp [normalizeSegments, pushSegment]

theorem normalizeSegments_append_nil (segments : List Segment) :
    normalizeSegments true (segments ++ [[]]) = normalizeSegments true segments := by
  simp [normalizeSegments, pushSegment]

theorem normalizeSegments_append_plain (segments : List Segment) {more : List Segment}
    (plain : ∀ segment ∈ more, segment.Plain) :
    normalizeSegments true (segments ++ more) = normalizeSegments true segments ++ more := by
  simp [normalizeSegments, List.foldl_append, foldl_pushSegment_of_plain plain]

variable {path : List Char}

theorem locate_normalizePath (absolute : path.head? = some '/') :
    locate (String.ofList (normalizePath path)) = normalizeSegments true (path.splitOn '/') := by
  have nonempty : path ≠ [] := by
    rintro rfl
    cases absolute
  have plain := plain_of_mem_normalizeSegments fun segment (member : segment ∈ path.splitOn '/') =>
    not_mem_of_mem_splitOn '/' member
  simp only [locate, String.toList_ofList, normalizePath, if_neg nonempty, absolute, decide_true]
  generalize normalizeSegments true (path.splitOn '/') = segments at plain
  have slashed : ∀ slash : List Char, slash = [] ∨ slash = ['/'] → segments ≠ [] →
      normalizeSegments true ((['/'] ++ ['/'].intercalate segments ++ slash).splitOn '/') =
        segments := by
    rintro slash ends some_segments
    have single : ∀ segment ∈ segments, '/' ∉ segment := fun segment member =>
      (plain segment member).single
    have led : (['/'] ++ ['/'].intercalate segments ++ slash).splitOn '/' =
        [] :: (['/'].intercalate segments ++ slash).splitOn '/' := by
      exact List.splitOn_append_cons_self_of_not_mem (List.not_mem_nil) _
    rw [led, normalizeSegments_cons_nil]
    rcases ends with rfl | rfl
    · rw [List.append_nil, List.splitOn_intercalate _ single some_segments,
        normalizeSegments_of_plain plain]
    · rw [List.splitOn_append_cons_self, List.splitOn_intercalate _ single some_segments,
        List.splitOn_nil, normalizeSegments_append_nil, normalizeSegments_of_plain plain]
  cases segments with
  | nil => rfl
  | cons first rest =>
    have text : ['/'].intercalate (first :: rest) ≠ [] := by
      -- The text starts with the first segment, which is not empty.
      have named := (plain first List.mem_cons_self).nonempty
      cases rest with
      | nil => simpa using named
      | cons second others => simp
    simp only [if_neg text, if_true]
    apply slashed
    · split
      · exact .inr rfl
      · exact .inl rfl
    · exact List.cons_ne_nil first rest

theorem head?_normalizePath (absolute : path.head? = some '/') :
    (normalizePath path).head? = some '/' := by
  have nonempty : path ≠ [] := by
    rintro rfl
    cases absolute
  simp only [normalizePath, if_neg nonempty, absolute, decide_true, ↓reduceIte]
  split <;> rfl

theorem joinPath_absolute {root : String} (absolute : root.toList.head? = some '/')
    {parts : List String} (nonempty : ∀ part ∈ parts, part.toList ≠ []) :
    let joined := ['/'].intercalate ((root :: parts).map String.toList)
    joined.head? = some '/' ∧ joinPath (root :: parts) = String.ofList (normalizePath joined) := by
  have kept : ((root :: parts).map String.toList).filter (· ≠ []) =
      (root :: parts).map String.toList := by
    refine List.filter_eq_self.mpr fun chars member => ?_
    obtain ⟨part, listed, rfl⟩ := List.mem_map.mp member
    rcases List.mem_cons.mp listed with rfl | other
    · cases chars : part.toList with
      | nil => simp [chars] at absolute
      | cons => simp
    · simpa using nonempty part other
  have leads : (['/'].intercalate ((root :: parts).map String.toList)).head? = some '/' := by
    cases parts with
    | nil => simpa using absolute
    | cons part rest => simp [absolute]
  have joined : ['/'].intercalate ((root :: parts).map String.toList) ≠ [] := by
    intro empty
    rw [empty] at leads
    cases leads
  refine ⟨leads, ?_⟩
  unfold joinPath
  simp only [kept, if_neg joined]

variable {root : String} {parts : List String}

theorem head?_joinPath (absolute : root.toList.head? = some '/')
    (nonempty : ∀ part ∈ parts, part.toList ≠ []) :
    (joinPath (root :: parts)).toList.head? = some '/' := by
  obtain ⟨leads, joined⟩ := joinPath_absolute absolute nonempty
  rw [joined, String.toList_ofList]
  exact head?_normalizePath leads

theorem locate_joinPath (absolute : root.toList.head? = some '/')
    (nonempty : ∀ part ∈ parts, part.toList ≠ []) :
    locate (joinPath (root :: parts)) = normalizeSegments true
      (root.toList.splitOn '/' ++ parts.flatMap fun part => part.toList.splitOn '/') := by
  obtain ⟨leads, joined⟩ := joinPath_absolute absolute nonempty
  rw [joined, locate_normalizePath leads, splitOn_intercalate_segments '/' (by simp)]
  simp [List.flatMap_map]

theorem locate_joinPath_of_plain (absolute : root.toList.head? = some '/')
    (split : (parts.flatMap fun part => part.toList.splitOn '/') = segments)
    (plain : ∀ segment ∈ segments, segment.Plain) :
    locate (joinPath (root :: parts)) = locate root ++ segments := by
  have nonempty : ∀ part ∈ parts, part.toList ≠ [] := by
    -- An empty part would be an empty segment.
    intro part listed empty
    have among : [] ∈ segments := by
      rw [← split]
      exact List.mem_flatMap.mpr ⟨part, listed, by rw [empty, List.splitOn_nil]; simp⟩
    exact (plain [] among).nonempty rfl
  rw [locate_joinPath absolute nonempty, split, normalizeSegments_append_plain _ plain]
  rfl

variable {char : Char}

theorem mem_intercalate {separator : Char} {segments : List (List Char)} :
    char ∈ [separator].intercalate segments →
      char = separator ∨ ∃ segment ∈ segments, char ∈ segment := by
  induction segments with
  | nil => simp [List.intercalate]
  | cons segment rest ih =>
    intro member
    cases rest with
    | nil =>
      rw [List.intercalate_singleton] at member
      exact .inr ⟨segment, List.mem_cons_self, member⟩
    | cons next rest =>
      rw [List.intercalate_cons_cons, List.mem_append, List.mem_append, List.mem_singleton,
        or_assoc] at member
      rcases member with here | rfl | later
      · exact .inr ⟨segment, List.mem_cons_self, here⟩
      · exact .inl rfl
      · rcases ih later with same | ⟨other, listed, inside⟩
        · exact .inl same
        · exact .inr ⟨other, List.mem_cons_of_mem _ listed, inside⟩

theorem mem_pushSegment {absolute : Bool} {stack : List Segment} {added : Segment}
    (member : segment ∈ pushSegment absolute stack added) :
    segment ∈ stack ∨ segment = added ∨ segment = upSegment := by
  unfold pushSegment at member
  split at member
  · exact .inl member
  · split at member
    · cases stack with
      | nil =>
        cases absolute
        · exact .inr (.inr (List.mem_singleton.mp member))
        · cases member
      | cons last rest =>
        dsimp only at member
        split at member
        · rcases List.mem_cons.mp member with up | kept
          · exact .inr (.inr up)
          · exact .inl kept
        · exact .inl (List.mem_cons_of_mem _ member)
    · rcases List.mem_cons.mp member with same | kept
      · exact .inr (.inl same)
      · exact .inl kept

theorem mem_normalizeSegments {absolute : Bool}
    (member : segment ∈ normalizeSegments absolute segments) :
    segment ∈ segments ∨ segment = upSegment := by
  have stacked (names : List Segment) (stack : List Segment) :
      segment ∈ names.foldl (pushSegment absolute) stack →
        segment ∈ stack ∨ segment ∈ names ∨ segment = upSegment := by
    induction names generalizing stack with
    | nil => exact Or.inl
    | cons first rest ih =>
      intro later
      rcases ih (pushSegment absolute stack first) later with pushed | among | up
      · rcases mem_pushSegment pushed with before | same | up
        · exact .inl before
        · exact .inr (.inl (same ▸ List.mem_cons_self))
        · exact .inr (.inr up)
      · exact .inr (.inl (List.mem_cons_of_mem _ among))
      · exact .inr (.inr up)
  rcases stacked segments [] (List.mem_reverse.mp member) with none | among | up
  · cases none
  · exact .inl among
  · exact .inr up

theorem mem_normalizePath (member : char ∈ normalizePath path) :
    char = '/' ∨ char = '.' ∨ char ∈ path := by
  have within (absolute : Bool)
      (inside : char ∈ ['/'].intercalate (normalizeSegments absolute (path.splitOn '/'))) :
      char = '/' ∨ char = '.' ∨ char ∈ path := by
    rcases mem_intercalate inside with slash | ⟨segment, listed, there⟩
    · exact .inl slash
    · rcases mem_normalizeSegments listed with among | rfl
      · exact .inr (.inr (of_mem_splitOnP among there).1)
      · exact .inr (.inl (by simpa [upSegment] using there))
  unfold normalizePath at member
  split at member
  · exact .inr (.inl (by simpa [hereSegment] using member))
  · dsimp only at member
    split at member
    · split at member
      · exact .inl (by simpa using member)
      · rcases List.mem_append.mp member with here | slash
        · exact .inr (.inl (by simpa [hereSegment] using here))
        · split at slash
          · exact .inl (by simpa using slash)
          · cases slash
    · rcases List.mem_append.mp member with front | slash
      · rcases List.mem_append.mp front with root | inside
        · split at root
          · exact .inl (by simpa using root)
          · cases root
        · exact within _ inside
      · split at slash
        · exact .inl (by simpa using slash)
        · cases slash

theorem mem_joinPath (member : char ∈ (joinPath parts).toList) :
    char = '/' ∨ char = '.' ∨ ∃ part ∈ parts, char ∈ part.toList := by
  unfold joinPath at member
  dsimp only at member
  rw [String.toList_ofList] at member
  split at member
  · exact .inr (.inl (by simpa [hereSegment] using member))
  · rcases mem_normalizePath member with slash | dot | inside
    · exact .inl slash
    · exact .inr (.inl dot)
    · rcases mem_intercalate inside with slash | ⟨segment, listed, there⟩
      · exact .inl slash
      · obtain ⟨part, among, rfl⟩ := List.mem_map.mp (List.mem_filter.mp listed).1
        exact .inr (.inr ⟨part, among, there⟩)

end Js
