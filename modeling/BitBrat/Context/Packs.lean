import Mathlib.Data.List.Basic
import Mathlib.Data.List.Induction
import BitBrat.Context.VectorAgreement
import BitBrat.Prompt.Sections

/-! Context packs: which of them a turn brings into a prompt, and how a prompt names them. -/

namespace BitBrat.Context

open Js

structure Pack where
  id : CodeUnits
  version : CodeUnits
  title : CodeUnits
  priority : Option Nat := none
  format : PackFormat
  body : ContextContent
  source : CodeUnits

/-- What is in play in a turn. A list that is missing is taken for an empty one. -/
structure ActiveSet where
  tools : List CodeUnits := []
  tasks : List CodeUnits := []
  eventTypes : List CodeUnits := []

structure Binding where
  pack : CodeUnits
  when : ActiveSet

structure Provider where
  listPacks : List Pack
  listBindings : List Binding

def intersects (active bound : List CodeUnits) : Bool := bound.any fun name => name ∈ active

def bindingMatches (binding : Binding) (active : ActiveSet) : Bool :=
  intersects active.tools binding.when.tools || intersects active.tasks binding.when.tasks ||
    intersects active.eventTypes binding.when.eventTypes

def isEmptyActiveSet (active : ActiveSet) : Bool :=
  active.tools.isEmpty && active.tasks.isEmpty && active.eventTypes.isEmpty

/-- The packs of all providers by their identifiers: the last one of an identifier wins. -/
def packsById (providers : List Provider) : OrderedMap CodeUnits Pack :=
  (providers.flatMap (·.listPacks)).foldl (fun packs pack => packs.set pack.id pack) .empty

/-- The identifiers that are matched, each once, and those that are unknown. -/
structure Matched where
  matchedIds : List CodeUnits := []
  unknown : List CodeUnits := []

def matchBinding (active : ActiveSet) (packs : OrderedMap CodeUnits Pack) (state : Matched)
    (binding : Binding) : Matched :=
  if !bindingMatches binding active || binding.pack ∈ state.matchedIds then state
  else if (packs.get? binding.pack).isNone then
    { state with unknown := state.unknown ++ [binding.pack] }
  else { state with matchedIds := state.matchedIds ++ [binding.pack] }

/-- The packs that are bound to what is in play, and the unknown ones that are warned of. -/
def resolveContextPacks (active : ActiveSet) (providers : List Provider) :
    List Pack × List CodeUnits :=
  if isEmptyActiveSet active || providers.isEmpty then ([], [])
  else
    let state := (providers.flatMap (·.listBindings)).foldl
      (matchBinding active (packsById providers)) {}
    (state.matchedIds.filterMap (packsById providers).get?, state.unknown)

/-- What the bindings that match ask for, in their order. -/
def askedFor (active : ActiveSet) (bindings : List Binding) : List CodeUnits :=
  (bindings.filter (bindingMatches · active)).map (·.pack)

/-- The last pack that is listed under an identifier. -/
def lastPack (providers : List Provider) (id : CodeUnits) : Option Pack :=
  (providers.flatMap (·.listPacks)).reverse.find? (·.id = id)

theorem get?_packsById (providers : List Provider) (id : CodeUnits) :
    (packsById providers).get? id = lastPack providers id := by
  unfold packsById lastPack
  induction providers.flatMap (·.listPacks) using List.reverseRec with
  | nil => rfl
  | append_singleton packs pack ih =>
    rw [List.foldl_concat, OrderedMap.get?_set, ih, List.reverse_concat, List.find?_cons]
    by_cases same : id = pack.id
    · simp [same]
    · simp [same, Ne.symm same]

def known (providers : List Provider) (id : CodeUnits) : Bool := (lastPack providers id).isSome

theorem matched_bindings (active : ActiveSet) (providers : List Provider)
    (bindings : List Binding) :
    bindings.foldl (matchBinding active (packsById providers)) {} =
      { matchedIds := ((askedFor active bindings).filter (known providers)).eraseDups
        unknown := (askedFor active bindings).filter (!known providers ·) } := by
  induction bindings using List.reverseRec with
  | nil => rfl
  | append_singleton earlier binding ih =>
    have later : askedFor active (earlier ++ [binding]) =
        askedFor active earlier ++
          if bindingMatches binding active then [binding.pack] else [] := by
      cases bound : bindingMatches binding active <;> simp [askedFor, bound]
    rw [List.foldl_concat, ih, matchBinding, get?_packsById, later]
    generalize askedFor active earlier = asked
    cases bound : bindingMatches binding active with
    | false => simp
    | true =>
      cases found : lastPack providers binding.pack with
      | none =>
        -- An unknown pack is warned of each time.
        simp [known, found]
      | some pack =>
        -- A pack that is there is passed over.
        by_cases member : binding.pack ∈ asked <;>
          simp [known, found, member, List.eraseDups_append, List.eraseDups_cons, List.removeAll]

/-- A turn gets the last listed pack of each identifier that its bindings ask for, in the order in
which they first do, and a warning for each time that one asks for a pack nobody lists. -/
theorem resolveContextPacks_spec (active : ActiveSet) (providers : List Provider) :
    let asked := askedFor active (providers.flatMap (·.listBindings))
    let (packs, warned) := resolveContextPacks active providers
    packs.map (·.id) = (asked.filter (known providers)).eraseDups ∧
      (∀ pack ∈ packs, lastPack providers pack.id = some pack) ∧
      warned = asked.filter (!known providers ·) := by
  intro asked
  have resolved : resolveContextPacks active providers =
      ((asked.filter (known providers)).eraseDups.filterMap (lastPack providers),
        asked.filter (!known providers ·)) := by
    unfold resolveContextPacks
    split
    · -- Nothing matches when nothing is in play, and nobody binds without providers.
      rename_i idle
      have none_asked : asked = [] := by
        rcases Bool.or_eq_true_iff.mp idle with empty | empty
        · simp only [isEmptyActiveSet, Bool.and_eq_true, List.isEmpty_iff] at empty
          simp [asked, askedFor, bindingMatches, intersects, empty]
        · simp [asked, askedFor, List.isEmpty_iff.mp empty]
      simp [none_asked]
    · have same : (packsById providers).get? = lastPack providers :=
        funext (get?_packsById providers)
      simp only [matched_bindings, same]
      rfl
  have last {id : CodeUnits} {pack : Pack} (found : lastPack providers id = some pack) :
      pack.id = id := by simpa using List.find?_some found
  rw [resolved]
  refine ⟨?_, fun pack member => ?_, rfl⟩
  · rw [List.map_filterMap]
    refine (List.filterMap_congr fun id member => ?_).trans List.filterMap_some
    have listed : known providers id = true :=
      (List.mem_filter.mp (List.mem_eraseDups.mp member)).2
    obtain ⟨pack, found⟩ := Option.isSome_iff_exists.mp listed
    simp [found, last found]
  · obtain ⟨id, _, found⟩ := List.mem_filterMap.mp member
    rw [last found, found]

structure PackOrigin where
  id : CodeUnits
  version : CodeUnits
  source : CodeUnits
  deriving DecidableEq

structure ContextPackRef extends PackOrigin where
  title : CodeUnits
  deriving DecidableEq

def Pack.origin (pack : Pack) : PackOrigin where
  id := pack.id
  version := pack.version
  source := pack.source

def Pack.ref (pack : Pack) : ContextPackRef := { pack.origin with title := pack.title }

def formatPackSubheader (origin : PackOrigin) : CodeUnits :=
  origin.id ++ codeUnits " v" ++ origin.version ++ codeUnits " (source: " ++ origin.source ++
    codeUnits ")"

def isDark (unit : UInt16) : Bool := !isBlankUnit unit

/-- The units that a dot of an expression stands for: all that end no line. -/
def isInline (unit : UInt16) : Bool := unit ∉ ([0xA, 0xD, 0x2028, 0x2029] : List UInt16)

/-- The parts of a subheader: the first two end at the first blank, and the last at the end. -/
def parsePackSubheader (subheader : CodeUnits) : Option PackOrigin := do
  let id := subheader.takeWhile isDark
  let afterId ← (subheader.dropWhile isDark).dropPrefix? (codeUnits " v")
  let version := afterId.takeWhile isDark
  let named ← (afterId.dropWhile isDark).dropPrefix? (codeUnits " (source: ")
  let source := named.dropLast
  if id ≠ [] ∧ version ≠ [] ∧ source ≠ [] ∧ source.all isInline ∧
      named = source ++ codeUnits ")" then
    some { id, version, source }
  else none

def DEFAULT_PRIORITY : Nat := 3

def packToNamedContext (pack : Pack) : NamedContext where
  name := pack.title
  content :=
    match pack.format, pack.body with
    | .markdown, .object body => .text (codeUnits (body.coalesce (.str "")).toText)
    | _, body => body
  priority := some (pack.priority.getD DEFAULT_PRIORITY)
  subheader := some (formatPackSubheader pack.origin)

def packsToNamedContexts (packs : List Pack) : List NamedContext := packs.map packToNamedContext

def extractContextPacksFromNamedContexts (contexts : List NamedContext) : List ContextPackRef :=
  contexts.filterMap fun ctx =>
    (ctx.subheader.bind parsePackSubheader).map ({ · with title := ctx.name })

/-- A pack is named without blanks, and its source on one line. -/
def PackOrigin.Plain (origin : PackOrigin) : Prop :=
  (origin.id ≠ [] ∧ origin.id.all isDark) ∧ (origin.version ≠ [] ∧ origin.version.all isDark) ∧
    origin.source ≠ [] ∧ origin.source.all isInline

theorem plain_of_parsePackSubheader {subheader : CodeUnits} {origin : PackOrigin}
    (parsed : parsePackSubheader subheader = some origin) : origin.Plain := by
  simp only [parsePackSubheader, Option.bind_eq_bind, Option.bind_eq_some_iff] at parsed
  obtain ⟨afterId, _, named, _, read⟩ := parsed
  split at read
  · rename_i fits
    obtain rfl := Option.some.inj read
    exact ⟨⟨fits.1, List.all_takeWhile⟩, ⟨fits.2.1, List.all_takeWhile⟩, fits.2.2.1, fits.2.2.2.1⟩
  · cases read

theorem read_word {word : CodeUnits} {blank : UInt16} (rest : CodeUnits)
    (dark : word.all isDark) (ends : isDark blank = false) :
    (word ++ blank :: rest).takeWhile isDark = word ∧
      (word ++ blank :: rest).dropWhile isDark = blank :: rest := by
  have all := List.all_eq_true.mp dark
  rw [List.takeWhile_append_of_pos all, List.dropWhile_append_of_pos all]
  simp [ends]

theorem parse_formatPackSubheader {origin : PackOrigin} (plain : origin.Plain) :
    parsePackSubheader (formatPackSubheader origin) = some origin := by
  obtain ⟨⟨id, darkId⟩, ⟨version, darkVersion⟩, source, inline⟩ := plain
  have space : isDark 0x20 = false := by decide
  have between : codeUnits " v" = 0x20 :: [0x76] := by decide
  have before : codeUnits " (source: " = 0x20 :: codeUnits "(source: " := by decide
  obtain ⟨behind, closed⟩ : ∃ behind, behind = origin.source ++ codeUnits ")" := ⟨_, rfl⟩
  have last : behind.dropLast = origin.source := closed ▸ List.dropLast_concat
  have written : formatPackSubheader origin = origin.id ++
      0x20 :: 0x76 :: (origin.version ++ 0x20 :: (codeUnits "(source: " ++ behind)) := by
    simp [formatPackSubheader, between, before, closed]
  -- Each part that holds no blank is read up to the blank behind it.
  obtain ⟨first, afterFirst⟩ := read_word
    (0x76 :: (origin.version ++ 0x20 :: (codeUnits "(source: " ++ behind))) darkId space
  obtain ⟨second, afterSecond⟩ := read_word (codeUnits "(source: " ++ behind) darkVersion space
  have literal (text rest : CodeUnits) : (text ++ rest).dropPrefix? text = some rest :=
    List.dropPrefix?_append_of_beq rest (beq_self_eq_true text)
  have one := literal [0x20, 0x76] (origin.version ++ 0x20 :: (codeUnits "(source: " ++ behind))
  have two := literal (0x20 :: codeUnits "(source: ") behind
  simp only [List.cons_append, List.nil_append] at one two
  rw [written, parsePackSubheader, first, afterFirst, between, before]
  simp only [one, second, afterSecond, two, last, Option.bind_eq_bind, Option.bind_some]
  rw [if_pos ⟨id, version, source, inline, closed⟩]

/-- The packs in a prompt are told from its contexts just if each of them is named plainly. -/
theorem extract_packsToNamedContexts_iff (packs : List Pack) :
    extractContextPacksFromNamedContexts (packsToNamedContexts packs) = packs.map Pack.ref ↔
      ∀ pack ∈ packs, pack.origin.Plain := by
  rw [extractContextPacksFromNamedContexts, packsToNamedContexts, List.filterMap_map,
    List.filterMap_eq_map_iff_forall_eq_some]
  refine forall₂_congr fun pack _ => ?_
  constructor
  · intro read
    obtain ⟨origin, parsed, same⟩ := Option.map_eq_some_iff.mp read
    have read : parsePackSubheader (formatPackSubheader pack.origin) = some origin := parsed
    have plain := plain_of_parsePackSubheader read
    obtain rfl : origin = pack.origin := congrArg ContextPackRef.toPackOrigin same
    exact plain
  · intro plain
    simp [packToNamedContext, parse_formatPackSubheader plain, Pack.ref]

end BitBrat.Context
