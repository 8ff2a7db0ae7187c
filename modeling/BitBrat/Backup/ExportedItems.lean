import BitBrat.Backup.ExportedDocuments
import BitBrat.Backup.ImportSafety

/-! What the import of an exported backup is about to do. -/

namespace BitBrat

open Js

/-- Collections that are no documents of each other, and are not forbidden. -/
structure IsRegistry (registry : List BackupCollectionSpec) : Prop where
  path : ∀ spec ∈ registry, IsCollectionPath (collectionSegments spec.path)
  joined : ∀ spec ∈ registry, joinPath (collectionSegments spec.path) = spec.path
  apart : registry.Pairwise fun left right =>
    ¬ collectionSegments left.path <+: collectionSegments right.path ∧
      ¬ collectionSegments right.path <+: collectionSegments left.path

def specVisits (tree : FirestoreTree) (spec : BackupCollectionSpec) : List Visit :=
  documentsVisits spec (shouldRecurse spec) spec.stripFields (collectionSegments spec.path)
    (listDocuments tree spec.path)

def specItems (sdk : FirestoreSdk) (tree : FirestoreTree) (spec : BackupCollectionSpec) :
    List ImportItem :=
  .opened :: (specVisits tree spec).map (Visit.item sdk) ++ [.closed spec.path]

def mayRead (includeSecrets : Bool) (spec : BackupCollectionSpec) : Bool :=
  !(spec.sensitive && !includeSecrets)

def allowedSpecs (options : ExportOptions) (registry : List BackupCollectionSpec) :
    List BackupCollectionSpec :=
  (registry.filter fun spec =>
    options.collections = [] || options.collections.contains spec.path).filter
      (mayRead options.includeSecrets)

namespace IsRegistry

variable {spec : BackupCollectionSpec} {rest registry : List BackupCollectionSpec}

theorem of_sublist (proper : IsRegistry registry) (part : rest.Sublist registry) :
    IsRegistry rest where
  path := fun spec member => proper.path spec (part.subset member)
  joined := fun spec member => proper.joined spec (part.subset member)
  apart := proper.apart.sublist part

theorem path_ne (proper : IsRegistry (spec :: rest)) :
    ∀ other ∈ rest, other.path ≠ spec.path := by
  intro other member same
  obtain ⟨notPrefix, -⟩ := (List.pairwise_cons.mp proper.apart).1 other member
  rw [same] at notPrefix
  exact notPrefix (List.prefix_refl _)

theorem findSpec_eq (proper : IsRegistry registry) (member : spec ∈ registry) :
    findSpec spec.path registry = some spec := by
  unfold findSpec
  induction registry with
  | nil => cases member
  | cons first others ih =>
    rcases List.mem_cons.mp member with rfl | later
    · simp
    · have other : first.path ≠ spec.path := (proper.path_ne spec later).symm
      rw [List.find?_cons_of_neg (by simpa using other)]
      exact ih (proper.of_sublist (List.sublist_cons_self _ _)) later

theorem isForbiddenPath_eq (proper : IsRegistry registry) (member : spec ∈ registry) :
    isForbiddenPath spec.path = false := (proper.path spec member).allowed

end IsRegistry

section

variable {sdk : FirestoreSdk} {tree : FirestoreTree} (formed : tree.WellFormed sdk)

include formed

theorem entries_exportCollections {includeSecrets : Bool} :
    ∀ {specs : List BackupCollectionSpec} (_ : IsRegistry specs)
      {collections result : OrderedMap String (List BackupDocumentNode)} {counter count : Nat},
      (∀ spec ∈ specs, spec.path ∉ collections.entries.map Prod.fst) →
      exportCollections sdk tree includeSecrets specs collections counter = .ok (result, count) →
      ∃ added, result.entries = collections.entries ++ added ∧
        List.Forall₂ (fun spec entry => entry.1 = spec.path ∧
          nodesItems spec.path entry.2 = (specVisits tree spec).map (Visit.item sdk))
          (specs.filter (mayRead includeSecrets)) added
  | [], _, collections, result, counter, count, _, done => by
    cases done
    exact ⟨[], by simp, .nil⟩
  | spec :: rest, proper, collections, result, counter, count, fresh, done => by
    have later := proper.of_sublist (List.sublist_cons_self spec rest)
    have freshRest : ∀ other ∈ rest, other.path ∉ collections.entries.map Prod.fst :=
      fun other member => fresh other (List.mem_cons_of_mem _ member)
    unfold exportCollections at done
    split at done
    · -- A sensitive collection is left out.
      rename_i sensitive
      rw [List.filter_cons_of_neg (by simp [mayRead, sensitive])]
      exact entries_exportCollections later freshRest done
    · rename_i notLeftOut
      rw [List.filter_cons_of_pos (by simp [mayRead, Bool.eq_false_iff.mpr notLeftOut])]
      rw [if_neg (by simp [proper.isForbiddenPath_eq List.mem_cons_self])] at done
      have own : spec.path ∉ collections.entries.map Prod.fst := fresh spec List.mem_cons_self
      obtain ⟨distinct, fine⟩ := wellFormed_listDocuments formed spec.path
      obtain ⟨items, -⟩ : _ ∧ _ := exportCollectionDocs_items spec (shouldRecurse spec)
        spec.stripFields (proper.path spec List.mem_cons_self) (listDocuments tree spec.path)
        counter fine
      rw [proper.joined spec List.mem_cons_self] at items
      generalize exportCollectionDocs sdk spec (shouldRecurse spec) spec.stripFields spec.path
        (listDocuments tree spec.path) counter = exported at items done
      obtain ⟨nodes, next⟩ := exported
      have written : (collections.set spec.path nodes).entries =
          collections.entries ++ [(spec.path, nodes)] := setEntry_of_not_mem nodes own
      obtain ⟨added, entries, matched⟩ := entries_exportCollections later (by
        intro other member
        simp only [written, List.map_append, List.mem_append, List.map_cons, List.map_nil,
          List.mem_singleton, not_or]
        exact ⟨freshRest other member, proper.path_ne other member⟩) done
      exact ⟨(spec.path, nodes) :: added, by simp [entries, written],
        .cons ⟨rfl, items⟩ matched⟩

omit formed in
theorem collectionItems_eq {registry : List BackupCollectionSpec}
    (proper : IsRegistry registry) {spec : BackupCollectionSpec} (member : spec ∈ registry)
    {includeSecrets : Bool} (readable : mayRead includeSecrets spec = true)
    {collections : OrderedMap String (List BackupDocumentNode)} {nodes : List BackupDocumentNode}
    (found : collections.get? spec.path = some nodes)
    (items : nodesItems spec.path nodes = (specVisits tree spec).map (Visit.item sdk)) :
    collectionItems registry includeSecrets collections spec.path = specItems sdk tree spec := by
  have unbarred : ((findSpec spec.path registry).any (·.sensitive) && !includeSecrets) = false := by
    rw [proper.findSpec_eq member, Option.any_some]
    exact Bool.not_eq_true' _ ▸ readable
  unfold collectionItems specItems
  rw [if_neg (by simp [proper.isForbiddenPath_eq member]), if_neg (by simp [unbarred]), found,
    Option.getD_some, items]

omit formed in
theorem collectionItems_flatMap {registry : List BackupCollectionSpec}
    (proper : IsRegistry registry) {includeSecrets : Bool}
    {collections : OrderedMap String (List BackupDocumentNode)}
    {specs : List BackupCollectionSpec} {entries : List (String × List BackupDocumentNode)}
    (matched : List.Forall₂ (fun spec entry => entry.1 = spec.path ∧
      nodesItems spec.path entry.2 = (specVisits tree spec).map (Visit.item sdk)) specs entries)
    (among : ∀ spec ∈ specs, spec ∈ registry ∧ mayRead includeSecrets spec = true)
    (stored : ∀ entry ∈ entries, collections.get? entry.1 = some entry.2) :
    (entries.map Prod.fst).flatMap (collectionItems registry includeSecrets collections) =
      specs.flatMap (specItems sdk tree) := by
  induction matched with
  | nil => rfl
  | @cons spec entry specs entries first _ ih =>
    obtain ⟨path, items⟩ := first
    obtain ⟨member, readable⟩ := among spec List.mem_cons_self
    have found := stored entry List.mem_cons_self
    have later := ih (fun other held => among other (List.mem_cons_of_mem _ held))
      fun other held => stored other (List.mem_cons_of_mem _ held)
    rw [path] at found
    rw [List.map_cons, List.flatMap_cons, List.flatMap_cons, later, path,
      collectionItems_eq proper member readable found items]

omit formed in
theorem paths_of_matched {specs : List BackupCollectionSpec}
    {entries : List (String × List BackupDocumentNode)}
    (matched : List.Forall₂ (fun spec entry => entry.1 = spec.path ∧
      nodesItems spec.path entry.2 = (specVisits tree spec).map (Visit.item sdk)) specs entries) :
    entries.map Prod.fst = specs.map (·.path) := by
  induction matched with
  | nil => rfl
  | cons first _ ih => rw [List.map_cons, List.map_cons, first.1, ih]

theorem checkedItems_exportConfig {options : ExportOptions} {registry : List BackupCollectionSpec}
    (proper : IsRegistry registry) {result : ExportResult}
    (exported : exportConfig sdk tree options registry = .ok result) (mode : Option ImportMode)
    (confirm : Bool) :
    checkedItems (some result.envelope)
        { mode, confirm, includeSecrets := options.includeSecrets } registry =
      .ok ((allowedSpecs options registry).flatMap (specItems sdk tree)) := by
  obtain ⟨_, safe, rest⟩ := except_bind_ok.mp exported
  obtain ⟨specs, selected, rest⟩ := except_bind_ok.mp rest
  obtain ⟨⟨collections, count⟩, done, rest⟩ := except_bind_ok.mp rest
  cases rest
  have part : specs = registry.filter fun spec =>
      options.collections = [] || options.collections.contains spec.path := by
    unfold exportSpecs at selected
    split at selected
    · rename_i all
      cases selected
      simp [all]
    · rename_i some
      simp only at selected
      split at selected
      · cases selected
      · cases selected
        simp [some]
  have properPart : IsRegistry specs := part ▸ proper.of_sublist List.filter_sublist
  obtain ⟨added, entries, matched⟩ := entries_exportCollections formed properPart
    (fun _ _ => List.not_mem_nil) done
  have allowed : specs.filter (mayRead options.includeSecrets) = allowedSpecs options registry := by
    rw [part, allowedSpecs]
  rw [allowed] at matched
  have all : collections.entries = added := entries
  have among : ∀ spec ∈ allowedSpecs options registry, spec ∈ registry ∧
      mayRead options.includeSecrets spec = true := by
    intro spec member
    obtain ⟨selected, readable⟩ := List.mem_filter.mp member
    exact ⟨List.mem_of_mem_filter selected, readable⟩
  have paths := paths_of_matched matched
  -- Every collection of the backup is one that may be read.
  have safeEnvelope : assertEnvelopeSafe collections = .ok () := by
    have none : (collections.entries.map Prod.fst).find? isForbiddenPath = none := by
      rw [all, paths, List.find?_eq_none]
      intro path member
      obtain ⟨spec, held, rfl⟩ := List.mem_map.mp member
      simp [proper.isForbiddenPath_eq (among spec held).1]
    simp [assertEnvelopeSafe, none]
  have stored : ∀ entry ∈ added, collections.get? entry.1 = some entry.2 :=
    fun entry member => lookup_of_mem collections.distinct (all ▸ member)
  simp only [checkedItems, validateEnvelope, ne_eq, not_true_eq_false, ↓reduceIte, safe,
    safeEnvelope, bind, Except.bind, importItems, importPaths, all]
  rw [collectionItems_flatMap proper matched among stored]

end

end BitBrat
