import BitBrat.Js.Arithmetic
import BitBrat.Js.NumberText
import BitBrat.Js.Path
import BitBrat.Js.Sort
import BitBrat.Machine.Run

/-! The registry of events: what is read from its files, and which mapping an event has. -/

namespace BitBrat

open Js Machine

/-- An error that is thrown, which has a code where the file system throws it. -/
structure RegistryError where
  message : String
  code : Option String := none
  deriving DecidableEq

structure RegistryPackages where
  parseJson : String → Except String Value
  yamlLoad : String → Except String Value
  /-- The errors of a document under a schema, each with its path and its message. -/
  validate : Value → Value → Except String (List (String × String))
  jsonLogicApply : Value → Value → Except String Value

abbrev FileListing := Except RegistryError (List (String × Except RegistryError String))

structure ConfigFiles where
  eventDefinitionSchema : Except RegistryError String
  platformMappingSchema : Except RegistryError String
  events : FileListing
  /-- What is in the directory of the platforms: only a directory has files. -/
  platforms : Except RegistryError (List (String × Except RegistryError (Option FileListing)))

structure EventDefinition where
  type : Value
  description : Value
  version : Value
  category : Value
  deprecated : Value
  metadata : Value
  supportedPlatforms : Option (List String) := none

structure PlatformEventMapping where
  platform : String
  platformEvent : Value
  internalEventType : Value
  fieldMapping : Value
  priority : Number
  /-- A priority that is no number counts as the default. -/
  ranked : priority ≠ .nan
  filter : Value := .undefined
  egress : Value := .undefined

structure ConfigRegistry where
  configPath : String
  validateSchema : Bool := true
  eventDefSchema : Value := .undefined
  platformMappingSchema : Value := .undefined
  eventDefinitions : OrderedMap Value EventDefinition := .empty
  platformMappings : OrderedMap String (List PlatformEventMapping) := .empty

def packageError {α : Type} : Except String α → Except RegistryError α
  | .ok value => .ok value
  | .error message => .error { message }

/-- A missing file or directory is not an error, but ends what was to be read. -/
def uncaught (error : RegistryError) : Option RegistryError :=
  if error.code = some "ENOENT" then none else some error

def isYamlFile (name : String) : Bool :=
  ".yaml".toList.isSuffixOf name.toList || ".yml".toList.isSuffixOf name.toList

theorem orElse_ne_nan {number default : Number} (known : default ≠ .nan) :
    number.orElse default ≠ .nan := by
  cases number with
  | finite value =>
    rw [Number.orElse_finite]
    split
    · exact known
    · exact Number.noConfusion
  | infinity negative => exact Number.noConfusion
  | nan => exact known

section

variable (packages : RegistryPackages)

/-- Check a document by its schema, or else for the fields that it must have. -/
def checkDocument (validates : Bool) (schema : Value) (invalid first : String)
    (required : List String) (doc : Value) : Except RegistryError Unit := do
  if validates && schema.truthy then
    let errors ← packageError (packages.validate schema doc)
    if errors ≠ [] then
      throw { message := invalid ++ ": " ++
        ", ".intercalate (errors.map fun error => error.1 ++ " " ++ error.2) }
  if doc = .undefined ∨ doc = .null then
    throw { message := "Cannot read properties of " ++ doc.toText ++
      " (reading '" ++ first ++ "')" }
  if !(validates && schema.truthy) && (first :: required).any fun key => !(doc.get key).truthy then
    throw { message := invalid ++ ": missing required fields (" ++
      ", ".intercalate (first :: required) ++ ")" }

def loadEventDefinition (registry : ConfigRegistry) (filePath : String)
    (content : Except RegistryError String) : Except RegistryError EventDefinition := do
  let doc ← packageError (packages.yamlLoad (← content))
  checkDocument packages registry.validateSchema registry.eventDefSchema
    ("Invalid event definition in " ++ filePath) "type" ["version", "category"] doc
  return {
    type := doc.get "type"
    description := (doc.get "description").or (.str "")
    version := doc.get "version"
    category := doc.get "category"
    deprecated := (doc.get "deprecated").or (.bool false)
    metadata := (doc.get "metadata").or (.obj []) }

def platformMappingOf (platform : String) (doc : Value) : PlatformEventMapping where
  platform
  platformEvent := doc.get "platformEvent"
  internalEventType := doc.get "internalEventType"
  fieldMapping := doc.get "fieldMapping"
  -- Where the order of the files is decided, a text is read as the number it converts to.
  priority := (doc.get "priority").toNumber.orElse (.finite 0)
  ranked := orElse_ne_nan Number.noConfusion
  filter := (doc.get "filter").onlyIf (doc.get "filter").truthy
  egress := (doc.get "egress").onlyIf (doc.get "egress").truthy

def loadPlatformMapping (registry : ConfigRegistry) (platform filePath : String)
    (content : Except RegistryError String) : Except RegistryError PlatformEventMapping := do
  let doc ← packageError (packages.yamlLoad (← content))
  checkDocument packages registry.validateSchema registry.platformMappingSchema
    ("Invalid platform mapping in " ++ filePath) "platformEvent"
    ["internalEventType", "fieldMapping"] doc
  return platformMappingOf platform doc

def loadSchemas (files : ConfigFiles) (registry : ConfigRegistry) :
    ConfigRegistry × Option RegistryError :=
  let stop (registry : ConfigRegistry) (error : RegistryError) :=
    match uncaught error with
    | none => ({ registry with validateSchema := false }, none)
    | some error => (registry, some error)
  match files.eventDefinitionSchema.bind (packageError <| packages.parseJson ·) with
  | .error error => stop registry error
  | .ok schema =>
    let registry := { registry with eventDefSchema := schema }
    match files.platformMappingSchema.bind (packageError <| packages.parseJson ·) with
    | .error error => stop registry error
    | .ok schema => ({ registry with platformMappingSchema := schema }, none)

def loadEventFiles (eventsPath : String) :
    List (String × Except RegistryError String) → ConfigRegistry →
      ConfigRegistry × Option RegistryError
  | [], registry => (registry, none)
  | (file, content) :: rest, registry =>
    match loadEventDefinition packages registry (Js.joinPath [eventsPath, file]) content with
    | .error error => (registry, some error)
    | .ok definition =>
      loadEventFiles eventsPath rest { registry with
        eventDefinitions := registry.eventDefinitions.set definition.type definition }

def loadEventDefinitions (files : ConfigFiles) (registry : ConfigRegistry) :
    ConfigRegistry × Option RegistryError :=
  match files.events with
  | .error error => (registry, uncaught error)
  | .ok listing =>
    let loaded := loadEventFiles packages (Js.joinPath [registry.configPath, "events"])
      (listing.filter fun file => isYamlFile file.1) registry
    (loaded.1, loaded.2.bind uncaught)

/-- A mapping comes before another if its priority is not below that of the other. -/
def precedes (left right : PlatformEventMapping) : Bool :=
  (right.priority.sub left.priority).sign ≠ .gt

def loadPlatformDirectory (registry : ConfigRegistry) (platform platformPath : String)
    (listing : FileListing) : Except RegistryError (List PlatformEventMapping) := do
  let files ← listing
  let mappings ← (files.filter fun file => isYamlFile file.1).mapM fun file =>
    loadPlatformMapping packages registry platform (Js.joinPath [platformPath, file.1]) file.2
  return mappings.mergeSort precedes

def loadPlatformEntries (platformsPath : String) :
    List (String × Except RegistryError (Option FileListing)) → ConfigRegistry →
      ConfigRegistry × Option RegistryError
  | [], registry => (registry, none)
  | (_, .error error) :: _, registry => (registry, some error)
  | (_, .ok none) :: rest, registry => loadPlatformEntries platformsPath rest registry
  | (platform, .ok (some listing)) :: rest, registry =>
    match loadPlatformDirectory packages registry platform (Js.joinPath [platformsPath, platform])
      listing with
    | .error error => (registry, some error)
    | .ok mappings =>
      loadPlatformEntries platformsPath rest { registry with
        platformMappings := registry.platformMappings.set platform mappings }

def loadPlatformMappings (files : ConfigFiles) (registry : ConfigRegistry) :
    ConfigRegistry × Option RegistryError :=
  match files.platforms with
  | .error error => (registry, uncaught error)
  | .ok entries =>
    let loaded := loadPlatformEntries packages (Js.joinPath [registry.configPath, "platforms"])
      entries registry
    (loaded.1, loaded.2.bind uncaught)

def supportPlatform (platform : String) (definitions : OrderedMap Value EventDefinition)
    (mapping : PlatformEventMapping) : OrderedMap Value EventDefinition :=
  match definitions.get? mapping.internalEventType with
  | none => definitions
  | some definition =>
    let platforms := definition.supportedPlatforms.getD []
    definitions.set mapping.internalEventType { definition with
      supportedPlatforms :=
        some (if platform ∈ platforms then platforms else platforms ++ [platform]) }

def buildPlatformIndex (registry : ConfigRegistry) : ConfigRegistry :=
  { registry with
    eventDefinitions := registry.platformMappings.entries.foldl
      (fun definitions entry => entry.2.foldl (supportPlatform entry.1) definitions)
      registry.eventDefinitions }

/-- Load the files, and stop at the first error that is thrown. -/
def ConfigRegistry.load (files : ConfigFiles) (registry : ConfigRegistry) :
    ConfigRegistry × Option RegistryError :=
  let schemas := if registry.validateSchema then loadSchemas packages files registry
    else (registry, none)
  if schemas.2.isSome then schemas
  else
    let definitions := loadEventDefinitions packages files schemas.1
    if definitions.2.isSome then definitions
    else
      let mappings := loadPlatformMappings packages files definitions.1
      if mappings.2.isSome then mappings else (buildPlatformIndex mappings.1, none)

def ConfigRegistry.reload (files : ConfigFiles) (registry : ConfigRegistry) :
    ConfigRegistry × Option RegistryError :=
  ConfigRegistry.load packages files
    { registry with eventDefinitions := .empty, platformMappings := .empty }

/-- A filter accepts an event, where one that cannot be evaluated does not. -/
def compileFilter (filterConfig evt : Value) : Bool :=
  match packages.jsonLogicApply filterConfig evt with
  | .ok value => value.truthy
  | .error _ => false

/-- The mappings of an event of a platform, the highest priority first. -/
def ConfigRegistry.candidates (registry : ConfigRegistry) (platform platformEvent : String) :
    List PlatformEventMapping :=
  ((registry.platformMappings.get? platform).getD []).filter
    (·.platformEvent = .str platformEvent)

def ConfigRegistry.findByPlatformEvent (registry : ConfigRegistry)
    (platform platformEvent : String) (eventPayload : Value) : Option PlatformEventMapping :=
  match registry.candidates platform platformEvent with
  | [] => none
  | [mapping] =>
    if mapping.filter.truthy && eventPayload.truthy then
      if compileFilter packages mapping.filter eventPayload then some mapping else none
    else some mapping
  | candidates =>
    if eventPayload.truthy then
      (candidates.find? fun mapping =>
        !mapping.filter.truthy || compileFilter packages mapping.filter eventPayload).or
        candidates.head?
    else candidates.head?

inductive ConfigRegistryEvent where
  | load (files : ConfigFiles)
  | reload (files : ConfigFiles)
  | find (platform platformEvent : String) (eventPayload : Value)

def registryStep (registry : ConfigRegistry) : ConfigRegistryEvent → ConfigRegistry
  | .load files => (registry.load packages files).1
  | .reload files => (registry.reload packages files).1
  | .find _ _ _ => registry

end

section

variable (packages : RegistryPackages)

/-- A mapping has no filter, or its filter accepts the event. -/
def PlatformEventMapping.accepts (mapping : PlatformEventMapping) (eventPayload : Value) : Bool :=
  !mapping.filter.truthy || compileFilter packages mapping.filter eventPayload

/-- The mapping of an event is the best of those that accept it, if there is one. -/
structure MappingChoice (mappings : List PlatformEventMapping) (eventPayload : Value)
    (choice : Option PlatformEventMapping) : Prop where
  best : ∀ mapping, choice = some mapping → mapping ∈ mappings ∧
    mapping.accepts packages eventPayload = true ∧
    ∀ other ∈ mappings, other.accepts packages eventPayload = true →
      mapping.priority.lt other.priority = false
  missing : choice = none → ∀ mapping ∈ mappings, mapping.accepts packages eventPayload = false

/-- The mappings of a platform are those that its files describe, in some order. -/
def DescribedBy (platform : String) (files : List (String × Except RegistryError String))
    (mappings : List PlatformEventMapping) : Prop :=
  ∃ described, List.Forall₂ (fun file mapping => ∃ text doc, file.2 = .ok text ∧
      packages.yamlLoad text = .ok doc ∧ mapping = platformMappingOf platform doc)
    (files.filter fun file => isYamlFile file.1) described ∧ mappings.Perm described

def AllRead (entries : List (String × Except RegistryError (Option FileListing))) : Prop :=
  ∀ entry ∈ entries, ∃ directory, entry.2 = .ok directory ∧
    ∀ listing ∈ directory, ∃ files, listing = .ok files ∧ ∀ file ∈ files, ∃ text, file.2 = .ok text

/-- What was loaded without an error has the mappings of all the files. -/
def LoadsAll (files : ConfigFiles) (loaded : ConfigRegistry × Option RegistryError) : Prop :=
  loaded.2 = none → ∀ entries, files.platforms = .ok entries → AllRead entries →
    (entries.map Prod.fst).Nodup → ∀ platform listing,
      (platform, .ok (some (.ok listing))) ∈ entries →
      ∃ mappings, loaded.1.platformMappings.get? platform = some mappings ∧
        DescribedBy packages platform listing mappings

structure RegistryLaw (registry : ConfigRegistry) (event : ConfigRegistryEvent) : Prop where
  loaded : ∀ files, event = .load files → LoadsAll packages files (registry.load packages files)
  reloaded : ∀ files, event = .reload files →
    LoadsAll packages files (registry.reload packages files)
  kept : ∀ files, event = .reload files → (registry.reload packages files).2 ≠ none →
    (registryStep packages registry event).eventDefinitions = registry.eventDefinitions ∧
      (registryStep packages registry event).platformMappings = registry.platformMappings
  choice : ∀ platform platformEvent eventPayload,
    event = .find platform platformEvent eventPayload → eventPayload ≠ .undefined →
    MappingChoice packages (registry.candidates platform platformEvent) eventPayload
      (registry.findByPlatformEvent packages platform platformEvent eventPayload)

/-- Some mapping of several accepts the event, and a falsy event is accepted by the first. -/
def FilterDecides (candidates : List PlatformEventMapping) (eventPayload : Value) : Prop :=
  if eventPayload.truthy then
    candidates.length ≤ 1 ∨ ∃ mapping ∈ candidates, mapping.accepts packages eventPayload = true
  else ∀ mapping ∈ candidates.head?, mapping.accepts packages eventPayload = true

/-- Reloads do not fail, and the filters decide which mapping an event has. -/
def RegistryCondition (registry : ConfigRegistry) : ConfigRegistryEvent → Prop
  | .load _ => True
  | .reload files => (registry.reload packages files).2 = none
  | .find platform platformEvent eventPayload => eventPayload ≠ .undefined →
    FilterDecides packages (registry.candidates platform platformEvent) eventPayload

def Prioritised (registry : ConfigRegistry) : Prop :=
  ∀ platform mappings, registry.platformMappings.get? platform = some mappings →
    mappings.Pairwise fun left right => left.priority.lt right.priority = false

end

section

variable {packages : RegistryPackages} {registry : ConfigRegistry}

theorem precedes_iff (left right : PlatformEventMapping) :
    precedes left right = true ↔ left.priority.lt right.priority = false := by
  by_cases same : right.priority = left.priority
  · have equal : (right.priority.sub left.priority).sign ≠ .gt := by
      rw [same]
      cases known : left.priority with
      | finite value => simp [Number.sub_finite, Number.sign]
      | infinity negative =>
        cases negative <;> simp [Number.sub, Number.neg, Number.add, Number.sign]
      | nan => exact absurd known left.ranked
    rw [same, Number.lt_irrefl]
    simp [precedes, equal]
  · have sign := Number.sign_sub same right.ranked left.ranked
    rw [precedes, sign]
    by_cases below : right.priority.lt left.priority = true
    · have above : left.priority.lt right.priority = false := by
        by_contra other
        rw [Bool.not_eq_false] at other
        have loop := Number.lt_trans below other
        rw [Number.lt_irrefl] at loop
        exact Bool.false_ne_true loop
      simp [below, above]
    · have other := (Number.lt_or_lt same right.ranked left.ranked).resolve_left below
      simp [below, other]

theorem precedes_trans (first second third : PlatformEventMapping)
    (upper : precedes first second = true) (lower : precedes second third = true) :
    precedes first third = true := by
  rw [precedes_iff] at upper lower ⊢
  by_contra above
  rw [Bool.not_eq_false] at above
  -- The second mapping is above the first, or the third is above the second.
  by_cases same : first.priority = second.priority
  · rw [same, lower] at above
    exact Bool.false_ne_true above
  · rcases Number.lt_or_lt same first.ranked second.ranked with below | below
    · rw [upper] at below
      exact Bool.false_ne_true below
    · rw [Number.lt_trans below above] at lower
      exact Bool.false_ne_true lower.symm

theorem precedes_total (first second : PlatformEventMapping) :
    (precedes first second || precedes second first) = true := by
  rw [Bool.or_eq_true, precedes_iff, precedes_iff]
  by_contra both
  rw [not_or, Bool.not_eq_false, Bool.not_eq_false] at both
  have loop := Number.lt_trans both.1 both.2
  rw [Number.lt_irrefl] at loop
  exact Bool.false_ne_true loop

theorem before_of_find? {α : Type} {before : α → α → Prop} {test : α → Bool}
    {items : List α} {first : α} (ordered : items.Pairwise before)
    (found : items.find? test = some first) (refl : before first first) :
    ∀ other ∈ items, test other = true → before first other := by
  induction items with
  | nil => simp at found
  | cons head rest ih =>
    obtain ⟨ahead, ordered⟩ := List.pairwise_cons.mp ordered
    intro other member passes
    by_cases here : test head = true
    · obtain rfl : head = first := by simpa [List.find?_cons, here] using found
      rcases List.mem_cons.mp member with rfl | later
      · exact refl
      · exact ahead other later
    · have found : rest.find? test = some first := by simpa [List.find?_cons, here] using found
      rcases List.mem_cons.mp member with rfl | later
      · exact absurd passes here
      · exact ih ordered found other later passes

theorem mappingChoice_first_iff {first : PlatformEventMapping}
    {rest : List PlatformEventMapping} {eventPayload : Value}
    (ordered : (first :: rest).Pairwise fun left right =>
      left.priority.lt right.priority = false) :
    MappingChoice packages (first :: rest) eventPayload (some first) ↔
      first.accepts packages eventPayload = true := by
  constructor
  · intro choice
    exact (choice.best first rfl).2.1
  · intro accepts
    refine ⟨?_, fun missing => absurd missing (Option.some_ne_none _)⟩
    intro mapping chosen
    obtain rfl := Option.some.inj chosen
    refine ⟨List.mem_cons_self, accepts, ?_⟩
    intro other member _
    rcases List.mem_cons.mp member with rfl | later
    · exact Number.lt_irrefl _
    · exact (List.pairwise_cons.mp ordered).1 other later

theorem mappingChoice_find? {mappings : List PlatformEventMapping} {eventPayload : Value}
    (ordered : mappings.Pairwise fun left right => left.priority.lt right.priority = false) :
    MappingChoice packages mappings eventPayload
      (mappings.find? (·.accepts packages eventPayload)) := by
  constructor
  · intro mapping found
    refine ⟨List.mem_of_find?_eq_some found, ?_, ?_⟩
    · simpa using List.find?_some found
    · exact before_of_find? ordered found (Number.lt_irrefl _)
  · intro missing mapping member
    simpa using List.find?_eq_none.mp missing mapping member

theorem findByPlatformEvent_iff (prioritised : Prioritised registry)
    (platform platformEvent : String) (eventPayload : Value) :
    MappingChoice packages (registry.candidates platform platformEvent) eventPayload
        (registry.findByPlatformEvent packages platform platformEvent eventPayload) ↔
      FilterDecides packages (registry.candidates platform platformEvent) eventPayload := by
  have ordered : (registry.candidates platform platformEvent).Pairwise fun left right =>
      left.priority.lt right.priority = false := by
    unfold ConfigRegistry.candidates
    cases found : registry.platformMappings.get? platform with
    | none => exact List.Pairwise.nil
    | some mappings => exact (prioritised platform mappings found).filter _
  unfold ConfigRegistry.findByPlatformEvent FilterDecides
  generalize registry.candidates platform platformEvent = candidates at ordered ⊢
  match candidates with
  | [] =>
    have empty := @mappingChoice_find? packages [] eventPayload List.Pairwise.nil
    simpa using empty
  | [mapping] =>
    by_cases given : eventPayload.truthy = true
    · -- A single mapping is found if it accepts the event.
      have single := @mappingChoice_find? packages [mapping] eventPayload ordered
      simp only [given, Bool.and_true, if_true, List.length_singleton, Nat.le_refl, true_or,
        iff_true]
      convert single using 1
      by_cases filtered : mapping.filter.truthy = true
      · by_cases passes : compileFilter packages mapping.filter eventPayload = true <;>
          simp [PlatformEventMapping.accepts, filtered, passes]
      · simp [PlatformEventMapping.accepts, filtered]
    · simp only [given, Bool.and_false, Bool.false_eq_true, if_false]
      rw [mappingChoice_first_iff ordered]
      simp
  | first :: second :: rest =>
    by_cases given : eventPayload.truthy = true
    · have several := @mappingChoice_find? packages _ eventPayload ordered
      simp only [given, if_true]
      change MappingChoice packages _ eventPayload (((first :: second :: rest).find?
        (·.accepts packages eventPayload)).or (some first)) ↔ _
      cases found : (first :: second :: rest).find? (·.accepts packages eventPayload) with
      | some mapping =>
        rw [found] at several
        have passes := List.find?_some found
        exact iff_of_true several
          (Or.inr ⟨mapping, List.mem_of_find?_eq_some found, by simpa using passes⟩)
      | none =>
        -- No mapping accepts the event, but the first one is found all the same.
        have rejected := List.find?_eq_none.mp found
        rw [Option.none_or, mappingChoice_first_iff ordered]
        refine iff_of_false (rejected first List.mem_cons_self) ?_
        rintro (short | ⟨mapping, member, passes⟩)
        · simp at short
        · exact rejected mapping member passes
    · simp only [given, Bool.false_eq_true, if_false, List.head?_cons]
      rw [mappingChoice_first_iff ordered]
      simp

theorem code_of_checkDocument {validates : Bool} {schema doc : Value}
    {invalid first : String} {required : List String} {error : RegistryError}
    (failed : checkDocument packages validates schema invalid first required doc = .error error) :
    error.code = none := by
  unfold checkDocument at failed
  simp only [bind, Except.bind, pure, Except.pure, throw, throwThe, MonadExceptOf.throw] at failed
  -- Every error that is thrown here is built without a code.
  by_cases validated : (validates && schema.truthy) = true
  · cases answer : packages.validate schema doc with
    | error message =>
      simp only [validated, if_true, answer, packageError] at failed
      rw [← Except.error.inj failed]
    | ok errors =>
      simp only [validated, if_true, answer, packageError] at failed
      by_cases none_found : errors = []
      · by_cases nullish : doc = .undefined ∨ doc = .null
        · simp only [none_found, ne_eq, not_true_eq_false, if_false, nullish, if_true] at failed
          rw [← Except.error.inj failed]
        · simp [none_found, nullish] at failed
      · simp only [ne_eq, none_found, not_false_eq_true, if_true] at failed
        rw [← Except.error.inj failed]
  · by_cases nullish : doc = .undefined ∨ doc = .null
    · simp only [validated, Bool.false_eq_true, if_false, nullish, if_true] at failed
      rw [← Except.error.inj failed]
    · by_cases lacking : ((first :: required).any fun key => !(doc.get key).truthy) = true
      · simp only [validated, Bool.false_eq_true, if_false, nullish, Bool.not_false,
          Bool.true_and, lacking, if_true] at failed
        rw [← Except.error.inj failed]
      · simp [validated, nullish, lacking] at failed

theorem loadPlatformMapping_cases (registry : ConfigRegistry)
    (platform filePath text : String) : (∃ doc, packages.yamlLoad text = .ok doc ∧
      loadPlatformMapping packages registry platform filePath (.ok text) =
        .ok (platformMappingOf platform doc)) ∨
    ∃ error, loadPlatformMapping packages registry platform filePath (.ok text) = .error error ∧
      error.code = none := by
  cases read : packages.yamlLoad text with
  | error message =>
    refine Or.inr ⟨{ message }, ?_, rfl⟩
    simp [loadPlatformMapping, packageError, read, bind, Except.bind]
  | ok doc =>
    cases checked : checkDocument packages registry.validateSchema registry.platformMappingSchema
        ("Invalid platform mapping in " ++ filePath) "platformEvent"
        ["internalEventType", "fieldMapping"] doc with
    | error error =>
      refine Or.inr ⟨error, ?_, code_of_checkDocument checked⟩
      simp [loadPlatformMapping, packageError, read, checked, bind, Except.bind]
    | ok _ =>
      refine Or.inl ⟨doc, rfl, ?_⟩
      simp [loadPlatformMapping, packageError, read, checked, bind, Except.bind, pure, Except.pure]

theorem mapM_loadPlatformMapping (registry : ConfigRegistry)
    (platform platformPath : String) (files : List (String × Except RegistryError String))
    (readable : ∀ file ∈ files, ∃ text, file.2 = .ok text) :
    (∃ described, files.mapM (fun file => loadPlatformMapping packages registry platform
        (Js.joinPath [platformPath, file.1]) file.2) = .ok described ∧
      List.Forall₂ (fun file mapping => ∃ text doc, file.2 = .ok text ∧
        packages.yamlLoad text = .ok doc ∧ mapping = platformMappingOf platform doc)
        files described) ∨
    ∃ error, files.mapM (fun file => loadPlatformMapping packages registry platform
        (Js.joinPath [platformPath, file.1]) file.2) = .error error ∧ error.code = none := by
  induction files with
  | nil => exact Or.inl ⟨[], rfl, List.Forall₂.nil⟩
  | cons file rest ih =>
    obtain ⟨text, content⟩ := readable file List.mem_cons_self
    rw [List.mapM_cons, content]
    rcases @loadPlatformMapping_cases packages registry platform
      (Js.joinPath [platformPath, file.1]) text with ⟨doc, read, loaded⟩ | ⟨error, failed, code⟩
    · rcases ih fun other later => readable other (List.mem_cons_of_mem _ later) with
        ⟨described, all, match_up⟩ | ⟨error, failed, code⟩
      · refine Or.inl ⟨platformMappingOf platform doc :: described, ?_,
          List.Forall₂.cons ⟨text, doc, content, read, rfl⟩ match_up⟩
        rw [loaded, all]
        rfl
      · refine Or.inr ⟨error, ?_, code⟩
        rw [loaded, failed]
        rfl
    · refine Or.inr ⟨error, ?_, code⟩
      rw [failed]
      rfl

theorem loadPlatformDirectory_cases (registry : ConfigRegistry)
    (platform platformPath : String) {files : List (String × Except RegistryError String)}
    (readable : ∀ file ∈ files, ∃ text, file.2 = .ok text) :
    (∃ mappings, loadPlatformDirectory packages registry platform platformPath (.ok files) =
        .ok mappings ∧ DescribedBy packages platform files mappings) ∨
    ∃ error, loadPlatformDirectory packages registry platform platformPath (.ok files) =
        .error error ∧ error.code = none := by
  have some_readable : ∀ file ∈ files.filter fun file => isYamlFile file.1,
      ∃ text, file.2 = .ok text := fun file member => readable file (List.mem_of_mem_filter member)
  rcases @mapM_loadPlatformMapping packages registry platform platformPath _
    some_readable with ⟨described, all, match_up⟩ | ⟨error, failed, code⟩
  · refine Or.inl ⟨described.mergeSort precedes, ?_, described, match_up,
      List.mergeSort_perm _ _⟩
    simp only [loadPlatformDirectory, bind, Except.bind, all, pure, Except.pure]
  · refine Or.inr ⟨error, ?_, code⟩
    simp only [loadPlatformDirectory, bind, Except.bind, failed]

theorem pairwise_loadPlatformDirectory {platform platformPath : String}
    {listing : FileListing} {mappings : List PlatformEventMapping}
    (loaded : loadPlatformDirectory packages registry platform platformPath listing =
      .ok mappings) :
    mappings.Pairwise fun left right => left.priority.lt right.priority = false := by
  unfold loadPlatformDirectory at loaded
  simp only [bind, Except.bind, pure, Except.pure] at loaded
  split at loaded
  · cases loaded
  · split at loaded
    · cases loaded
    · rw [← Except.ok.inj loaded]
      refine (List.pairwise_mergeSort precedes_trans precedes_total _).imp ?_
      intro left right before
      exact (precedes_iff left right).mp before

private theorem Prioritised.loadPlatformEntries (prioritised : Prioritised registry)
    (platformsPath : String)
    (entries : List (String × Except RegistryError (Option FileListing))) :
    Prioritised (BitBrat.loadPlatformEntries packages platformsPath entries registry).1 := by
  induction entries generalizing registry with
  | nil => exact prioritised
  | cons entry rest ih =>
    obtain ⟨platform, directory⟩ := entry
    match directory with
    | .error _ => exact prioritised
    | .ok none => exact ih prioritised
    | .ok (some listing) =>
      unfold BitBrat.loadPlatformEntries
      split
      · exact prioritised
      · rename_i mappings loaded
        refine ih ?_
        intro other stored found
        by_cases same : other = platform
        · subst same
          rw [OrderedMap.get?_set_self] at found
          rw [← Option.some.inj found]
          exact pairwise_loadPlatformDirectory loaded
        · rw [OrderedMap.get?_set_of_ne _ same] at found
          exact prioritised other stored found

theorem get?_loadPlatformEntries {platformsPath platform : String}
    {entries : List (String × Except RegistryError (Option FileListing))}
    (unlisted : platform ∉ entries.map Prod.fst) :
    (loadPlatformEntries packages platformsPath entries registry).1.platformMappings.get?
      platform = registry.platformMappings.get? platform := by
  induction entries generalizing registry with
  | nil => rfl
  | cons entry rest ih =>
    obtain ⟨name, directory⟩ := entry
    rw [List.map_cons, List.mem_cons, not_or] at unlisted
    match directory with
    | .error _ => rfl
    | .ok none => exact ih unlisted.2
    | .ok (some listing) =>
      unfold loadPlatformEntries
      split
      · rfl
      · rw [ih unlisted.2]
        exact OrderedMap.get?_set_of_ne _ unlisted.1 _

theorem described_loadPlatformEntries {platformsPath : String}
    {entries : List (String × Except RegistryError (Option FileListing))}
    (readable : AllRead entries) (distinct : (entries.map Prod.fst).Nodup)
    (succeeds : (loadPlatformEntries packages platformsPath entries registry).2.bind uncaught =
      none) {platform : String} {files : List (String × Except RegistryError String)}
    (listed : (platform, .ok (some (.ok files))) ∈ entries) :
    ∃ mappings, (loadPlatformEntries packages platformsPath entries
        registry).1.platformMappings.get? platform = some mappings ∧
      DescribedBy packages platform files mappings := by
  induction entries generalizing registry with
  | nil => simp at listed
  | cons entry rest ih =>
    have later := fun other member => readable other (List.mem_cons_of_mem _ member)
    obtain ⟨fresh, apart⟩ := List.nodup_cons.mp distinct
    obtain ⟨name, directory⟩ := entry
    match directory with
    | .error error =>
      obtain ⟨_, read, _⟩ := readable _ List.mem_cons_self
      cases read
    | .ok none =>
      rcases List.mem_cons.mp listed with same | listed
      · simp at same
      · exact ih later apart succeeds listed
    | .ok (some listing) =>
      obtain ⟨_, read, contents⟩ := readable _ List.mem_cons_self
      obtain rfl := Except.ok.inj read
      obtain ⟨names, rfl, texts⟩ := contents listing rfl
      unfold loadPlatformEntries at succeeds ⊢
      rcases @loadPlatformDirectory_cases packages registry name
        (Js.joinPath [platformsPath, name]) _ texts with ⟨mappings, loaded, described⟩ |
        ⟨error, failed, code⟩
      · simp only [loaded] at succeeds ⊢
        rcases List.mem_cons.mp listed with same | listed
        · obtain ⟨rfl, equal⟩ := Prod.mk.inj same
          obtain rfl := Except.ok.inj (Option.some.inj (Except.ok.inj equal))
          refine ⟨mappings, ?_, described⟩
          rw [get?_loadPlatformEntries fresh, OrderedMap.get?_set_self]
        · exact ih later apart succeeds listed
      · simp [failed, uncaught, code] at succeeds

theorem platformMappings_loadSchemas (files : ConfigFiles) :
    (loadSchemas packages files registry).1.platformMappings = registry.platformMappings := by
  unfold loadSchemas
  simp only
  split
  · split <;> rfl
  · split
    · split <;> rfl
    · rfl

theorem platformMappings_loadEventFiles (eventsPath : String)
    (listing : List (String × Except RegistryError String)) :
    (loadEventFiles packages eventsPath listing registry).1.platformMappings =
      registry.platformMappings := by
  induction listing generalizing registry with
  | nil => rfl
  | cons file rest ih =>
    obtain ⟨name, content⟩ := file
    unfold loadEventFiles
    split
    · rfl
    · rw [ih]

theorem platformMappings_loadEventDefinitions (files : ConfigFiles) :
    (loadEventDefinitions packages files registry).1.platformMappings =
      registry.platformMappings := by
  unfold loadEventDefinitions
  split
  · rfl
  · exact platformMappings_loadEventFiles _ _

theorem load_cases (files : ConfigFiles) (registry : ConfigRegistry) :
    (registry.load packages files).1.platformMappings = registry.platformMappings ∧
        (registry.load packages files).2 ≠ none ∨
      ∃ before : ConfigRegistry, before.platformMappings = registry.platformMappings ∧
        (registry.load packages files).1.platformMappings =
          (loadPlatformMappings packages files before).1.platformMappings ∧
        (registry.load packages files).2 = (loadPlatformMappings packages files before).2 := by
  have schemas : (if registry.validateSchema then loadSchemas packages files registry
      else (registry, none)).1.platformMappings = registry.platformMappings := by
    split
    · exact platformMappings_loadSchemas files
    · rfl
  unfold ConfigRegistry.load
  simp only
  generalize (if registry.validateSchema then loadSchemas packages files registry
    else (registry, none)) = loaded at schemas
  split
  · rename_i failed
    exact Or.inl ⟨schemas, Option.isSome_iff_ne_none.mp failed⟩
  · have definitions :=
      (@platformMappings_loadEventDefinitions packages loaded.1 files).trans schemas
    split
    · rename_i failed
      exact Or.inl ⟨definitions, Option.isSome_iff_ne_none.mp failed⟩
    · refine Or.inr ⟨_, definitions, ?_⟩
      split
      · exact ⟨rfl, rfl⟩
      · rename_i succeeds
        exact ⟨rfl, (Option.not_isSome_iff_eq_none.mp succeeds).symm⟩

theorem Prioritised.load (prioritised : Prioritised registry) (files : ConfigFiles) :
    Prioritised (registry.load packages files).1 := by
  rcases @load_cases packages files registry with ⟨same, _⟩ | ⟨before, same, loaded, _⟩
  · unfold Prioritised
    rwa [same]
  · unfold Prioritised
    rw [loaded, loadPlatformMappings]
    have prioritised : Prioritised before := by
      unfold Prioritised
      rwa [same]
    split
    · exact prioritised
    · exact prioritised.loadPlatformEntries _ _

theorem loadsAll_load (files : ConfigFiles) (registry : ConfigRegistry) :
    LoadsAll packages files (registry.load packages files) := by
  intro succeeds entries found readable distinct platform listing listed
  rcases @load_cases packages files registry with ⟨_, failed⟩ | ⟨before, _, loaded, outcome⟩
  · exact absurd succeeds failed
  · rw [outcome] at succeeds
    rw [loaded]
    simp only [loadPlatformMappings, found] at succeeds ⊢
    exact described_loadPlatformEntries readable distinct succeeds listed

theorem Prioritised.step (prioritised : Prioritised registry) (event : ConfigRegistryEvent) :
    Prioritised (registryStep packages registry event) := by
  cases event with
  | load files => exact prioritised.load files
  | reload files =>
    have empty : Prioritised
        { registry with eventDefinitions := .empty, platformMappings := .empty } := by
      intro platform mappings found
      simp at found
    exact empty.load files
  | find platform platformEvent eventPayload => exact prioritised

theorem registryLaw_of_condition (prioritised : Prioritised registry)
    {event : ConfigRegistryEvent} (condition : RegistryCondition packages registry event) :
    RegistryLaw packages registry event where
  loaded := fun files _ => loadsAll_load files registry
  reloaded := fun files _ => loadsAll_load files _
  kept := by
    rintro files rfl failed
    exact absurd condition failed
  choice := by
    rintro platform platformEvent eventPayload rfl given
    exact (findByPlatformEvent_iff prioritised platform platformEvent eventPayload).mpr
      (condition given)

/-- Where no reload fails and the filters decide, every call of every run keeps the law. -/
theorem registry_along (packages : RegistryPackages) (configPath : String) (validateSchema : Bool)
    (events : List ConfigRegistryEvent)
    (condition : Along (registryStep packages) (RegistryCondition packages)
      { configPath, validateSchema } events) :
    Along (registryStep packages) (RegistryLaw packages) { configPath, validateSchema } events := by
  refine along_of_invariant Prioritised (fun _ event prioritised _ => prioritised.step event)
    (fun _ _ prioritised condition => registryLaw_of_condition prioritised condition) ?_ condition
  intro platform mappings found
  simp at found

end

/-- The text of a mapping of messages, with a filter that reads a property of the event. -/
def slackFile (kind : String) : String :=
  "platformEvent: message\ninternalEventType: " ++ kind ++ ".message.v1\nfieldMapping:\n" ++
    "  userId: user\n  channelId: channel\nfilter:\n  var: " ++ kind ++ "\n"

def slackDocument (kind : String) : Value :=
  .obj [("platformEvent", .str "message"), ("internalEventType", .str (kind ++ ".message.v1")),
    ("fieldMapping", .obj [("userId", .str "user"), ("channelId", .str "channel")]),
    ("filter", .obj [("var", .str kind)])]

def slackPackages : RegistryPackages where
  parseJson _ := .error "Unexpected end of JSON input"
  yamlLoad text :=
    if text = slackFile "dm" then .ok (slackDocument "dm")
    else if text = slackFile "chat" then .ok (slackDocument "chat")
    else .error "unknown tag"
  validate _ _ := .ok []
  jsonLogicApply filter payload := .ok ((payload.get (filter.get "var").toText).coalesce .null)

def slackFiles : ConfigFiles where
  eventDefinitionSchema := .error { message := "no such file", code := some "ENOENT" }
  platformMappingSchema := .error { message := "no such file", code := some "ENOENT" }
  events := .ok []
  platforms := .ok [("slack", .ok (some (.ok [
    ("dm-message.v1.yaml", .ok (slackFile "dm")),
    ("chat-message.v1.yaml", .ok (slackFile "chat"))])))]

def slackRegistry : ConfigRegistry :=
  registryStep slackPackages { configPath := "./config" } (.load slackFiles)

def slackMappings : List PlatformEventMapping :=
  ["dm", "chat"].map fun kind => platformMappingOf "slack" (slackDocument kind)

set_option maxRecDepth 8000 in
theorem candidates_slackRegistry :
    slackRegistry.candidates "slack" "message" = slackMappings := by
  have sorted : slackMappings.mergeSort precedes = slackMappings :=
    List.mergeSort_of_pairwise (by decide +kernel)
  have loaded : slackRegistry.candidates "slack" "message" =
      (slackMappings.mergeSort precedes).filter (·.platformEvent = .str "message") := by
    rfl
  rw [loaded, sorted]
  rfl

/-- The filter of one of the two mappings accepts this event. -/
theorem registry_along_slack :
    Along (registryStep slackPackages) (RegistryLaw slackPackages) { configPath := "./config" }
      [.load slackFiles, .find "slack" "message" (.obj [("chat", .bool true)])] := by
  refine registry_along slackPackages "./config" true _ ⟨trivial, ?_, trivial⟩
  intro _
  change FilterDecides slackPackages (slackRegistry.candidates "slack" "message") _
  rw [candidates_slackRegistry]
  exact Or.inr ⟨_, List.mem_cons_of_mem _ List.mem_cons_self, by decide +kernel⟩

/-- Where no filter of several accepts an event, it has a mapping all the same. -/
theorem not_registry_along :
    ¬ ∀ (packages : RegistryPackages) (configPath : String) (validateSchema : Bool)
      (events : List ConfigRegistryEvent), Along (registryStep packages) (RegistryLaw packages)
        { configPath, validateSchema } events := by
  intro all
  have law := (all slackPackages "./config" true
    [.load slackFiles, .find "slack" "message" (.obj [("text", .str "hi")])]).2.1
  have choice := law.choice "slack" "message" (.obj [("text", .str "hi")]) rfl
    Value.noConfusion
  have found : slackRegistry.findByPlatformEvent slackPackages "slack" "message"
      (.obj [("text", .str "hi")]) = slackMappings.head? := by
    rw [ConfigRegistry.findByPlatformEvent, candidates_slackRegistry]
    rfl
  change MappingChoice slackPackages (slackRegistry.candidates "slack" "message") _
    (slackRegistry.findByPlatformEvent slackPackages "slack" "message" _) at choice
  rw [found] at choice
  exact absurd (choice.best _ rfl).2.1 (by decide +kernel)

end BitBrat
