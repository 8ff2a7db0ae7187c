import BitBrat.Js.KeyOrder
import Mathlib.Tactic.Common

/-! The compose commands of a deployment, on the local machine and on a remote one. -/

namespace BitBrat

open Js

structure DeclaredService where
  name : String
  hasBuild : Bool
  /-- A service with a profile of its own is only started by name. -/
  profiled : Bool := false
  dependsOn : List String := []
  deriving DecidableEq

/-- The files of a repository, and what its architecture says of the services. -/
structure DockerSetup where
  repoRoot : String
  baseComposePath : String
  serviceNames : List String
  hasObservability : Bool
  inactiveServices : List String
  /-- The services that a file declares, and none where it cannot be read. -/
  declares : String → List DeclaredService
  targetMaxConcurrent : Option Nat
  maxConcurrentDeployments : Option Nat
  baseCached : Bool

/-- The options of a deployment, of which empty texts count as missing. -/
structure DockerOrchestratorOptions where
  service : Option String := none
  servicesToStart : Option (List String) := none
  composeFile : Option String := none
  loki : Bool := false
  noDeps : Bool := false
  forceRecreate : Bool := false
  noCache : Bool := false
  rebuildBase : Bool := false

def DockerOrchestratorOptions.named (options : DockerOrchestratorOptions) : Option String :=
  options.service.filter (· ≠ "")

def DockerOrchestratorOptions.given (options : DockerOrchestratorOptions) : Option String :=
  options.composeFile.filter (· ≠ "")

structure ComposeFileSet where
  baseFile : String
  serviceFiles : List String := []
  observabilityFile : Option String := none
  targetService : Option String := none
  deriving DecidableEq

def kebabService (name : String) : String := name.map fun char => if char = '_' then '-' else char

/-- Whether a path ends like the file of a context, which declares every service itself. -/
def isContextSpecificCompose (path : String) : Bool :=
  let (ending, rest) := path.toList.reverse.splitAt 5
  let context := rest.takeWhile fun char => ('a' ≤ char && char ≤ 'z') || char = '-'
  ending = ".yaml".toList.reverse && context ≠ [] &&
    "docker-compose.".toList.reverse.isPrefixOf (rest.drop context.length)

/-- The names of the inactive services, as compose files have them. -/
def DockerSetup.inactive (setup : DockerSetup) : List String :=
  setup.inactiveServices.map kebabService

def serviceFile (name : String) : String :=
  "infrastructure/docker-compose/services/" ++ name ++ ".compose.yaml"

def observabilityPath : String :=
  "infrastructure/docker-compose/observability/docker-compose.observability.yaml"

def inactiveError (service : String) : String :=
  "Service '" ++ service ++ "' is inactive (active:false) in architecture.yaml and cannot be " ++
    "deployed. Set active:true to deploy it."

def getComposeFiles (setup : DockerSetup) (targetService : Option String) (enableLoki : Bool) :
    Except String ComposeFileSet :=
  let baseFile := setup.baseComposePath
  let observabilityFile :=
    if enableLoki ∧ setup.hasObservability then some observabilityPath else none
  match targetService with
  | some service =>
    let kebab := kebabService service
    if kebab ∈ setup.inactive then .error (inactiveError service)
    else if isContextSpecificCompose baseFile then .ok { baseFile, targetService := some kebab }
    else if kebab ∈ setup.serviceNames then
      .ok { baseFile, serviceFiles := [kebab], observabilityFile }
    else .error ("Compose file not found for service: " ++ service ++ " at " ++ setup.repoRoot ++
      "/" ++ serviceFile kebab)
  | none =>
    if isContextSpecificCompose baseFile then .ok { baseFile }
    else
      let active := (setup.serviceNames.filter fun name => name ∉ setup.inactive).mergeSort
        fun left right => unitsLe (codeUnits (left ++ ".compose.yaml"))
          (codeUnits (right ++ ".compose.yaml"))
      .ok { baseFile, serviceFiles := active, observabilityFile }

/-- The files of a deployment, which are those of the options where these give one. -/
def composeFileSet (setup : DockerSetup) (options : DockerOrchestratorOptions) :
    Except String ComposeFileSet :=
  match options.given with
  | some baseFile => .ok { baseFile }
  | none => getComposeFiles setup options.named options.loki

def DockerSetup.buildable (setup : DockerSetup) (file : String) : List String :=
  ((setup.declares file).filter (·.hasBuild)).map (·.name)

/-- A command of docker compose, for some services or else for all. -/
inductive ComposeCommand where
  | build (noCache : Bool) (services : List String)
  | stop (services : List String)
  | rm (services : List String)
  | up (build noCache forceRecreate noDeps : Bool) (services : List String)

def servicesOf (options : DockerOrchestratorOptions) (files : ComposeFileSet) : List String :=
  match options.servicesToStart with
  | some names => names
  | none => (files.targetService.map fun service => [service]).getD files.serviceFiles

def buildServicesOf (setup : DockerSetup) (options : DockerOrchestratorOptions)
    (files : ComposeFileSet) : List String :=
  let services := servicesOf options files
  let baseBuildServices :=
    if options.servicesToStart.isSome then []
    else setup.buildable (options.given.getD setup.baseComposePath)
  if options.named.isSome ∧ services ≠ [] then services
  else baseBuildServices ++ services.filter fun name => name ∉ baseBuildServices

def maxConcurrent (setup : DockerSetup) (isRemote : Bool) : Nat :=
  let own := (setup.targetMaxConcurrent.filter (· ≠ 0))
  if isRemote ∧ own = none then 1
  else (own.or (setup.maxConcurrentDeployments.filter (· ≠ 0))).getD 3

def batches (size : Nat) (items : List String) : List (List String) :=
  (List.range ((items.length + size - 1) / size)).map fun turn =>
    (items.drop (turn * size)).take size

/-- The build of the shared base image, which a remote target always needs. -/
def buildBaseImage (setup : DockerSetup) (options : DockerOrchestratorOptions)
    (isRemote : Bool) : List ComposeCommand :=
  if isRemote ∨ options.rebuildBase ∨ options.noCache ∨ ¬ setup.baseCached then
    [.build options.noCache ["bitbrat-base"]]
  else []

def removals (options : DockerOrchestratorOptions) (files : ComposeFileSet) :
    List ComposeCommand :=
  if options.forceRecreate ∧ options.named.isSome then
    [.stop (servicesOf options files), .rm (servicesOf options files)]
  else []

def preparations (setup : DockerSetup) (options : DockerOrchestratorOptions)
    (files : ComposeFileSet) (isRemote : Bool) : List ComposeCommand :=
  let builds := if isRemote then
      (batches (maxConcurrent setup true) (buildServicesOf setup options files)).map
        (.build options.noCache)
    else []
  buildBaseImage setup options isRemote ++ builds ++ removals options files

def upCommands (setup : DockerSetup) (options : DockerOrchestratorOptions)
    (files : ComposeFileSet) (isRemote : Bool) : List ComposeCommand :=
  let single := if options.named.isSome then servicesOf options files else []
  let listed := options.servicesToStart.getD []
  let up := if isRemote then
      .up false false options.forceRecreate options.noDeps
        (if listed ≠ [] then listed else single)
    else
      -- Here the list of services to start plays no part.
      .up true options.noCache options.forceRecreate options.noDeps single
  preparations setup options files isRemote ++ [up]

/-- The files of a deployment and its commands, unless there are no such files. -/
def dockerUp (setup : DockerSetup) (options : DockerOrchestratorOptions) (isRemote : Bool) :
    Except String (ComposeFileSet × List ComposeCommand) :=
  (composeFileSet setup options).map fun files => (files, upCommands setup options files isRemote)

/-- A service is declared in one of the files, which docker compose reads as one. -/
def DockerSetup.Declares (setup : DockerSetup) (files : ComposeFileSet)
    (service : DeclaredService) : Prop :=
  ∃ file ∈ files.baseFile :: files.serviceFiles.map serviceFile ++
    files.observabilityFile.toList, service ∈ setup.declares file

/-- The services that docker compose starts, by their names or all of them. -/
inductive Starts (declared : DeclaredService → Prop) (names : List String) (noDeps : Bool) :
    String → Prop
  | named {name : String} (listed : name ∈ names) : Starts declared names noDeps name
  | whole {service : DeclaredService} (unnamed : names = []) (there : declared service)
      (plain : ∀ other, declared other → other.name = service.name → other.profiled = false) :
      Starts declared names noDeps service.name
  | dependency {service : DeclaredService} {name : String} (linked : noDeps = false)
      (starts : Starts declared names noDeps service.name) (there : declared service)
      (depends : name ∈ service.dependsOn) : Starts declared names noDeps name

def DockerSetup.HasBuild (setup : DockerSetup) (files : ComposeFileSet) (name : String) : Prop :=
  ∃ service, setup.Declares files service ∧ service.name = name ∧ service.hasBuild = true

def ComposeCommand.Starts (declared : DeclaredService → Prop) (name : String) :
    ComposeCommand → Prop
  | .up _ _ _ noDeps names => BitBrat.Starts declared names noDeps name
  | _ => False

def ComposeCommand.Builds (declared : DeclaredService → Prop) (name : String) :
    ComposeCommand → Prop
  | .build _ names => name ∈ names
  | .up true _ _ noDeps names => BitBrat.Starts declared names noDeps name
  | _ => False

/-- Two deployments start the same services, which are built and active. -/
structure UpAgreed (setup : DockerSetup) (files : ComposeFileSet)
    (here there : List ComposeCommand) : Prop where
  same : ∀ name, (∃ command ∈ here, command.Starts (setup.Declares files) name) ↔
    ∃ command ∈ there, command.Starts (setup.Declares files) name
  built : ∀ commands ∈ [here, there], ∀ name, setup.HasBuild files name →
    (∃ command ∈ commands, command.Starts (setup.Declares files) name) →
      ∃ command ∈ commands, command.Builds (setup.Declares files) name
  active : ∀ commands ∈ [here, there], ∀ name,
    (∃ command ∈ commands, command.Starts (setup.Declares files) name) →
      name ∉ setup.inactive

def UpLaw (setup : DockerSetup) (options : DockerOrchestratorOptions) : Prop :=
  match dockerUp setup options false, dockerUp setup options true with
  | .ok (files, here), .ok (others, there) => files = others ∧ UpAgreed setup files here there
  | .error message, .error other => message = other
  | _, _ => False

/-- The services that the options ask for, and none where they ask for all. -/
def DockerOrchestratorOptions.asked (options : DockerOrchestratorOptions) : List String :=
  match options.servicesToStart, options.given, options.named with
  | some names, _, _ => names
  | none, none, some service => [kebabService service]
  | none, _, _ => []

/-- What the options ask for is the same everywhere, is built, and is active. -/
structure UpFits (setup : DockerSetup) (options : DockerOrchestratorOptions)
    (files : ComposeFileSet) : Prop where
  whole : ∀ names, options.servicesToStart = some names → options.named = none → ∀ name,
    Starts (setup.Declares files) [] options.noDeps name ↔
      Starts (setup.Declares files) names options.noDeps name
  /-- What has to be built is asked for, or comes with the files of all services. -/
  built : ∀ name, setup.HasBuild files name →
    Starts (setup.Declares files) options.asked options.noDeps name →
      name = "bitbrat-base" ∨ name ∈ options.asked ∨
      (options.servicesToStart = none ∧ options.asked = [] ∧
        (name ∈ setup.buildable files.baseFile ∨ name ∈ files.serviceFiles))
  active : ∀ name, Starts (setup.Declares files) options.asked options.noDeps name →
    name ∉ setup.inactive

theorem mem_batches {size : Nat} (positive : 0 < size) (items : List String)
    (name : String) : (∃ batch ∈ batches size items, name ∈ batch) ↔ name ∈ items := by
  unfold batches
  constructor
  · rintro ⟨batch, member, inside⟩
    obtain ⟨turn, -, rfl⟩ := List.mem_map.mp member
    exact List.mem_of_mem_drop (List.mem_of_mem_take inside)
  · intro member
    obtain ⟨index, here, rfl⟩ := List.mem_iff_getElem.mp member
    -- The turn of an item is the quotient of its index.
    have turn : index / size < (items.length + size - 1) / size := by
      apply (Nat.le_div_iff_mul_le positive).mpr
      have below := Nat.div_mul_le_self index size
      rw [Nat.succ_mul]
      omega
    refine ⟨_, List.mem_map.mpr ⟨_, List.mem_range.mpr turn, rfl⟩, ?_⟩
    have split := Nat.div_add_mod' index size
    have within := Nat.mod_lt index positive
    refine List.mem_iff_getElem.mpr ⟨index % size, ?_, ?_⟩
    · rw [List.length_take, List.length_drop]
      omega
    · simp [split]

theorem maxConcurrent_pos (setup : DockerSetup) (isRemote : Bool) :
    0 < maxConcurrent setup isRemote := by
  have given {limit : Option Nat} : ∀ size ∈ limit.filter (· ≠ 0), 0 < size := by
    intro size member
    exact Nat.pos_of_ne_zero (by simpa using (Option.mem_filter_iff.mp member).2)
  simp only [maxConcurrent]
  split
  · exact Nat.one_pos
  · cases own : setup.targetMaxConcurrent.filter (· ≠ 0) with
    | some size => exact given size own
    | none =>
      cases default : setup.maxConcurrentDeployments.filter (· ≠ 0) with
      | some size => exact given size default
      | none => exact Nat.succ_pos 2

theorem getComposeFiles_named {setup : DockerSetup} {service : String} {enableLoki : Bool}
    {files : ComposeFileSet}
    (found : getComposeFiles setup (some service) enableLoki = .ok files) :
    (files.targetService.map fun service => [service]).getD files.serviceFiles =
      [kebabService service] := by
  simp only [getComposeFiles] at found
  split at found
  · cases found
  · split at found
    · cases found
      rfl
    · split at found
      · cases found
        rfl
      · cases found

theorem getComposeFiles_all {setup : DockerSetup} {enableLoki : Bool}
    {files : ComposeFileSet} (found : getComposeFiles setup none enableLoki = .ok files) :
    files.targetService = none ∧ files.baseFile = setup.baseComposePath := by
  simp only [getComposeFiles] at found
  split at found
  · cases found
    exact ⟨rfl, rfl⟩
  · cases found
    exact ⟨rfl, rfl⟩

section

variable {setup : DockerSetup} {options : DockerOrchestratorOptions} {files : ComposeFileSet}

theorem asked_eq (found : composeFileSet setup options = .ok files) :
    (if options.servicesToStart.getD [] ≠ [] then options.servicesToStart.getD []
      else if options.named.isSome then servicesOf options files else []) = options.asked := by
  unfold servicesOf DockerOrchestratorOptions.asked
  cases options.servicesToStart with
  | some names => by_cases empty : names = [] <;> simp [empty]
  | none =>
    cases named : options.named with
    | none => cases options.given <;> simp
    | some service =>
      unfold composeFileSet at found
      cases given : options.given with
      | some file =>
        rw [given] at found
        cases found
        simp
      | none =>
        rw [given, named] at found
        simpa using getComposeFiles_named found

theorem mem_buildServicesOf (found : composeFileSet setup options = .ok files)
    (name : String) : name ∈ buildServicesOf setup options files ↔ name ∈ options.asked ∨
      (options.servicesToStart = none ∧ options.asked = [] ∧
        (name ∈ setup.buildable files.baseFile ∨ name ∈ files.serviceFiles)) := by
  unfold buildServicesOf servicesOf DockerOrchestratorOptions.asked
  cases options.servicesToStart with
  | some names => by_cases single : options.named.isSome ∧ names ≠ [] <;> simp [single]
  | none =>
    unfold composeFileSet at found
    cases given : options.given with
    | some file =>
      rw [given] at found
      cases found
      simp
    | none =>
      rw [given] at found
      cases named : options.named with
      | some service =>
        rw [named] at found
        simp [getComposeFiles_named found]
      | none =>
        rw [named] at found
        obtain ⟨no_target, base⟩ := getComposeFiles_all found
        simp only [no_target, base, Option.map_none, Option.getD_none]
        by_cases listed : name ∈ setup.buildable setup.baseComposePath <;> simp [listed]

theorem servicesOf_eq_asked (found : composeFileSet setup options = .ok files)
    (single : options.named.isSome) : servicesOf options files = options.asked := by
  rw [← asked_eq found, if_pos single]
  unfold servicesOf
  cases options.servicesToStart with
  | some names => by_cases empty : names = [] <;> simp [empty]
  | none => simp

theorem preparations_start_nothing (isRemote : Bool) (declared : DeclaredService → Prop)
    (name : String) : ∀ command ∈ preparations setup options files isRemote,
      ¬ command.Starts declared name := by
  intro command member
  rcases List.mem_append.mp member with builds | removed
  · rcases List.mem_append.mp builds with base | built
    · unfold buildBaseImage at base
      split at base
      · rw [List.mem_singleton.mp base]
        exact not_false
      · cases base
    · cases isRemote with
      | true =>
        obtain ⟨batch, -, rfl⟩ := List.mem_map.mp built
        exact not_false
      | false => cases built
  · unfold removals at removed
    split at removed
    · simp only [List.mem_cons, List.not_mem_nil, or_false] at removed
      rcases removed with rfl | rfl <;> exact not_false
    · cases removed

theorem builds_preparations (declared : DeclaredService → Prop) (name : String) :
    (∃ command ∈ preparations setup options files true, command.Builds declared name) ↔
      name = "bitbrat-base" ∨ name ∈ buildServicesOf setup options files := by
  have quiet : ∀ command ∈ removals options files, ¬ command.Builds declared name := by
    intro command removed
    unfold removals at removed
    split at removed
    · simp only [List.mem_cons, List.not_mem_nil, or_false] at removed
      rcases removed with rfl | rfl <;> exact not_false
    · cases removed
  have base : buildBaseImage setup options true = [.build options.noCache ["bitbrat-base"]] := by
    simp [buildBaseImage]
  simp only [preparations, base, if_pos, List.mem_append, List.mem_singleton, List.mem_map,
    or_assoc]
  rw [← mem_batches (maxConcurrent_pos setup true) (buildServicesOf setup options files) name]
  constructor
  · rintro ⟨command, rfl | ⟨batch, member, rfl⟩ | removed, builds⟩
    · exact .inl (List.mem_singleton.mp builds)
    · exact .inr ⟨batch, member, builds⟩
    · exact absurd builds (quiet command removed)
  · rintro (rfl | ⟨batch, member, inside⟩)
    · exact ⟨_, .inl rfl, List.mem_singleton.mpr rfl⟩
    · exact ⟨_, .inr (.inl ⟨batch, member, rfl⟩), inside⟩

theorem starts_upCommands (found : composeFileSet setup options = .ok files)
    (declared : DeclaredService → Prop) (name : String) (isRemote : Bool) :
    (∃ command ∈ upCommands setup options files isRemote, command.Starts declared name) ↔
      Starts declared (if isRemote ∨ options.named.isSome then options.asked else [])
        options.noDeps name := by
  have last {up : ComposeCommand} :
      (∃ command ∈ preparations setup options files isRemote ++ [up],
        command.Starts declared name) ↔ up.Starts declared name := by
    constructor
    · rintro ⟨command, member, starts⟩
      rcases List.mem_append.mp member with before | here
      · exact absurd starts (preparations_start_nothing isRemote declared name command before)
      · rwa [← List.mem_singleton.mp here]
    · exact fun starts => ⟨up, by simp, starts⟩
  unfold upCommands
  rw [last]
  cases isRemote with
  | true =>
    simp only [if_pos, true_or]
    rw [asked_eq found]
    rfl
  | false =>
    simp only [Bool.false_eq_true, ↓reduceIte, false_or]
    by_cases single : options.named.isSome
    · simp only [single, if_pos]
      rw [servicesOf_eq_asked found single]
      rfl
    · simp only [single, Bool.false_eq_true, ↓reduceIte]
      rfl

theorem builds_of_starts_here {declared : DeclaredService → Prop} {name : String}
    (starts : ∃ command ∈ upCommands setup options files false, command.Starts declared name) :
    ∃ command ∈ upCommands setup options files false, command.Builds declared name := by
  obtain ⟨command, member, begun⟩ := starts
  refine ⟨command, member, ?_⟩
  rcases List.mem_append.mp member with before | last
  · exact absurd begun (preparations_start_nothing false declared name command before)
  · rw [List.mem_singleton.mp last] at begun ⊢
    exact begun

theorem builds_there (declared : DeclaredService → Prop) (name : String) :
    (∃ command ∈ upCommands setup options files true, command.Builds declared name) ↔
      name = "bitbrat-base" ∨ name ∈ buildServicesOf setup options files := by
  rw [← builds_preparations declared name]
  constructor
  · rintro ⟨command, member, builds⟩
    rcases List.mem_append.mp member with before | last
    · exact ⟨command, before, builds⟩
    · rw [List.mem_singleton.mp last] at builds
      exact builds.elim
  · rintro ⟨command, before, builds⟩
    exact ⟨command, List.mem_append_left _ before, builds⟩

theorem upAgreed_iff (found : composeFileSet setup options = .ok files) :
    UpAgreed setup files (upCommands setup options files false)
      (upCommands setup options files true) ↔ UpFits setup options files := by
  have there (name : String) := starts_upCommands found (setup.Declares files) name true
  have here (name : String) := starts_upCommands found (setup.Declares files) name false
  simp only [true_or, if_pos, Bool.false_eq_true, false_or] at there here
  -- A single deployment starts on both targets what is asked for.
  have agreed : (∀ name, Starts (setup.Declares files)
        (if options.named.isSome then options.asked else []) options.noDeps name ↔
      Starts (setup.Declares files) options.asked options.noDeps name) ↔
      ∀ names, options.servicesToStart = some names → options.named = none → ∀ name,
        Starts (setup.Declares files) [] options.noDeps name ↔
          Starts (setup.Declares files) names options.noDeps name := by
    unfold DockerOrchestratorOptions.asked
    cases options.servicesToStart <;> cases options.named <;> simp
  constructor
  · intro law
    refine ⟨?_, ?_, ?_⟩
    · exact agreed.mp fun name => by rw [← here, ← there, law.same]
    · intro name hasBuild starts
      have builds := law.built _ (by simp) name hasBuild ((there name).mpr starts)
      rwa [builds_there, mem_buildServicesOf found] at builds
    · exact fun name starts => law.active _ (by simp) name ((there name).mpr starts)
  · intro fits
    have same (name : String) := (here name).trans ((agreed.mpr fits.whole name).trans
      (there name).symm)
    refine ⟨same, ?_, ?_⟩
    · intro commands either name hasBuild starts
      simp only [List.mem_cons, List.not_mem_nil, or_false] at either
      rcases either with rfl | rfl
      · exact builds_of_starts_here starts
      · rw [builds_there, mem_buildServicesOf found]
        exact fits.built name hasBuild ((there name).mp starts)
    · intro commands either name starts
      simp only [List.mem_cons, List.not_mem_nil, or_false] at either
      rcases either with rfl | rfl
      · exact fits.active name ((there name).mp ((same name).mp starts))
      · exact fits.active name ((there name).mp starts)

end

/--
A local and a remote deployment agree, and build what they start, and start nothing inactive,
exactly when what the options ask for is the same everywhere, is built, and is active.
-/
theorem upLaw_iff (setup : DockerSetup) (options : DockerOrchestratorOptions) :
    UpLaw setup options ↔ ∀ files, composeFileSet setup options = .ok files →
      UpFits setup options files := by
  unfold UpLaw dockerUp
  cases found : composeFileSet setup options with
  | error message => simp [Except.map]
  | ok files =>
    simp only [Except.map, true_and, upAgreed_iff found]
    constructor
    · rintro fits others ⟨⟩
      exact fits
    · exact fun fits => fits files rfl

/-- A repository with one file for a context, which declares a bot and its database. -/
def twoServices : DockerSetup where
  repoRoot := "/repo"
  baseComposePath := "docker-compose.staging.yaml"
  serviceNames := []
  hasObservability := false
  inactiveServices := []
  declares _ := [{ name := "bot", hasBuild := true }, { name := "db", hasBuild := false }]
  targetMaxConcurrent := none
  maxConcurrentDeployments := none
  baseCached := true

/-- A list of services to start is passed over on the local target. -/
theorem not_upLaw : ¬ ∀ setup options, UpLaw setup options := by
  intro law
  let options : DockerOrchestratorOptions := { servicesToStart := some ["bot"] }
  have agreed := (law twoServices options).2
  have found : composeFileSet twoServices options =
      .ok { baseFile := "docker-compose.staging.yaml" } := by decide +kernel
  have whole := ((upAgreed_iff found).mp agreed).whole ["bot"] rfl rfl "db"
  have everything : Starts (twoServices.Declares { baseFile := "docker-compose.staging.yaml" }) []
      false "db" := by
    refine @Starts.whole _ _ _ { name := "db", hasBuild := false } rfl ?_ ?_
    · exact ⟨_, List.mem_cons_self, by simp [twoServices]⟩
    · rintro other ⟨file, -, member⟩ -
      simp only [twoServices, List.mem_cons, List.not_mem_nil, or_false] at member
      rcases member with rfl | rfl <;> rfl
  -- The bot needs nothing else, so its start is the only one.
  have only {name : String} (starts : Starts (twoServices.Declares
      { baseFile := "docker-compose.staging.yaml" }) ["bot"] false name) : name = "bot" := by
    induction starts with
    | named listed => exact List.mem_singleton.mp listed
    | whole unnamed => cases unnamed
    | dependency linked starts there depends =>
      obtain ⟨file, -, member⟩ := there
      simp only [twoServices, List.mem_cons, List.not_mem_nil, or_false] at member
      rcases member with rfl | rfl <;> cases depends
  exact absurd (only (whole.mp everything)) (by decide)

end BitBrat
