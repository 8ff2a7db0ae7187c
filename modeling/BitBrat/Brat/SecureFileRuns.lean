import BitBrat.Brat.SecureFileDeployment

/-! What a deployment of secure files does, when it is refused and when it is not. -/

namespace BitBrat

open Js

section

variable (env : DeployEnv) (context : DockerContext)

def hostPath (file : SecureFile) : String :=
  if context.isRemote then remotePath context file else env.repoRoot ++ "/" ++ file.localPath

def applicable (service : SecureService) : List SecureFile :=
  service.secureFiles.filter (·.applies context.name)

def Deliverable (files : List SecureFile) : Prop :=
  context.isRemote = true → context.remoteDir.getD "" ≠ "" ∧
    (parseSshHost context.host).isSome ∧ ∀ file ∈ files, transfers env file = true

/-- All services at once fail to be deployed, be their files valid or not. -/
def BulkFails (bulk : ComposeServices) (services : List SecureService) : Prop :=
  ∃ service ∈ services, applicable context service ≠ [] ∧
    (bulk service.name = none ∨ ¬ Deliverable env context (applicable context service))

end

section

variable {env : DeployEnv} {context : DockerContext}

def copied (env : DeployEnv) (context : DockerContext) (files : List SecureFile)
    (remote : RemoteFiles) : RemoteFiles :=
  if context.isRemote then files.foldl (fun remote file => scp env context file remote) remote
  else remote

@[simp] theorem copied_nil (remote : RemoteFiles) : copied env context [] remote = remote := by
  unfold copied
  split <;> rfl

theorem copied_append (first second : List SecureFile) (remote : RemoteFiles) :
    copied env context (first ++ second) remote =
      copied env context second (copied env context first remote) := by
  unfold copied
  split
  · rw [List.foldl_append]
  · rfl

variable {files : List SecureFile}

theorem transferEach_ok (able : ∀ file ∈ files, transfers env file = true)
    (paths : List (String × String)) (remote : RemoteFiles) :
    transferEach env context files paths remote =
      (files.foldl (fun remote file => scp env context file remote) remote,
        .ok (files.foldl (fun paths file => setEntry file.localPath (remotePath context file) paths)
          paths)) := by
  induction files generalizing paths remote with
  | nil => rfl
  | cons file rest ih =>
    rw [transferEach, if_pos (able file List.mem_cons_self),
      ih fun other member => able other (List.mem_cons_of_mem _ member)]
    rfl

theorem transferEach_error {files : List SecureFile} {file : SecureFile}
    (member : file ∈ files) (unable : transfers env file ≠ true) (paths : List (String × String))
    (remote : RemoteFiles) :
    ∃ after message, transferEach env context files paths remote = (after, .error message) := by
  induction files generalizing paths remote with
  | nil => cases member
  | cons first rest ih =>
    unfold transferEach
    split
    case isTrue able =>
      rcases List.mem_cons.mp member with rfl | later
      · exact absurd able unable
      · exact ih later _ _
    case isFalse => exact ⟨_, _, rfl⟩

theorem lookup_remotePaths (files : List SecureFile) (file : SecureFile)
    (paths : List (String × String)) (known : file ∈ files ∨
      paths.lookup file.localPath = some (remotePath context file)) :
    (files.foldl (fun paths file => setEntry file.localPath (remotePath context file) paths)
      paths).lookup file.localPath = some (remotePath context file) := by
  induction files generalizing paths with
  | nil =>
    rcases known with member | earlier
    · cases member
    · exact earlier
  | cons first rest ih =>
    rw [List.foldl_cons]
    apply ih
    rw [lookup_setEntry]
    by_cases same : file.localPath = first.localPath
    · -- Files with one source have one path.
      right
      rw [if_pos same, remotePath, remotePath, same]
    · rw [if_neg same]
      rcases known with member | earlier
      · rcases List.mem_cons.mp member with rfl | later
        · exact absurd rfl same
        · exact .inl later
      · exact .inr earlier

theorem secureFileMounts_ok (able : Deliverable env context files) (remote : RemoteFiles) :
    secureFileMounts env context files remote = (copied env context files remote,
      .ok (files.map fun file => mountText (hostPath env context file) file.target)) := by
  unfold secureFileMounts copied hostPath
  cases away : context.isRemote with
  | false =>
    have rooted : env.repoRoot ≠ "" := by
      intro empty
      have absolute := env.repoRoot_absolute
      rw [empty] at absolute
      cases absolute
    simp [ComposeMerger.generateVolumeMounts, rooted]
  | true =>
    obtain ⟨directory, address, each⟩ := able away
    obtain ⟨place, parsed⟩ := Option.isSome_iff_exists.mp address
    simp only [Bool.not_true, Bool.false_eq_true, ↓reduceIte, if_neg directory,
      transferSecureFilesToRemote, parsed, transferEach_ok each]
    congr 2
    apply List.map_congr_left
    intro file member
    rw [lookup_remotePaths files file [] (.inl member)]
    rfl

theorem secureFileMounts_error (unable : ¬ Deliverable env context files)
    (remote : RemoteFiles) :
    ∃ after message, secureFileMounts env context files remote = (after, .error message) := by
  unfold secureFileMounts
  cases away : context.isRemote with
  | false => exact absurd (fun remote => by rw [away] at remote; cases remote) unable
  | true =>
    by_cases directory : context.remoteDir.getD "" = ""
    · simp only [Bool.not_true, Bool.false_eq_true, ↓reduceIte, if_pos directory]
      exact ⟨_, _, rfl⟩
    simp only [Bool.not_true, Bool.false_eq_true, ↓reduceIte, if_neg directory,
      transferSecureFilesToRemote]
    cases parsed : parseSshHost context.host with
    | none => exact ⟨_, _, rfl⟩
    | some place =>
      have missing : ¬ ∀ file ∈ files, transfers env file = true := by
        intro each
        exact unable fun _ => ⟨directory, by rw [parsed]; rfl, each⟩
      simp only [not_forall] at missing
      obtain ⟨file, member, cannot⟩ := missing
      obtain ⟨after, message, failed⟩ := @transferEach_error env context files file member
        cannot [] remote
      exact ⟨after, message, by simp only [failed]⟩

def fileMounts (env : DeployEnv) (context : DockerContext) (files : List SecureFile) :
    List String :=
  files.map fun file => mountText (hostPath env context file) file.target

def withFiles (env : DeployEnv) (context : DockerContext) (files : List SecureFile)
    (definition : ComposeService) : ComposeService :=
  definition.inject (fileMounts env context files) (ComposeMerger.extractEnvVars files)

variable {compose : ComposeServices}

theorem processSecureFiles_ok (able : Deliverable env context files) {name : String}
    {definition : ComposeService} (listed : compose name = some definition) (remote : RemoteFiles) :
    processSecureFiles env context compose name files remote =
      (copied env context files remote, .ok fun other =>
        if other = name then some (withFiles env context files definition) else compose other) := by
  unfold processSecureFiles ComposeMerger.injectSecureFiles
  rw [secureFileMounts_ok able]
  simp only [listed]
  rfl

theorem processSecureFiles_error {name : String}
    (unable : compose name = none ∨ ¬ Deliverable env context files) (remote : RemoteFiles) :
    ∃ after message, processSecureFiles env context compose name files remote =
      (after, .error message) := by
  unfold processSecureFiles
  by_cases able : Deliverable env context files
  · have unlisted := unable.resolve_right (not_not_intro able)
    rw [secureFileMounts_ok able]
    simp only [ComposeMerger.injectSecureFiles, unlisted]
    exact ⟨_, _, rfl⟩
  · obtain ⟨after, message, failed⟩ := secureFileMounts_error able remote
    exact ⟨after, message, by rw [failed]⟩

def withAllFiles (env : DeployEnv) (context : DockerContext)
    (collected : List (String × List SecureFile)) (compose : ComposeServices) : ComposeServices :=
  fun name =>
    match collected.lookup name with
    | some files => (compose name).map (withFiles env context files)
    | none => compose name

theorem processAll_ok {collected : List (String × List SecureFile)}
    (distinct : (collected.map Prod.fst).Nodup)
    (able : ∀ entry ∈ collected, compose entry.1 ≠ none ∧ Deliverable env context entry.2)
    (remote : RemoteFiles) : processAll env context collected compose remote =
      (copied env context (collected.flatMap Prod.snd) remote,
        .ok (withAllFiles env context collected compose)) := by
  induction collected generalizing compose remote with
  | nil =>
    rw [List.flatMap_nil, copied_nil]
    rfl
  | cons entry rest ih =>
    obtain ⟨name, files⟩ := entry
    obtain ⟨listed, deliverable⟩ := able _ List.mem_cons_self
    obtain ⟨definition, named⟩ := Option.ne_none_iff_exists'.mp listed
    rw [List.map_cons, List.nodup_cons] at distinct
    have others : ∀ entry ∈ rest, entry.1 ≠ name := by
      intro entry member same
      exact distinct.1 (List.mem_map.mpr ⟨entry, member, same⟩)
    rw [processAll, processSecureFiles_ok deliverable named]
    dsimp only
    rw [ih distinct.2]
    · -- Each service is written once, and so its definition is the one at first with its files.
      rw [List.flatMap_cons, copied_append]
      congr 2
      funext other
      unfold withAllFiles
      by_cases same : other = name
      · have absent : rest.lookup name = none := by
          rw [List.lookup_eq_none_iff]
          intro entry member
          simpa using Ne.symm (others entry member)
        simp [same, absent, named]
      · have skipped : (other == name) = false := by simpa using same
        simp [same, List.lookup_cons, skipped]
    · intro entry member
      rw [if_neg (others entry member)]
      exact able entry (List.mem_cons_of_mem _ member)

theorem processAll_error {collected : List (String × List SecureFile)}
    {entry : String × List SecureFile} (member : entry ∈ collected)
    (unable : compose entry.1 = none ∨ ¬ Deliverable env context entry.2) (remote : RemoteFiles) :
    ∃ after message, processAll env context collected compose remote = (after, .error message) := by
  induction collected generalizing compose remote with
  | nil => cases member
  | cons first rest ih =>
    obtain ⟨name, files⟩ := first
    by_cases bad : compose name = none ∨ ¬ Deliverable env context files
    · obtain ⟨after, message, failed⟩ := processSecureFiles_error bad remote
      exact ⟨after, message, by rw [processAll, failed]⟩
    · rw [not_or, not_not] at bad
      obtain ⟨definition, named⟩ := Option.ne_none_iff_exists'.mp bad.1
      rw [processAll, processSecureFiles_ok bad.2 named]
      rcases List.mem_cons.mp member with rfl | later
      · exact absurd unable (by rw [not_or, not_not]; exact bad)
      · apply ih later
        -- Adding files to one service makes no other one known.
        by_cases same : entry.1 = name
        · rw [same] at unable
          exact .inr (unable.resolve_left bad.1)
        · rwa [if_neg same]

variable {services : List SecureService}

theorem mem_collectSecureFiles {entry : String × List SecureFile} :
    entry ∈ collectSecureFiles context services ↔
      ∃ service ∈ services, applicable context service ≠ [] ∧
        entry = (service.name, applicable context service) := by
  simp only [collectSecureFiles, List.mem_filter, List.mem_map, Bool.not_eq_true',
    List.isEmpty_eq_false_iff]
  constructor
  · rintro ⟨⟨service, member, rfl⟩, some_files⟩
    exact ⟨service, member, some_files, rfl⟩
  · rintro ⟨service, member, some_files, rfl⟩
    exact ⟨⟨service, member, rfl⟩, some_files⟩

theorem distinct_collectSecureFiles (set : ServiceSet) :
    ((collectSecureFiles context set.services).map Prod.fst).Nodup := by
  have names : (set.services.map fun service =>
      (service.name, service.secureFiles.filter (·.applies context.name))).map Prod.fst =
        set.services.map SecureService.name := by
    rw [List.map_map]
    rfl
  apply List.Nodup.sublist (List.Sublist.map Prod.fst List.filter_sublist)
  rw [names]
  exact set.distinct

theorem flatMap_collectSecureFiles (services : List SecureService) :
    (collectSecureFiles context services).flatMap Prod.snd =
      services.flatMap (applicable context) := by
  induction services with
  | nil => rfl
  | cons service rest ih =>
    have tail : collectSecureFiles context (service :: rest) =
        [(service.name, applicable context service)].filter (!·.2.isEmpty) ++
          collectSecureFiles context rest := by
      simp only [collectSecureFiles, applicable, List.map_cons, List.filter_cons, List.filter_nil]
      split <;> rfl
    rw [tail, List.flatMap_append, ih, List.flatMap_cons]
    congr 1
    cases files : applicable context service <;> simp

theorem deployAll_error {bulk : ComposeServices}
    (fails : BulkFails env context bulk services) (remote : RemoteFiles) :
    ∃ message, (deployAll env context bulk services remote).2 = .error message := by
  obtain ⟨service, member, some_files, unable⟩ := fails
  obtain ⟨after, message, failed⟩ := processAll_error
    (mem_collectSecureFiles.mpr ⟨service, member, some_files, rfl⟩) unable remote
  exact ⟨message, by rw [deployAll, failed]⟩

theorem deployAll_ok {bulk : ComposeServices} {set : ServiceSet}
    (works : ¬ BulkFails env context bulk set.services) (remote : RemoteFiles) :
    deployAll env context bulk set.services remote =
      (copied env context (set.services.flatMap (applicable context)) remote,
        .ok (withAllFiles env context (collectSecureFiles context set.services) bulk)) := by
  rw [deployAll, processAll_ok (distinct_collectSecureFiles set), flatMap_collectSecureFiles]
  intro entry listed
  obtain ⟨service, member, some_files, rfl⟩ := mem_collectSecureFiles.mp listed
  by_contra unable
  rw [not_and_or, not_not] at unable
  exact works ⟨service, member, some_files, unable⟩

theorem deployAll_refuses_iff (bulk : ComposeServices) (set : ServiceSet) (remote : RemoteFiles) :
    (∃ message, (deployAll env context bulk set.services remote).2 = .error message) ↔
      BulkFails env context bulk set.services := by
  constructor
  · rintro ⟨message, failed⟩
    by_contra works
    rw [deployAll_ok works] at failed
    cases failed
  · exact fun fails => deployAll_error fails remote

variable {service : SecureService}

theorem withAllFiles_of_mem {set : ServiceSet} (member : service ∈ set.services)
    (some_files : applicable context service ≠ []) (bulk : ComposeServices) :
    withAllFiles env context (collectSecureFiles context set.services) bulk service.name =
      (bulk service.name).map (withFiles env context (applicable context service)) := by
  unfold withAllFiles
  rw [lookup_of_mem (distinct_collectSecureFiles set)
    (mem_collectSecureFiles.mpr ⟨service, member, some_files, rfl⟩)]

/-- One service is refused: a file of it is not valid, or it cannot have its files. -/
def ServiceFails (env : DeployEnv) (context : DockerContext) (single : ComposeServices)
    (service : SecureService) : Prop :=
  (∃ file ∈ applicable context service, secureFileErrors env file ≠ []) ∨
    (applicable context service ≠ [] ∧
      (single service.name = none ∨ ¬ Deliverable env context (applicable context service)))

theorem validate_valid (service : SecureService) :
    (SecureFilesValidator.validate env service.secureFiles context.name).valid = true ↔
      ∀ file ∈ applicable context service, secureFileErrors env file = [] := by
  simp only [SecureFilesValidator.validate, List.isEmpty_iff, List.flatMap_eq_nil_iff]
  rfl

theorem prepare_ok
    (valid : ∀ file ∈ applicable context service, secureFileErrors env file = []) :
    prepare env context service = .ok (applicable context service) := by
  unfold prepare
  split
  case isTrue empty =>
    rw [applicable, List.isEmpty_iff.mp empty]
    rfl
  case isFalse =>
    have passed := (validate_valid service).mpr valid
    simp only [passed, Bool.not_true, Bool.false_eq_true, ↓reduceIte]
    rfl

theorem prepare_error {file : SecureFile} (member : file ∈ applicable context service)
    (wrong : secureFileErrors env file ≠ []) :
    ∃ message, prepare env context service = .error message := by
  unfold prepare
  have some_files : service.secureFiles.isEmpty = false := by
    rw [List.isEmpty_eq_false_iff]
    exact List.ne_nil_of_mem (List.mem_filter.mp member).1
  have failed : (SecureFilesValidator.validate env service.secureFiles context.name).valid =
      false := by
    rw [Bool.eq_false_iff]
    exact fun passed => wrong ((validate_valid service).mp passed file member)
  simp only [some_files, failed, Bool.false_eq_true, ↓reduceIte, Bool.not_false]
  exact ⟨_, rfl⟩

theorem deployService_ok {single : ComposeServices}
    (works : ¬ ServiceFails env context single service) :
    ∃ compose, (∀ remote, deployService env context single service remote =
        (copied env context (applicable context service) remote, .ok compose)) ∧
      (applicable context service ≠ [] → compose service.name =
        (single service.name).map (withFiles env context (applicable context service))) := by
  rw [ServiceFails, not_or] at works
  have valid : ∀ file ∈ applicable context service, secureFileErrors env file = [] := by
    intro file member
    by_contra wrong
    exact works.1 ⟨file, member, wrong⟩
  unfold deployService execute
  rw [prepare_ok valid]
  dsimp only
  by_cases empty : applicable context service = []
  · refine ⟨single, fun remote => ?_, fun some_files => absurd empty some_files⟩
    rw [empty, copied_nil, if_pos List.isEmpty_nil]
  · have able := works.2
    rw [not_and, not_or, not_not] at able
    obtain ⟨listed, deliverable⟩ := able empty
    obtain ⟨definition, named⟩ := Option.ne_none_iff_exists'.mp listed
    refine ⟨fun other => if other = service.name then
      some (withFiles env context (applicable context service) definition) else single other,
      fun remote => ?_, fun _ => by simp [named]⟩
    rw [if_neg (by simpa using empty), processSecureFiles_ok deliverable named]

theorem deployService_error {single : ComposeServices}
    (fails : ServiceFails env context single service) (remote : RemoteFiles) :
    ∃ after message, deployService env context single service remote =
      (after, .error message) := by
  unfold deployService
  by_cases valid : ∀ file ∈ applicable context service, secureFileErrors env file = []
  · have unable := fails.resolve_left (by
      rintro ⟨file, member, wrong⟩
      exact wrong (valid file member))
    rw [prepare_ok valid]
    dsimp only
    rw [execute, if_neg (by simpa using unable.1)]
    exact processSecureFiles_error unable.2 remote
  · simp only [not_forall] at valid
    obtain ⟨file, member, wrong⟩ := valid
    obtain ⟨message, failed⟩ := prepare_error member wrong
    exact ⟨_, _, by rw [failed]⟩

theorem deployServices_refuses_iff (single : String → ComposeServices)
    (services : List SecureService) (remote : RemoteFiles) :
    (∃ name message, (name, .error message) ∈
        (deployServices env context single services remote).2) ↔
      ∃ service ∈ services, ServiceFails env context (single service.name) service := by
  induction services generalizing remote with
  | nil => simp [deployServices]
  | cons service rest ih =>
    have first : (∃ message, (deployService env context (single service.name) service remote).2 =
        .error message) ↔ ServiceFails env context (single service.name) service := by
      constructor
      · rintro ⟨message, failed⟩
        by_contra works
        obtain ⟨compose, deployed, -⟩ := deployService_ok works
        rw [deployed remote] at failed
        cases failed
      · intro fails
        obtain ⟨after, message, failed⟩ := deployService_error fails remote
        exact ⟨message, by rw [failed]⟩
    rw [List.exists_mem_cons_iff, ← first,
      ← ih (deployService env context (single service.name) service remote).1]
    simp only [deployServices, List.mem_cons, Prod.mk.injEq]
    constructor
    · rintro ⟨name, message, ⟨-, failed⟩ | later⟩
      · exact .inl ⟨message, failed.symm⟩
      · exact .inr ⟨name, message, later⟩
    · rintro (⟨message, failed⟩ | ⟨name, message, later⟩)
      · exact ⟨service.name, message, .inl ⟨rfl, failed.symm⟩⟩
      · exact ⟨name, message, .inr later⟩

theorem deployServices_ok {single : String → ComposeServices}
    (works : ∀ service ∈ services, ¬ ServiceFails env context (single service.name) service)
    (remote : RemoteFiles) : (deployServices env context single services remote).1 =
        copied env context (services.flatMap (applicable context)) remote ∧
      ∃ deployed : SecureService → ComposeServices,
        (deployServices env context single services remote).2 =
          services.map (fun service => (service.name, .ok (deployed service))) ∧
        ∀ service ∈ services, applicable context service ≠ [] →
          deployed service service.name = (single service.name service.name).map
            (withFiles env context (applicable context service)) := by
  have each : ∀ service, ∃ compose, ¬ ServiceFails env context (single service.name) service →
      (∀ remote, deployService env context (single service.name) service remote =
        (copied env context (applicable context service) remote, .ok compose)) ∧
      (applicable context service ≠ [] → compose service.name =
        (single service.name service.name).map
          (withFiles env context (applicable context service))) := by
    intro service
    by_cases fails : ServiceFails env context (single service.name) service
    · exact ⟨single service.name, fun works => absurd fails works⟩
    · obtain ⟨compose, deployed, defined⟩ := deployService_ok fails
      exact ⟨compose, fun _ => ⟨deployed, defined⟩⟩
  choose deployed known using each
  suffices run : ∀ services : List SecureService,
      (∀ service ∈ services, ¬ ServiceFails env context (single service.name) service) →
      ∀ remote, deployServices env context single services remote =
        (copied env context (services.flatMap (applicable context)) remote,
          services.map fun service => (service.name, .ok (deployed service))) by
    rw [run services works remote]
    exact ⟨rfl, deployed, rfl, fun service listed => (known service (works service listed)).2⟩
  intro services works
  induction services with
  | nil =>
    intro remote
    rw [List.flatMap_nil, copied_nil]
    rfl
  | cons service rest ih =>
    intro remote
    have first := (known service (works service List.mem_cons_self)).1 remote
    have later := ih (fun other member => works other (List.mem_cons_of_mem _ member))
    simp only [deployServices, first, later, List.flatMap_cons, copied_append, List.map_cons]

end

end BitBrat
