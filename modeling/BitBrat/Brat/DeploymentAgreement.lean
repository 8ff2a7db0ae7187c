import BitBrat.Brat.SecureFileRuns

/-! When services that are deployed at once have the secure files that each has alone. -/

namespace BitBrat

open Js

def readMount (text : String) : Option (String × String) :=
  match text.toList.splitOn ':' with
  | [target] => some ("", String.ofList target)
  | [host, target] => some (String.ofList host, String.ofList target)
  | [host, target, _] => some (String.ofList host, String.ofList target)
  | _ => none

section

variable (env : DeployEnv) (context : DockerContext)

def hostContent (remote : RemoteFiles) (host : String) : Option String :=
  if context.isRemote then remote host else env.content (locate host)

/-- A service has a file: its volumes can be read, and one host file is at its target. -/
structure Mounted (remote : RemoteFiles) (service : ComposeService) (file : SecureFile) :
    Prop where
  readable : ∀ text ∈ service.volumes, (readMount text).isSome
  single : ∃ host, (∃ text ∈ service.volumes, readMount text = some (host, file.target)) ∧
    (∀ text ∈ service.volumes, ∀ other, readMount text = some (other, file.target) →
      other = host) ∧
    hostContent env context remote host = env.content (file.source env) ∧
    env.content (file.source env) ≠ none

def Invalid (services : List SecureService) : Prop :=
  ∃ service ∈ services, ∃ file ∈ applicable context service, secureFileErrors env file ≠ []

/-- What is owed: the two ways to deploy refuse the same, and mount the same otherwise. -/
structure SecureFilesLaw (bulk : ComposeServices) (single : String → ComposeServices)
    (set : ServiceSet) (remote : RemoteFiles) : Prop where
  bulkRefuses : (∃ message, (deployAll env context bulk set.services remote).2 = .error message) ↔
    Invalid env context set.services
  singleRefuses : (∃ name message, (name, .error message) ∈
      (deployServices env context single set.services remote).2) ↔
    Invalid env context set.services
  mounted : ¬ Invalid env context set.services → ∀ service ∈ set.services,
    ∀ file ∈ applicable context service,
      (∃ compose definition, (deployAll env context bulk set.services remote).2 = .ok compose ∧
        compose service.name = some definition ∧
        Mounted env context (deployAll env context bulk set.services remote).1 definition file) ∧
      (∃ compose definition, (service.name, .ok compose) ∈
          (deployServices env context single set.services remote).2 ∧
        compose service.name = some definition ∧
        Mounted env context (deployServices env context single set.services remote).1 definition
          file)

structure DefinitionInPlace (definition : Option ComposeService) (file : SecureFile) : Prop where
  listed : definition ≠ none
  apart : ∀ service, definition = some service → ∀ text ∈ service.volumes, ∃ host target,
    readMount text = some (host, target) ∧ (target = file.target → host = hostPath env context file)

structure FileInPlace (bulk : ComposeServices) (single : String → ComposeServices)
    (services : List SecureService) (service : SecureService) (file : SecureFile) : Prop where
  host : ':' ∉ (hostPath env context file).toList
  target : ':' ∉ file.target.toList
  there : env.content (file.source env) ≠ none
  /-- A path that is absolute is not where the file is mounted from. -/
  here : context.isRemote = false →
    env.content (locate (hostPath env context file)) = env.content (file.source env)
  reachable : context.isRemote = true → context.remoteDir.getD "" ≠ "" ∧
    (parseSshHost context.host).isSome
  named : context.isRemote = true → ∀ other ∈ services, ∀ named ∈ applicable context other,
    pathBasename named.localPath = pathBasename file.localPath →
      env.content (named.source env) = env.content (file.source env)
  distinct : ∀ other ∈ applicable context service, other.target = file.target →
    hostPath env context other = hostPath env context file
  bulk : DefinitionInPlace env context (bulk service.name) file
  single : DefinitionInPlace env context (single service.name service.name) file

/-- All files are valid and can be mounted, or some is not and the deployment fails anyway. -/
def SecureFilesInPlace (bulk : ComposeServices) (single : String → ComposeServices)
    (services : List SecureService) : Prop :=
  (Invalid env context services ∧ BulkFails env context bulk services) ∨
    (¬ Invalid env context services ∧ ∀ service ∈ services, ∀ file ∈ applicable context service,
      FileInPlace env context bulk single services service file)

end

section

variable {env : DeployEnv} {context : DockerContext}

theorem splitOn_colon_of_plain {text : List Char} (plain : ':' ∉ text) :
    text.splitOn ':' = [text] :=
  List.splitOn_eq_singleton plain

theorem splitOn_mountText (host target : String) :
    (mountText host target).toList.splitOn ':' =
      host.toList.splitOn ':' ++ target.toList.splitOn ':' ++ ["ro".toList] := by
  have text : (mountText host target).toList =
      host.toList ++ ':' :: (target.toList ++ ':' :: "ro".toList) := by
    simp [mountText, String.toList_append]
  rw [text, List.splitOn_append_cons_self, List.splitOn_append_cons_self, List.append_assoc]
  rfl

theorem readMount_mountText {host target : String} (plainHost : ':' ∉ host.toList)
    (plainTarget : ':' ∉ target.toList) :
    readMount (mountText host target) = some (host, target) := by
  unfold readMount
  rw [splitOn_mountText, splitOn_colon_of_plain plainHost, splitOn_colon_of_plain plainTarget]
  simp

theorem plain_of_splitOn {text part : List Char} (one : text.splitOn ':' = [part]) :
    ':' ∉ text := by
  have same : text = part := by
    have joined : [':'].intercalate (text.splitOn ':') = text := List.intercalate_splitOn ':'
    rw [one] at joined
    simpa using joined.symm
  rw [same]
  exact not_mem_of_mem_splitOn ':' (by rw [one]; exact List.mem_singleton_self part)

theorem plain_of_readMount {host target : String}
    (read : (readMount (mountText host target)).isSome) :
    ':' ∉ host.toList ∧ ':' ∉ target.toList := by
  unfold readMount at read
  rw [splitOn_mountText] at read
  -- Either text has one part at least, and there are three parts in all.
  cases hosts : host.toList.splitOn ':' with
  | nil => exact absurd hosts (List.splitOn_ne_nil _ _)
  | cons first more =>
    cases targets : target.toList.splitOn ':' with
    | nil => exact absurd targets (List.splitOn_ne_nil _ _)
    | cons second others =>
      rw [hosts, targets] at read
      cases more with
      | nil =>
        cases others with
        | nil => exact ⟨plain_of_splitOn hosts, plain_of_splitOn targets⟩
        | cons _ _ => simp at read
      | cons _ rest =>
        exfalso
        cases rest <;> cases others <;> simp at read

theorem mem_volumes_withFiles (files : List SecureFile) (definition : ComposeService)
    (text : String) : text ∈ (withFiles env context files definition).volumes ↔
      text ∈ definition.volumes ∨
        ∃ file ∈ files, text = mountText (hostPath env context file) file.target := by
  unfold withFiles ComposeService.inject
  cases files with
  | nil => simp [fileMounts]
  | cons first rest =>
    simp only [fileMounts, List.map_cons, List.isEmpty_cons, Bool.false_eq_true, ↓reduceIte,
      List.mem_eraseDups, List.mem_append, List.mem_cons, List.mem_map]
    constructor
    · rintro (old | rfl | ⟨file, member, rfl⟩)
      · exact .inl old
      · exact .inr ⟨first, .inl rfl, rfl⟩
      · exact .inr ⟨file, .inr member, rfl⟩
    · rintro (old | ⟨file, rfl | member, rfl⟩)
      · exact .inl old
      · exact .inr (.inl rfl)
      · exact .inr (.inr ⟨file, member, rfl⟩)

theorem scp_foldl (files : List SecureFile) (remote : RemoteFiles) (path : String) :
    (files.foldl (fun remote file => scp env context file remote) remote path = remote path ∧
      ∀ file ∈ files, remotePath context file = path → env.content (file.source env) = none) ∨
    ∃ last ∈ files, remotePath context last = path ∧
      files.foldl (fun remote file => scp env context file remote) remote path =
        env.content (last.source env) := by
  induction files generalizing remote with
  | nil => exact .inl ⟨rfl, by simp⟩
  | cons first rest ih =>
    rcases ih (scp env context first remote) with ⟨kept, empty⟩ | ⟨last, member, here, same⟩
    · by_cases copies : remotePath context first = path ∧ env.content (first.source env) ≠ none
      · -- The first file is the last one that is copied there.
        obtain ⟨content, read⟩ := Option.ne_none_iff_exists'.mp copies.2
        refine .inr ⟨first, List.mem_cons_self, copies.1, ?_⟩
        rw [List.foldl_cons, kept, scp, if_pos copies.1.symm, read]
      · rw [not_and, not_not] at copies
        refine .inl ⟨?_, ?_⟩
        · rw [List.foldl_cons, kept, scp]
          split
          case isTrue same => rw [copies same.symm]
          case isFalse => rfl
        · intro file member here
          rcases List.mem_cons.mp member with rfl | later
          · exact copies here
          · exact empty file later here
    · exact .inr ⟨last, List.mem_cons_of_mem _ member, here, same⟩

variable {files : List SecureFile} {file : SecureFile}

theorem copied_remotePath (away : context.isRemote = true) (member : file ∈ files)
    (there : env.content (file.source env) ≠ none) (remote : RemoteFiles) :
    ∃ last ∈ files, remotePath context last = remotePath context file ∧
      copied env context files remote (remotePath context file) =
        env.content (last.source env) := by
  unfold copied
  rw [if_pos away]
  rcases @scp_foldl env context files remote (remotePath context file) with ⟨-, empty⟩ | found
  · exact absurd (empty file member rfl) there
  · exact found

theorem remotePath_eq_iff (first second : SecureFile) :
    remotePath context first = remotePath context second ↔
      pathBasename first.localPath = pathBasename second.localPath := by
  rw [remotePath, remotePath]
  exact String.append_right_inj _

variable {services : List SecureService} {service : SecureService}

theorem mem_flatMap_applicable (listed : service ∈ services)
    (member : file ∈ applicable context service) :
    file ∈ services.flatMap (applicable context) :=
  List.mem_flatMap.mpr ⟨service, listed, member⟩

variable {bulk : ComposeServices} {single : String → ComposeServices}

theorem hostContent_of_inPlace (listed : service ∈ services)
    (member : file ∈ applicable context service)
    (placed : FileInPlace env context bulk single services service file) (remote : RemoteFiles) :
    hostContent env context (copied env context (services.flatMap (applicable context)) remote)
      (hostPath env context file) = env.content (file.source env) := by
  have here := placed.here
  have named := placed.named
  unfold hostContent
  cases away : context.isRemote with
  | false => exact here away
  | true =>
    obtain ⟨last, among, same, final⟩ := copied_remotePath away
      (mem_flatMap_applicable listed member) placed.there remote
    obtain ⟨other, found, owned⟩ := List.mem_flatMap.mp among
    have path : hostPath env context file = remotePath context file := by
      rw [hostPath, if_pos away]
    rw [if_pos rfl, path, final]
    exact named away other found last owned ((remotePath_eq_iff last file).mp same)

variable {remote : RemoteFiles}

theorem mounted_of_inPlace {definition : ComposeService} (member : file ∈ files)
    (plain : ∀ other ∈ files, ':' ∉ (hostPath env context other).toList ∧ ':' ∉ other.target.toList)
    (distinct : ∀ other ∈ files, other.target = file.target →
      hostPath env context other = hostPath env context file)
    (apart : DefinitionInPlace env context (some definition) file)
    (same : hostContent env context remote (hostPath env context file) =
      env.content (file.source env)) (there : env.content (file.source env) ≠ none) :
    Mounted env context remote (withFiles env context files definition) file := by
  constructor
  · intro text added
    rcases (mem_volumes_withFiles files definition text).mp added with old | ⟨other, among, rfl⟩
    · obtain ⟨host, target, read, -⟩ := apart.apart definition rfl text old
      rw [read]
      rfl
    · rw [readMount_mountText (plain other among).1 (plain other among).2]
      rfl
  · refine ⟨hostPath env context file, ?_, ?_, same, there⟩
    · exact ⟨mountText (hostPath env context file) file.target,
        (mem_volumes_withFiles files definition _).mpr (.inr ⟨file, member, rfl⟩),
        readMount_mountText (plain file member).1 (plain file member).2⟩
    · intro text added host read
      rcases (mem_volumes_withFiles files definition text).mp added with old | ⟨other, among, rfl⟩
      · obtain ⟨found, target, known, agree⟩ := apart.apart definition rfl text old
        rw [known] at read
        cases read
        exact agree rfl
      · rw [readMount_mountText (plain other among).1 (plain other among).2] at read
        obtain ⟨rfl, targets⟩ := Prod.mk.inj (Option.some.inj read)
        exact distinct other among targets

theorem facts_of_mounted {definition : ComposeService} (member : file ∈ files)
    (mounted : Mounted env context remote (withFiles env context files definition) file) :
    (':' ∉ (hostPath env context file).toList ∧ ':' ∉ file.target.toList) ∧
      hostContent env context remote (hostPath env context file) = env.content (file.source env) ∧
      env.content (file.source env) ≠ none ∧
      (∀ other ∈ files, other.target = file.target →
        hostPath env context other = hostPath env context file) ∧
      DefinitionInPlace env context (some definition) file := by
  have own : ∀ other ∈ files, mountText (hostPath env context other) other.target ∈
      (withFiles env context files definition).volumes := fun other among =>
    (mem_volumes_withFiles files definition _).mpr (.inr ⟨other, among, rfl⟩)
  have plain : ∀ other ∈ files, ':' ∉ (hostPath env context other).toList ∧
      ':' ∉ other.target.toList := fun other among =>
    plain_of_readMount (mounted.readable _ (own other among))
  have read : ∀ other ∈ files, readMount (mountText (hostPath env context other) other.target) =
      some (hostPath env context other, other.target) := fun other among =>
    readMount_mountText (plain other among).1 (plain other among).2
  obtain ⟨host, -, unique, same, there⟩ := mounted.single
  -- The one host file at the target is that of the file itself.
  have mine : hostPath env context file = host := unique _ (own file member) _ (read file member)
  refine ⟨plain file member, by rw [mine, same], there, ?_, by simp, ?_⟩
  · intro other among targets
    rw [mine]
    apply unique _ (own other among)
    rw [read other among, targets]
  · intro service named text old
    cases named
    have added : text ∈ (withFiles env context files definition).volumes :=
      (mem_volumes_withFiles files definition text).mpr (.inl old)
    obtain ⟨⟨found, target⟩, known⟩ := Option.isSome_iff_exists.mp (mounted.readable text added)
    refine ⟨found, target, known, ?_⟩
    rintro rfl
    rw [mine]
    exact unique text added found known

theorem transfers_of_valid (valid : secureFileErrors env file = [])
    (there : env.content (file.source env) ≠ none) : transfers env file = true := by
  have permitted : validatePermissions file = none := by
    simp only [secureFileErrors, List.filterMap_eq_nil_iff] at valid
    exact valid (validatePermissions file)
      (List.mem_cons_of_mem _ (List.mem_cons_of_mem _ List.mem_cons_self))
  rw [transfers, env.chmod_octal file permitted, Option.isSome_iff_ne_none.mpr there]
  rfl

variable {set : ServiceSet}

theorem bulk_of_law (law : SecureFilesLaw env context bulk single set remote)
    (valid : ¬ Invalid env context set.services)
    (works : ¬ BulkFails env context bulk set.services) (listed : service ∈ set.services)
    (member : file ∈ applicable context service) :
    ∃ definition, bulk service.name = some definition ∧
      Mounted env context (copied env context (set.services.flatMap (applicable context)) remote)
        (withFiles env context (applicable context service) definition) file := by
  obtain ⟨⟨compose, definition, deployed, named, mounted⟩, -⟩ :=
    law.mounted valid service listed file member
  rw [deployAll_ok works] at deployed mounted
  cases deployed
  rw [withAllFiles_of_mem listed (List.ne_nil_of_mem member)] at named
  obtain ⟨base, based, rfl⟩ := Option.map_eq_some_iff.mp named
  exact ⟨base, based, mounted⟩

theorem single_of_law (law : SecureFilesLaw env context bulk single set remote)
    (valid : ¬ Invalid env context set.services) (works : ∀ service ∈ set.services,
      ¬ ServiceFails env context (single service.name) service) (listed : service ∈ set.services)
    (member : file ∈ applicable context service) :
    ∃ definition, single service.name service.name = some definition ∧
      Mounted env context (copied env context (set.services.flatMap (applicable context)) remote)
        (withFiles env context (applicable context service) definition) file := by
  obtain ⟨-, compose, definition, ran, named, mounted⟩ :=
    law.mounted valid service listed file member
  obtain ⟨final, deployed, results, defined⟩ := deployServices_ok works remote
  rw [results] at ran
  rw [final] at mounted
  obtain ⟨found, among, same⟩ := List.mem_map.mp ran
  -- The name of the service tells which result is meant.
  have mine : found = service :=
    List.inj_on_of_nodup_map set.distinct among listed (Prod.mk.inj same).1
  subst mine
  cases (Prod.mk.inj same).2
  rw [defined found listed (List.ne_nil_of_mem member)] at named
  obtain ⟨base, based, rfl⟩ := Option.map_eq_some_iff.mp named
  exact ⟨base, based, mounted⟩

theorem inPlace_of_law (law : SecureFilesLaw env context bulk single set remote) :
    SecureFilesInPlace env context bulk single set.services := by
  by_cases invalid : Invalid env context set.services
  · exact .inl ⟨invalid, (deployAll_refuses_iff bulk set remote).mp (law.bulkRefuses.mpr invalid)⟩
  have works : ¬ BulkFails env context bulk set.services := fun fails =>
    invalid (law.bulkRefuses.mp ((deployAll_refuses_iff bulk set remote).mpr fails))
  have each : ∀ service ∈ set.services, ¬ ServiceFails env context (single service.name) service :=
    fun service listed fails => invalid (law.singleRefuses.mp
      ((deployServices_refuses_iff single set.services remote).mpr ⟨service, listed, fails⟩))
  refine .inr ⟨invalid, fun service listed file member => ?_⟩
  obtain ⟨base, based, together⟩ := bulk_of_law law invalid works listed member
  obtain ⟨own, owned, alone⟩ := single_of_law law invalid each listed member
  obtain ⟨plain, here, there, distinct, bulkPlace⟩ := facts_of_mounted member together
  obtain ⟨-, -, -, -, singlePlace⟩ := facts_of_mounted member alone
  have able : Deliverable env context (applicable context service) := by
    by_contra unable
    exact works ⟨service, listed, List.ne_nil_of_mem member, .inr unable⟩
  refine ⟨plain.1, plain.2, there, ?_, fun away => ⟨(able away).1, (able away).2.1⟩, ?_, distinct,
    by rwa [based], by rwa [owned]⟩
  · intro home
    simpa [hostContent, home] using here
  · -- Files of one name are at one path, which has the content of either.
    intro away other listedOther named memberNamed same
    obtain ⟨definition, -, mounted⟩ := bulk_of_law law invalid works listedOther memberNamed
    obtain ⟨-, hereNamed, -⟩ := facts_of_mounted memberNamed mounted
    have path : hostPath env context named = hostPath env context file := by
      rw [hostPath, hostPath, if_pos away, if_pos away, remotePath_eq_iff, same]
    rw [← hereNamed, ← here, path]

theorem deliverable_of_inPlace
    (valid : ∀ file ∈ applicable context service, secureFileErrors env file = [])
    (placed : ∀ file ∈ applicable context service,
      FileInPlace env context bulk single services service file)
    (some_files : applicable context service ≠ []) :
    Deliverable env context (applicable context service) := by
  intro away
  obtain ⟨file, member⟩ := List.exists_mem_of_ne_nil _ some_files
  obtain ⟨directory, address⟩ := (placed file member).reachable away
  exact ⟨directory, address, fun other among =>
    transfers_of_valid (valid other among) (placed other among).there⟩

theorem law_of_inPlace (remote : RemoteFiles)
    (inPlace : SecureFilesInPlace env context bulk single set.services) :
    SecureFilesLaw env context bulk single set remote := by
  rcases inPlace with ⟨invalid, fails⟩ | ⟨valid, placed⟩
  · -- A file that is not valid stops its service, and something stops all services.
    refine ⟨iff_of_true ((deployAll_refuses_iff bulk set remote).mpr fails) invalid,
      iff_of_true ?_ invalid, fun valid => absurd invalid valid⟩
    obtain ⟨service, listed, wrong⟩ := invalid
    exact (deployServices_refuses_iff single set.services remote).mpr
      ⟨service, listed, .inl wrong⟩
  have passed : ∀ service ∈ set.services, ∀ file ∈ applicable context service,
      secureFileErrors env file = [] := by
    intro service listed file member
    by_contra wrong
    exact valid ⟨service, listed, file, member, wrong⟩
  have works : ¬ BulkFails env context bulk set.services := by
    rintro ⟨service, listed, some_files, unlisted | unable⟩
    · obtain ⟨file, member⟩ := List.exists_mem_of_ne_nil _ some_files
      exact (placed service listed file member).bulk.listed unlisted
    · exact unable (deliverable_of_inPlace (passed service listed) (placed service listed)
        some_files)
  have each : ∀ service ∈ set.services,
      ¬ ServiceFails env context (single service.name) service := by
    rintro service listed (⟨file, member, wrong⟩ | ⟨some_files, unlisted | unable⟩)
    · exact wrong (passed service listed file member)
    · obtain ⟨file, member⟩ := List.exists_mem_of_ne_nil _ some_files
      exact (placed service listed file member).single.listed unlisted
    · exact unable (deliverable_of_inPlace (passed service listed) (placed service listed)
        some_files)
  refine ⟨iff_of_false (fun refused => works ((deployAll_refuses_iff bulk set remote).mp refused))
    valid, iff_of_false ?_ valid, ?_⟩
  · intro refused
    obtain ⟨service, listed, fails⟩ :=
      (deployServices_refuses_iff single set.services remote).mp refused
    exact each service listed fails
  · intro _ service listed file member
    have some_files : applicable context service ≠ [] := List.ne_nil_of_mem member
    have place := placed service listed file member
    have plain : ∀ other ∈ applicable context service,
        ':' ∉ (hostPath env context other).toList ∧ ':' ∉ other.target.toList := fun other among =>
      ⟨(placed service listed other among).host, (placed service listed other among).target⟩
    have same := hostContent_of_inPlace listed member place remote
    have mounts : ∀ definition, DefinitionInPlace env context (some definition) file →
        Mounted env context (copied env context (set.services.flatMap (applicable context)) remote)
          (withFiles env context (applicable context service) definition) file :=
      fun definition apart =>
        mounted_of_inPlace member plain place.distinct apart same place.there
    constructor
    · obtain ⟨base, based⟩ := Option.ne_none_iff_exists'.mp place.bulk.listed
      rw [deployAll_ok works]
      refine ⟨_, _, rfl, ?_, mounts base (based ▸ place.bulk)⟩
      rw [withAllFiles_of_mem listed some_files, based]
      rfl
    · obtain ⟨base, based⟩ := Option.ne_none_iff_exists'.mp place.single.listed
      obtain ⟨final, deployed, results, defined⟩ := deployServices_ok each remote
      rw [final, results]
      refine ⟨deployed service, _, List.mem_map.mpr ⟨service, listed, rfl⟩, ?_,
        mounts base (based ▸ place.single)⟩
      rw [defined service listed some_files, based]
      rfl

/-- Both ways to deploy agree on the secure files exactly when these are in place. -/
theorem secureFiles_agree_iff (env : DeployEnv) (context : DockerContext) (bulk : ComposeServices)
    (single : String → ComposeServices) (set : ServiceSet) (remote : RemoteFiles) :
    SecureFilesLaw env context bulk single set remote ↔
      SecureFilesInPlace env context bulk single set.services :=
  ⟨inPlace_of_law, law_of_inPlace remote⟩

end

def twoKeys : RepoFiles := fun path =>
  if path = ["repo".toList, ".secure.auth".toList, "key.json".toList] then some "auth key"
  else if path = ["repo".toList, ".secure.bot".toList, "key.json".toList] then some "bot key"
  else none

private theorem repo_absolute : "/repo".toList.head? = some '/' := by decide

def twoKeysEnv : DeployEnv where
  repoRoot := "/repo"
  repoRoot_absolute := repo_absolute
  content := twoKeys
  access path := (twoKeys path).isSome
  access_of_content _ there := Option.isSome_iff_ne_none.mpr there
  validateGitIgnore _ := none
  chmod _ := true
  chmod_octal _ _ := rfl

def keyFile (directory target : String) : SecureFile :=
  { localPath := directory ++ "/key.json", target }

def keyServices (target : String) : ServiceSet where
  services := [{ name := "auth", secureFiles := [keyFile ".secure.auth" target] },
    { name := "llm-bot", secureFiles := [keyFile ".secure.bot" target] }]
  distinct := by simp

/-- All at once accept a target that is refused alone; and of files of one name one is lost. -/
theorem secureFiles_disagree :
    ¬ SecureFilesLaw twoKeysEnv { name := "local", host := "unix:///var/run/docker.sock" }
        (fun _ => some {}) (fun _ _ => some {}) (keyServices "/etc/passwd") (fun _ => none) ∧
      ¬ SecureFilesLaw twoKeysEnv
        { name := "staging", host := "ssh://deploy@host", remoteDir := some "/opt/bitbrat" }
        (fun _ => some {}) (fun _ _ => some {}) (keyServices "/var/secrets/key.json")
        (fun _ => none) := by
  constructor
  · intro law
    have invalid : Invalid twoKeysEnv { name := "local", host := "unix:///var/run/docker.sock" }
        (keyServices "/etc/passwd").services := by
      unfold Invalid
      decide +kernel
    obtain ⟨message, refused⟩ := law.bulkRefuses.mpr invalid
    have accepted : (deployAll twoKeysEnv
        { name := "local", host := "unix:///var/run/docker.sock" } (fun _ => some {})
        (keyServices "/etc/passwd").services (fun _ => none)).2.toOption.isSome = true := by
      decide +kernel
    rw [refused] at accepted
    cases accepted
  · intro law
    rcases inPlace_of_law law with ⟨invalid, -⟩ | ⟨-, placed⟩
    · revert invalid
      unfold Invalid
      decide +kernel
    · -- The key of the bot is copied over the one of the other service.
      have same := (placed _ List.mem_cons_self (keyFile ".secure.auth" "/var/secrets/key.json")
        (by decide +kernel)).named (by decide +kernel) _
        (List.mem_cons_of_mem _ List.mem_cons_self)
        (keyFile ".secure.bot" "/var/secrets/key.json") (by decide +kernel) (by decide +kernel)
      revert same
      decide +kernel

end BitBrat
