import BitBrat.Brat.AgentDevContext
import Mathlib.Data.List.Infix

/-! The secure files of services: how they are checked, and how they are mounted. -/

namespace BitBrat

open Js

/-- A secure file of a service, as the configuration declares it. -/
structure SecureFile where
  localPath : String
  target : String
  env : Option String := none
  permissions : Option String := none
  required : Option Bool := none
  context : Option String := none
  deriving DecidableEq

/-- Whether a file is for a context: it has none, or this one. -/
def SecureFile.applies (file : SecureFile) (contextName : String) : Bool :=
  match file.context with
  | none => true
  | some context => context = "" || context = contextName

/-- Where a path leads from the root of the repository, an absolute one from the root of all. -/
def resolvePath (repoRoot path : String) : FilePath :=
  if path.toList.head? = some '/' then locate path else locate (repoRoot ++ "/" ++ path)

def validateTargetPath (targetPath : String) : Option String :=
  if ['.', '.'] <:+: targetPath.toList then
    some ("Invalid target path (contains traversal): " ++ targetPath ++ "\n" ++
      "  Security risk: Path traversal attempts are not allowed.\n" ++
      "  Action: Use an absolute path under /var/secrets/ or /run/secrets/")
  else
    let normalized := normalizePath targetPath.toList
    if normalized.head? ≠ some '/' then
      some ("Invalid target path (must be absolute): " ++ targetPath ++ "\n" ++
        "  Action: Use an absolute path starting with /var/secrets/ or /run/secrets/")
    else if !(["/var/secrets/", "/run/secrets/"].any (·.toList.isPrefixOf normalized)) then
      some ("Invalid target path (not under allowed directories): " ++ targetPath ++ "\n" ++
        "  Security risk: Secure files must be mounted under /var/secrets/ or /run/secrets/\n" ++
        "  Action: Change target path to start with /var/secrets/ or /run/secrets/\n" ++
        "  Example: /var/secrets/gcp-credentials.json")
    else none

/-- The mode of a file, which only its owner can read if none is given. -/
def SecureFile.mode (file : SecureFile) : String :=
  match file.permissions with
  | some permissions => if permissions = "" then "0400" else permissions
  | none => "0400"

/-- Check that a mode is four octal digits, the first of which is zero. -/
def validatePermissions (file : SecureFile) : Option String :=
  let octal (digit : Char) : Bool := '0' ≤ digit && digit ≤ '7'
  match file.mode.toList with
  | ['0', owner, group, others] =>
    if octal owner && octal group && octal others then none else some message
  | _ => some message
where
  message : String :=
    "Invalid permissions format: " ++ file.permissions.getD "undefined" ++ "\n" ++
      "  Expected: Octal string matching \"0XXX\" where X is 0-7\n" ++
      "  Examples: \"0400\" (read-only), \"0600\" (read-write), " ++
      "\"0440\" (read-only for owner+group)\n" ++
      "  Action: Fix permissions format or omit to use default \"0400\""

/-- What the machine that deploys knows: its files, and what other programs answer. -/
structure DeployEnv where
  repoRoot : String
  repoRoot_absolute : repoRoot.toList.head? = some '/'
  content : RepoFiles
  access : FilePath → Bool
  access_of_content : ∀ path, content path ≠ none → access path = true
  /-- What is wrong with a path that is not ignored by the repository. -/
  validateGitIgnore : String → Option String
  chmod : String → Bool
  chmod_octal : ∀ file : SecureFile, validatePermissions file = none → chmod file.mode = true

section

variable (env : DeployEnv)

def SecureFile.source (file : SecureFile) : FilePath := resolvePath env.repoRoot file.localPath

def validateFileExists (file : SecureFile) : Option String :=
  if env.access (file.source env) then none
  else if file.required ≠ some false then
    some ("Required secure file not found: " ++ file.localPath ++ " (resolved to " ++
      String.ofList (['/'] ++ ['/'].intercalate (file.source env)) ++ ")")
  else none

def secureFileErrors (file : SecureFile) : List String :=
  [env.validateGitIgnore file.localPath, validateTargetPath file.target,
    validatePermissions file, validateFileExists env file].filterMap id

structure SecureFilesResult where
  valid : Bool
  errors : List String
  warnings : List String

def SecureFilesValidator.validate (secureFiles : List SecureFile) (executionContext : String) :
    SecureFilesResult :=
  let applicableFiles := secureFiles.filter (·.applies executionContext)
  let errors := applicableFiles.flatMap (secureFileErrors env)
  let unapplied :=
    if applicableFiles.isEmpty && !secureFiles.isEmpty then
      ["No secure files applicable for context '" ++ executionContext ++ "' (" ++
        toString secureFiles.length ++ " files defined for other contexts)"]
    else []
  let unnamed := applicableFiles.filter fun file => (file.env.getD "") = ""
  { valid := errors.isEmpty
    errors
    warnings := unapplied ++ unnamed.map fun file =>
      "No environment variable specified for " ++ file.localPath ++ " → " ++ file.target ++
        " (consider adding 'env' property for easier discovery)" }

end

/-- The environment variables of a service: as texts, or by their names. -/
inductive ComposeEnvironment where
  | entries (texts : List String)
  | fields (values : List (String × String))

structure ComposeService where
  volumes : List String := []
  environment : ComposeEnvironment := .fields []

def mountText (host target : String) : String := host ++ ":" ++ target ++ ":ro"

def ComposeMerger.generateVolumeMounts (secureFiles : List SecureFile) (localPrefix : String) :
    List String :=
  secureFiles.map fun file =>
    mountText (if localPrefix = "" then file.localPath else localPrefix ++ "/" ++ file.localPath)
      file.target

def ComposeMerger.extractEnvVars (secureFiles : List SecureFile) : List (String × String) :=
  secureFiles.foldl (fun envVars file =>
    match file.env with
    | some name => if name = "" then envVars else setEntry name file.target envVars
    | none => envVars) []

/-- Add one variable to texts, instead of the one that has its name. -/
def addEnvEntry (texts : List String) (name value : String) : List String :=
  (texts.filter fun entry => !(name ++ "=").toList.isPrefixOf entry.toList) ++
    [name ++ "=" ++ value]

def ComposeService.inject (service : ComposeService) (volumeMounts : List String)
    (envVars : List (String × String)) : ComposeService :=
  { volumes :=
      if volumeMounts.isEmpty then service.volumes else (service.volumes ++ volumeMounts).eraseDups
    environment :=
      match service.environment with
      | .entries texts =>
        -- Each variable is added to what was there at first, and so only the last one stays.
        envVars.foldl (fun _ (name, value) => .entries (addEnvEntry texts name value))
          (.entries texts)
      | .fields values =>
        .fields (envVars.foldl (fun merged (name, value) => setEntry name value merged) values) }

/-! The deployment of secure files: one service after the other, or all services at once. -/

structure DockerContext where
  name : String
  host : String
  remoteDir : Option String := none

def DockerContext.isRemote (context : DockerContext) : Bool :=
  "ssh://".toList.isPrefixOf context.host.toList

structure SecureService where
  name : String
  secureFiles : List SecureFile

structure ServiceSet where
  services : List SecureService
  distinct : (services.map SecureService.name).Nodup

abbrev ComposeServices := String → Option ComposeService

/-- The contents of the files on the other machine, by their paths. -/
abbrev RemoteFiles := String → Option String

def pathBasename (path : String) : String :=
  String.ofList (((path.toList.splitOn '/').filter (· ≠ [])).getLast?.getD [])

/-- The user, the machine and the port of an address, if it has the form of one. -/
def parseSshHost (remoteHost : String) : Option (String × String × Nat) :=
  if !"ssh://".toList.isPrefixOf remoteHost.toList then none
  else
    let address := remoteHost.toList.drop 6
    let user := address.takeWhile (· ≠ '@')
    match address.dropWhile (· ≠ '@') with
    | [] => none
    | _ :: place =>
      let host := place.takeWhile (· ≠ ':')
      if user.isEmpty || host.isEmpty then none
      else
        match place.dropWhile (· ≠ ':') with
        | [] => some (String.ofList user, String.ofList host, 22)
        | _ :: port =>
          if port.isEmpty || !port.all Char.isDigit then none
          else some (String.ofList user, String.ofList host, Nat.ofDigitChars 10 port 0)

section

variable (env : DeployEnv) (context : DockerContext)

def remoteSecureDir : String := context.remoteDir.getD "" ++ "/.secure"

def remotePath (file : SecureFile) : String :=
  remoteSecureDir context ++ "/" ++ pathBasename file.localPath

/-- Copy a file to the other machine, over one that is there. -/
def scp (file : SecureFile) (remote : RemoteFiles) : RemoteFiles := fun path =>
  if path = remotePath context file then
    match env.content (file.source env) with
    | some content => some content
    | none => remote path
  else remote path

def transfers (file : SecureFile) : Bool :=
  (env.content (file.source env)).isSome && env.chmod file.mode

/-- Copy files to the other machine one after the other, up to one that fails every time. -/
def transferEach (secureFiles : List SecureFile) (remotePaths : List (String × String))
    (remote : RemoteFiles) : RemoteFiles × Except String (List (String × String)) :=
  match secureFiles with
  | [] => (remote, .ok remotePaths)
  | file :: rest =>
    if transfers env file then
      transferEach rest (setEntry file.localPath (remotePath context file) remotePaths)
        (scp env context file remote)
    else
      (scp env context file remote,
        .error ("Failed to transfer " ++ file.localPath ++ " after 3 attempts"))

def transferSecureFilesToRemote (secureFiles : List SecureFile) (remote : RemoteFiles) :
    RemoteFiles × Except String (List (String × String)) :=
  match parseSshHost context.host with
  | none =>
    (remote, .error ("Invalid SSH host format: " ++ context.host ++ ". " ++
      "Expected: ssh://user@host or ssh://user@host:port"))
  | some _ => transferEach env context secureFiles [] remote

/-- The mounts of the files of a service, which are copied first if they must be. -/
def secureFileMounts (secureFiles : List SecureFile) (remote : RemoteFiles) :
    RemoteFiles × Except String (List String) :=
  if !context.isRemote then
    (remote, .ok (ComposeMerger.generateVolumeMounts secureFiles env.repoRoot))
  else if context.remoteDir.getD "" = "" then
    (remote, .error ("Remote directory not configured in context '" ++ context.name ++ "'. " ++
      "Set deployment.docker.remoteDir in architecture.yaml"))
  else
    match transferSecureFilesToRemote env context secureFiles remote with
    | (remote, .error message) => (remote, .error message)
    | (remote, .ok remotePaths) =>
      (remote, .ok (secureFiles.map fun file =>
        mountText ((remotePaths.lookup file.localPath).getD "undefined") file.target))

def ComposeMerger.injectSecureFiles (compose : ComposeServices) (serviceName : String)
    (volumeMounts : List String) (envVars : List (String × String)) :
    Except String ComposeServices :=
  match compose serviceName with
  | none =>
    .error ("Service '" ++ serviceName ++ "' not found in compose file. " ++
      "Cannot inject secureFiles volume mounts.")
  | some service =>
    .ok fun other =>
      if other = serviceName then some (service.inject volumeMounts envVars) else compose other

/-- Mount the secure files of a service, and add them to its definition. -/
def processSecureFiles (compose : ComposeServices) (serviceName : String)
    (secureFiles : List SecureFile) (remote : RemoteFiles) :
    RemoteFiles × Except String ComposeServices :=
  match secureFileMounts env context secureFiles remote with
  | (remote, .error message) => (remote, .error message)
  | (remote, .ok volumeMounts) =>
    (remote, ComposeMerger.injectSecureFiles compose serviceName volumeMounts
      (ComposeMerger.extractEnvVars secureFiles))

/-- Prepare the deployment of a service: its files for the context, if all of these are valid. -/
def prepare (service : SecureService) : Except String (List SecureFile) :=
  if service.secureFiles.isEmpty then .ok []
  else
    let validationResult :=
      SecureFilesValidator.validate env service.secureFiles context.name
    if !validationResult.valid then
      .error ("Secure file validation failed for " ++ service.name ++ ":\n" ++
        String.intercalate "\n" (validationResult.errors.map ("  - " ++ ·)))
    else .ok (service.secureFiles.filter (·.applies context.name))

/-- Execute the plan of a service, over the files that were merged for it. -/
def execute (compose : ComposeServices) (service : SecureService) (secureFiles : List SecureFile)
    (remote : RemoteFiles) : RemoteFiles × Except String ComposeServices :=
  if secureFiles.isEmpty then (remote, .ok compose)
  else processSecureFiles env context compose service.name secureFiles remote

def deployService (compose : ComposeServices) (service : SecureService) (remote : RemoteFiles) :
    RemoteFiles × Except String ComposeServices :=
  match prepare env context service with
  | .error message => (remote, .error message)
  | .ok secureFiles => execute env context compose service secureFiles remote

/-- Deploy services one after the other, each over the files that are merged for it. -/
def deployServices (compose : String → ComposeServices) (services : List SecureService)
    (remote : RemoteFiles) : RemoteFiles × List (String × Except String ComposeServices) :=
  match services with
  | [] => (remote, [])
  | service :: rest =>
    let (copied, result) := deployService env context (compose service.name) service remote
    let (final, results) := deployServices compose rest copied
    (final, (service.name, result) :: results)

/-- The files of all services that are for the context, whatever the check of them says. -/
def collectSecureFiles (services : List SecureService) : List (String × List SecureFile) :=
  (services.map fun service =>
    (service.name, service.secureFiles.filter (·.applies context.name))).filter (!·.2.isEmpty)

/-- Mount the secure files of services one after the other, up to one for which it fails. -/
def processAll (collected : List (String × List SecureFile)) (compose : ComposeServices)
    (remote : RemoteFiles) : RemoteFiles × Except String ComposeServices :=
  match collected with
  | [] => (remote, .ok compose)
  | (serviceName, secureFiles) :: rest =>
    match processSecureFiles env context compose serviceName secureFiles remote with
    | (remote, .error message) => (remote, .error message)
    | (remote, .ok compose) => processAll rest compose remote

def deployAll (compose : ComposeServices) (services : List SecureService) (remote : RemoteFiles) :
    RemoteFiles × Except String ComposeServices :=
  processAll env context (collectSecureFiles context services) compose remote

end

end BitBrat
