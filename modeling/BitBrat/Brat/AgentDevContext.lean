import BitBrat.Js.Path
import BitBrat.Js.Value

/-! The contexts that agents provision and destroy, in the files of a repository. -/

namespace BitBrat

open Js

abbrev FilePath := List Segment

abbrev RepoFiles := FilePath → Option String

def entryOf (ephemeral : Value) (name : String) : Value :=
  (ephemeral.get "executionContexts").get name

/-- The contexts with an entry more, unless they cannot have one, which throws. -/
def putEntry (ephemeral : Value) (name : String) (config : Value) : Option Value :=
  match ephemeral with
  | .obj fields =>
    match (Value.obj fields).get "executionContexts" with
    | .obj entries =>
      some ((Value.obj fields).extend
        [("executionContexts", .obj (setEntry name config entries))])
    -- A property of a list or of a date is not written to the file.
    | .arr _ => some ephemeral
    | .date _ => some ephemeral
    | contexts =>
      if contexts.truthy then none
      else some ((Value.obj fields).extend [("executionContexts", .obj [(name, config)])])
  | .arr _ => some ephemeral
  | .date _ => some ephemeral
  | _ => none

def dropEntry (ephemeral : Value) (name : String) : Value :=
  ephemeral.extend
    [("executionContexts", .obj (eraseKey name (ephemeral.get "executionContexts").fields))]

/-- What the manager relies on of the parser, and of the generators of the files of a context. -/
structure AgentDevEnv where
  repoRoot : String
  repoRoot_absolute : repoRoot.toList.head? = some '/'
  yamlLoad : String → Except String Value
  /-- The text of a value, unless it holds something that has none, which throws. -/
  yamlDump : Value → Option String
  plainData : Value → Bool
  plainData_undefined : plainData .undefined = true
  plainData_load : ∀ text value name, yamlLoad text = .ok value →
    plainData (entryOf value name) = true
  /-- The text of a value can be read, and has the entries again that are plain data. -/
  yamlLoad_dump : ∀ value text, yamlDump value = some text → ∃ loaded,
    yamlLoad text = .ok loaded ∧ ∀ name, plainData (entryOf value name) = true →
      entryOf loaded name = entryOf value name
  generateGlobalYaml : String → Value → String
  generateInfraYaml : String → Value → String
  serviceConfigs : RepoFiles → String → List (String × String)
  generateDockerCompose : RepoFiles → String → String

def validateAgentDevContext (contextName : String) : Bool :=
  "agent-dev-".toList.isPrefixOf contextName.toList

section

variable (env : AgentDevEnv)

def envDir (contextName : String) : String := joinPath [env.repoRoot, "env", contextName]

def composeFile (contextName : String) : String :=
  joinPath [env.repoRoot, "infrastructure/docker-compose",
    "docker-compose." ++ contextName ++ ".yaml"]

def registryPath : FilePath := locate (joinPath [env.repoRoot, ".brat", "ephemeral-contexts.yaml"])

/-- What the file of the contexts holds, if it can be read. -/
def loadRegistry (files : RepoFiles) : Option Value :=
  match (files (registryPath env)).map env.yamlLoad with
  | some (.ok ephemeral) => some ephemeral
  | _ => none

def contextEntry (files : RepoFiles) (name : String) : Value :=
  ((loadRegistry env files).map fun ephemeral => entryOf ephemeral name).getD .undefined

def writeFile (files : RepoFiles) (path : FilePath) (content : String) : RepoFiles :=
  fun other => if other = path then some content else files other

/-- Remove a file, or a directory with all that it holds. -/
def removeTree (files : RepoFiles) (path : FilePath) : RepoFiles :=
  fun other => if path.isPrefixOf other then none else files other

def removeFile (files : RepoFiles) (path : FilePath) : RepoFiles :=
  fun other => if other = path then none else files other

/-- Write the entry of a context, where a file that cannot be read is started afresh. -/
def writeToEphemeralStorage (files : RepoFiles) (name : String) (config : Value) :
    Option RepoFiles :=
  let ephemeral := (loadRegistry env files).getD (.obj [("executionContexts", .obj [])])
  ((putEntry ephemeral name config).bind env.yamlDump).map
    (writeFile files (registryPath env))

def removeFromEphemeralStorage (files : RepoFiles) (name : String) : RepoFiles :=
  match loadRegistry env files with
  | some ephemeral =>
    if (entryOf ephemeral name).truthy then
      -- What cannot be written is reported, and stays.
      match env.yamlDump (dropEntry ephemeral name) with
      | some text => writeFile files (registryPath env) text
      | none => files
    else files
  | none => files

/-- A file that is written when a context is provisioned, over one that is there or not. -/
structure ScaffoldWrite where
  path : FilePath
  content : String
  force : Bool

/-- The files that are written for a context, one after the other. -/
def scaffoldEnvironment (files : RepoFiles) (contextName : String) (contextConfig : Value) :
    List ScaffoldWrite :=
  let place (name : String) : FilePath := locate (joinPath [envDir env contextName, name])
  [{ path := place "global.yaml"
     content := env.generateGlobalYaml contextName contextConfig
     force := true },
   { path := place "infra.yaml"
     content := env.generateInfraYaml contextName contextConfig
     force := true }] ++
  ((env.serviceConfigs files contextName).map fun (serviceName, content) =>
    { path := place (serviceName ++ ".yaml"), content, force := false }) ++
  [{ path := locate (composeFile env contextName)
     content := env.generateDockerCompose files contextName
     force := true }]

def ScaffoldWrite.run (files : RepoFiles) (write : ScaffoldWrite) : RepoFiles :=
  if write.force || (files write.path).isNone then writeFile files write.path write.content
  else files

/-- Provision a context, up to the write of its files at which something fails. -/
def AgentDevContextManager.provision (files : RepoFiles) (contextName : String)
    (contextConfig : Value) (written : Nat) : RepoFiles :=
  if !validateAgentDevContext contextName then files
  else if (contextEntry env files contextName).truthy then files
  else
    match writeToEphemeralStorage env files contextName contextConfig with
    | none => files
    | some stored =>
      ((scaffoldEnvironment env stored contextName contextConfig).take written).foldl
        ScaffoldWrite.run stored

/-- Destroy a context: its directory, its file of containers and its entry. -/
def AgentDevContextManager.destroy (files : RepoFiles) (contextName : String) : RepoFiles :=
  if !validateAgentDevContext contextName then files
  else
    let files := removeTree files (locate (envDir env contextName))
    let files := removeFile files (locate (composeFile env contextName))
    removeFromEphemeralStorage env files contextName

def agentDevContexts (files : RepoFiles) : List String :=
  match loadRegistry env files with
  | some ephemeral =>
    ((ephemeral.get "executionContexts").fields.map Prod.fst).filter validateAgentDevContext
  | none => []

def AgentDevContextManager.cleanupAll (files : RepoFiles) : RepoFiles :=
  (agentDevContexts env files).foldl (AgentDevContextManager.destroy env) files

end

end BitBrat
