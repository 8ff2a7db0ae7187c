import BitBrat.Js.Path
import BitBrat.Js.Substitution
import BitBrat.Types.Event

/-! Execution contexts, resolved from the files of a repository and kept in two caches. -/

namespace BitBrat

open Js

structure FileState where
  content : String
  mtimeMs : ℚ

abbrev Files := String → Option FileState

def readContent (files : Files) (path : String) : Option String := (files path).map (·.content)

inductive Thrown where
  | reading (value : Value) (key : String)
  | typeError (message : String)
  deriving DecidableEq

inductive ResolutionError where
  | contextResolution (message : String) (contextName : Option String)
  | thrown (error : Thrown)
  deriving DecidableEq

/-- What the resolver relies on of its process, of the parser and of the container platform. -/
structure ResolverEnv where
  repoRoot : String
  homedir : String
  BITBRAT_CONTEXT : Option String := none
  /-- The content of the user's own settings, if there are any. -/
  bratrc : Option String := none
  yamlLoad : String → Except String Value
  discoverGatewayPort : Value → Option String
  /-- The connection of the database on a host, if it is found there. -/
  discoverPostgresContainer : Value → Option Value

structure ResolvedContext where
  name : String
  description : Value
  deployment : Value
  gateway : Value
  persistence : Value
  envVars : List (String × String)
  tags : Value
  deriving DecidableEq

def Thrown.message : Thrown → String
  | .reading value key =>
    "Cannot read properties of " ++ value.toText ++ " (reading '" ++ key ++ "')"
  | .typeError message => message

def readProperty (value : Value) (key : String) : Except Thrown Value :=
  match value with
  | .undefined => .error (.reading .undefined key)
  | .null => .error (.reading .null key)
  | _ => .ok (value.get key)

/-- The host after the scheme of an address, without a user in front of an at sign. -/
def hostAfterScheme (after : List Char) : List Char :=
  let host (text : List Char) := text.takeWhile fun char => char ≠ '/' ∧ char ≠ ':'
  let user := after.takeWhile (· ≠ '@')
  let named := if user ≠ [] then host (after.drop (user.length + 1)) else []
  if named ≠ [] then named else host after

def sshHost : List Char → Option (List Char)
  | [] => none
  | char :: rest =>
    let host := if "ssh://".toList.isPrefixOf (char :: rest) then
      hostAfterScheme ((char :: rest).drop 6) else []
    if host ≠ [] then some host else sshHost rest

def extractHost (dockerHost : Value) : Except Thrown String :=
  match dockerHost with
  | .str address =>
    if includesText address "unix://" then .ok "localhost"
    else .ok (((sshHost address.toList).map String.ofList).getD "localhost")
  | .undefined => .error (.reading .undefined "includes")
  | .null => .error (.reading .null "includes")
  | _ => .error (.typeError "dockerHost.includes is not a function")

section

variable (env : ResolverEnv)

/-- The name of the context, from the flag, the environment, the user's settings or the default. -/
def resolveContextName (explicitContext : Option String) : String :=
  match explicitContext.bind nonEmpty, env.BITBRAT_CONTEXT.bind nonEmpty with
  | some explicitContext, _ => explicitContext
  | none, some contextName => contextName
  | none, none =>
    match env.bratrc.map env.yamlLoad with
    | some (.ok bratrc) =>
      let current := bratrc.get "current_context"
      if current.truthy then current.toText else "local"
    | _ => "local"

def archPath : String := Js.joinPath [env.repoRoot, "architecture.yaml"]

def ephemeralPath : String := Js.joinPath [env.repoRoot, ".brat", "ephemeral-contexts.yaml"]

/-- The contexts of the second file, of which there are none if it cannot be read. -/
def loadEphemeralContexts (files : Files) : Value :=
  match (readContent files (ephemeralPath env)).map env.yamlLoad with
  | some (.ok parsed) => (parsed.get "executionContexts").or (.obj [])
  | _ => .obj []

def permanentContexts (content : String) : Except ResolutionError Value :=
  match env.yamlLoad content with
  | .error message =>
    .error (.contextResolution ("Failed to load architecture.yaml: " ++ message) none)
  | .ok arch =>
    match readProperty arch "executionContexts" with
    | .error thrown =>
      .error (.contextResolution ("Failed to load architecture.yaml: " ++ thrown.message) none)
    | .ok contexts =>
      if (contexts.or (.obj [])).fields = [] then
        .error (.contextResolution ("No execution contexts defined in architecture.yaml. " ++
          "Run 'brat migrate-contexts' to migrate from deploymentTargets.") none)
      else .ok contexts

/-- The contexts of both files, of which those of the second override those of the first. -/
def mergedContexts (content : String) (ephemeral : Value) : Except ResolutionError Value :=
  (permanentContexts env content).map fun permanent => permanent.extend ephemeral.fields

/-- Resolve the gateway: its own address, one that is discovered, or one with a default port. -/
def resolveGateway (context : Value) (name : String) : Except ResolutionError Value :=
  let resolved : Except Thrown (Option Value) := do
    let gatewayConfig ← readProperty (context.get "runtime") "gateway"
    let address (host port : String) : Value :=
      .obj [("url", .str ("ws://" ++ host ++ ":" ++ port ++ "/ws/v1")),
        ("authToken", gatewayConfig.get "authToken")]
    let fallback : Except Thrown (Option Value) :=
      if (gatewayConfig.get "fallbackPort").truthy then do
        let docker ← readProperty (context.get "deployment") "docker"
        let host ← extractHost ((docker.get "host").or (.str "localhost"))
        return some (address host (gatewayConfig.get "fallbackPort").toText)
      else return none
    if (gatewayConfig.get "url").truthy then
      return some (.obj [("url", gatewayConfig.get "url"),
        ("authToken", gatewayConfig.get "authToken")])
    else if (gatewayConfig.get "autoDiscover").truthy then do
      let type ← readProperty (context.get "deployment") "type"
      if type = .str "docker-compose" then do
        let dockerHost ← readProperty ((context.get "deployment").get "docker") "host"
        match (env.discoverGatewayPort dockerHost).bind nonEmpty with
        | some port =>
          let host ← extractHost dockerHost
          return some (address host port)
        | none => fallback
      else fallback
    else fallback
  match resolved with
  | .error thrown => .error (.thrown thrown)
  | .ok (some gateway) => .ok gateway
  | .ok none =>
    .error (.contextResolution ("Cannot resolve gateway URL for context '" ++ name ++ "': " ++
      "No url, autoDiscover, or fallbackPort configured.") (some name))

/-- Resolve the database: a connection that is given, or one that is discovered. -/
def resolvePersistence (context : Value) (name : String) : Except ResolutionError Value :=
  let persistence := (context.get "runtime").get "persistence"
  match readProperty persistence "driver" with
  | .error thrown => .error (.thrown thrown)
  | .ok driver =>
    if driver = .str "postgres" then
      if (persistence.get "connection").truthy then
        .ok (.obj [("driver", .str "postgres"), ("connection", persistence.get "connection")])
      else
        let unresolved : Except ResolutionError Value :=
          .error (.contextResolution ("Cannot resolve PostgreSQL persistence for context '" ++
            name ++ "': No connection config or autoDiscover enabled.") (some name))
        if (persistence.get "autoDiscover").truthy then
          match readProperty (context.get "deployment") "type" with
          | .error thrown => .error (.thrown thrown)
          | .ok type =>
            if type = .str "docker-compose" then
              match readProperty ((context.get "deployment").get "docker") "host" with
              | .error thrown => .error (.thrown thrown)
              | .ok dockerHost =>
                match env.discoverPostgresContainer dockerHost with
                | some discovered => .ok discovered
                | none =>
                  match extractHost dockerHost with
                  | .error thrown => .error (.thrown thrown)
                  | .ok host =>
                    .ok (.obj [("driver", .str "postgres"), ("connection", .obj [
                      ("host", .str host), ("port", .num (.finite 5432)),
                      ("database", .str "bitbrat"), ("username", .str "bitbrat"),
                      ("password", .str "bitbrat_dev_password")])])
            else unresolved
        else unresolved
    else if driver = .str "firestore" then .ok (.obj [("driver", .str "firestore")])
    else
      .error (.contextResolution ("Unknown persistence driver for context '" ++ name ++ "': " ++
        driver.toText) (some name))

def pathText : Value → Except Thrown String
  | .str text => .ok text
  | _ => .error (.typeError "The \"path\" argument must be of type string.")

/-- The paths of the overlays of a context, and of its file with secrets, if it has one. -/
def overlayPaths (context : Value) (name : String) : Except Thrown (List String × Option String) :=
  let overlayConfig := (context.get "runtime").get "envOverlay"
  let pathOf (parts : List Value) : Except Thrown String :=
    (parts.mapM pathText).map fun texts => Js.joinPath (env.repoRoot :: texts)
  if overlayConfig.truthy then do
    let patterns ←
      match overlayConfig.get "files" with
      | .arr patterns => Except.ok patterns
      | _ => .error (.typeError "overlayConfig.files is not iterable")
    let paths ← patterns.mapM fun pattern =>
      match pattern with
      | .str filePattern =>
        pathOf [overlayConfig.get "path", .str (replaceFirst filePattern "{service}" name)]
      | .undefined => .error (.reading .undefined "replace")
      | .null => .error (.reading .null "replace")
      | _ => .error (.typeError "filePattern.replace is not a function")
    let secure ←
      if (overlayConfig.get "secure").truthy then
        (pathOf [overlayConfig.get "secure"]).map some
      else Except.ok none
    return (paths, secure)
  else return ([], none)

/-- The values of an overlay, which has none if it cannot be read. -/
def loadYamlIfExists (content : Option String) : List (String × Value) :=
  match content.map env.yamlLoad with
  | some (.ok (.obj fields)) => fields
  -- The items of a list are assigned under their positions.
  | some (.ok (.arr items)) =>
    items.zipIdx.map fun (item, index) => (toString index, item)
  -- And so are the characters of a text.
  | some (.ok (.str text)) =>
    text.toList.zipIdx.map fun (char, index) => (toString index, .str (String.singleton char))
  | _ => []

/-- The variable that a line of a file with secrets sets, if it sets one. -/
def secureLine (line : List Char) : Option (String × String) :=
  let line := trimBlanks line
  if line = [] ∨ line.head? = some '#' then none
  else
    let line := if "export ".toList.isPrefixOf line then trimBlanks (line.drop 7) else line
    if '=' ∉ line then none
    else
      let key := trimBlanks (line.takeWhile (· ≠ '='))
      let given := trimBlanks ((line.dropWhile (· ≠ '=')).drop 1)
      let quoted (quote : Char) : Bool := given.head? = some quote ∧ given.getLast? = some quote
      let value := if quoted '"' ∨ quoted '\'' then (given.drop 1).dropLast else given
      let value :=
        if value = ['~'] then env.homedir
        else if ['~', '/'].isPrefixOf value then
          Js.joinPath [env.homedir, String.ofList (value.drop 2)]
        else String.ofList value
      if key = [] then none else some (String.ofList key, value)

def loadSecureEnv (content : Option String) : List (String × Value) :=
  match content with
  | some content =>
    ((content.toList.splitOn '\n').filterMap (secureLine env)).map fun (key, value) =>
      (key, .str value)
  | none => []

/-- The environment of a context, in which later files override earlier ones. -/
def resolveEnvironmentVars (files : Files) (context : Value) (name : String) :
    Except Thrown (List (String × String)) :=
  (overlayPaths env context name).map fun (paths, secure) =>
    let vars := paths.flatMap fun path => loadYamlIfExists env (readContent files path)
    let secureVars := (secure.map fun path => loadSecureEnv env (readContent files path)).getD []
    ((Value.obj []).extend (vars ++ secureVars)).fields.map fun (key, value) => (key, value.toText)

/-- Resolve a context with its gateway, its database and its environment. -/
def resolveContext (files : Files) (name : String) (context : Value) :
    Except ResolutionError ResolvedContext := do
  let gateway ← resolveGateway env context name
  let persistence ← resolvePersistence env context name
  let envVars ← (resolveEnvironmentVars env files context name).mapError .thrown
  return {
    name
    description := context.get "description"
    deployment := context.get "deployment"
    gateway
    persistence
    envVars
    tags := context.get "tags" }

def unknownContext (name : String) (contexts : Value) : ResolutionError :=
  .contextResolution ("Unknown execution context: '" ++ name ++ "'. Available contexts: " ++
    String.intercalate ", " (contexts.fields.map Prod.fst)) (some name)

/-- A context as it was resolved, with the files as they were then. -/
structure CachedContext where
  resolved : ResolvedContext
  files : Files

/-- The contexts of both files as they were loaded, with the files as they were then. -/
structure LoadedContexts where
  contexts : Value
  mtimeMs : ℚ
  files : Files

structure ContextResolver where
  contextCache : OrderedMap String CachedContext := .empty
  architectureCache : Option LoadedContexts := none

/-- Whether the first file may have changed since it was loaded. -/
def ContextResolver.isArchitectureModified (resolver : ContextResolver) (files : Files) : Bool :=
  match resolver.architectureCache, files (archPath env) with
  -- A time that is zero counts as none.
  | some loaded, some file => loaded.mtimeMs = 0 ∨ file.mtimeMs ≠ loaded.mtimeMs
  | _, _ => true

def ContextResolver.reload (resolver : ContextResolver) (files : Files) :
    Except ResolutionError Value × ContextResolver :=
  match files (archPath env) with
  | none =>
    (.error (.contextResolution ("architecture.yaml not found at " ++ archPath env ++
      ". Run 'brat setup' to initialize.") none), resolver)
  | some file =>
    match mergedContexts env file.content (loadEphemeralContexts env files) with
    | .error error => (.error error, resolver)
    | .ok contexts =>
      (.ok contexts, { resolver with
        architectureCache := some { contexts, mtimeMs := file.mtimeMs, files } })

/-- Load the contexts of both files, unless the first file has not changed. -/
def ContextResolver.loadExecutionContexts (resolver : ContextResolver) (files : Files) :
    Except ResolutionError Value × ContextResolver :=
  match resolver.architectureCache with
  | some loaded =>
    if resolver.isArchitectureModified env files then resolver.reload env files
    else (.ok loaded.contexts, resolver)
  | none => resolver.reload env files

/-- Resolve a context by its name from the contexts that are loaded, and remember it. -/
def ContextResolver.resolveAnew (resolver : ContextResolver) (files : Files) (name : String) :
    Except ResolutionError ResolvedContext × ContextResolver :=
  match resolver.loadExecutionContexts env files with
  | (.error error, resolver) => (.error error, resolver)
  | (.ok contexts, resolver) =>
    let context := contexts.get name
    if context.truthy then
      match resolveContext env files name context with
      | .error error => (.error error, resolver)
      | .ok resolved =>
        (.ok resolved, { resolver with
          contextCache := resolver.contextCache.set name { resolved, files } })
    else (.error (unknownContext name contexts), resolver)

/-- Resolve a context, unless it was resolved and the first file has not changed. -/
def ContextResolver.resolve (resolver : ContextResolver) (files : Files)
    (explicitContext : Option String) :
    Except ResolutionError ResolvedContext × ContextResolver :=
  let name := resolveContextName env explicitContext
  match resolver.contextCache.get? name with
  | some cached =>
    if resolver.isArchitectureModified env files then resolver.resolveAnew env files name
    else (.ok cached.resolved, resolver)
  | none => resolver.resolveAnew env files name

end

end BitBrat
