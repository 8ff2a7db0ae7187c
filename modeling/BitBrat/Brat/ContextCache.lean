import BitBrat.Brat.ContextResolver
import BitBrat.Machine.Run

/-! When the caches of the resolver do not show: a context is resolved as if it were the first. -/

namespace BitBrat

open Js Machine

structure ResolverState where
  files : Files
  resolver : ContextResolver := {}

/-- What happens next: a file is written or removed, or a context is resolved. -/
inductive ResolverInput where
  | write (path : String) (file : Option FileState)
  | resolve (explicitContext : Option String)

section

variable (env : ResolverEnv)

def resolverStep (state : ResolverState) : ResolverInput → ResolverState
  | .write path file =>
    { state with files := fun other => if other = path then file else state.files other }
  | .resolve explicitContext =>
    { state with resolver := (state.resolver.resolve env state.files explicitContext).2 }

def TransparencyLaw (state : ResolverState) : ResolverInput → Prop
  | .resolve explicitContext =>
    (state.resolver.resolve env state.files explicitContext).1 =
      (({} : ContextResolver).resolve env state.files explicitContext).1
  | .write _ _ => True

def currentContexts (files : Files) : Except ResolutionError Value :=
  (({} : ContextResolver).loadExecutionContexts env files).1

def resolveAmong (files : Files) (name : String) (contexts : Value) :
    Except ResolutionError ResolvedContext :=
  if (contexts.get name).truthy then resolveContext env files name (contexts.get name)
  else .error (unknownContext name contexts)

def SameContent (files since : Files) (path : String) : Prop :=
  readContent files path = readContent since path

def OverlaysUnchanged (files since : Files) (name : String) : Prop :=
  ∀ contexts paths secure, currentContexts env since = .ok contexts →
    overlayPaths env (contexts.get name) name = .ok (paths, secure) →
      ∀ path ∈ paths ++ secure.toList, SameContent files since path

/-- No cache answers after a change: a new content of the first file comes with a new time, and
a context that the first file does not give anew is asked for only if its files are the same. -/
def CacheInPlace (state : ResolverState) : ResolverInput → Prop
  | .write path file =>
    path = archPath env → ∀ loaded ∈ state.resolver.architectureCache, ∀ written ∈ file,
      written.mtimeMs = loaded.mtimeMs →
        some written.content = readContent loaded.files (archPath env)
  | .resolve explicitContext =>
    state.resolver.isArchitectureModified env state.files = false →
      match state.resolver.contextCache.get? (resolveContextName env explicitContext) with
      | some cached =>
        SameContent state.files cached.files (archPath env) ∧
          SameContent state.files cached.files (ephemeralPath env) ∧
          OverlaysUnchanged env state.files cached.files (resolveContextName env explicitContext)
      | none =>
        ∀ loaded ∈ state.resolver.architectureCache,
          SameContent state.files loaded.files (ephemeralPath env)

structure CachesHold (state : ResolverState) : Prop where
  loaded : ∀ loaded ∈ state.resolver.architectureCache,
    currentContexts env loaded.files = .ok loaded.contexts ∧
      ∀ file ∈ state.files (archPath env), file.mtimeMs = loaded.mtimeMs →
        SameContent state.files loaded.files (archPath env)
  cached : ∀ name cached, state.resolver.contextCache.get? name = some cached →
    ∃ contexts, currentContexts env cached.files = .ok contexts ∧
      resolveAmong env cached.files name contexts = .ok cached.resolved

end

section

variable {env : ResolverEnv}

theorem currentContexts_eq (files : Files) :
    currentContexts env files =
      match readContent files (archPath env) with
      | none =>
        .error (.contextResolution ("architecture.yaml not found at " ++ archPath env ++
          ". Run 'brat setup' to initialize.") none)
      | some content => mergedContexts env content (loadEphemeralContexts env files) := by
  unfold currentContexts ContextResolver.loadExecutionContexts ContextResolver.reload readContent
  cases files (archPath env) with
  | none => rfl
  | some file =>
    simp only [Option.map_some]
    cases mergedContexts env file.content (loadEphemeralContexts env files) <;> rfl

variable {files since : Files}

theorem currentContexts_congr (arch : SameContent files since (archPath env))
    (ephemeral : SameContent files since (ephemeralPath env)) :
    currentContexts env files = currentContexts env since := by
  have ephemerals : loadEphemeralContexts env files = loadEphemeralContexts env since := by
    unfold loadEphemeralContexts
    rw [show readContent files (ephemeralPath env) = _ from ephemeral]
  rw [currentContexts_eq, currentContexts_eq, ephemerals,
    show readContent files (archPath env) = _ from arch]

theorem resolveEnvironmentVars_congr {name : String} {context : Value}
    (overlays : ∀ paths secure, overlayPaths env context name = .ok (paths, secure) →
      ∀ path ∈ paths ++ secure.toList, SameContent files since path) :
    resolveEnvironmentVars env files context name =
      resolveEnvironmentVars env since context name := by
  unfold resolveEnvironmentVars
  cases found : overlayPaths env context name with
  | error thrown => rfl
  | ok overlay =>
    obtain ⟨paths, secure⟩ := overlay
    have same := overlays paths secure found
    have vars : (paths.flatMap fun path => loadYamlIfExists env (readContent files path)) =
        paths.flatMap fun path => loadYamlIfExists env (readContent since path) := by
      refine List.flatMap_congr fun path member => ?_
      rw [show readContent files path = _ from same path (List.mem_append_left _ member)]
    have secrets : (secure.map fun path => loadSecureEnv env (readContent files path)) =
        secure.map fun path => loadSecureEnv env (readContent since path) := by
      cases secure with
      | none => rfl
      | some path =>
        rw [Option.map_some, Option.map_some, show readContent files path = _ from
          same path (List.mem_append_right _ (by simp))]
    simp only [Except.map, vars, secrets]

theorem resolveAmong_congr {name : String} {contexts : Value}
    (current : currentContexts env since = .ok contexts)
    (overlays : OverlaysUnchanged env files since name) :
    resolveAmong env files name contexts = resolveAmong env since name contexts := by
  unfold resolveAmong resolveContext
  rw [resolveEnvironmentVars_congr fun paths secure found =>
    overlays contexts paths secure current found]

theorem loadExecutionContexts_of_modified {resolver : ContextResolver}
    (modified : resolver.isArchitectureModified env files = true) :
    (resolver.loadExecutionContexts env files = (currentContexts env files, resolver) ∧
      ∀ contexts, currentContexts env files ≠ .ok contexts) ∨
    ∃ file contexts, files (archPath env) = some file ∧
      currentContexts env files = .ok contexts ∧
      resolver.loadExecutionContexts env files = (.ok contexts, { resolver with
        architectureCache := some { contexts, mtimeMs := file.mtimeMs, files } }) := by
  have reloads : resolver.loadExecutionContexts env files = resolver.reload env files := by
    unfold ContextResolver.loadExecutionContexts
    cases resolver.architectureCache with
    | none => rfl
    | some loaded => simp only [modified, if_true]
  rw [reloads, currentContexts_eq]
  unfold ContextResolver.reload readContent
  cases found : files (archPath env) with
  | none => exact .inl ⟨rfl, fun _ => nofun⟩
  | some file =>
    simp only [Option.map_some]
    cases merged : mergedContexts env file.content (loadEphemeralContexts env files) with
    | error error => exact .inl ⟨rfl, fun _ => nofun⟩
    | ok contexts => exact .inr ⟨file, contexts, rfl, rfl, rfl⟩

theorem loadExecutionContexts_of_unmodified {resolver : ContextResolver}
    (unmodified : resolver.isArchitectureModified env files = false) :
    ∃ loaded file, resolver.architectureCache = some loaded ∧ files (archPath env) = some file ∧
      file.mtimeMs = loaded.mtimeMs ∧
      resolver.loadExecutionContexts env files = (.ok loaded.contexts, resolver) := by
  have kept := unmodified
  unfold ContextResolver.isArchitectureModified at kept
  split at kept
  case h_1 loaded file cached found =>
    simp only [decide_eq_false_iff_not, not_or, ne_eq, not_not] at kept
    refine ⟨loaded, file, cached, found, kept.2, ?_⟩
    unfold ContextResolver.loadExecutionContexts
    simp only [cached, unmodified, Bool.false_eq_true, if_false]
  case h_2 => cases kept

theorem resolveAnew_eq (resolver : ContextResolver) (files : Files) (name : String) :
    resolver.resolveAnew env files name =
      match resolver.loadExecutionContexts env files with
      | (.error error, resolver) => (.error error, resolver)
      | (.ok contexts, resolver) =>
        match resolveAmong env files name contexts with
        | .error error => (.error error, resolver)
        | .ok resolved =>
          (.ok resolved, { resolver with
            contextCache := resolver.contextCache.set name { resolved, files } }) := by
  unfold ContextResolver.resolveAnew resolveAmong
  rcases resolver.loadExecutionContexts env files with ⟨error | contexts, after⟩
  · rfl
  · by_cases known : (contexts.get name).truthy = true
    · cases resolved : resolveContext env files name (contexts.get name) <;>
        simp [known, resolved]
    · simp [known]

theorem resolveAnew_fst (resolver : ContextResolver) (files : Files) (name : String) :
    (resolver.resolveAnew env files name).1 =
      (resolver.loadExecutionContexts env files).1.bind (resolveAmong env files name) := by
  rw [resolveAnew_eq]
  rcases resolver.loadExecutionContexts env files with ⟨error | contexts, after⟩
  · rfl
  · simp only [Except.bind]
    cases resolveAmong env files name contexts <;> rfl

theorem resolve_new (files : Files) (explicitContext : Option String) :
    (({} : ContextResolver).resolve env files explicitContext).1 =
      (currentContexts env files).bind
        (resolveAmong env files (resolveContextName env explicitContext)) :=
  resolveAnew_fst {} files (resolveContextName env explicitContext)

variable {state : ResolverState}

theorem CachesHold.load (hold : CachesHold env state)
    (fresh : state.resolver.isArchitectureModified env state.files = false →
      ∀ loaded ∈ state.resolver.architectureCache,
        SameContent state.files loaded.files (ephemeralPath env)) :
    (state.resolver.loadExecutionContexts env state.files).1 =
      currentContexts env state.files := by
  cases modified : state.resolver.isArchitectureModified env state.files with
  | true =>
    rcases loadExecutionContexts_of_modified modified with ⟨same, -⟩ |
      ⟨file, contexts, -, current, loads⟩
    · rw [same]
    · rw [loads, current]
  | false =>
    obtain ⟨loaded, file, cached, found, time, same⟩ :=
      loadExecutionContexts_of_unmodified modified
    obtain ⟨contexts, arch⟩ := hold.loaded loaded cached
    -- The first file has the time that it had, and so the content.
    rw [same, currentContexts_congr (arch file found time) (fresh modified loaded cached), contexts]

theorem resolve_cases (resolver : ContextResolver) (files : Files)
    (explicitContext : Option String) :
    (resolver.resolve env files explicitContext =
        resolver.resolveAnew env files (resolveContextName env explicitContext) ∧
      (resolver.isArchitectureModified env files = true ∨
        resolver.contextCache.get? (resolveContextName env explicitContext) = none)) ∨
    ∃ cached, resolver.contextCache.get? (resolveContextName env explicitContext) = some cached ∧
      resolver.isArchitectureModified env files = false ∧
      resolver.resolve env files explicitContext = (.ok cached.resolved, resolver) := by
  unfold ContextResolver.resolve
  cases found : resolver.contextCache.get? (resolveContextName env explicitContext) with
  | none => exact .inl ⟨by simp only [found], .inr rfl⟩
  | some cached =>
    cases modified : resolver.isArchitectureModified env files with
    | true => exact .inl ⟨by simp only [found, if_true], .inl rfl⟩
    | false => exact .inr ⟨cached, rfl, rfl, by simp only [found, Bool.false_eq_true, if_false]⟩

private theorem CachesHold.load_of_anew (hold : CachesHold env state)
    {explicitContext : Option String}
    (inPlace : CacheInPlace env state (.resolve explicitContext))
    (anew : state.resolver.isArchitectureModified env state.files = true ∨
      state.resolver.contextCache.get? (resolveContextName env explicitContext) = none) :
    (state.resolver.loadExecutionContexts env state.files).1 =
      currentContexts env state.files := by
  refine hold.load fun unmodified => ?_
  rcases anew with modified | uncached
  · rw [modified] at unmodified
    cases unmodified
  · have placed := inPlace unmodified
    simpa only [uncached] using placed

theorem inPlace_of_modified {explicitContext : Option String}
    (modified : state.resolver.isArchitectureModified env state.files = true) :
    CacheInPlace env state (.resolve explicitContext) := by
  intro unmodified
  rw [modified] at unmodified
  cases unmodified

theorem CachesHold.law (hold : CachesHold env state) {input : ResolverInput}
    (inPlace : CacheInPlace env state input) : TransparencyLaw env state input := by
  cases input with
  | write path file => trivial
  | resolve explicitContext =>
    simp only [TransparencyLaw, resolve_new]
    rcases resolve_cases state.resolver state.files explicitContext with ⟨same, anew⟩ |
      ⟨cached, found, unmodified, same⟩
    · rw [same, resolveAnew_fst, hold.load_of_anew inPlace anew]
    · rw [same]
      -- No file that the cached context was resolved from has changed.
      have placed := inPlace unmodified
      simp only [found] at placed
      obtain ⟨arch, ephemeral, overlays⟩ := placed
      obtain ⟨contexts, current, resolved⟩ := hold.cached _ cached found
      rw [currentContexts_congr arch ephemeral, current]
      exact resolved.symm.trans (resolveAmong_congr current overlays).symm

private theorem CachesHold.loaded_after (hold : CachesHold env state) :
    CachesHold env { state with
      resolver := (state.resolver.loadExecutionContexts env state.files).2 } := by
  cases modified : state.resolver.isArchitectureModified env state.files with
  | true =>
    rcases loadExecutionContexts_of_modified modified with ⟨same, -⟩ |
      ⟨file, contexts, found, current, loads⟩
    · rw [same]
      exact hold
    · rw [loads]
      refine ⟨?_, hold.cached⟩
      rintro loaded ⟨⟩
      exact ⟨current, fun _ _ _ => rfl⟩
  | false =>
    obtain ⟨loaded, file, -, -, -, same⟩ := loadExecutionContexts_of_unmodified modified
    rw [same]
    exact hold

theorem CachesHold.step (hold : CachesHold env state) {input : ResolverInput}
    (inPlace : CacheInPlace env state input) : CachesHold env (resolverStep env state input) := by
  cases input with
  | write path file =>
    refine ⟨fun loaded cached => ⟨(hold.loaded loaded cached).1, ?_⟩, hold.cached⟩
    intro written there time
    simp only [resolverStep] at there
    unfold SameContent
    by_cases arch : archPath env = path
    · -- The first file is written, and has a time that it had with the same content only.
      rw [if_pos arch] at there
      have same := inPlace arch.symm loaded cached written there time
      rw [← same]
      simp only [readContent, resolverStep, if_pos arch]
      rw [show file = some written from there, Option.map_some]
    · rw [if_neg arch] at there
      have same := (hold.loaded loaded cached).2 written there time
      simp only [readContent, resolverStep, if_neg arch]
      exact same
  | resolve explicitContext =>
    simp only [resolverStep]
    rcases resolve_cases state.resolver state.files explicitContext with ⟨same, anew⟩ |
      ⟨cached, found, unmodified, same⟩
    · rw [same, resolveAnew_eq]
      have load := hold.load_of_anew inPlace anew
      have after := hold.loaded_after
      rcases loads : state.resolver.loadExecutionContexts env state.files with
        ⟨error | contexts, resolver⟩
      · rw [loads] at after
        exact after
      · rw [loads] at after load
        simp only at load after ⊢
        cases resolved : resolveAmong env state.files
            (resolveContextName env explicitContext) contexts with
        | error error => exact after
        | ok context =>
          refine ⟨after.loaded, fun name cached found => ?_⟩
          simp only [OrderedMap.get?_set] at found
          split at found
          case isTrue named =>
            cases found
            rw [named]
            exact ⟨contexts, load.symm, resolved⟩
          case isFalse => exact after.cached name cached found
    · rw [same]
      exact hold

end

/-- In a run in which no cache answers after a change, every answer is that of a new resolver. -/
theorem context_cache_transparent (env : ResolverEnv) (files : Files) (inputs : List ResolverInput)
    (inPlace : Along (resolverStep env) (CacheInPlace env) { files } inputs) :
    Along (resolverStep env) (TransparencyLaw env) { files } inputs := by
  have initial : CachesHold env { files } := by
    constructor
    · nofun
    · nofun
  exact along_of_invariant (CachesHold env) (fun _ _ hold placed => hold.step placed)
    (fun _ _ hold placed => hold.law placed) initial inPlace

def contextsText (url : String) : String :=
  let context := "    runtime:\n      gateway:\n        url: " ++ url ++
    "\n      persistence:\n        driver: firestore\n"
  "executionContexts:\n  a:\n" ++ context ++ "  b:\n" ++ context

def contextsValue (url : String) : Value :=
  let context := Value.obj [("runtime", .obj [("gateway", .obj [("url", .str url)]),
    ("persistence", .obj [("driver", .str "firestore")])])]
  .obj [("executionContexts", .obj [("a", context), ("b", context)])]

def twoTextsEnv : ResolverEnv where
  repoRoot := "/repo"
  homedir := "/home/dev"
  yamlLoad text :=
    if text = contextsText "ws://one" then .ok (contextsValue "ws://one")
    else if text = contextsText "ws://two" then .ok (contextsValue "ws://two")
    else .error "unexpected text"
  discoverGatewayPort _ := none
  discoverPostgresContainer _ := none

def firstFiles : Files := fun path =>
  if path = "/repo/architecture.yaml" then
    some { content := contextsText "ws://one", mtimeMs := 1 }
  else none

def moveGateway : ResolverInput :=
  .write "/repo/architecture.yaml" (some { content := contextsText "ws://two", mtimeMs := 2 })

def resolvedOnce : ResolverState :=
  resolverStep twoTextsEnv { files := firstFiles } (.resolve (some "a"))

set_option maxRecDepth 4000 in
/-- A context is resolved before and after its gateway moves. -/
theorem resolve_after_move :
    Along (resolverStep twoTextsEnv) (TransparencyLaw twoTextsEnv) { files := firstFiles }
      [.resolve (some "a"), moveGateway, .resolve (some "a")] := by
  apply context_cache_transparent
  have loadedAt : resolvedOnce.resolver.architectureCache.all (·.mtimeMs = 1) = true := by
    decide +kernel
  have moved : (resolverStep twoTextsEnv resolvedOnce moveGateway).resolver.isArchitectureModified
      twoTextsEnv (resolverStep twoTextsEnv resolvedOnce moveGateway).files = true := by
    decide +kernel
  -- Nothing is loaded at first, and the file has another time after the move.
  have last : CacheInPlace twoTextsEnv (resolverStep twoTextsEnv resolvedOnce moveGateway)
      (.resolve (some "a")) := inPlace_of_modified moved
  refine ⟨inPlace_of_modified rfl, ?_, last, trivial⟩
  intro _ loaded cached written given time
  have writtenAt : written.mtimeMs = 2 := by rw [← Option.some.inj given]
  have loadedFirst : ∀ {cache : Option LoadedContexts}, cache.all (·.mtimeMs = 1) = true →
      ∀ loaded ∈ cache, loaded.mtimeMs = 1 := by
    rintro (_ | before) all loaded ⟨⟩
    simpa using all
  rw [writtenAt, loadedFirst loadedAt loaded cached] at time
  exact absurd time (by decide)

/-- The context that is resolved first hides the change from the other one. -/
theorem not_context_cache_transparent :
    ¬ ∀ (env : ResolverEnv) (files : Files) (inputs : List ResolverInput),
      Along (resolverStep env) (TransparencyLaw env) { files } inputs := by
  intro transparent
  obtain ⟨-, -, -, -, law, -⟩ := transparent twoTextsEnv firstFiles
    [.resolve (some "a"), .resolve (some "b"), moveGateway, .resolve (some "a"),
      .resolve (some "b")]
  have gateways := congrArg (fun answer => answer.toOption.map (·.gateway)) law
  exact absurd gateways (by decide +kernel)

end BitBrat
