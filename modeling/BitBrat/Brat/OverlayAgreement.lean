import BitBrat.Brat.DotEnv

/-! The overlays of a context and of a deployment: when both resolvers find the same variables. -/

namespace BitBrat

open Js

inductive Overlay where
  | yaml (path : String)
  | secure (path : String)
  deriving DecidableEq

section

variable (env : ResolverEnv) (tree : RepoTree)

/-- The variables that an overlay sets, one after the other. -/
def Overlay.vars : Overlay → List (String × Value)
  | .yaml path => loadYamlIfExists env (tree.content path)
  | .secure path => loadSecureEnv env (tree.content path)

def contextOverlays (context : Value) (name : String) : List Overlay :=
  match overlayPaths env context name with
  | .ok (paths, secure) => paths.map .yaml ++ (secure.map .secure).toList
  | .error _ => []

def deploymentOverlays (envName : String) (securePath : Option String) : List Overlay :=
  let files := serviceFiles ((listedNames tree (overlayDir env envName)).getD [])
  ("global.yaml" :: "infra.yaml" :: files).map
      (fun file => .yaml (Js.joinPath [overlayDir env envName, file])) ++
    [.secure (secureFilePath env tree envName securePath)]

/-- An overlay decides a variable: it sets it, and no more specific one does. -/
def DecidedBy (overlays : List Overlay) (overlay : Overlay) (key : String) (value : Value) : Prop :=
  ∃ before after, overlays = before ++ overlay :: after ∧
    lastAssigned (overlay.vars env tree) key = some value ∧
    ∀ later ∈ after, lastAssigned (later.vars env tree) key = none

def mostSpecific (overlays : List Overlay) (key : String) : Option (Overlay × Value) :=
  lastSource (Overlay.vars env tree) overlays key

def setting (overlays : List Overlay) (key : String) : Value :=
  ((mostSpecific env tree overlays key).map Prod.snd).getD .undefined

def Defaulted (overlays : List Overlay) (key : String) : Prop :=
  (key = "SERVICE_PORT" ∧ setting env tree overlays "SERVICE_PORT" = .undefined) ∨
    (key = "DATABASE_URL" ∧ composesUrl (setting env tree overlays) = true)

/-- Both resolvers find the same texts, those of the most specific overlays, also when read back. -/
structure OverlaysAgree (overlays deployed : List Overlay) (envVars : List (String × String))
    (resolved : Value) : Prop where
  agree : ∀ key, ¬ Defaulted env tree deployed key →
    envVars.lookup key = (resolved.fields.lookup key).map Value.toText
  ofContext : ∀ overlay key value, DecidedBy env tree overlays overlay key value →
    envVars.lookup key = some value.toText
  ofDeployment : ∀ overlay key value, DecidedBy env tree deployed overlay key value →
    ¬ Defaulted env tree deployed key →
    (resolved.fields.lookup key).map Value.toText = some value.toText
  readBack : ∀ key,
    lastAssigned (loadSecureEnv env (some (flattenToDotEnv resolved.fields))) key =
      (resolved.fields.lookup key).map fun value => .str value.toText

structure OverlaysFit (overlays deployed : List Overlay) : Prop where
  /-- Where a variable is decided by different overlays, both set it to the same text. -/
  same : ∀ key, ¬ Defaulted env tree deployed key →
    mostSpecific env tree overlays key ≠ mostSpecific env tree deployed key →
    (mostSpecific env tree overlays key).map (fun found => found.2.toText) =
      (mostSpecific env tree deployed key).map fun found => found.2.toText
  /-- What an overlay of the deployment decides can be written to a line. -/
  safe : ∀ overlay key value, DecidedBy env tree deployed overlay key value →
    ¬ Defaulted env tree deployed key → DotEnvSafe key value
  /-- So can the address of the database, if it is put together. -/
  url : composesUrl (setting env tree deployed) = true →
    DotEnvSafe "DATABASE_URL" (.str (databaseUrl (setting env tree deployed)))

end

section Layers

variable {env : ResolverEnv} {tree : RepoTree} {overlays : List Overlay} {key : String}

theorem mostSpecific_eq_some_iff {overlay : Overlay} {value : Value} :
    mostSpecific env tree overlays key = some (overlay, value) ↔
      DecidedBy env tree overlays overlay key value :=
  lastSource_eq_some_iff

theorem not_defaulted (port : key ≠ "SERVICE_PORT") (url : key ≠ "DATABASE_URL") :
    ¬ Defaulted env tree overlays key := by
  rintro (defaulted | composed)
  · exact port defaulted.1
  · exact url composed.1

theorem secureLine_eq_localLine (line : List Char) :
    secureLine env line = localLine env line := by
  have once (given : List Char) : stripQuotes (trimBlanks given) =
      if ((decide ((trimBlanks given).head? = some '"' ∧
            (trimBlanks given).getLast? = some '"')) = true ∨
          (decide ((trimBlanks given).head? = some '\'' ∧
            (trimBlanks given).getLast? = some '\'')) = true)
      then ((trimBlanks given).drop 1).dropLast else trimBlanks given := by
    unfold stripQuotes
    dsimp only
    rw [trimBlanks_trimBlanks]
  unfold secureLine localLine
  dsimp only
  rw [once]
  rfl

theorem loadSecureEnv_eq_readLines (content : String) :
    loadSecureEnv env (some content) =
      (readLines env content).map fun entry => (entry.1, .str entry.2) := by
  have lines : secureLine env = localLine env := funext secureLine_eq_localLine
  rw [loadSecureEnv, readLines, lines]

theorem loadSecureLocal_eq_vars (path : String) :
    loadSecureLocal env tree path = (Overlay.secure path).vars env tree := by
  have vars : (Overlay.secure path).vars env tree = loadSecureEnv env (tree.content path) := rfl
  rw [loadSecureLocal, vars]
  cases tree.content path with
  | none => rfl
  | some content => exact (loadSecureEnv_eq_readLines content).symm

theorem lookup_extend_empty (updates : List (String × Value)) (key : String) :
    ((Value.obj []).extend updates).fields.lookup key = lastAssigned updates key :=
  (lookup_foldl_setEntry updates [] key).trans (Option.or_none)

theorem nodup_extend {base : Value} (distinct : (base.fields.map Prod.fst).Nodup)
    (updates : List (String × Value)) : ((base.extend updates).fields.map Prod.fst).Nodup :=
  nodup_foldl_setEntry updates distinct

theorem lastAssigned_fields (updates : List (String × Value)) (key : String) :
    lastAssigned ((Value.obj []).extend updates).fields key = lastAssigned updates key := by
  have apart : ((Value.obj []).fields.map Prod.fst).Nodup := List.nodup_nil
  rw [lastAssigned_eq_lookup (nodup_extend apart updates), lookup_extend_empty]

theorem lookup_envVars {context : Value} {name : String} {envVars : List (String × String)}
    (found : resolveEnvironmentVars env tree.files context name = .ok envVars) (key : String) :
    envVars.lookup key = (mostSpecific env tree (contextOverlays env context name) key).map
      fun found => found.2.toText := by
  have read (path : String) : readContent tree.files path = tree.content path := by
    rw [readContent, RepoTree.files, Option.map_map]
    exact Option.map_id'
  unfold resolveEnvironmentVars at found
  unfold mostSpecific contextOverlays
  cases configured : overlayPaths env context name with
  | error thrown =>
    rw [configured] at found
    cases found
  | ok given =>
    obtain ⟨paths, secure⟩ := given
    rw [configured] at found
    cases found
    have layers : (paths.map Overlay.yaml ++ (secure.map Overlay.secure).toList).flatMap
        (Overlay.vars env tree) =
        (paths.flatMap fun path => loadYamlIfExists env (readContent tree.files path)) ++
          (secure.map fun path => loadSecureEnv env (readContent tree.files path)).getD [] := by
      simp only [read]
      cases secure <;> simp [Overlay.vars, List.flatMap_map]
    have texts := @lookup_varTexts ((Value.obj []).extend ((paths.map Overlay.yaml ++
      (secure.map Overlay.secure).toList).flatMap (Overlay.vars env tree))).fields key
    rw [lookup_extend_empty, lastAssigned_flatMap, Option.map_map] at texts
    dsimp only
    rw [← layers]
    exact texts

theorem lookup_merged {envName : String} {securePath : Option String} {names : List String}
    (listed : listedNames tree (overlayDir env envName) = some names) (key : String) :
    (mergedOverlays env tree envName securePath names).fields.lookup key =
      (mostSpecific env tree (deploymentOverlays env tree envName securePath) key).map
        Prod.snd := by
  have layers : (deploymentOverlays env tree envName securePath).flatMap
      (Overlay.vars env tree) =
        overlayOf env tree envName "global.yaml" ++ overlayOf env tree envName "infra.yaml" ++
          (serviceFiles names).flatMap (overlayOf env tree envName) ++
          loadSecureLocal env tree (secureFilePath env tree envName securePath) := by
    rw [loadSecureLocal_eq_vars, deploymentOverlays, listed]
    simp only [List.flatMap_append, List.flatMap_map, List.flatMap_cons, List.flatMap_nil,
      List.append_nil, List.append_assoc]
    rfl
  rw [mostSpecific, ← lastAssigned_flatMap, layers, mergedOverlays, lookup_extend_empty]
  simp only [lastAssigned_append, lastAssigned_fields]

theorem get_merged {envName : String} {securePath : Option String} {names : List String}
    (listed : listedNames tree (overlayDir env envName) = some names) :
    (mergedOverlays env tree envName securePath names).get =
      setting env tree (deploymentOverlays env tree envName securePath) := by
  funext key
  rw [Value.get, lookup_merged listed, setting]

theorem databaseUrl_congr {first second : String → Value}
    (same : ∀ name, name ≠ "SERVICE_PORT" → first name = second name) :
    composesUrl first = composesUrl second ∧ databaseUrl first = databaseUrl second := by
  unfold composesUrl databaseUrl
  dsimp only
  rw [same "DATABASE_URL" (by decide), same "POSTGRES_HOST" (by decide),
    same "POSTGRES_DB" (by decide), same "POSTGRES_USER" (by decide),
    same "POSTGRES_PASSWORD" (by decide), same "POSTGRES_PORT" (by decide)]
  exact ⟨rfl, rfl⟩

theorem lookup_withPort (merged : Value) (key : String) :
    (withPort merged).fields.lookup key =
      if key = "SERVICE_PORT" ∧ merged.get "SERVICE_PORT" = .undefined then
        some (.num (.finite 3000))
      else merged.fields.lookup key := by
  unfold withPort
  by_cases missing : merged.get "SERVICE_PORT" = .undefined
  · rw [if_pos missing]
    simp [missing, Value.extend, lookup_setEntry]
  · simp [missing]

theorem lookup_withDatabaseUrl (merged : Value) (key : String) :
    (withDatabaseUrl merged).fields.lookup key =
      if key = "DATABASE_URL" ∧ composesUrl merged.get = true then
        some (.str (databaseUrl merged.get))
      else merged.fields.lookup key := by
  unfold withDatabaseUrl
  by_cases added : composesUrl merged.get = true
  · rw [if_pos added]
    simp [added, Value.extend, lookup_setEntry]
  · rw [if_neg added]
    simp [added]

theorem lookup_withDefaults (merged : Value) (key : String) :
    (withDatabaseUrl (withPort merged)).fields.lookup key =
      if key = "DATABASE_URL" ∧ composesUrl merged.get = true then
        some (.str (databaseUrl merged.get))
      else if key = "SERVICE_PORT" ∧ merged.get "SERVICE_PORT" = .undefined then
        some (.num (.finite 3000))
      else merged.fields.lookup key := by
  have others : ∀ name, name ≠ "SERVICE_PORT" → (withPort merged).get name = merged.get name := by
    intro name other
    rw [Value.get, lookup_withPort, if_neg fun port => other port.1, Value.get]
  obtain ⟨composes, url⟩ := databaseUrl_congr others
  rw [lookup_withDatabaseUrl, composes, url, lookup_withPort]

theorem nodup_withDefaults {merged : Value}
    (distinct : (merged.fields.map Prod.fst).Nodup) :
    ((withDatabaseUrl (withPort merged)).fields.map Prod.fst).Nodup := by
  have ported : ((withPort merged).fields.map Prod.fst).Nodup := by
    unfold withPort
    split
    · exact nodup_extend distinct _
    · exact distinct
  unfold withDatabaseUrl
  split
  · exact nodup_extend ported _
  · exact ported

end Layers

section Deployment

variable {env : ResolverEnv} {tree : RepoTree} {envName : String} {securePath : Option String}
  {resolved : Value}

theorem lookup_resolved
    (deployed : resolveEnvironment env tree envName securePath = some resolved) (key : String) :
    resolved.fields.lookup key =
      if key = "DATABASE_URL" ∧ composesUrl
          (setting env tree (deploymentOverlays env tree envName securePath)) = true then
        some (.str (databaseUrl
          (setting env tree (deploymentOverlays env tree envName securePath))))
      else if key = "SERVICE_PORT" ∧ setting env tree
          (deploymentOverlays env tree envName securePath) "SERVICE_PORT" = .undefined then
        some (.num (.finite 3000))
      else (mostSpecific env tree (deploymentOverlays env tree envName securePath) key).map
        Prod.snd := by
  obtain ⟨names, listed, rfl⟩ := Option.map_eq_some_iff.mp deployed
  rw [lookup_withDefaults, lookup_merged listed, get_merged listed]

theorem lookup_resolved_of_overlays
    (deployed : resolveEnvironment env tree envName securePath = some resolved) {key : String}
    (plain : ¬ Defaulted env tree (deploymentOverlays env tree envName securePath) key) :
    resolved.fields.lookup key =
      (mostSpecific env tree (deploymentOverlays env tree envName securePath) key).map
        Prod.snd := by
  rw [lookup_resolved deployed, if_neg fun url => plain (.inr url),
    if_neg fun port => plain (.inl port)]

theorem nodup_resolved
    (deployed : resolveEnvironment env tree envName securePath = some resolved) :
    (resolved.fields.map Prod.fst).Nodup := by
  obtain ⟨names, -, rfl⟩ := Option.map_eq_some_iff.mp deployed
  have apart : ((Value.obj []).fields.map Prod.fst).Nodup := List.nodup_nil
  exact nodup_withDefaults (nodup_extend apart _)

theorem dotEnvSafe_servicePort : DotEnvSafe "SERVICE_PORT" (.num (.finite 3000)) := by
  have text : (Value.num (.finite 3000)).toText = "3000" := Number.toText_natCast 3000
  refine ⟨by decide, ?_, ?_, ?_⟩
  · rw [text]
    decide
  · exact ⟨by decide, by decide, by decide, by decide, by decide⟩
  · rw [text]
    exact ⟨by decide, unquoted_of_head (by decide) (by decide), by decide⟩

theorem safe_resolved_iff
    (deployed : resolveEnvironment env tree envName securePath = some resolved) :
    (∀ entry ∈ resolved.fields, DotEnvSafe entry.1 entry.2) ↔
      (∀ overlay key value,
        DecidedBy env tree (deploymentOverlays env tree envName securePath) overlay key value →
        ¬ Defaulted env tree (deploymentOverlays env tree envName securePath) key →
        DotEnvSafe key value) ∧
      (composesUrl (setting env tree (deploymentOverlays env tree envName securePath)) = true →
        DotEnvSafe "DATABASE_URL" (.str (databaseUrl
          (setting env tree (deploymentOverlays env tree envName securePath))))) := by
  constructor
  · intro safe
    constructor
    · intro overlay key value decides plain
      have found := lookup_resolved_of_overlays deployed plain
      rw [mostSpecific_eq_some_iff.mpr decides] at found
      exact safe _ (mem_of_lookup found)
    · intro composed
      have found := lookup_resolved deployed "DATABASE_URL"
      rw [if_pos ⟨rfl, composed⟩] at found
      exact safe _ (mem_of_lookup found)
  · intro ⟨safe, url⟩ entry listed
    have found := lookup_of_mem (nodup_resolved deployed) listed
    rw [lookup_resolved deployed] at found
    -- The entry is one of the defaults, or an overlay decides it.
    split at found
    · rename_i composed
      rw [composed.1, ← Option.some.inj found]
      exact url composed.2
    · rename_i given
      split at found
      · rename_i missing
        rw [missing.1, ← Option.some.inj found]
        exact dotEnvSafe_servicePort
      · rename_i present
        obtain ⟨⟨overlay, value⟩, decided, same⟩ := Option.map_eq_some_iff.mp found
        rw [← show value = entry.2 from same]
        apply safe overlay entry.1 value (mostSpecific_eq_some_iff.mp decided)
        intro defaulted
        exact defaulted.elim present given

theorem loadSecureEnv_eq_iff {content : String} {vars : List (String × Value)} :
    (∀ key, lastAssigned (loadSecureEnv env (some content)) key =
        (vars.lookup key).map fun value => .str value.toText) ↔
      ∀ key, lastAssigned (readLines env content) key = (vars.lookup key).map Value.toText := by
  have strings : Function.Injective Value.str := fun _ _ same => by
    cases same
    rfl
  refine forall_congr' fun key => ?_
  have texts : ((vars.lookup key).map fun value => Value.str value.toText) =
      ((vars.lookup key).map Value.toText).map Value.str := (Option.map_map ..).symm
  rw [loadSecureEnv_eq_readLines, lastAssigned_map_snd, texts]
  exact (Option.map_injective strings).eq_iff

theorem readBack_resolved_iff (home : env.homedir.toList.head? = some '/')
    (homeSingle : '\n' ∉ env.homedir.toList)
    (deployed : resolveEnvironment env tree envName securePath = some resolved) :
    (∀ key, lastAssigned (loadSecureEnv env (some (flattenToDotEnv resolved.fields))) key =
        (resolved.fields.lookup key).map fun value => .str value.toText) ↔
      (∀ overlay key value,
        DecidedBy env tree (deploymentOverlays env tree envName securePath) overlay key value →
        ¬ Defaulted env tree (deploymentOverlays env tree envName securePath) key →
        DotEnvSafe key value) ∧
      (composesUrl (setting env tree (deploymentOverlays env tree envName securePath)) = true →
        DotEnvSafe "DATABASE_URL" (.str (databaseUrl
          (setting env tree (deploymentOverlays env tree envName securePath))))) := by
  rw [loadSecureEnv_eq_iff, readLines_flatten_iff home homeSingle (nodup_resolved deployed)]
  exact safe_resolved_iff deployed

theorem lookup_resolvedContext {context : Value} {name : String} {found : ResolvedContext}
    (returned : resolveContext env tree.files name context = .ok found) (key : String) :
    found.envVars.lookup key = (mostSpecific env tree (contextOverlays env context name) key).map
      fun found => found.2.toText := by
  unfold resolveContext at returned
  cases gateway : resolveGateway env context name with
  | error error => simp [gateway, bind, Except.bind] at returned
  | ok address =>
    cases persistence : resolvePersistence env context name with
    | error error => simp [gateway, persistence, bind, Except.bind] at returned
    | ok connection =>
      cases read : resolveEnvironmentVars env tree.files context name with
      | error error =>
        simp [gateway, persistence, read, Except.mapError, bind, Except.bind] at returned
      | ok envVars =>
        simp only [gateway, persistence, read, Except.mapError, bind, Except.bind, pure,
          Except.pure, Except.ok.injEq] at returned
        rw [← returned]
        exact lookup_envVars read key

/--
Both resolvers find the same variables, and they are read back, exactly if the overlays fit. -/
theorem overlaysAgree_iff (home : env.homedir.toList.head? = some '/')
    (homeSingle : '\n' ∉ env.homedir.toList) {context : Value} {name : String}
    {found : ResolvedContext}
    (returned : resolveContext env tree.files name context = .ok found)
    (deployed : resolveEnvironment env tree envName securePath = some resolved) :
    OverlaysAgree env tree (contextOverlays env context name)
        (deploymentOverlays env tree envName securePath) found.envVars resolved ↔
      OverlaysFit env tree (contextOverlays env context name)
        (deploymentOverlays env tree envName securePath) := by
  have ofContext := lookup_resolvedContext returned
  have ofDeployment : ∀ key,
      ¬ Defaulted env tree (deploymentOverlays env tree envName securePath) key →
      (resolved.fields.lookup key).map Value.toText =
        (mostSpecific env tree (deploymentOverlays env tree envName securePath) key).map
          fun found => found.2.toText := by
    intro key plain
    rw [lookup_resolved_of_overlays deployed plain, Option.map_map]
    rfl
  have readBack := readBack_resolved_iff home homeSingle deployed
  constructor
  · intro agree
    obtain ⟨safe, url⟩ := readBack.mp agree.readBack
    refine ⟨fun key plain _ => ?_, safe, url⟩
    rw [← ofContext, ← ofDeployment key plain]
    exact agree.agree key plain
  · intro fit
    refine ⟨fun key plain => ?_, fun overlay key value decides => ?_,
      fun overlay key value decides plain => ?_, readBack.mpr ⟨fit.safe, fit.url⟩⟩
    · rw [ofContext, ofDeployment key plain]
      by_cases one : mostSpecific env tree (contextOverlays env context name) key =
          mostSpecific env tree (deploymentOverlays env tree envName securePath) key
      · rw [one]
      · exact fit.same key plain one
    · rw [ofContext, mostSpecific_eq_some_iff.mpr decides]
      rfl
    · rw [ofDeployment key plain, mostSpecific_eq_some_iff.mpr decides]
      rfl

end Deployment

def overlayEnv : ResolverEnv where
  repoRoot := "/repo"
  homedir := "/home/dev"
  yamlLoad text :=
    if text = "LOG_LEVEL: debug\n" then .ok (.obj [("LOG_LEVEL", .str "debug")])
    else if text = "BOT_NAME: '\"Bot\"'\n" then .ok (.obj [("BOT_NAME", .str "\"Bot\"")])
    else if text = "SCHEDULER_TICK_INTERVAL_MS: \"10000\"\n" then
      .ok (.obj [("SCHEDULER_TICK_INTERVAL_MS", .str "10000")])
    else .error "unexpected text"
  discoverGatewayPort _ := none
  discoverPostgresContainer _ := none

def localContext : Value :=
  .obj [("runtime", .obj [("gateway", .obj [("url", .str "ws://localhost:3000")]),
    ("persistence", .obj [("driver", .str "firestore")]),
    ("envOverlay", .obj [("path", .str "env/local"),
      ("files", textList ["global.yaml", "infra.yaml", "{service}.yaml"]),
      ("secure", .str ".secure.local")])])]

def plainTree : RepoTree := fun path =>
  if path = "/repo/env/local" then some (.directory ["global.yaml"])
  else if path = "/repo/env/local/global.yaml" then some (.file "LOG_LEVEL: debug\n")
  else if path = "/repo/.secure.local" then some (.file "OPENAI_API_KEY=sk-1\n")
  else none

def serviceTree : RepoTree := fun path =>
  if path = "/repo/env/local" then some (.directory ["global.yaml", "scheduler.yaml"])
  else if path = "/repo/env/local/global.yaml" then some (.file "BOT_NAME: '\"Bot\"'\n")
  else if path = "/repo/env/local/scheduler.yaml" then
    some (.file "SCHEDULER_TICK_INTERVAL_MS: \"10000\"\n")
  else if path = "/repo/.secure.local" then some (.directory [".env"])
  else if path = "/repo/.secure.local/.env" then some (.file "OPENAI_API_KEY=sk-1\n")
  else none

def localResolved (envVars : List (String × String)) : ResolvedContext where
  name := "local"
  description := .undefined
  deployment := .undefined
  gateway := .obj [("url", .str "ws://localhost:3000"), ("authToken", .undefined)]
  persistence := .obj [("driver", .str "firestore")]
  envVars
  tags := .undefined

/-- With plain values in a global overlay and in a file of secrets, the resolvers agree. -/
theorem overlaysAgree_plain :
    ∃ found resolved,
      resolveContext overlayEnv plainTree.files "local" localContext = .ok found ∧
      resolveEnvironment overlayEnv plainTree "local" (some ".secure.local") = some resolved ∧
      OverlaysAgree overlayEnv plainTree (contextOverlays overlayEnv localContext "local")
        (deploymentOverlays overlayEnv plainTree "local" (some ".secure.local")) found.envVars
        resolved := by
  have returned : resolveContext overlayEnv plainTree.files "local" localContext =
      .ok (localResolved [("LOG_LEVEL", "debug"), ("OPENAI_API_KEY", "sk-1")]) := by
    decide +kernel
  have deployed : resolveEnvironment overlayEnv plainTree "local" (some ".secure.local") =
      some (.obj [("LOG_LEVEL", .str "debug"), ("OPENAI_API_KEY", .str "sk-1"),
        ("SERVICE_PORT", .num (.finite 3000))]) := by
    decide +kernel
  refine ⟨_, _, returned, deployed, (overlaysAgree_iff (by decide) (by decide) returned
    deployed).mpr ⟨fun key _ differ => ?_, fun overlay key value decides _ => ?_, ?_⟩⟩
  · -- The overlays that set something are the same.
    have same : (contextOverlays overlayEnv localContext "local").filter
          (fun overlay => !(overlay.vars overlayEnv plainTree).isEmpty) =
        (deploymentOverlays overlayEnv plainTree "local" (some ".secure.local")).filter
          (fun overlay => !(overlay.vars overlayEnv plainTree).isEmpty) := by
      decide +kernel
    have order := lastSource_filter (Overlay.vars overlayEnv plainTree)
      (contextOverlays overlayEnv localContext "local") key
    rw [same, lastSource_filter] at order
    exact absurd order.symm differ
  · have all : (deploymentOverlays overlayEnv plainTree "local" (some ".secure.local")).flatMap
        (Overlay.vars overlayEnv plainTree) =
          [("LOG_LEVEL", .str "debug"), ("OPENAI_API_KEY", .str "sk-1")] := by
      decide +kernel
    have listed : (key, value) ∈
        [("LOG_LEVEL", Value.str "debug"), ("OPENAI_API_KEY", .str "sk-1")] := by
      obtain ⟨before, after, order, assigned, _⟩ := decides
      rw [← all, order]
      exact List.mem_flatMap.mpr ⟨overlay, by simp, mem_of_lastAssigned assigned⟩
    rcases List.mem_pair.mp listed with level | secret
    · cases level
      exact ⟨by decide, by decide, ⟨by decide, by decide, by decide, by decide, by decide⟩,
        ⟨by decide, unquoted_of_head (by decide) (by decide), by decide⟩⟩
    · cases secret
      exact ⟨by decide, by decide, ⟨by decide, by decide, by decide, by decide, by decide⟩,
        ⟨by decide, unquoted_of_head (by decide) (by decide), by decide⟩⟩
  · have apart : composesUrl (setting overlayEnv plainTree
        (deploymentOverlays overlayEnv plainTree "local" (some ".secure.local"))) = false := by
      decide +kernel
    rw [apart]
    exact nofun

/-- What a service sets is not found for the context, and quotes are not read back. -/
theorem overlays_disagree :
    ∃ found resolved,
      resolveContext overlayEnv serviceTree.files "local" localContext = .ok found ∧
      resolveEnvironment overlayEnv serviceTree "local" (some ".secure.local") = some resolved ∧
      found.envVars.lookup "SCHEDULER_TICK_INTERVAL_MS" = none ∧
      resolved.fields.lookup "SCHEDULER_TICK_INTERVAL_MS" = some (.str "10000") ∧
      ¬ (∀ key, lastAssigned (loadSecureEnv overlayEnv
          (some (flattenToDotEnv resolved.fields))) key =
        (resolved.fields.lookup key).map fun value => .str value.toText) ∧
      ¬ OverlaysAgree overlayEnv serviceTree (contextOverlays overlayEnv localContext "local")
        (deploymentOverlays overlayEnv serviceTree "local" (some ".secure.local")) found.envVars
        resolved := by
  have deployed : resolveEnvironment overlayEnv serviceTree "local" (some ".secure.local") =
      some (.obj [("BOT_NAME", .str "\"Bot\""), ("SCHEDULER_TICK_INTERVAL_MS", .str "10000"),
        ("OPENAI_API_KEY", .str "sk-1"), ("SERVICE_PORT", .num (.finite 3000))]) := by
    decide +kernel
  refine ⟨localResolved [("BOT_NAME", "\"Bot\"")], _, by decide +kernel, deployed,
    by decide +kernel, by decide +kernel, fun readBack => ?_, fun agree => ?_⟩
  · have decides : mostSpecific overlayEnv serviceTree
        (deploymentOverlays overlayEnv serviceTree "local" (some ".secure.local")) "BOT_NAME" =
          some (.yaml "/repo/env/local/global.yaml", .str "\"Bot\"") := by
      decide +kernel
    have safe := ((readBack_resolved_iff (by decide) (by decide) deployed).mp readBack).1 _ _ _
      (mostSpecific_eq_some_iff.mp decides) (not_defaulted (by decide) (by decide))
    exact safe.text.unquoted '"' (by simp) ⟨by decide, by decide⟩
  · have differ := agree.agree "SCHEDULER_TICK_INTERVAL_MS"
      (not_defaulted (by decide) (by decide))
    exact absurd differ (by decide +kernel)

end BitBrat
