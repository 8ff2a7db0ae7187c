import BitBrat.Js.KeyOrder

/-! The infrastructure that a context has for what services need. -/

namespace BitBrat

open Js

def keysText (keys : List String) : String := String.intercalate ", " keys

/-- What is found for something that services need, in a context. -/
structure CapabilityLayers where
  executionContext : Value
  providerName : String
  platformCap : Value
  providerImpl : Value

structure InfrastructureSpec where
  capability : String
  provider : String
  serviceName : Value
  type : Value
  image : Value
  ports : Value
  volumes : Value
  env : Value
  config : Value
  healthCheck : Value
  intent : Value

def parseMemoryString : Value → Except String Nat
  | .str memStr =>
    let digits := memStr.toList.takeWhile Char.isDigit
    let unit := String.ofList ((memStr.toList.dropWhile Char.isDigit).map Char.toLower)
    let value := Nat.ofDigitChars 10 digits 0
    let invalid : Except String Nat := .error ("Invalid memory string: " ++ memStr)
    if digits = [] then invalid
    else
      match unit with
      | "" => .ok value
      | "kb" => .ok (value * 1024)
      | "mb" => .ok (value * (1024 * 1024))
      | "gb" => .ok (value * (1024 * 1024 * 1024))
      | "tb" => .ok (value * (1024 * 1024 * 1024 * 1024))
      | _ => invalid
  | _ => .error "memStr.match is not a function"

def durabilityError (constraint capability provider : String) : String :=
  "Provider \"" ++ provider ++ "\" violates constraint \"" ++ constraint ++
    "\" for capability \"" ++ capability ++ "\":\n" ++
    "  Platform requires: durable storage\n" ++
    "  Provider provides: no persistence configured\n" ++
    "Please enable persistence in infrastructure." ++ provider ++ "." ++ capability ++ ".config"

def validateDurability (constraint : String) (constraints config : Value)
    (capability provider : String) : Except String Unit :=
  if (constraints.get constraint).truthy && !(config.get "appendonly").truthy &&
      !(config.get "persistence").truthy then
    .error (durabilityError constraint capability provider)
  else .ok ()

def validateMemory (constraints config : Value) (capability provider : String) :
    Except String Unit :=
  if (constraints.get "minMemory").truthy && (config.get "maxmemory").truthy then do
    let minMemoryBytes ← parseMemoryString (constraints.get "minMemory")
    let maxMemoryBytes ← parseMemoryString (config.get "maxmemory")
    if maxMemoryBytes < minMemoryBytes then
      .error ("Provider \"" ++ provider ++ "\" violates constraint \"minMemory\" " ++
        "for capability \"" ++ capability ++ "\":\n" ++
        "  Platform requires: " ++ (constraints.get "minMemory").toText ++ "\n" ++
        "  Provider provides: " ++ (config.get "maxmemory").toText ++ "\n" ++
        "Please increase maxmemory in infrastructure." ++ provider ++ "." ++ capability ++
          ".config")
    else .ok ()
  else .ok ()

def validateConstraints (platformCap providerImpl : Value) (capability provider : String) :
    Except String Unit :=
  let constraints := platformCap.get "constraints"
  if !constraints.truthy then .ok ()
  else do
    let config := (providerImpl.get "config").or (.obj [])
    validateMemory constraints config capability provider
    validateDurability "requireDurability" constraints config capability provider
    validateDurability "requirePersistence" constraints config capability provider

section

variable (jsonPretty : Value → String) (architecture : Value)

/-- Find what the platform, the provider and the context say of something that services need. -/
def capabilityLayers (context capability : String) : Except String CapabilityLayers :=
  let executionContexts := architecture.get "executionContexts"
  let executionContext := executionContexts.get context
  if !executionContext.truthy then
    .error ("Execution context \"" ++ context ++ "\" not found in architecture.yaml\n" ++
      "Available contexts: " ++ keysText (executionContexts.fields.map Prod.fst))
  else
    let provider := (executionContext.get "infrastructure").get "provider"
    if !provider.truthy then
      .error ("Execution context \"" ++ context ++ "\" missing infrastructure.provider\n" ++
        "Context infrastructure section: " ++ jsonPretty (executionContext.get "infrastructure"))
    else
      let providerName := provider.toText
      let capabilities := (architecture.get "platform").get "infrastructure"
      let platformCap := capabilities.get capability
      if !platformCap.truthy then
        .error ("Unknown capability \"" ++ capability ++ "\"\n" ++
          "Available capabilities: " ++ keysText (capabilities.fields.map Prod.fst) ++ "\n" ++
          "Please check platform.infrastructure section in architecture.yaml")
      else
        let providers := architecture.get "infrastructure"
        let found := providers.get providerName
        if !found.truthy then
          .error ("Provider \"" ++ providerName ++ "\" not found in architecture.yaml\n" ++
            "Available providers: " ++ keysText (providers.fields.map Prod.fst) ++ "\n" ++
            "Context \"" ++ context ++ "\" specifies provider \"" ++ providerName ++
              "\" but it is not defined.")
        else
          let providerImpl := found.get capability
          if !providerImpl.truthy then
            .error ("Provider \"" ++ providerName ++ "\" does not implement capability \"" ++
              capability ++ "\"\n" ++
              "Provider capabilities: " ++ keysText ((found.fields.map Prod.fst).filter
                (· ∉ ["config", "constraints", "intent"])) ++ "\n" ++
              "Please add infrastructure." ++ providerName ++ "." ++ capability ++
                " to architecture.yaml")
          else .ok { executionContext, providerName, platformCap, providerImpl }

/-- The configuration of the platform, with that of the provider and that of the context over it. -/
def CapabilityLayers.mergedConfig (layers : CapabilityLayers) (capability : String) : Value :=
  let overrides := ((layers.executionContext.get "infrastructure").get capability).get "config"
  (((Value.obj []).extend (layers.platformCap.get "config").fields).extend
    (layers.providerImpl.get "config").fields).extend overrides.fields

def getInfrastructureByCapability (context capability : String) :
    Except String InfrastructureSpec := do
  let layers ← capabilityLayers jsonPretty architecture context capability
  let { executionContext := _, providerName, platformCap, providerImpl } := layers
  let mergedConfig := layers.mergedConfig capability
  validateConstraints platformCap providerImpl capability providerName
  return {
    capability
    provider := providerName
    serviceName := providerImpl.get "service"
    type := providerImpl.get "type"
    image := providerImpl.get "image"
    ports := providerImpl.get "ports"
    volumes := providerImpl.get "volumes"
    env := providerImpl.get "env"
    config := mergedConfig
    healthCheck := providerImpl.get "healthCheck"
    intent := providerImpl.get "intent" }

def serviceDependencies (serviceConfig : Value) (kind : String) : List String :=
  match (serviceConfig.get "dependencies").get kind with
  | .arr items => items.map Value.toText
  | _ => []

def requiredCapabilities (services : List String) : List String :=
  (services.flatMap fun name =>
    let serviceConfig := (architecture.get "services").get name
    if !serviceConfig.truthy then [] else serviceDependencies serviceConfig "infrastructure")
      |>.eraseDups.mergeSort fun left right => unitsLe (codeUnits left) (codeUnits right)

def getRequiredInfrastructure (context : String) (services : List String) :
    Except String (List InfrastructureSpec) :=
  (requiredCapabilities architecture services).mapM fun capability =>
    match getInfrastructureByCapability jsonPretty architecture context capability with
    | .ok spec => .ok spec
    | .error message =>
      .error ("Failed to resolve infrastructure capability \"" ++ capability ++ "\":\n" ++ message)

structure ValidationResult where
  valid : Bool := true
  errors : List String := []
  warnings : List String := []

def validateCapability (context service : String) (result : ValidationResult)
    (capability : String) : ValidationResult :=
  match getInfrastructureByCapability jsonPretty architecture context capability with
  | .ok _ => result
  | .error message =>
    { result with
      valid := false
      errors := result.errors ++
        ["Service \"" ++ service ++ "\" requires capability \"" ++ capability ++
          "\" but it cannot be satisfied:\n  " ++ message] }

def validateServiceDependency (service : String) (result : ValidationResult)
    (depService : String) : ValidationResult :=
  let depConfig := (architecture.get "services").get depService
  if !depConfig.truthy || !(depConfig.get "active").truthy then
    { result with warnings := result.warnings ++
        ["Service \"" ++ service ++ "\" depends on \"" ++ depService ++ "\" but it is not active"] }
  else result

def validateService (context : String) (result : ValidationResult) (service : String) :
    ValidationResult :=
  let serviceConfig := (architecture.get "services").get service
  if !serviceConfig.truthy then
    { result with warnings := result.warnings ++
        ["Service \"" ++ service ++ "\" not found in architecture.yaml"] }
  else
    (serviceDependencies serviceConfig "services").foldl
      (validateServiceDependency architecture service)
      ((serviceDependencies serviceConfig "infrastructure").foldl
        (validateCapability jsonPretty architecture context service) result)

def validateDependencies (context : String) (services : List String) : ValidationResult :=
  let executionContext := (architecture.get "executionContexts").get context
  if !executionContext.truthy then
    { valid := false
      errors := ["Execution context \"" ++ context ++ "\" not found in architecture.yaml"] }
  else if !((executionContext.get "infrastructure").get "provider").truthy then
    { valid := false
      errors := ["Execution context \"" ++ context ++ "\" missing infrastructure.provider"] }
  else services.foldl (validateService jsonPretty architecture context) {}

end

structure MeetsConstraints (constraints config : Value) : Prop where
  memory : (constraints.get "minMemory").truthy = true → (config.get "maxmemory").truthy = true →
    ∃ least most, parseMemoryString (constraints.get "minMemory") = .ok least ∧
      parseMemoryString (config.get "maxmemory") = .ok most ∧ least ≤ most
  durable : (constraints.get "requireDurability").truthy = true ∨
      (constraints.get "requirePersistence").truthy = true →
    (config.get "appendonly").truthy = true ∨ (config.get "persistence").truthy = true

theorem validateMemory_iff (constraints config : Value) (capability provider : String) :
    validateMemory constraints config capability provider = .ok () ↔
      ((constraints.get "minMemory").truthy = true → (config.get "maxmemory").truthy = true →
        ∃ least most, parseMemoryString (constraints.get "minMemory") = .ok least ∧
          parseMemoryString (config.get "maxmemory") = .ok most ∧ least ≤ most) := by
  unfold validateMemory
  cases limited : (constraints.get "minMemory").truthy with
  | false => simp
  | true =>
    cases given : (config.get "maxmemory").truthy with
    | false => simp
    | true =>
      simp only [Bool.and_self, if_true, forall_const]
      cases parseMemoryString (constraints.get "minMemory") with
      | error message => simp [bind, Except.bind]
      | ok least =>
        cases parseMemoryString (config.get "maxmemory") with
        | error message => simp [bind, Except.bind]
        | ok most =>
          simp only [bind, Except.bind]
          by_cases short : most < least
          · simp [short]
          · simp [short, not_lt.mp short]

theorem validateDurability_iff (constraint : String) (constraints config : Value)
    (capability provider : String) :
    validateDurability constraint constraints config capability provider = .ok () ↔
      ((constraints.get constraint).truthy = true →
        (config.get "appendonly").truthy = true ∨ (config.get "persistence").truthy = true) := by
  unfold validateDurability
  cases (constraints.get constraint).truthy <;> cases (config.get "appendonly").truthy <;>
    cases (config.get "persistence").truthy <;> simp

theorem get_of_falsy {value : Value} (falsy : value.truthy = false) (key : String) :
    value.get key = .undefined := by
  cases value with
  | obj fields => cases falsy
  | _ => rfl

theorem validateConstraints_iff (platformCap providerImpl : Value)
    (capability provider : String) :
    validateConstraints platformCap providerImpl capability provider = .ok () ↔
      MeetsConstraints (platformCap.get "constraints") (providerImpl.get "config") := by
  have config (key : String) :
      ((providerImpl.get "config").or (.obj [])).get key = (providerImpl.get "config").get key := by
    cases given : (providerImpl.get "config").truthy with
    | true => rw [Value.or_of_truthy given]
    | false => rw [Value.or_of_falsy given, get_of_falsy given, Value.get_obj_nil]
  have parts : MeetsConstraints (platformCap.get "constraints") (providerImpl.get "config") ↔
      validateMemory (platformCap.get "constraints") ((providerImpl.get "config").or (.obj []))
          capability provider = .ok () ∧
        validateDurability "requireDurability" (platformCap.get "constraints")
          ((providerImpl.get "config").or (.obj [])) capability provider = .ok () ∧
        validateDurability "requirePersistence" (platformCap.get "constraints")
          ((providerImpl.get "config").or (.obj [])) capability provider = .ok () := by
    rw [validateMemory_iff, validateDurability_iff, validateDurability_iff, config, config, config]
    constructor
    · intro meets
      exact ⟨meets.memory, fun asked => meets.durable (.inl asked),
        fun asked => meets.durable (.inr asked)⟩
    · intro ⟨memory, durability, persistence⟩
      exact ⟨memory, fun asked => asked.elim durability persistence⟩
  rw [parts]
  unfold validateConstraints
  dsimp only
  cases constrained : (platformCap.get "constraints").truthy with
  | false =>
    rw [validateMemory_iff, validateDurability_iff, validateDurability_iff]
    simp [get_of_falsy constrained]
  | true =>
    simp only [Bool.not_true, Bool.false_eq_true, if_false, bind, Except.bind]
    cases validateMemory (platformCap.get "constraints")
        ((providerImpl.get "config").or (.obj [])) capability provider with
    | error message => simp
    | ok done =>
      cases validateDurability "requireDurability" (platformCap.get "constraints")
          ((providerImpl.get "config").or (.obj [])) capability provider with
      | error message => simp
      | ok done => simp

section

variable {jsonPretty : Value → String} {architecture : Value} {context : String}

variable {capability : String}

theorem getInfrastructureByCapability_ok_iff {layers : CapabilityLayers}
    (found : capabilityLayers jsonPretty architecture context capability = .ok layers) :
    (∃ spec, getInfrastructureByCapability jsonPretty architecture context capability = .ok spec) ↔
      MeetsConstraints (layers.platformCap.get "constraints")
        (layers.providerImpl.get "config") := by
  rw [← validateConstraints_iff _ _ capability layers.providerName]
  simp only [getInfrastructureByCapability, found, bind, Except.bind, pure, Except.pure]
  cases validateConstraints layers.platformCap layers.providerImpl capability
      layers.providerName with
  | error message => simp
  | ok done => simp

theorem config_of_getInfrastructureByCapability {layers : CapabilityLayers}
    (found : capabilityLayers jsonPretty architecture context capability = .ok layers)
    {spec : InfrastructureSpec}
    (done : getInfrastructureByCapability jsonPretty architecture context capability = .ok spec) :
    spec.config = layers.mergedConfig capability := by
  simp only [getInfrastructureByCapability, found, bind, Except.bind, pure, Except.pure] at done
  split at done
  · cases done
  · obtain rfl := Except.ok.inj done
    rfl

theorem MeetsConstraints.congr {constraints first second : Value}
    (same : ∀ key ∈ ["maxmemory", "appendonly", "persistence"], first.get key = second.get key)
    (meets : MeetsConstraints constraints first) : MeetsConstraints constraints second := by
  obtain ⟨memory, durable⟩ := meets
  rw [same "maxmemory" (by simp)] at memory
  rw [same "appendonly" (by simp), same "persistence" (by simp)] at durable
  exact ⟨memory, durable⟩

theorem valid_of_foldl_validateCapability {service : String} {capabilities : List String}
    {result : ValidationResult}
    (valid : (capabilities.foldl (validateCapability jsonPretty architecture context service)
      result).valid = true) :
    result.valid = true ∧ ∀ capability ∈ capabilities,
      ∃ spec, getInfrastructureByCapability jsonPretty architecture context capability =
        .ok spec := by
  induction capabilities generalizing result with
  | nil => exact ⟨valid, fun capability member => nomatch member⟩
  | cons capability rest ih =>
    obtain ⟨before, later⟩ := ih valid
    unfold validateCapability at before
    cases found : getInfrastructureByCapability jsonPretty architecture context capability with
    | error message =>
      rw [found] at before
      cases before
    | ok spec =>
      rw [found] at before
      refine ⟨before, fun other member => ?_⟩
      rcases List.mem_cons.mp member with rfl | listed
      · exact ⟨spec, found⟩
      · exact later other listed

theorem valid_foldl_validateServiceDependency (service : String) (names : List String)
    (result : ValidationResult) :
    (names.foldl (validateServiceDependency architecture service) result).valid =
      result.valid := by
  induction names generalizing result with
  | nil => rfl
  | cons name rest ih =>
    rw [List.foldl_cons, ih]
    unfold validateServiceDependency
    dsimp only
    split <;> rfl

variable {services : List String}

theorem valid_of_foldl_validateService {result : ValidationResult}
    (valid : (services.foldl (validateService jsonPretty architecture context) result).valid =
      true) : result.valid = true ∧ ∀ service ∈ services,
      ((architecture.get "services").get service).truthy = true →
        ∀ capability ∈ serviceDependencies ((architecture.get "services").get service)
          "infrastructure",
          ∃ spec, getInfrastructureByCapability jsonPretty architecture context capability =
            .ok spec := by
  induction services generalizing result with
  | nil => exact ⟨valid, fun service member => nomatch member⟩
  | cons service rest ih =>
    obtain ⟨before, later⟩ := ih valid
    unfold validateService at before
    dsimp only at before
    cases known : ((architecture.get "services").get service).truthy with
    | false =>
      rw [known] at before
      refine ⟨before, fun other member held => ?_⟩
      rcases List.mem_cons.mp member with rfl | listed
      · rw [known] at held
        cases held
      · exact later other listed held
    | true =>
      rw [known, Bool.not_true, if_neg Bool.false_ne_true,
        valid_foldl_validateServiceDependency] at before
      obtain ⟨first, here⟩ := valid_of_foldl_validateCapability before
      refine ⟨first, fun other member held => ?_⟩
      rcases List.mem_cons.mp member with rfl | listed
      · exact here
      · exact later other listed held

theorem getRequiredInfrastructure_ok
    (each : ∀ capability ∈ requiredCapabilities architecture services,
      ∃ spec, getInfrastructureByCapability jsonPretty architecture context capability =
        .ok spec) :
    ∃ specs, getRequiredInfrastructure jsonPretty architecture context services = .ok specs := by
  unfold getRequiredInfrastructure
  generalize requiredCapabilities architecture services = capabilities at each
  induction capabilities with
  | nil => exact ⟨[], rfl⟩
  | cons capability rest ih =>
    obtain ⟨spec, found⟩ := each capability List.mem_cons_self
    obtain ⟨specs, later⟩ := ih fun other member => each other (List.mem_cons_of_mem _ member)
    refine ⟨spec :: specs, ?_⟩
    rw [List.mapM_cons, found, later]
    rfl

theorem mem_requiredCapabilities
    (member : capability ∈ requiredCapabilities architecture services) :
    ∃ service ∈ services, ((architecture.get "services").get service).truthy = true ∧
      capability ∈ serviceDependencies ((architecture.get "services").get service)
        "infrastructure" := by
  rw [requiredCapabilities, List.mem_mergeSort, List.mem_eraseDups] at member
  obtain ⟨service, listed, needed⟩ := List.mem_flatMap.mp member
  dsimp only at needed
  cases known : ((architecture.get "services").get service).truthy with
  | false => simp [known] at needed
  | true => exact ⟨service, listed, known, by simpa [known] using needed⟩

end

/-- What a context has is found just if the configuration of the provider meets the constraints,
and then has the merged configuration, which meets them as well where the other layers leave what
is checked; and where a check of services passes, all that they need is found. -/
theorem infrastructureConstraints (jsonPretty : Value → String) (architecture : Value)
    (context : String) :
    (∀ capability layers,
      capabilityLayers jsonPretty architecture context capability = .ok layers →
        ((∃ spec, getInfrastructureByCapability jsonPretty architecture context capability =
            .ok spec) ↔
          MeetsConstraints (layers.platformCap.get "constraints")
            (layers.providerImpl.get "config")) ∧
        ∀ spec, getInfrastructureByCapability jsonPretty architecture context capability =
          .ok spec → spec.config = layers.mergedConfig capability ∧
            ((∀ key ∈ ["maxmemory", "appendonly", "persistence"],
              (layers.providerImpl.get "config").get key = spec.config.get key) →
                MeetsConstraints (layers.platformCap.get "constraints") spec.config)) ∧
    ∀ services, (validateDependencies jsonPretty architecture context services).valid = true →
      ∃ specs, getRequiredInfrastructure jsonPretty architecture context services =
        .ok specs := by
  refine ⟨fun capability layers found => ⟨getInfrastructureByCapability_ok_iff found,
    fun spec done => ⟨config_of_getInfrastructureByCapability found done, fun same => ?_⟩⟩,
    fun services valid => getRequiredInfrastructure_ok fun capability member => ?_⟩
  · exact ((getInfrastructureByCapability_ok_iff found).mp ⟨spec, done⟩).congr same
  · obtain ⟨service, listed, known, needed⟩ := mem_requiredCapabilities member
    unfold validateDependencies at valid
    dsimp only at valid
    split at valid
    · cases valid
    split at valid
    · cases valid
    obtain ⟨-, each⟩ := valid_of_foldl_validateService valid
    exact each service listed known capability needed

/-- An architecture with a cache in one context, by the memory of the provider and that of the
context. -/
def cacheArchitecture (provided overridden : String) : Value :=
  .obj [
    ("executionContexts", .obj [("local", .obj [("infrastructure", .obj [
      ("provider", .str "docker"),
      ("caching", .obj [("config", .obj [("maxmemory", .str overridden)])])])])]),
    ("platform", .obj [("infrastructure", .obj [("caching", .obj [
      ("constraints", .obj [("minMemory", .str "128mb")])])])]),
    ("infrastructure", .obj [("docker", .obj [("caching", .obj [
      ("config", .obj [("maxmemory", .str provided)])])])]),
    ("services", .obj [])]

/-- A context can lower the memory of a cache below what the platform asks for. -/
theorem not_infrastructureConstraints : ¬ ∀ (jsonPretty : Value → String) (architecture : Value)
    (context capability : String) (layers : CapabilityLayers),
    capabilityLayers jsonPretty architecture context capability = .ok layers →
      ∀ spec, getInfrastructureByCapability jsonPretty architecture context capability =
        .ok spec → MeetsConstraints (layers.platformCap.get "constraints") spec.config := by
  intro general
  have meets := general Value.toText (cacheArchitecture "256mb" "64mb") "local" "caching" _ rfl _
    rfl
  obtain ⟨least, most, enough, given, ordered⟩ := meets.memory (by decide) (by decide)
  have minimum : parseMemoryString (.str "128mb") = .ok 134217728 := by decide +kernel
  have memory : parseMemoryString (.str "64mb") = .ok 67108864 := by decide +kernel
  have least_eq := Except.ok.inj (minimum.symm.trans enough)
  have most_eq := Except.ok.inj (memory.symm.trans given)
  omega

end BitBrat
