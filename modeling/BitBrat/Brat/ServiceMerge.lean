import BitBrat.Js.Spread
import BitBrat.Js.Value

/-! The definition of a service with that of an override merged into it. -/

namespace BitBrat

open Js

/-- A part of a definition that is written as a list of texts, or by names. -/
inductive ListOrMap (α : Type) where
  | list (items : List String)
  | map (entries : OrderedMap String α)

inductive NetworkConfig where
  | null
  | text (name : String)
  | settings (aliases : Option (List String)) (others : OrderedMap String Value)

/-- The definition of a service, with every field that is not merged on its own among the others. -/
structure ServiceDefinition where
  volumes : Option (List String) := none
  environment : Option (ListOrMap Value) := none
  depends_on : Option (ListOrMap Value) := none
  networks : Option (ListOrMap NetworkConfig) := none
  others : OrderedMap String Value := .empty

structure MergeStats where
  volumesAdded : Int := 0
  environmentAdded : Int := 0
  dependenciesAdded : Int := 0

/-- The items of a list by their places, as they are spread over an object. -/
def spreadItems {α : Type} (wrap : String → α) (items : List String) : OrderedMap String α :=
  (items.mapIdx fun place item => (toString place, wrap item)).foldl
    (fun map entry => map.set entry.1 entry.2) .empty

def OBJECT_PROTOTYPE : List String :=
  ["__defineGetter__", "__defineSetter__", "__lookupGetter__", "__lookupSetter__", "__proto__",
    "constructor", "hasOwnProperty", "isPrototypeOf", "propertyIsEnumerable", "toLocaleString",
    "toString", "valueOf"]

def NetworkConfig.truthy : NetworkConfig → Bool
  | .null => false
  | .text name => name ≠ ""
  | .settings _ _ => true

def NetworkConfig.aliases : NetworkConfig → Except String (Option (List String))
  | .null => .error "Cannot read properties of null (reading 'aliases')"
  | .text _ => .ok none
  | .settings aliases _ => .ok aliases

def NetworkConfig.setAliases (aliases : List String) : NetworkConfig → Except String NetworkConfig
  | .settings _ others => .ok (.settings (some aliases) others)
  | .text name => .error ("Cannot create property 'aliases' on string '" ++ name ++ "'")
  | .null => .error "Cannot set properties of null (setting 'aliases')"

def mergeNetwork (networks : OrderedMap String NetworkConfig) (entry : String × NetworkConfig) :
    Except String (OrderedMap String NetworkConfig) := do
  let (netName, netConfig) := entry
  match networks.get? netName with
  | some current =>
    if current.truthy then
      match ← netConfig.aliases with
      | some overrideAliases =>
        let baseAliases := (← current.aliases).getD []
        return networks.set netName
          (← current.setAliases (baseAliases ++ overrideAliases).eraseDups)
      | none => return networks.set netName netConfig
    else return networks.set netName netConfig
  | none =>
    if netName ∈ OBJECT_PROTOTYPE then
      match ← netConfig.aliases with
      -- The aliases are put on what every object inherits.
      | some _ => return networks
      | none => return if netName = "__proto__" then networks else networks.set netName netConfig
    else return networks.set netName netConfig

def mergeNetworks (base : Option (ListOrMap NetworkConfig)) :
    Option (ListOrMap NetworkConfig) → Except String (Option (ListOrMap NetworkConfig))
  | none => .ok base
  | some (.list items) => .ok (some (.list items))
  | some (.map overrideNets) => do
    let baseNets : OrderedMap String NetworkConfig := match base with
      | none => .empty
      | some (.map networks) => networks
      | some (.list items) => spreadItems .text items
    return some (.map (← overrideNets.entries.foldlM mergeNetwork baseNets))

/-- The variables of a service with those of the override, and how many are added. -/
def mergeEnvironment (base override : Option (ListOrMap Value)) (environmentAdded : Int) :
    Option (ListOrMap Value) × Int :=
  match override, base with
  | none, base => (base, environmentAdded)
  | some (.list texts), some (.list baseTexts) =>
    let environment := (baseTexts ++ texts).eraseDups
    (some (.list environment), environment.length - baseTexts.length)
  | some (.map values), some (.map baseValues) =>
    (some (.map (baseValues.spread values)), values.size)
  -- The two are of different forms, or there is only one of them.
  | some (.list texts), _ => (some (.list texts), texts.length)
  | some (.map values), _ => (some (.map values), values.size)

/-- What a service depends on, with what the override does, and how many are added. -/
def mergeDependencies (base override : Option (ListOrMap Value)) (dependenciesAdded : Int) :
    Except String (Option (ListOrMap Value) × Int) :=
  match override with
  | none => .ok (base, dependenciesAdded)
  | some (.map overrideDeps) =>
    let baseDeps : OrderedMap String Value := match base with
      | none => .empty
      | some (.map deps) => deps
      | some (.list items) => spreadItems .str items
    .ok (some (.map (baseDeps.spread overrideDeps)), overrideDeps.size)
  | some (.list overrideDeps) =>
    match base with
    | some (.map _) => .error "baseDeps is not iterable"
    | some (.list baseDeps) =>
      let deps := (baseDeps ++ overrideDeps).eraseDups
      .ok (some (.list deps), deps.length - baseDeps.length)
    | none => .ok (some (.list overrideDeps.eraseDups), overrideDeps.eraseDups.length)

/-- The volumes of a service with those of the override, and how many are added. -/
def mergeVolumes (base override : Option (List String)) (volumesAdded : Int) :
    Option (List String) × Int :=
  match override with
  | none => (base, volumesAdded)
  | some overrideVolumes =>
    let baseVolumes := base.getD []
    let volumes := (baseVolumes ++ overrideVolumes).eraseDups
    (some volumes, volumes.length - baseVolumes.length)

def simpleOverrideFields : List String :=
  ["build", "image", "ports", "healthcheck", "command", "entrypoint"]

/-- The other fields of a service, with those of the override that are replaced. -/
def replaceFields (base override : OrderedMap String Value) : OrderedMap String Value :=
  simpleOverrideFields.foldl (fun merged field =>
    match override.get? field with
    | some value => merged.set field value
    | none => merged) base

def mergeServiceDefinitions (base override : ServiceDefinition) (stats : MergeStats) :
    Except String (ServiceDefinition × MergeStats) := do
  let (volumes, volumesAdded) := mergeVolumes base.volumes override.volumes stats.volumesAdded
  let (environment, environmentAdded) :=
    mergeEnvironment base.environment override.environment stats.environmentAdded
  let (depends_on, dependenciesAdded) ←
    mergeDependencies base.depends_on override.depends_on stats.dependenciesAdded
  let networks ← mergeNetworks base.networks override.networks
  return ({ volumes, environment, depends_on, networks
            others := replaceFields base.others override.others },
    { volumesAdded, environmentAdded, dependenciesAdded })

/-- A variable of a list, which passes on the one of the shell if it has no value. -/
def variableOf (text : String) : String × Value :=
  let name := text.toList.takeWhile (· ≠ '=')
  (String.ofList name,
    if name.length = text.toList.length then .null
    else .str (String.ofList (text.toList.drop (name.length + 1))))

/-- What an environment says of a variable: of two entries of a list, the later one counts. -/
def ListOrMap.variable : Option (ListOrMap Value) → String → Option Value
  | none, _ => none
  | some (.list texts), name => (texts.reverse.map variableOf).lookup name
  | some (.map values), name => values.get? name

def ListOrMap.names {α : Type} : Option (ListOrMap α) → List String
  | none => []
  | some (.list items) => items
  | some (.map entries) => entries.entries.map Prod.fst

def ListOrMap.entry {α : Type} : Option (ListOrMap α) → String → Option α
  | some (.map entries), name => entries.get? name
  | _, _ => none

/-- A merge as it was asked for: every part of the override is merged in, or replaces that of the
base. -/
structure ServiceMerged (base override merged : ServiceDefinition) : Prop where
  environment : ∀ name, ListOrMap.variable merged.environment name =
    (ListOrMap.variable override.environment name).or (ListOrMap.variable base.environment name)
  depends_on : ∀ name, name ∈ ListOrMap.names merged.depends_on ↔
    name ∈ ListOrMap.names base.depends_on ∨ name ∈ ListOrMap.names override.depends_on
  volumes : merged.volumes.getD [] =
    (base.volumes.getD [] ++ override.volumes.getD []).eraseDups
  networks : merged.networks = override.networks.or base.networks
  others : ∀ field, merged.others.get? field =
    (override.others.get? field).or (base.others.get? field)
  again : ∀ stats, ∃ added, mergeServiceDefinitions merged override stats = .ok (merged, added)

/-- Two parts of definitions are of one form, if there are two. -/
def SameForm {α : Type} : Option (ListOrMap α) → Option (ListOrMap α) → Prop
  | some (.list _), some (.map _) | some (.map _), some (.list _) => False
  | _, _ => True

def NamesOnce : Option (ListOrMap Value) → Prop
  | some (.list texts) => (texts.map fun text => (variableOf text).1).Nodup
  | _ => True

/-- A network of an override can be merged into that of a base, if there is one. -/
def NetworkConfig.Fits (base : Option NetworkConfig) : NetworkConfig → Prop
  | .null => ∀ aliases others, base ≠ some (.settings aliases others)
  | .text _ => False
  | .settings aliases _ => (aliases.getD []).Nodup

structure NetworksFit (base override : Option (ListOrMap NetworkConfig)) : Prop where
  form : ∀ items entries, base = some (.list items) → override ≠ some (.map entries)
  plain : ∀ entries, base = some (.map entries) → ∀ name text, entries.get? name ≠ some (.text text)
  names : ∀ entries, override = some (.map entries) →
    ∀ entry ∈ entries.entries, entry.1 ∉ OBJECT_PROTOTYPE
  fits : ∀ entries, override = some (.map entries) →
    ∀ entry ∈ entries.entries, entry.2.Fits (ListOrMap.entry base entry.1)

structure Mergeable (base override : ServiceDefinition) : Prop where
  depends_on : SameForm base.depends_on override.depends_on
  networks : NetworksFit base.networks override.networks

/-- A network of a service and of an override: where both are there, the aliases of the override
are added to the network, if it gives any. -/
def networkOf : Option NetworkConfig → Option NetworkConfig → Option NetworkConfig
  | base, none => base
  | some (.settings baseAliases others), some (.settings (some aliases) _) =>
    some (.settings (some (baseAliases.getD [] ++ aliases).eraseDups) others)
  | _, override => override

/-- A merge in which parts of one form are merged, and others are replaced. -/
structure MergedByForm (base override merged : ServiceDefinition) : Prop where
  environment : SameForm base.environment override.environment → NamesOnce base.environment →
    NamesOnce override.environment → ∀ name, ListOrMap.variable merged.environment name =
      (ListOrMap.variable override.environment name).or
        (ListOrMap.variable base.environment name)
  otherForm : ¬ SameForm base.environment override.environment →
    merged.environment = override.environment
  depends_on : ∀ name, name ∈ ListOrMap.names merged.depends_on ↔
    name ∈ ListOrMap.names base.depends_on ∨ name ∈ ListOrMap.names override.depends_on
  volumes : merged.volumes = (override.volumes.map fun volumes =>
    (base.volumes.getD [] ++ volumes).eraseDups).or base.volumes
  networks : ∀ name, (∀ items, override.networks ≠ some (.list items)) →
    ListOrMap.entry merged.networks name =
      networkOf (ListOrMap.entry base.networks name) (ListOrMap.entry override.networks name)
  listed : ∀ items, override.networks = some (.list items) → merged.networks = some (.list items)
  untouched : override.networks = none → merged.networks = base.networks
  replaced : ∀ field ∈ simpleOverrideFields, merged.others.get? field =
    (override.others.get? field).or (base.others.get? field)
  kept : ∀ field, override.others.get? field = none →
    merged.others.get? field = base.others.get? field
  again : NamesOnce override.environment → ∀ stats, ∃ added,
    mergeServiceDefinitions merged override stats = .ok (merged, added)

variable {texts : List String}

theorem variable_list (once : NamesOnce (some (.list texts))) {name : String}
    {value : Value} : ListOrMap.variable (some (.list texts)) name = some value ↔
      ∃ text ∈ texts, variableOf text = (name, value) := by
  have distinct : ((texts.reverse.map variableOf).map Prod.fst).Nodup := by
    rw [List.map_map, List.map_reverse, List.nodup_reverse]
    exact once
  constructor
  · intro found
    obtain ⟨text, member, reads⟩ := List.mem_map.mp (mem_of_lookup found)
    exact ⟨text, List.mem_reverse.mp member, reads⟩
  · intro ⟨text, member, reads⟩
    refine lookup_of_mem distinct (List.mem_map.mpr ⟨text, List.mem_reverse.mpr member, reads⟩)

theorem variable_list_eq_none {name : String} :
    ListOrMap.variable (some (.list texts)) name = none ↔
      ∀ text ∈ texts, (variableOf text).1 ≠ name := by
  rw [ListOrMap.variable, lookup_eq_none_iff_not_mem]
  simp

theorem variable_eraseDups {more : List String} (once : NamesOnce (some (.list texts)))
    (moreOnce : NamesOnce (some (.list more))) (name : String) :
    ListOrMap.variable (some (.list (texts ++ more).eraseDups)) name =
      (ListOrMap.variable (some (.list more)) name).or
        (ListOrMap.variable (some (.list texts)) name) := by
  have left : (more.removeAll texts).Sublist more := List.filter_sublist
  have leftOnce : NamesOnce (some (.list (more.removeAll texts))) :=
    List.Nodup.sublist (left.map _) moreOnce
  have whole : (texts ++ more).eraseDups = texts ++ more.removeAll texts := by
    rw [List.eraseDups_append, eraseDups_of_nodup (List.Nodup.of_map _ once),
      eraseDups_of_nodup (List.Nodup.of_map _ leftOnce)]
  have parts : ListOrMap.variable (some (.list (texts ++ more).eraseDups)) name =
      (ListOrMap.variable (some (.list (more.removeAll texts))) name).or
        (ListOrMap.variable (some (.list texts)) name) := by
    rw [whole, ListOrMap.variable, List.reverse_append, List.map_append, List.lookup_append]
    rfl
  rw [parts]
  cases said : ListOrMap.variable (some (.list more)) name with
  | none =>
    have nothing : ListOrMap.variable (some (.list (more.removeAll texts))) name = none :=
      variable_list_eq_none.mpr fun text member =>
        variable_list_eq_none.mp said text (left.subset member)
    rw [nothing]
  | some value =>
    obtain ⟨text, member, reads⟩ := (variable_list moreOnce).mp said
    by_cases held : text ∈ texts
    · -- The entry is left out because it is there already, and no other one has its name.
      have nothing : ListOrMap.variable (some (.list (more.removeAll texts))) name = none := by
        refine variable_list_eq_none.mpr fun other remains same => ?_
        have alone : other = text := by
          refine List.inj_on_of_nodup_map moreOnce (left.subset remains) member ?_
          rw [same, reads]
        subst alone
        simp [List.removeAll, held] at remains
      rw [nothing, (variable_list once).mpr ⟨text, held, reads⟩]
      rfl
    · have remains : text ∈ more.removeAll texts := by simp [List.removeAll, member, held]
      rw [(variable_list leftOnce).mpr ⟨text, remains, reads⟩, Option.some_or]

variable {base override : Option (ListOrMap Value)}

theorem variable_mergeEnvironment (baseOnce : NamesOnce base) (once : NamesOnce override)
    (form : SameForm base override) (added : Int) (name : String) :
    ListOrMap.variable (mergeEnvironment base override added).1 name =
      (ListOrMap.variable override name).or (ListOrMap.variable base name) := by
  match base, override with
  | base, none => rfl
  | none, some (.list texts) => exact (Option.or_none).symm
  | none, some (.map values) => exact (Option.or_none).symm
  | some (.list texts), some (.list more) => exact variable_eraseDups baseOnce once name
  | some (.map values), some (.map more) => exact OrderedMap.get?_spread values more name
  | some (.list _), some (.map _) => exact form.elim
  | some (.map _), some (.list _) => exact form.elim

theorem mergeEnvironment_otherForm (form : ¬ SameForm base override) (added : Int) :
    (mergeEnvironment base override added).1 = override := by
  match base, override with
  | none, none | none, some _ | some (.list _), none | some (.map _), none =>
    exact absurd trivial form
  | some (.list _), some (.map _) => rfl
  | some (.map _), some (.list _) => rfl
  | some (.list _), some (.list _) => exact absurd trivial form
  | some (.map _), some (.map _) => exact absurd trivial form

theorem mergeEnvironment_again (once : NamesOnce override) (added more : Int) :
    (mergeEnvironment (mergeEnvironment base override added).1 override more).1 =
      (mergeEnvironment base override added).1 := by
  match base, override with
  | base, none => rfl
  | none, some (.list texts) | some (.map _), some (.list texts) =>
    have distinct : texts.Nodup := List.Nodup.of_map _ once
    have same := eraseDups_append_again [] texts
    rw [List.nil_append, eraseDups_of_nodup distinct] at same
    simp [mergeEnvironment, same]
  | none, some (.map values) | some (.list _), some (.map values) =>
    have same : values.spread values = values :=
      OrderedMap.foldl_set_of_get? fun entry member => lookup_of_mem values.distinct member
    simp [mergeEnvironment, same]
  | some (.list texts), some (.list more) =>
    simp [mergeEnvironment, eraseDups_append_again]
  | some (.map values), some (.map more) =>
    simp [mergeEnvironment, OrderedMap.spread_spread]

theorem mergeDependencies_ok (form : SameForm base override) (added : Int) :
    ∃ deps count, mergeDependencies base override added = .ok (deps, count) ∧
      (∀ name, name ∈ ListOrMap.names deps ↔
        name ∈ ListOrMap.names base ∨ name ∈ ListOrMap.names override) ∧
      ∀ more, ∃ again, mergeDependencies deps override more = .ok (deps, again) := by
  have keys (first second : OrderedMap String Value) (name : String) :
      name ∈ (first.spread second).entries.map Prod.fst ↔
        name ∈ first.entries.map Prod.fst ∨ name ∈ second.entries.map Prod.fst := by
    have held (map : OrderedMap String Value) :
        name ∈ map.entries.map Prod.fst ↔ map.get? name ≠ none := by
      rw [OrderedMap.get?, Ne, lookup_eq_none_iff_not_mem, not_not]
    rw [held, held, held, OrderedMap.get?_spread]
    cases second.get? name <;> simp
  rcases override with _ | deps | deps
  · cases base <;>
      exact ⟨_, _, rfl, fun name => by simp [ListOrMap.names], fun more => ⟨_, rfl⟩⟩
  · rcases base with _ | texts | held
    · refine ⟨_, _, rfl, fun name => by simp [ListOrMap.names, List.mem_eraseDups], fun more => ?_⟩
      have same := eraseDups_append_again [] deps
      rw [List.nil_append] at same
      exact ⟨_, by rw [mergeDependencies, same]⟩
    · refine ⟨_, _, rfl, fun name => by simp [ListOrMap.names, List.mem_eraseDups], fun more => ?_⟩
      exact ⟨_, by rw [mergeDependencies, eraseDups_append_again]⟩
    · exact form.elim
  · rcases base with _ | texts | held
    · refine ⟨_, _, rfl, fun name => ?_, fun more => ?_⟩
      · rw [ListOrMap.names, ListOrMap.names, ListOrMap.names, keys]
        rfl
      · exact ⟨_, by rw [mergeDependencies, OrderedMap.spread_spread]⟩
    · exact form.elim
    · refine ⟨_, _, rfl, fun name => keys held deps name, fun more => ?_⟩
      exact ⟨_, by rw [mergeDependencies, OrderedMap.spread_spread]⟩

@[simp] theorem networkOf_none (base : Option NetworkConfig) : networkOf base none = base := by
  cases base with
  | none => rfl
  | some config => cases config <;> rfl

variable {networks : OrderedMap String NetworkConfig}

theorem mergeNetwork_ok {entry : String × NetworkConfig}
    (plain : ∀ text, networks.get? entry.1 ≠ some (.text text))
    (named : entry.1 ∉ OBJECT_PROTOTYPE) (fits : entry.2.Fits (networks.get? entry.1)) :
    ∃ config, networkOf (networks.get? entry.1) (some entry.2) = some config ∧
      (∀ text, config ≠ .text text) ∧
      mergeNetwork networks entry = .ok (networks.set entry.1 config) := by
  obtain ⟨name, config⟩ := entry
  dsimp only at plain named fits ⊢
  cases config with
  | text held => exact fits.elim
  | null =>
    refine ⟨.null, ?_, by simp, ?_⟩
    · cases networks.get? name with
      | none => rfl
      | some current => cases current <;> rfl
    · cases found : networks.get? name with
      | none =>
        simp [mergeNetwork, found, named, pure, Except.pure]
      | some current =>
        cases current with
        | null => simp [mergeNetwork, found, NetworkConfig.truthy, pure, Except.pure]
        | text held => exact absurd found (plain held)
        | settings baseAliases baseOthers => exact absurd found (fits baseAliases baseOthers)
  | settings aliases others =>
    cases found : networks.get? name with
    | none =>
      refine ⟨.settings aliases others, by cases aliases <;> rfl, by simp, ?_⟩
      simp [mergeNetwork, found, named, pure, Except.pure]
    | some current =>
      cases current with
      | null =>
        refine ⟨.settings aliases others, by cases aliases <;> rfl, by simp, ?_⟩
        simp [mergeNetwork, found, NetworkConfig.truthy, pure, Except.pure]
      | text held => exact absurd found (plain held)
      | settings baseAliases baseOthers =>
        cases aliases with
        | none =>
          refine ⟨.settings none others, rfl, by simp, ?_⟩
          simp [mergeNetwork, found, NetworkConfig.truthy, NetworkConfig.aliases, bind,
            Except.bind, pure, Except.pure]
        | some given =>
          refine ⟨_, rfl, by simp, ?_⟩
          simp [mergeNetwork, found, NetworkConfig.truthy, NetworkConfig.aliases,
            NetworkConfig.setAliases, bind, Except.bind, pure, Except.pure]

theorem foldlM_mergeNetwork {entries : List (String × NetworkConfig)}
    (distinct : (entries.map Prod.fst).Nodup)
    (named : ∀ entry ∈ entries, entry.1 ∉ OBJECT_PROTOTYPE)
    (fits : ∀ entry ∈ entries, entry.2.Fits (networks.get? entry.1))
    (plain : ∀ name text, networks.get? name ≠ some (.text text)) :
    ∃ merged, entries.foldlM mergeNetwork networks = .ok merged ∧
      ∀ name, merged.get? name = networkOf (networks.get? name) (entries.lookup name) := by
  induction entries generalizing networks with
  | nil => exact ⟨networks, rfl, fun name => (networkOf_none _).symm⟩
  | cons entry rest ih =>
    obtain ⟨fresh, later⟩ := List.nodup_cons.mp distinct
    obtain ⟨config, merges, proper, written⟩ := mergeNetwork_ok (plain entry.1)
      (named entry List.mem_cons_self) (fits entry List.mem_cons_self)
    have next : ∀ name text, (networks.set entry.1 config).get? name ≠ some (.text text) := by
      intro name text
      rw [OrderedMap.get?_set]
      split
      · exact fun same => proper text (Option.some.inj same)
      · exact plain name text
    have nextFits : ∀ other ∈ rest, other.2.Fits ((networks.set entry.1 config).get? other.1) := by
      intro other member
      -- The name of an entry does not come a second time.
      have apart : other.1 ≠ entry.1 := fun same => fresh (same ▸ List.mem_map_of_mem member)
      rw [OrderedMap.get?_set, if_neg apart]
      exact fits other (List.mem_cons_of_mem _ member)
    obtain ⟨merged, done, reads⟩ :=
      ih later (fun other member => named other (List.mem_cons_of_mem _ member)) nextFits next
    refine ⟨merged, ?_, fun name => ?_⟩
    · rw [List.foldlM_cons, written]
      exact done
    · rw [reads, OrderedMap.get?_set, List.lookup_cons]
      by_cases same : name = entry.1
      · -- The network is written here, and not again.
        subst same
        rw [lookup_eq_none_iff_not_mem.mpr fresh, if_pos rfl, networkOf_none, beq_self_eq_true]
        exact merges.symm
      · have other : (name == entry.1) = false := by simpa using same
        simp [same, other]

variable {base : Option NetworkConfig}

theorem networkOf_again {config : NetworkConfig} (fits : config.Fits base) :
    networkOf (networkOf base (some config)) (some config) = networkOf base (some config) := by
  cases config with
  | text name => exact fits.elim
  | null => cases base with
    | none => rfl
    | some held => cases held <;> rfl
  | settings aliases others => cases aliases with
    | none => cases base with
      | none => rfl
      | some held => cases held <;> rfl
    | some given =>
      have nodup : given.Nodup := fits
      have alone : (given ++ given).eraseDups = given := by
        have same := eraseDups_append_again [] given
        rwa [List.nil_append, eraseDups_of_nodup nodup] at same
      cases base with
      | none => simp [networkOf, alone]
      | some held =>
        cases held with
        | settings baseAliases baseOthers => simp [networkOf, eraseDups_append_again]
        | null => simp [networkOf, alone]
        | text name => simp [networkOf, alone]

theorem NetworkConfig.Fits.again {config : NetworkConfig} (fits : config.Fits base) :
    config.Fits (networkOf base (some config)) := by
  cases config with
  | text name => exact fits.elim
  | settings aliases others => exact fits
  | null =>
    intro aliases others
    cases base with
    | none => exact nofun
    | some held => cases held <;> exact nofun

theorem networkOf_plain {override : Option NetworkConfig}
    (plain : ∀ text, base ≠ some (.text text)) (proper : ∀ text, override ≠ some (.text text))
    (text : String) : networkOf base override ≠ some (.text text) := by
  cases override with
  | none => exact networkOf_none base ▸ plain text
  | some config => cases config with
    | text held => exact absurd rfl (proper held)
    | null => cases base with
      | none => exact nofun
      | some held => cases held <;> exact nofun
    | settings aliases others => cases aliases with
      | none => cases base with
        | none => exact nofun
        | some held => cases held <;> exact nofun
      | some given => cases base with
        | none => exact nofun
        | some held => cases held <;> exact nofun

theorem foldlM_mergeNetwork_again {entries : List (String × NetworkConfig)}
    (named : ∀ entry ∈ entries, entry.1 ∉ OBJECT_PROTOTYPE)
    (fits : ∀ entry ∈ entries, entry.2.Fits (networks.get? entry.1))
    (plain : ∀ name text, networks.get? name ≠ some (.text text)) (held : ∀ entry ∈ entries,
      networks.get? entry.1 = networkOf (networks.get? entry.1) (some entry.2)) :
    entries.foldlM mergeNetwork networks = .ok networks := by
  induction entries with
  | nil => rfl
  | cons entry rest ih =>
    obtain ⟨config, merges, -, written⟩ := mergeNetwork_ok (plain entry.1)
      (named entry List.mem_cons_self) (fits entry List.mem_cons_self)
    have same : networks.set entry.1 config = networks :=
      OrderedMap.ext (setEntry_of_lookup ((held entry List.mem_cons_self).trans merges))
    rw [List.foldlM_cons, written, same]
    exact ih (fun other member => named other (List.mem_cons_of_mem _ member))
      (fun other member => fits other (List.mem_cons_of_mem _ member))
      fun other member => held other (List.mem_cons_of_mem _ member)

theorem mergeNetworks_ok {base override : Option (ListOrMap NetworkConfig)}
    (fit : NetworksFit base override) :
    ∃ merged, mergeNetworks base override = .ok merged ∧
      (∀ name, (∀ items, override ≠ some (.list items)) → ListOrMap.entry merged name =
        networkOf (ListOrMap.entry base name) (ListOrMap.entry override name)) ∧
      (∀ items, override = some (.list items) → merged = some (.list items)) ∧
      (override = none → merged = base) ∧ mergeNetworks merged override = .ok merged := by
  match override with
  | none => exact ⟨base, rfl, fun name _ => (networkOf_none _).symm, nofun, fun _ => rfl, rfl⟩
  | some (.list items) =>
    exact ⟨some (.list items), rfl, fun name other => absurd rfl (other items),
      fun others same => same, nofun, rfl⟩
  | some (.map entries) =>
    have named := fit.names entries rfl
    -- The base is no list, so that it is spread as it is.
    obtain ⟨networks, start, same⟩ : ∃ networks : OrderedMap String NetworkConfig,
        (∀ merged, entries.entries.foldlM mergeNetwork networks = .ok merged →
          mergeNetworks base (some (.map entries)) = .ok (some (.map merged))) ∧
          ∀ name, networks.get? name = ListOrMap.entry base name := by
      match base, fit.form with
      | none, _ =>
        refine ⟨.empty, fun merged done => ?_, fun name => rfl⟩
        simp only [mergeNetworks, done]
        rfl
      | some (.map networks), _ =>
        refine ⟨networks, fun merged done => ?_, fun name => rfl⟩
        simp only [mergeNetworks, done]
        rfl
      | some (.list items), form => exact absurd rfl (form items entries rfl)
    have plain : ∀ name text, networks.get? name ≠ some (.text text) := by
      intro name text
      rw [same]
      match base, fit.plain with
      | none, _ => exact nofun
      | some (.map held), proper => exact proper held rfl name text
      | some (.list items), _ => exact nofun
    have fits : ∀ entry ∈ entries.entries, entry.2.Fits (networks.get? entry.1) := by
      intro entry member
      rw [same]
      exact fit.fits entries rfl entry member
    obtain ⟨merged, done, reads⟩ := foldlM_mergeNetwork entries.distinct named fits plain
    refine ⟨some (.map merged), start merged done, fun name _ => ?_, nofun, nofun, ?_⟩
    · rw [← same]
      exact reads name
    · -- Every network has the aliases of the override already.
      have mergedPlain : ∀ name text, merged.get? name ≠ some (.text text) := by
        intro name text
        rw [reads]
        refine networkOf_plain (plain name) (fun text found => ?_) text
        exact fits _ (mem_of_lookup found)
      have written : ∀ entry ∈ entries.entries,
          merged.get? entry.1 = networkOf (networks.get? entry.1) (some entry.2) := by
        intro entry member
        have found : entries.entries.lookup entry.1 = some entry.2 :=
          lookup_of_mem entries.distinct member
        rw [reads, found]
      have again : entries.entries.foldlM mergeNetwork merged = .ok merged := by
        refine foldlM_mergeNetwork_again named (fun entry member => ?_) mergedPlain
          fun entry member => ?_
        · rw [written entry member]
          exact (fits entry member).again
        · rw [written entry member, networkOf_again (fits entry member)]
      simp only [mergeNetworks, again]
      rfl

theorem mergeVolumes_again (base override : Option (List String)) (added more : Int) :
    (mergeVolumes (mergeVolumes base override added).1 override more).1 =
      (mergeVolumes base override added).1 := by
  cases override with
  | none => rfl
  | some volumes =>
    simp only [mergeVolumes, Option.getD_some]
    rw [eraseDups_append_again]

theorem get?_foldl_replace (override : OrderedMap String Value) (fields : List String)
    (base : OrderedMap String Value) (field : String) :
    (fields.foldl (fun merged field =>
        match override.get? field with
        | some value => merged.set field value
        | none => merged) base).get? field =
      if field ∈ fields then (override.get? field).or (base.get? field) else base.get? field := by
  induction fields generalizing base with
  | nil => rfl
  | cons first rest ih =>
    rw [List.foldl_cons, ih]
    by_cases same : field = first
    · subst same
      cases found : override.get? field with
      | none => simp
      | some value => simp
    · -- Another field is replaced here.
      have kept : (match override.get? first with
          | some value => base.set first value
          | none => base).get? field = base.get? field := by
        cases override.get? first with
        | none => rfl
        | some value =>
          dsimp only
          rw [OrderedMap.get?_set, if_neg same]
      rw [kept]
      simp [same]

theorem replaceFields_again (base override : OrderedMap String Value) :
    replaceFields (replaceFields base override) override = replaceFields base override := by
  have held : ∀ field ∈ simpleOverrideFields, ∀ value, override.get? field = some value →
      (replaceFields base override).get? field = some value := by
    intro field member value found
    rw [replaceFields, get?_foldl_replace, if_pos member, found]
    rfl
  generalize replaceFields base override = merged at held ⊢
  unfold replaceFields
  generalize simpleOverrideFields = fields at held ⊢
  induction fields with
  | nil => rfl
  | cons field rest ih =>
    have later := ih fun other member => held other (List.mem_cons_of_mem _ member)
    rw [List.foldl_cons]
    cases found : override.get? field with
    | none => exact later
    | some value =>
      have same : merged.set field value = merged :=
        OrderedMap.ext (setEntry_of_lookup (held field List.mem_cons_self value found))
      dsimp only
      rw [same]
      exact later

theorem get?_replaceFields (base override : OrderedMap String Value) (field : String) :
    (replaceFields base override).get? field =
      if field ∈ simpleOverrideFields then (override.get? field).or (base.get? field)
      else base.get? field :=
  get?_foldl_replace override simpleOverrideFields base field

theorem mergeServiceDefinitions_eq {base override : ServiceDefinition} {stats : MergeStats}
    {depends_on : Option (ListOrMap Value)} {dependenciesAdded : Int}
    {networks : Option (ListOrMap NetworkConfig)}
    (merges : mergeDependencies base.depends_on override.depends_on stats.dependenciesAdded =
      .ok (depends_on, dependenciesAdded))
    (joins : mergeNetworks base.networks override.networks = .ok networks) :
    ∃ added, mergeServiceDefinitions base override stats =
      .ok ({ volumes := (mergeVolumes base.volumes override.volumes stats.volumesAdded).1
             environment := (mergeEnvironment base.environment override.environment
               stats.environmentAdded).1
             depends_on, networks
             others := replaceFields base.others override.others }, added) := by
  simp only [mergeServiceDefinitions, merges, joins]
  exact ⟨_, rfl⟩

def botService (volumes : List String) (text name : String) : ServiceDefinition where
  volumes := some volumes
  environment := some (.list [text])
  networks := some (.map
    ⟨[("bitbrat-network", .settings (some [name]) .empty)], List.nodup_singleton _⟩)

end BitBrat
