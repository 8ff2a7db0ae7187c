import BitBrat.Brat.SecureFileDeployment
import BitBrat.Js.Assignment
import BitBrat.Brat.ServiceMerge
import Mathlib.Data.List.TakeWhile

/-! Secure files that are added to a service of a compose file. -/

namespace BitBrat

open Js

structure ComposeFile where
  services : OrderedMap String ServiceDefinition
  others : OrderedMap String Value := .empty

structure ComposeYaml where
  load : String → Except String ComposeFile
  dump : ComposeFile → String

def injectVolumes (volumes : Option (List String)) (volumeMounts : List String) :
    Option (List String) :=
  if volumeMounts.isEmpty then volumes
  else some (volumes.getD [] ++ volumeMounts).eraseDups

def textValues (texts : OrderedMap String String) : OrderedMap String Value where
  entries := texts.entries.map fun entry => (entry.1, .str entry.2)
  distinct := by
    rw [List.map_map]
    exact texts.distinct

def injectVariables (environment : Option (ListOrMap Value)) (envVars : OrderedMap String String) :
    Option (ListOrMap Value) :=
  if envVars.entries.isEmpty then environment
  else
    match environment with
    | some (.list texts) =>
      -- Each variable is added to what was there at first, and so only the last one stays.
      envVars.entries.foldl
        (fun _ entry => some (.list (addEnvEntry texts entry.1 entry.2))) environment
    | some (.map values) => some (.map (values.spread (textValues envVars)))
    | none => some (.map (OrderedMap.empty.spread (textValues envVars)))

def ServiceDefinition.injectFiles (service : ServiceDefinition) (volumeMounts : List String)
    (envVars : OrderedMap String String) : ServiceDefinition :=
  { service with
    volumes := injectVolumes service.volumes volumeMounts
    environment := injectVariables service.environment envVars }

def ComposeFile.setService (compose : ComposeFile) (serviceName : String)
    (service : ServiceDefinition) : ComposeFile :=
  { compose with services := compose.services.set serviceName service }

def injectSecureFiles (yaml : ComposeYaml) (composeYaml serviceName : String)
    (volumeMounts : List String) (envVars : OrderedMap String String) : Except String String :=
  match yaml.load composeYaml with
  | .error message =>
    .error ("Failed to parse compose YAML for secureFiles injection: " ++ message)
  | .ok compose =>
    match compose.services.get? serviceName with
    | none =>
      .error ("Service '" ++ serviceName ++ "' not found in compose file. " ++
        "Cannot inject secureFiles volume mounts.")
    | some service =>
      .ok (yaml.dump (compose.setService serviceName (service.injectFiles volumeMounts envVars)))

structure FilesInjected (compose : ComposeFile) (serviceName : String)
    (service : ServiceDefinition) (volumeMounts : List String) (envVars : OrderedMap String String)
    (after : ComposeFile) (injected : ServiceDefinition) : Prop where
  found : after.services.get? serviceName = some injected
  environment : ∀ name, ListOrMap.variable injected.environment name =
    ((envVars.get? name).map .str).or (ListOrMap.variable service.environment name)
  volumes : injected.volumes.getD [] = (service.volumes.getD [] ++ volumeMounts).eraseDups
  parts : { injected with volumes := service.volumes, environment := service.environment } = service
  names : after.services.entries.map Prod.fst = compose.services.entries.map Prod.fst
  services : ∀ other, other ≠ serviceName →
    after.services.get? other = compose.services.get? other
  others : after.others = compose.others

/-- Mounts and variables are added as they were asked for, and adding them again changes nothing. -/
def InjectsAll (yaml : ComposeYaml) (composeYaml serviceName : String) (compose : ComposeFile)
    (service : ServiceDefinition) (volumeMounts : List String)
    (envVars : OrderedMap String String) : Prop :=
  ∃ out after injected,
    injectSecureFiles yaml composeYaml serviceName volumeMounts envVars = .ok out ∧
    yaml.load out = .ok after ∧
    FilesInjected compose serviceName service volumeMounts envVars after injected ∧
    injectSecureFiles yaml out serviceName volumeMounts envVars = .ok out

/-- Where a list of variables gets all that are given: it has all but the last one already, and
that one has a name that ends where its value begins. -/
def TakesAll (environment : Option (ListOrMap Value)) (envVars : OrderedMap String String) : Prop :=
  ∀ texts early last, environment = some (.list texts) → envVars.entries = early ++ [last] →
    '=' ∉ last.1.toList ∧
      ∀ entry ∈ early, ListOrMap.variable environment entry.1 = some (.str entry.2)

theorem not_mem_variableOf (text : String) : '=' ∉ (variableOf text).1.toList := by
  rw [variableOf, String.toList_ofList]
  intro member
  have dark := List.mem_takeWhile_imp member
  simp at dark

theorem variableOf_assignment {name : String} (plain : '=' ∉ name.toList) (value : String) :
    variableOf (name ++ "=" ++ value) = (name, .str value) := by
  have chars : (name ++ "=" ++ value).toList = name.toList ++ '=' :: value.toList := by simp
  have all : ∀ char ∈ name.toList, (char ≠ '=' : Bool) = true := by
    intro char member
    have other : char ≠ '=' := fun same => plain (same ▸ member)
    simpa using other
  have taken : (name.toList ++ '=' :: value.toList).takeWhile (· ≠ '=') = name.toList := by
    rw [List.takeWhile_append_of_pos all]
    simp
  have rest : (name.toList ++ '=' :: value.toList).drop (name.toList.length + 1) =
      value.toList := by
    rw [List.drop_append, List.drop_of_length_le (by omega)]
    simp
  have longer : ¬ name.toList.length = (name.toList ++ '=' :: value.toList).length := by
    simp
  unfold variableOf
  dsimp only
  rw [chars, taken, if_neg longer, rest, String.ofList_toList, String.ofList_toList]

theorem variableOf_of_starts {name text : String} (plain : '=' ∉ name.toList)
    (begins : (name ++ "=").toList.isPrefixOf text.toList = true) : (variableOf text).1 = name := by
  obtain ⟨rest, split⟩ := List.isPrefixOf_iff_prefix.mp begins
  have whole : text = name ++ "=" ++ String.ofList rest := by
    apply String.toList_injective
    rw [← split]
    simp
  rw [whole, variableOf_assignment plain]

theorem lookup_map_filter {α β : Type} {key : String} (read : α → String × β)
    (keep : α → Bool) {items : List α}
    (dropped : ∀ item ∈ items, keep item = false → (read item).1 ≠ key) :
    ((items.filter keep).map read).lookup key = (items.map read).lookup key := by
  induction items with
  | nil => rfl
  | cons item rest ih =>
    have later := ih fun other member => dropped other (List.mem_cons_of_mem _ member)
    rw [List.filter_cons]
    by_cases kept : keep item = true
    · rw [if_pos kept, List.map_cons, List.map_cons]
      obtain ⟨name, value⟩ := read item
      rw [List.lookup_cons, List.lookup_cons, later]
    · have other := dropped item List.mem_cons_self (by simpa using kept)
      rw [if_neg kept, later, List.map_cons]
      generalize read item = entry at other
      obtain ⟨name, value⟩ := entry
      rw [List.lookup_cons, beq_false_of_ne (Ne.symm other)]

theorem variable_addEnvEntry {name : String} (plain : '=' ∉ name.toList)
    (texts : List String) (value other : String) :
    ListOrMap.variable (some (.list (addEnvEntry texts name value))) other =
      if other = name then some (.str value)
      else ListOrMap.variable (some (.list texts)) other := by
  rw [ListOrMap.variable, addEnvEntry, List.reverse_append, List.reverse_singleton,
    List.singleton_append, List.map_cons, variableOf_assignment plain, List.lookup_cons]
  by_cases same : other = name
  · rw [if_pos same, beq_iff_eq.mpr same]
  · rw [if_neg same, beq_false_of_ne same]
    dsimp only
    rw [← List.filter_reverse, lookup_map_filter]
    · rfl
    · intro text member dropped
      have begins : (name ++ "=").toList.isPrefixOf text.toList = true := by simpa using dropped
      rw [variableOf_of_starts plain begins]
      exact Ne.symm same

theorem addEnvEntry_again (texts : List String) (name value : String) :
    addEnvEntry (addEnvEntry texts name value) name value = addEnvEntry texts name value := by
  have begins : (name ++ "=").toList.isPrefixOf (name ++ "=" ++ value).toList = true := by
    rw [List.isPrefixOf_iff_prefix, String.toList_append]
    exact ⟨value.toList, by simp⟩
  simp only [addEnvEntry, List.filter_append, List.filter_filter, Bool.and_self,
    List.filter_singleton, begins]
  simp

theorem injectVariables_list {texts : List String} {envVars : OrderedMap String String}
    {early : List (String × String)} {last : String × String}
    (split : envVars.entries = early ++ [last]) :
    injectVariables (some (.list texts)) envVars =
      some (.list (addEnvEntry texts last.1 last.2)) := by
  have some_given : envVars.entries.isEmpty = false := by simp [split]
  rw [injectVariables, some_given, if_neg Bool.false_ne_true, split, List.foldl_append,
    List.foldl_cons, List.foldl_nil]

theorem get?_textValues (texts : OrderedMap String String) (name : String) :
    (textValues texts).get? name = (texts.get? name).map .str :=
  lookup_map_snd Value.str texts.entries name

theorem variable_injectVariables_map {environment : Option (ListOrMap Value)}
    (noList : ∀ texts, environment ≠ some (.list texts)) (envVars : OrderedMap String String)
    (name : String) :
    ListOrMap.variable (injectVariables environment envVars) name =
      ((envVars.get? name).map .str).or (ListOrMap.variable environment name) := by
  unfold injectVariables
  split
  · rename_i empty
    have nothing : envVars.get? name = none := by
      rw [OrderedMap.get?, List.isEmpty_iff.mp empty, List.lookup_nil]
    rw [nothing]
    rfl
  · rcases environment with _ | texts | values
    · change (OrderedMap.empty.spread (textValues envVars)).get? name = _
      rw [OrderedMap.get?_spread, get?_textValues]
      rfl
    · exact absurd rfl (noList texts)
    · rw [ListOrMap.variable, OrderedMap.get?_spread, get?_textValues]
      rfl

theorem variable_injectVariables_list (texts : List String)
    (envVars : OrderedMap String String) :
    (∀ name, ListOrMap.variable (injectVariables (some (.list texts)) envVars) name =
      ((envVars.get? name).map .str).or (ListOrMap.variable (some (.list texts)) name)) ↔
    TakesAll (some (.list texts)) envVars := by
  rcases List.eq_nil_or_concat envVars.entries with empty | ⟨early, last, split⟩
  · -- Nothing is given.
    have taken : TakesAll (some (.list texts)) envVars := by
      intro _ early last _ split
      simp [empty] at split
    refine iff_of_true (fun name => ?_) taken
    rw [injectVariables, empty, OrderedMap.get?, empty]
    rfl
  · rw [List.concat_eq_append] at split
    rw [injectVariables_list split]
    have given : ∀ entry ∈ envVars.entries, envVars.get? entry.1 = some entry.2 :=
      fun entry member => lookup_of_mem envVars.distinct member
    have lastGiven := given last (by simp [split])
    have apart : ∀ entry ∈ early, entry.1 ≠ last.1 := by
      intro entry member same
      have distinct := envVars.distinct
      rw [split, List.map_append, List.nodup_append] at distinct
      exact distinct.2.2 entry.1 (List.mem_map_of_mem member) last.1 (by simp) same
    constructor
    · intro reads held before final same parts
      obtain rfl := ListOrMap.list.inj (Option.some.inj same)
      obtain ⟨rfl, final_eq⟩ := List.append_inj' (parts.symm.trans split) rfl
      obtain rfl : final = last := List.head_eq_of_cons_eq final_eq
      -- A name with an equals sign is read nowhere.
      have plain : '=' ∉ final.1.toList := by
        intro member
        have read := reads final.1
        rw [lastGiven] at read
        obtain ⟨text, -, names⟩ := List.mem_map.mp (mem_of_lookup read)
        exact not_mem_variableOf text (by rw [names]; exact member)
      refine ⟨plain, fun entry member => ?_⟩
      have read := reads entry.1
      rw [variable_addEnvEntry plain, if_neg (apart entry member),
        given entry (by simp [split, member])] at read
      exact read
    · intro takes name
      obtain ⟨plain, held⟩ := takes texts early last rfl split
      rw [variable_addEnvEntry plain]
      by_cases same : name = last.1
      · rw [if_pos same, same, lastGiven]
        rfl
      · rw [if_neg same]
        cases found : envVars.get? name with
        | none => rfl
        | some value =>
          have member : (name, value) ∈ envVars.entries := mem_of_lookup found
          rw [split] at member
          rcases List.mem_append.mp member with before | final
          · exact held (name, value) before
          · exact absurd (congrArg Prod.fst (List.mem_singleton.mp final)) same

theorem variable_injectVariables_iff (environment : Option (ListOrMap Value))
    (envVars : OrderedMap String String) :
    (∀ name, ListOrMap.variable (injectVariables environment envVars) name =
      ((envVars.get? name).map .str).or (ListOrMap.variable environment name)) ↔
    TakesAll environment envVars := by
  match environment with
  | some (.list texts) => exact variable_injectVariables_list texts envVars
  | some (.map values) =>
    exact iff_of_true (variable_injectVariables_map (fun _ => by simp) envVars)
      fun _ _ _ same => by cases same
  | none =>
    exact iff_of_true (variable_injectVariables_map (fun _ => by simp) envVars)
      fun _ _ _ same => by cases same

theorem injectVariables_again (environment : Option (ListOrMap Value))
    (envVars : OrderedMap String String) :
    injectVariables (injectVariables environment envVars) envVars =
      injectVariables environment envVars := by
  rcases List.eq_nil_or_concat envVars.entries with empty | ⟨early, last, split⟩
  · simp [injectVariables, empty]
  · rw [List.concat_eq_append] at split
    have some_given : envVars.entries.isEmpty = false := by simp [split]
    match environment with
    | some (.list texts) =>
      rw [injectVariables_list split, injectVariables_list split, addEnvEntry_again]
    | some (.map values) =>
      simp only [injectVariables, some_given, Bool.false_eq_true, if_false]
      rw [OrderedMap.spread_spread]
    | none =>
      simp only [injectVariables, some_given, Bool.false_eq_true, if_false]
      rw [OrderedMap.spread_spread]

theorem injectVolumes_again (volumes : Option (List String)) (volumeMounts : List String) :
    injectVolumes (injectVolumes volumes volumeMounts) volumeMounts =
      injectVolumes volumes volumeMounts := by
  by_cases empty : volumeMounts.isEmpty = true
  · simp [injectVolumes, empty]
  · simp only [injectVolumes, if_neg empty, Option.getD_some]
    rw [eraseDups_append_again]

theorem injectVolumes_iff (volumes : Option (List String)) (volumeMounts : List String) :
    (injectVolumes volumes volumeMounts).getD [] =
      (volumes.getD [] ++ volumeMounts).eraseDups ↔
    volumeMounts ≠ [] ∨ (volumes.getD []).Nodup := by
  cases volumeMounts with
  | cons mount rest => simp [injectVolumes]
  | nil =>
    rw [List.append_nil]
    constructor
    · intro same
      have kept : volumes.getD [] = (volumes.getD []).eraseDups := same
      rw [kept]
      exact .inr (nodup_eraseDups _)
    · rintro (some_given | distinct)
      · exact absurd rfl some_given
      · exact (eraseDups_of_nodup distinct).symm

theorem setService_parts {compose : ComposeFile} {serviceName : String}
    {service : ServiceDefinition} (found : compose.services.get? serviceName = some service)
    (changed : ServiceDefinition) :
    (compose.setService serviceName changed).services.get? serviceName = some changed ∧
    (compose.setService serviceName changed).services.entries.map Prod.fst =
      compose.services.entries.map Prod.fst ∧
    ∀ other, other ≠ serviceName →
      (compose.setService serviceName changed).services.get? other =
        compose.services.get? other := by
  refine ⟨?_, ?_, fun other apart => ?_⟩
  · rw [ComposeFile.setService, OrderedMap.get?_set, if_pos rfl]
  · have member : serviceName ∈ compose.services.entries.map Prod.fst :=
      List.mem_map_of_mem (mem_of_lookup found)
    have keys := keys_setEntry serviceName changed compose.services.entries
    rw [if_pos member] at keys
    exact keys
  · rw [ComposeFile.setService, OrderedMap.get?_set, if_neg apart]

def listedBot : ServiceDefinition where
  volumes := some ["data:/data"]
  environment := some (.list ["LOG_LEVEL=info"])

def botFile (bot : ServiceDefinition) : ComposeFile where
  services := ⟨[("llm-bot", bot)], by simp⟩

def botYaml (before after : ServiceDefinition) : ComposeYaml where
  load text :=
    if text = "before" then .ok (botFile before)
    else if text = "after" then .ok (botFile after)
    else .error "unexpected text"
  dump _ := "after"

def keyVariable : OrderedMap String String := ⟨[("KEY_FILE", "/run/key")], by decide⟩

def keyAndToken : OrderedMap String String :=
  ⟨[("KEY_FILE", "/run/key"), ("TOKEN_FILE", "/run/token")], by decide⟩

end BitBrat
