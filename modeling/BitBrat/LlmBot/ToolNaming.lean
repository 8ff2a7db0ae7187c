import BitBrat.LlmBot.PermittedTools

/-! The two ways in which a tool is found by its name, and when they find the same one. -/

namespace BitBrat

open Js

namespace ToolRegistry

def getTool (registry : ToolRegistry) (id : String) : Option BitBratTool :=
  registry.tools.get? id

def getToolBySanitizedName (registry : ToolRegistry) (sanitizedName : String) :
    Option BitBratTool :=
  registry.values.find? fun tool => getToolName tool = sanitizedName

end ToolRegistry

inductive ToolPost where
  | notFound
  | forbidden (tool : BitBratTool)
  | executed (tool : BitBratTool)
  deriving DecidableEq

def originConfig (serverConfigs : OrderedMap String McpServerConfig) (tool : BitBratTool) :
    Option McpServerConfig :=
  (tool.originServer.filter (· ≠ "")).bind serverConfigs.get?

def postTool (registry : ToolRegistry) (serverConfigs : OrderedMap String McpServerConfig)
    (context : SessionContext) (toolId : String) : ToolPost :=
  match (registry.getTool toolId).or (registry.getToolBySanitizedName toolId) with
  | none => .notFound
  | some tool =>
    if isAllowedTool tool (originConfig serverConfigs tool) context then .executed tool
    else .forbidden tool

/-- Every tool is listed, both lookups agree, and what is called by a name is what is listed. -/
structure ToolNamingLaw (registry : ToolRegistry) : Prop where
  appears : ∀ tool ∈ registry.values,
    registry.getTools.get? (ToolRegistry.getToolName tool) = some tool
  agrees : ∀ name, registry.getToolBySanitizedName name = registry.getTools.get? name
  called : ∀ name tool serverConfigs context, registry.getTools.get? name = some tool →
    postTool registry serverConfigs context name =
      if isAllowedTool tool (originConfig serverConfigs tool) context then .executed tool
      else .forbidden tool

/-- No two registered tools have one name, and none has the name that sets no property. -/
structure NamesApart (registry : ToolRegistry) : Prop where
  distinct : (registry.values.map ToolRegistry.getToolName).Nodup
  plain : ∀ tool ∈ registry.values, ToolRegistry.getToolName tool ≠ "__proto__"

namespace ToolRegistry

theorem isNameChar_of_mem {tool : BitBratTool} {char : Char}
    (member : char ∈ (getToolName tool).toList) : isNameChar char = true := by
  rw [getToolName, String.toList_ofList, List.mem_flatMap] at member
  obtain ⟨original, _, written⟩ := member
  split at written
  · rename_i named
    rwa [List.mem_singleton.mp written]
  · rw [(List.mem_replicate.mp written).2]
    decide

theorem getToolName_of_id {tool other : BitBratTool} (named : other.id = getToolName tool) :
    getToolName other = getToolName tool := by
  -- Character by character, nothing is replaced.
  have kept : ∀ chars : List Char, (∀ char ∈ chars, isNameChar char = true) →
      (chars.flatMap fun char => if isNameChar char then [char]
        else List.replicate (if char.val < 0x10000 then 1 else 2) '_') = chars := by
    intro chars all
    induction chars with
    | nil => rfl
    | cons char rest ih =>
      have here := all char List.mem_cons_self
      rw [List.flatMap_cons, if_pos here, ih fun other member =>
        all other (List.mem_cons_of_mem char member)]
      rfl
  rw [getToolName, named, kept _ fun char => isNameChar_of_mem, String.ofList_toList]

theorem mem_of_getTool {registry : ToolRegistry} {id : String} {tool : BitBratTool}
    (found : registry.getTool id = some tool) : tool ∈ registry.values ∧ tool.id = id := by
  have member := mem_of_lookup found
  exact ⟨List.mem_map.mpr ⟨_, member, rfl⟩, (registry.keyed _ member).symm⟩

variable {registry : ToolRegistry}

theorem filter_of_distinct (distinct : (registry.values.map getToolName).Nodup)
    {tool : BitBratTool} (member : tool ∈ registry.values) :
    (registry.values.filter fun other => getToolName other = getToolName tool) = [tool] := by
  generalize registry.values = tools at distinct member
  induction tools with
  | nil => cases member
  | cons head rest ih =>
    rw [List.map_cons, List.nodup_cons] at distinct
    obtain ⟨fresh, later⟩ := distinct
    rcases List.mem_cons.mp member with rfl | behind
    · have none : (rest.filter fun other => getToolName other = getToolName tool) = [] := by
        rw [List.filter_eq_nil_iff]
        intro other inside same
        exact fresh (List.mem_map.mpr ⟨other, inside, by simpa using same⟩)
      simp [none]
    · have other : getToolName head ≠ getToolName tool := fun same =>
        fresh (List.mem_map.mpr ⟨tool, behind, same.symm⟩)
      simp [other, ih later behind]

theorem nodup_of_appears (appears : ∀ tool ∈ registry.values,
    registry.getTools.get? (getToolName tool) = some tool) :
    (registry.values.map getToolName).Nodup := by
  have tools : registry.values.Nodup := by
    -- Distinct identifiers make distinct tools.
    have ids : registry.values.map BitBratTool.id = registry.tools.entries.map Prod.fst := by
      rw [values, List.map_map]
      exact List.map_congr_left fun entry member => (registry.keyed entry member).symm
    exact List.Nodup.of_map _ (ids ▸ registry.tools.distinct)
  refine tools.map_on fun tool member other inside same => ?_
  have read := appears tool member
  rw [same, appears other inside] at read
  exact (Option.some.inj read).symm

end ToolRegistry

open ToolRegistry

section

variable {registry : ToolRegistry}

theorem NamesApart.get?_getTools (apart : NamesApart registry) {tool : BitBratTool}
    (member : tool ∈ registry.values) : registry.getTools.get? (getToolName tool) = some tool := by
  refine ToolRegistry.get?_getTools.mpr ⟨rfl, apart.plain tool member, ?_⟩
  rw [filter_of_distinct apart.distinct member]
  rfl

private theorem NamesApart.getToolBySanitizedName (apart : NamesApart registry) (name : String) :
    registry.getToolBySanitizedName name = registry.getTools.get? name := by
  cases found : registry.getToolBySanitizedName name with
  | some tool =>
    have named : getToolName tool = name := by simpa using List.find?_some found
    rw [← named, apart.get?_getTools (List.mem_of_find?_eq_some found)]
  | none =>
    -- Nothing has the name, so nothing is read under it.
    have absent := List.find?_eq_none.mp found
    cases read : registry.getTools.get? name with
    | none => rfl
    | some tool =>
      obtain ⟨named, visible⟩ := ToolRegistry.get?_getTools.mp read
      exact absurd (by simpa using named) (absent tool visible.mem)

end

/-- What is listed under a name is what is found and called by it, just if the names are distinct
and set properties. -/
theorem toolNamingLaw_iff (registry : ToolRegistry) :
    ToolNamingLaw registry ↔ NamesApart registry := by
  constructor
  · intro law
    refine ⟨nodup_of_appears law.appears, fun tool member => ?_⟩
    exact (ToolRegistry.get?_getTools.mp (law.appears tool member)).2.1
  · intro apart
    refine ⟨fun tool => apart.get?_getTools, apart.getToolBySanitizedName, ?_⟩
    intro name tool serverConfigs context listed
    have byName := (apart.getToolBySanitizedName name).trans listed
    have direct : (registry.getTool name).or (registry.getToolBySanitizedName name) =
        some tool := by
      cases found : registry.getTool name with
      | none => exact byName
      | some other =>
        -- A tool that has the name as its identifier has it as its name as well.
        obtain ⟨member, id⟩ := mem_of_getTool found
        have named := (ToolRegistry.get?_getTools.mp listed).1
        have same : getToolName other = name :=
          (getToolName_of_id (id.trans named.symm)).trans named
        have read := apart.get?_getTools member
        rw [same, listed] at read
        exact read.symm
    rw [postTool, direct]

/-- Of two tools of one name, the newer one is listed and the older one is called. -/
theorem not_toolNamingLaw : ¬ ∀ registry, ToolNamingLaw registry := by
  intro law
  have listed : shadowedTools.getTools.get? "mcp_obs_scene" = some { id := "mcp:obs_scene" } := by
    decide +kernel
  have called := (law shadowedTools).called _ _ .empty { userId := .undefined } listed
  exact absurd called (by decide +kernel)

end BitBrat
