import BitBrat.LlmBot.Processor
import Mathlib.Data.List.Induction

/-! The tools that the model is handed are those that the policies of the platform permit. -/

namespace BitBrat

open Js

/-- The bot, as it asks for tools on behalf of the user of an event. -/
def BotEvent.session (event : BotEvent) : SessionContext where
  userId := event.user
  roles := event.roles.map .str
  agentName := some "llm-bot"

structure ProfileAllows (profile : BehaviorProfile) (tool : BitBratTool) : Prop where
  notHigh : profile.risk.level ≠ .high
  notMedium : profile.risk.level ≠ .med
  harmless : profile.risk.type.dangerous = false
  policy : profile.policy.shouldUseTools = true
  aboutBot : profile.intent = .«meta» → tool.id ∈ META_TOOL_ALLOWLIST

/-- The scopes of a tool, if it has any, contain the one that is requested, if one is. -/
def InScope (requestedScope : Value) (tool : BitBratTool) : Prop :=
  requestedScope.truthy = true → ∀ scopes, tool.scopes = some scopes → scopes ≠ [] →
    ∃ scope ∈ scopes, requestedScope = .str scope

structure Permitted (profile : BehaviorProfile) (event : BotEvent) (tool : BitBratTool) :
    Prop where
  allowed : isAllowedTool tool none event.session = true
  inScope : InScope event.requestedScope tool
  profile : ProfileAllows profile tool

structure ToolLaw (env : ProcessorEnv) (registry : ToolRegistry) (event : BotEvent) : Prop where
  /-- A call hands over the registered tools that are permitted, and nothing else. -/
  handed : ∀ call ∈ (processEvent env registry event).calls, ∀ handed : HandedTool,
    (∃ name, call.tools.get? name = some handed) ↔
      ∃ tool ∈ registry.values, Permitted (profileOf env event) event tool ∧
        handed = handTool tool
  /-- An event that the gate stops is not shown to the model, and at most refused. -/
  gated : (profileOf env event).gate ≠ .proceed →
    (processEvent env registry event).calls = [] ∧
      ((processEvent env registry event).event.candidates = event.candidates ∨
        ∃ refusal, refusal.get "text" = .str (buildSafeRefusalText (profileOf env event)) ∧
          refusal.get "reason" = .str "behavior:safe-refusal" ∧
          (processEvent env registry event).event.candidates =
            some (event.candidates.getD [] ++ [refusal]))

/-- A tool is the last one registered of its name, and the name is one of a property. -/
def Visible (registry : ToolRegistry) (tool : BitBratTool) : Prop :=
  ToolRegistry.getToolName tool ≠ "__proto__" ∧
    (registry.values.filter fun other =>
      ToolRegistry.getToolName other = ToolRegistry.getToolName tool).getLast? = some tool

/-- Where agents are listed, the bot is one of them just if the roles suffice. -/
def AgentsAgree (event : BotEvent) (tool : BitBratTool) : Prop :=
  ∀ agents, tool.agentAllowlist = some agents → agents ≠ [] →
    ("llm-bot" ∈ agents ↔ rolesAllow tool event.roles = true)

def AsksModel (env : ProcessorEnv) (event : BotEvent) : Prop :=
  ∃ text prompt, combinedPrompt env event = some text ∧ (profileOf env event).gate = .proceed ∧
    env.assemble (profiled env event) (profileOf env event) text = .ok prompt ∧
    env.providerError prompt = none

namespace ToolRegistry

theorem get?_foldl_setTool (tools : List BitBratTool) (name : String) :
    (tools.foldl setTool .empty).get? name =
      if name = "__proto__" then none
      else (tools.filter fun tool => getToolName tool = name).getLast? := by
  -- The tool that is registered last is written last.
  induction tools using List.reverseRecOn with
  | nil => simp
  | append_singleton tools last ih =>
    rw [List.foldl_append, List.filter_append, List.foldl_cons, List.foldl_nil, setTool]
    by_cases proto : getToolName last = "__proto__"
    · rw [if_pos proto, ih]
      by_cases here : name = "__proto__"
      · simp [here]
      · have other : getToolName last ≠ name := fun same => here (same.symm.trans proto)
        simp [here, other]
    · rw [if_neg proto, OrderedMap.get?_set, ih]
      by_cases same : name = getToolName last
      · subst same
        simp [proto]
      · simp [same, Ne.symm same]

theorem get?_getTools {registry : ToolRegistry} {name : String} {tool : BitBratTool} :
    registry.getTools.get? name = some tool ↔
      getToolName tool = name ∧ Visible registry tool := by
  rw [getTools, get?_foldl_setTool]
  constructor
  · intro found
    split at found
    · cases found
    · rename_i proto
      have member := List.mem_of_getLast? found
      have named : getToolName tool = name := by simpa using (List.mem_filter.mp member).2
      subst named
      exact ⟨rfl, proto, found⟩
  · rintro ⟨rfl, proto, last⟩
    rw [if_neg proto, last]

end ToolRegistry

theorem Visible.mem {registry : ToolRegistry} {tool : BitBratTool}
    (visible : Visible registry tool) : tool ∈ registry.values :=
  (List.mem_filter.mp (List.mem_of_getLast? visible.2)).1

section

variable (env : ProcessorEnv)

def offers (profile : BehaviorProfile) (event : BotEvent) (tool : BitBratTool) : Bool :=
  rolesAllow tool event.roles && scopeAllows tool event.requestedScope &&
    (if env.toolFilterEnabled then evaluateBehavioralToolEligibility tool profile
    else (true, "behavioral tool filtering disabled")).1

theorem filteredTools_offerTool (profile : BehaviorProfile) (event : BotEvent)
    (offer : ToolOffer) (entry : String × BitBratTool) :
    (offerTool env profile event offer entry).filteredTools =
      if offers env profile event entry.2 then offer.filteredTools.set entry.1 (handTool entry.2)
      else offer.filteredTools := by
  obtain ⟨name, tool⟩ := entry
  simp only [offerTool, offers]
  generalize (if env.toolFilterEnabled = true then evaluateBehavioralToolEligibility tool profile
    else (true, "behavioral tool filtering disabled")) = decision
  split
  · rfl
  · split
    · rfl
    · split <;> rfl

theorem get?_foldl_offerTool (profile : BehaviorProfile) (event : BotEvent)
    (entries : List (String × BitBratTool)) (distinct : (entries.map Prod.fst).Nodup)
    (offer : ToolOffer) (name : String) :
    (entries.foldl (offerTool env profile event) offer).filteredTools.get? name =
      (((entries.lookup name).filter (offers env profile event)).map handTool).or
        (offer.filteredTools.get? name) := by
  induction entries generalizing offer with
  | nil => rfl
  | cons entry rest ih =>
    obtain ⟨key, tool⟩ := entry
    have fresh : key ∉ rest.map Prod.fst := (List.nodup_cons.mp distinct).1
    rw [List.foldl_cons, ih (List.nodup_cons.mp distinct).2, filteredTools_offerTool]
    by_cases here : name = key
    · -- No later entry has the name.
      subst here
      have absent : rest.lookup name = none := lookup_eq_none_iff_not_mem.mpr fresh
      rw [absent, List.lookup_cons_self]
      by_cases offered : offers env profile event tool = true
      · simp [Option.filter, offered]
      · simp [Option.filter, offered]
    · have skipped : (name == key) = false := by simpa using here
      have kept : (if offers env profile event tool = true
          then offer.filteredTools.set key (handTool tool)
          else offer.filteredTools).get? name = offer.filteredTools.get? name := by
        split
        · exact OrderedMap.get?_set_of_ne _ here _
        · rfl
      rw [List.lookup_cons, skipped, kept]

theorem get?_offerTools (profile : BehaviorProfile) (event : BotEvent)
    (registry : ToolRegistry) (handed : HandedTool) :
    (∃ name, (offerTools env profile event registry).filteredTools.get? name = some handed) ↔
      ∃ tool, Visible registry tool ∧ offers env profile event tool = true ∧
        handed = handTool tool := by
  have read (name : String) : (offerTools env profile event registry).filteredTools.get? name =
      ((registry.getTools.get? name).filter (offers env profile event)).map handTool := by
    rw [offerTools, get?_foldl_offerTool env profile event _ registry.getTools.distinct]
    exact Option.or_none
  simp only [read, Option.map_eq_some_iff, Option.filter_eq_some_iff,
    ToolRegistry.get?_getTools]
  constructor
  · rintro ⟨name, tool, ⟨⟨-, visible⟩, offered⟩, same⟩
    exact ⟨tool, visible, offered, same.symm⟩
  · rintro ⟨tool, visible, offered, same⟩
    exact ⟨_, tool, ⟨⟨rfl, visible⟩, offered⟩, same.symm⟩

theorem profiled_frame (event : BotEvent) :
    (profiled env event).roles = event.roles ∧
      (profiled env event).requestedScope = event.requestedScope ∧
        (profiled env event).candidates = event.candidates := by
  have annotate (event : BotEvent) (annotations : List Value) :
      (event.annotate annotations).roles = event.roles ∧
        (event.annotate annotations).requestedScope = event.requestedScope ∧
          (event.annotate annotations).candidates = event.candidates := by
    unfold BotEvent.annotate
    split <;> exact ⟨rfl, rfl, rfl⟩
  -- The last annotation is appended as well, and the two before it are annotations in turn.
  obtain ⟨roles, scope, candidates⟩ := annotate event (env.contextAnnotations event)
  obtain ⟨roles', scope', candidates'⟩ := annotate (contextualized env event)
    (env.narratorGuidance (contextualized env event))
  exact ⟨roles'.trans roles, scope'.trans scope, candidates'.trans candidates⟩

theorem calls_askModel (profile : BehaviorProfile) (offer : ToolOffer) (prompt : BotPrompt)
    (event : BotEvent) : (askModel env profile offer prompt event).calls =
      [{ prompt := prompt, tools := offer.filteredTools }] := by
  simp only [askModel]
  split
  · rfl
  · split <;> rfl

variable {env}

theorem calls_gateEvent {profile : BehaviorProfile} {event : BotEvent} :
    (gateEvent env profile event).calls = [] := by
  unfold gateEvent
  split <;> rfl

theorem candidates_gateEvent (profile : BehaviorProfile) (event : BotEvent) :
    (gateEvent env profile event).event.candidates = event.candidates ∨
      ∃ stamped, (gateEvent env profile event).event.candidates =
        some (event.candidates.getD [] ++ [safeRefusal env profile stamped]) := by
  unfold gateEvent
  split
  · -- The two annotations before leave the candidates as they were.
    exact .inr ⟨_, rfl⟩
  · exact .inl rfl

theorem calls_processEvent (gating : env.gatingEnabled = true) {registry : ToolRegistry}
    {event : BotEvent} :
    (∀ call ∈ (processEvent env registry event).calls, AsksModel env event ∧ call.tools =
      (offerTools env (profileOf env event) (profiled env event) registry).filteredTools) ∧
    (AsksModel env event → (processEvent env registry event).calls ≠ []) := by
  unfold processEvent AsksModel
  cases prompted : combinedPrompt env event with
  | none => simp
  | some text =>
    dsimp only
    by_cases proceeds : (profileOf env event).gate = .proceed
    · rw [if_neg (by simp [proceeds])]
      unfold answerEvent
      cases assembled : env.assemble (profiled env event) (profileOf env event) text with
      | error message => simp [failEvent, assembled]
      | ok prompt =>
        dsimp only
        cases provided : env.providerError prompt with
        | some message => simp [failEvent, assembled, provided]
        | none =>
          dsimp only
          rw [calls_askModel]
          exact ⟨fun call member => ⟨⟨text, prompt, rfl, proceeds, assembled, provided⟩,
            List.mem_singleton.mp member ▸ rfl⟩, fun _ => List.cons_ne_nil _ _⟩
    · rw [if_pos (by simp [gating, proceeds])]
      rw [calls_gateEvent]
      simp [proceeds]

theorem gated_processEvent (gating : env.gatingEnabled = true) {registry : ToolRegistry}
    {event : BotEvent} (stopped : (profileOf env event).gate ≠ .proceed) :
    (processEvent env registry event).calls = [] ∧
      ((processEvent env registry event).event.candidates = event.candidates ∨
        ∃ refusal, refusal.get "text" = .str (buildSafeRefusalText (profileOf env event)) ∧
          refusal.get "reason" = .str "behavior:safe-refusal" ∧
          (processEvent env registry event).event.candidates =
            some (event.candidates.getD [] ++ [refusal])) := by
  obtain ⟨-, -, kept⟩ := profiled_frame env event
  unfold processEvent
  cases combinedPrompt env event with
  | none => exact ⟨rfl, .inl kept⟩
  | some text =>
    dsimp only
    rw [if_pos (by simp [gating, stopped])]
    refine ⟨calls_gateEvent, ?_⟩
    rcases candidates_gateEvent (profileOf env event) (profiled env event) with
      same | ⟨stamped, refused⟩
    · exact .inl (same.trans kept)
    · exact .inr ⟨safeRefusal env (profileOf env event) stamped, rfl, rfl, kept ▸ refused⟩

end

theorem scopeAllows_iff {tool : BitBratTool} {requestedScope : Value} :
    scopeAllows tool requestedScope = true ↔ InScope requestedScope tool := by
  unfold scopeAllows InScope
  cases requested : requestedScope.truthy with
  | false => simp
  | true =>
    cases tool.scopes with
    | none => simp
    | some scopes =>
      simp only [Bool.not_true, Bool.false_or, Option.all_some, Bool.or_eq_true,
        decide_eq_true_eq, List.any_eq_true, Option.some.injEq, forall_eq', true_implies]
      rw [or_iff_not_imp_left]
      simp only [ne_eq, eq_comm]

theorem eligible_iff {env : ProcessorEnv} {event : BotEvent} {tool : BitBratTool} :
    (evaluateBehavioralToolEligibility tool (profileOf env event)).1 = true ↔
      ProfileAllows (profileOf env event) tool := by
  -- The policy of a profile that is derived follows from its intent, tone, and risk.
  have policy : (profileOf env event).policy.shouldUseTools = true ↔ _ :=
    Behavior.shouldUseTools_policyFor (profileOf env event).intent (profileOf env event).tone
      (profileOf env event).risk (profileOf env event).responseMode env.riskResponseMode
  unfold evaluateBehavioralToolEligibility
  constructor
  · intro eligible
    split at eligible
    · cases eligible
    · split at eligible
      · cases eligible
      · split at eligible
        · cases eligible
        · rename_i notHigh harmless notMedium
          have safe : (profileOf env event).risk.type.dangerous = false := by
            simpa using harmless
          split at eligible
          · rename_i aboutBot
            split at eligible
            · rename_i listed
              -- An intent that is about the bot is neither spam nor critique.
              exact ⟨notHigh, notMedium, safe,
                policy.mpr ⟨notHigh, notMedium, safe, by simp [aboutBot], by simp [aboutBot]⟩,
                fun _ => by simpa using listed⟩
            · cases eligible
          · rename_i otherIntent
            split at eligible
            · cases eligible
            · rename_i usable
              exact ⟨notHigh, notMedium, safe, by simpa using usable,
                fun aboutBot => absurd aboutBot otherIntent⟩
  · intro allows
    rw [if_neg allows.notHigh, if_neg (by simp [allows.harmless]), if_neg allows.notMedium]
    split
    · rename_i aboutBot
      rw [if_pos (by simpa using allows.aboutBot aboutBot)]
    · rw [if_neg (by simp [allows.policy])]

theorem rolesAllow_eq_isAllowedTool_iff {event : BotEvent} {tool : BitBratTool} :
    (rolesAllow tool event.roles = true ↔ isAllowedTool tool none event.session = true) ↔
      AgentsAgree event tool := by
  have agent : event.session.agent = "llm-bot" := by
    show String.ofList (trimBlanks "llm-bot".toList) = "llm-bot"
    decide +kernel
  have roles : (tool.requiredRoles.all fun roles => decide (roles = [] ∨
      (roles.any fun role => event.session.roles.contains (.str role)) = true)) =
        rolesAllow tool event.roles := by
    unfold rolesAllow BotEvent.session
    cases tool.requiredRoles with
    | none => rfl
    | some required =>
      rw [Bool.eq_iff_iff]
      simp
  unfold isAllowedTool isAllowedItem SessionContext.passes SessionContext.isAllowlisted AgentsAgree
  rw [roles, agent]
  cases tool.agentAllowlist with
  | none => simp
  | some agents =>
    by_cases none_ : agents = []
    · simp [none_]
    · by_cases listed : "llm-bot" ∈ agents
      · simp [none_, listed]
      · simp [none_, listed]

/-- The model is handed just the tools that are permitted if and only if, where it is asked, every
permitted tool is visible and the agents of the visible tools that are left agree. -/
theorem toolLaw_iff (env : ProcessorEnv) (gating : env.gatingEnabled = true)
    (filtering : env.toolFilterEnabled = true) (registry : ToolRegistry) (event : BotEvent) :
    ToolLaw env registry event ↔
      (AsksModel env event →
        (∀ tool ∈ registry.values, Permitted (profileOf env event) event tool →
          Visible registry tool) ∧
        ∀ tool, Visible registry tool → InScope event.requestedScope tool →
          ProfileAllows (profileOf env event) tool → AgentsAgree event tool) := by
  obtain ⟨called, asked⟩ := @calls_processEvent env gating registry event
  obtain ⟨sameRoles, sameScope, -⟩ := profiled_frame env event
  -- The loop offers what passes the roles, the scope and the profile.
  have offers_iff (tool : BitBratTool) :
      offers env (profileOf env event) (profiled env event) tool = true ↔
        rolesAllow tool event.roles = true ∧ InScope event.requestedScope tool ∧
          ProfileAllows (profileOf env event) tool := by
    rw [offers, if_pos filtering, Bool.and_eq_true, Bool.and_eq_true, sameRoles, sameScope,
      scopeAllows_iff, eligible_iff, and_assoc]
  have handed_iff (handed : HandedTool) := get?_offerTools env (profileOf env event)
    (profiled env event) registry handed
  constructor
  · intro law asks
    obtain ⟨call, member⟩ := List.exists_mem_of_ne_nil _ (asked asks)
    have same (handed : HandedTool) := law.handed call member handed
    simp only [(called call member).2, handed_iff, offers_iff] at same
    constructor
    · intro tool registered permitted
      obtain ⟨other, visible, -, as⟩ := (same (handTool tool)).mpr
        ⟨tool, registered, permitted, rfl⟩
      -- What is handed names the tool that it executes.
      have : other = tool := (congrArg HandedTool.execute as).symm
      exact this ▸ visible
    · intro tool visible inScope allows
      rw [← rolesAllow_eq_isAllowedTool_iff]
      constructor
      · intro roles
        obtain ⟨other, -, permitted, as⟩ := (same (handTool tool)).mp
          ⟨tool, visible, ⟨roles, inScope, allows⟩, rfl⟩
        have : other = tool := (congrArg HandedTool.execute as).symm
        exact this ▸ permitted.allowed
      · intro allowed
        obtain ⟨other, -, ⟨roles, -, -⟩, as⟩ := (same (handTool tool)).mpr
          ⟨tool, visible.mem, ⟨allowed, inScope, allows⟩, rfl⟩
        have : other = tool := (congrArg HandedTool.execute as).symm
        exact this ▸ roles
  · intro condition
    refine ⟨fun call member handed => ?_, gated_processEvent gating⟩
    obtain ⟨asks, tools⟩ := called call member
    obtain ⟨seen, agree⟩ := condition asks
    simp only [tools, handed_iff, offers_iff]
    constructor
    · rintro ⟨tool, visible, ⟨roles, inScope, allows⟩, as⟩
      have allowed := (rolesAllow_eq_isAllowedTool_iff.mpr
        (agree tool visible inScope allows)).mp roles
      exact ⟨tool, visible.mem, ⟨allowed, inScope, allows⟩, as⟩
    · rintro ⟨tool, registered, permitted, as⟩
      have visible := seen tool registered permitted
      have roles := (rolesAllow_eq_isAllowedTool_iff.mpr
        (agree tool visible permitted.inScope permitted.profile)).mpr permitted.allowed
      exact ⟨tool, visible, ⟨roles, permitted.inScope, permitted.profile⟩, as⟩

/-- A processor with the default flags, for events whose first annotation is the prompt. -/
def exampleProcessor : ProcessorEnv where
  toolFilterEnabled := true
  gatingEnabled := true
  riskResponseMode := .refuse
  toNumber _ := .nan
  contextAnnotations _ := []
  narratorGuidance _ := []
  buildCombinedPrompt annotations := annotations.head?.map fun first => (first.get "value").toText
  assemble _ _ combined :=
    .ok { system := "", user := combined, platform := "openai", model := "gpt-4o" }
  providerError _ := none
  generateText _ := { toolErrors := [], result := .ok "Hello!" }
  uuid count := toString count
  createdAt _ := "2026-01-01T00:00:00.000Z"
  now := "1767225600000"

def exampleBotEvent : BotEvent where
  correlationId := "c-1"
  userId := some "u-1"
  userRoles := some ["viewer"]
  annotations := some [.obj [("kind", .str "prompt"), ("value", .str "Hello")]]

theorem exampleBotEvent_asks : AsksModel exampleProcessor exampleBotEvent :=
  ⟨"Hello", _, rfl, by decide +kernel, rfl, rfl⟩

/-- Two tools with the same name, the first of which is therefore not visible. -/
def shadowedTools : ToolRegistry where
  tools := ⟨[("mcp:obs.scene", { id := "mcp:obs.scene" }),
    ("mcp:obs_scene", { id := "mcp:obs_scene" })], by decide +kernel⟩
  keyed := by decide +kernel

def reservedTools : ToolRegistry where
  tools := ⟨[("internal:purge", { id := "internal:purge", agentAllowlist := some ["analyst"] })],
    by decide +kernel⟩
  keyed := by decide +kernel

def plainTools : ToolRegistry where
  tools := ⟨[("internal:get_time", { id := "internal:get_time" })], by decide +kernel⟩
  keyed := by decide +kernel

/-- A permitted tool is withheld for the sake of its name, and a tool is handed to a bot that is not
among its agents. -/
theorem not_toolLaw : ¬ ToolLaw exampleProcessor shadowedTools exampleBotEvent ∧
    ¬ ToolLaw exampleProcessor reservedTools exampleBotEvent := by
  have called (registry : ToolRegistry) :=
    @calls_processEvent exampleProcessor rfl registry exampleBotEvent
  have allows (tool : BitBratTool) :
      ProfileAllows (profileOf exampleProcessor exampleBotEvent) tool :=
    ⟨by decide +kernel, by decide +kernel, by decide +kernel, by decide +kernel,
      fun aboutBot => absurd aboutBot (by decide +kernel)⟩
  have inScope (tool : BitBratTool) : InScope exampleBotEvent.requestedScope tool :=
    fun requested => absurd requested (by decide +kernel)
  constructor
  · intro law
    obtain ⟨call, member⟩ :=
      List.exists_mem_of_ne_nil _ ((called shadowedTools).2 exampleBotEvent_asks)
    obtain ⟨tool, visible, -, same⟩ := (get?_offerTools _ _ _ _ _).mp
      (((called shadowedTools).1 call member).2 ▸ (law.handed call member _).mpr
        ⟨{ id := "mcp:obs.scene" }, by decide +kernel,
          ⟨by decide +kernel, inScope _, allows _⟩, rfl⟩)
    cases congrArg HandedTool.execute same
    exact absurd visible.2 (by decide +kernel)
  · intro law
    obtain ⟨call, member⟩ :=
      List.exists_mem_of_ne_nil _ ((called reservedTools).2 exampleBotEvent_asks)
    obtain ⟨tool, -, permitted, same⟩ := (law.handed call member
      (handTool { id := "internal:purge", agentAllowlist := some ["analyst"] })).mp
        (((called reservedTools).1 call member).2 ▸ (get?_offerTools _ _ _ _ _).mpr
          ⟨_, ⟨by decide +kernel, by decide +kernel⟩, by decide +kernel, rfl⟩)
    cases congrArg HandedTool.execute same
    exact absurd permitted.allowed (by decide +kernel)

/-- A tool for everyone is handed. -/
theorem toolLaw_plainTools : ToolLaw exampleProcessor plainTools exampleBotEvent := by
  refine (toolLaw_iff exampleProcessor rfl rfl plainTools exampleBotEvent).mpr fun _ => ⟨?_, ?_⟩
  · intro tool registered _
    cases List.mem_singleton.mp registered
    exact ⟨by decide +kernel, by decide +kernel⟩
  · intro tool visible _ _ agents listed
    cases List.mem_singleton.mp visible.mem
    cases listed

end BitBrat
