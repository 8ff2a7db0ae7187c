import BitBrat.Reflex.PatternMatcher

/-! The admin tools of the reflexes: what they check, and what they store. -/

namespace BitBrat

open Js

inductive PatternMatchType where
  | exact
  | contains
  | prefixed
  | suffixed
  | regex
  deriving DecidableEq

def PatternMatchType.toText : PatternMatchType → String
  | exact => "exact"
  | contains => "contains"
  | prefixed => "prefix"
  | suffixed => "suffix"
  | regex => "regex"

structure PatternMatch where
  type : Option PatternMatchType := none
  pattern : Option String := none
  field : Option String := none
  flags : Option String := none
  caseSensitive : Option Bool := none

structure ReflexCondition where
  eventTypes : Option (List String) := none
  channels : Option (List String) := none
  platforms : Option (List String) := none
  userRoles : Option (List String) := none
  minAuthLevel : Option (Fin 4) := none

abbrev ToolTimeout := { timeout : Nat // 1000 ≤ timeout ∧ timeout ≤ 60000 }

structure ToolInvocation where
  tool : Option String := none
  parameters : Option (List (String × Value)) := none
  timeout : Option ToolTimeout := none

inductive CandidateTemplate where
  | one (template : String)
  | many (templates : List String)

def CandidateTemplate.truthy : CandidateTemplate → Bool
  | one template => template ≠ ""
  | many _ => true

def templateTruthy (candidateTemplate : Option CandidateTemplate) : Bool :=
  candidateTemplate.any CandidateTemplate.truthy

structure Reflex where
  id : String
  name : String
  description : Option String := none
  active : Bool
  priority : Fin 1001
  patternMatch : PatternMatch
  conditions : Option ReflexCondition := none
  action : Option ToolInvocation := none
  candidateTemplate : Option CandidateTemplate := none
  tags : Option (List String) := none
  createdAt : String
  updatedAt : String

structure CreateMatch where
  type : PatternMatchType
  pattern : String
  field : String
  flags : Option String := none
  caseSensitive : Option Bool := none

structure CreateAction where
  tool : String
  parameters : List (String × Value)
  timeout : Option ToolTimeout := none

/-- The arguments of a creation, as its schema lets them through. -/
structure CreateArgs where
  name : String
  description : Option String := none
  active : Option Bool := none
  priority : Option (Fin 1001) := none
  patternMatch : CreateMatch
  conditions : Option ReflexCondition := none
  action : Option CreateAction := none
  candidateTemplate : Option CandidateTemplate := none
  tags : Option (List String) := none

structure UpdateArgs where
  id : String
  name : Option String := none
  description : Option String := none
  active : Option Bool := none
  priority : Option (Fin 1001) := none
  patternMatch : Option PatternMatch := none
  conditions : Option ReflexCondition := none
  action : Option ToolInvocation := none
  candidateTemplate : Option CandidateTemplate := none
  tags : Option (List String) := none

def includes (text part : String) : Bool := text.toList.tails.any part.toList.isPrefixOf

/-- The checks of a pattern: a regex must be safe and compile. -/
def checkRegex (runtime : RegexRuntime) (pattern : String) : Except String Unit :=
  match validateRegexPattern runtime pattern with
  | .ok () => .ok ()
  | .error error => .error ("Invalid regex pattern: " ++ error)

def checkEventTypes (conditions : Option ReflexCondition) : Except String Unit :=
  match (conditions.bind ReflexCondition.eventTypes).getD [] |>.find? fun eventType =>
    includes eventType "twitch." || includes eventType "discord." ||
      includes eventType "platform." with
  -- The first type that names a platform is reported.
  | some eventType =>
    .error ("Invalid event type: \"" ++ eventType ++ "\". Use internal event types (e.g., " ++
      "\"chat.message.v1\", \"chat.command.v1\", \"moderation.action.v1\"), NOT " ++
      "platform-specific types like \"twitch.chat.message\". The platform is already " ++
      "normalized in the event structure.")
  | none => .ok ()

def isToolChar (char : Char) : Bool :=
  ('a' ≤ char && char ≤ 'z') || ('A' ≤ char && char ≤ 'Z') || ('0' ≤ char && char ≤ '9') ||
    char = '_' || char = '-'

/-- A text is a tool name when it is not empty and has no other characters. -/
def isToolName (tool : String) : Bool := tool.toList ≠ [] && tool.toList.all isToolChar

def doubledLead (tool : String) : Bool := "mcp_mcp_".toList.isPrefixOf tool.toList

/-- The checks of a tool name, which an absent or empty one escapes. -/
def checkTool (tool : Option String) : Except String Unit :=
  let name := tool.getD ""
  -- A tool that is missing, or has an empty name, is let through.
  if name = "" then .ok ()
  else if ¬ isToolName name then
    .error ("Invalid tool name format: \"" ++ name ++ "\". Tool names must contain only " ++
      "letters, numbers, underscores, and hyphens. Use the exact tool name as shown in your " ++
      "available tools list.")
  else if doubledLead name then
    .error ("Tool name has double \"mcp_\" prefix: \"" ++ name ++ "\". This usually means the " ++
      "tool is named incorrectly. Tool names from MCP servers are automatically prefixed - use " ++
      "the name exactly as shown in your tools list. Example: If the MCP server provides " ++
      "\"obs-set-scene-item-enabled\", it becomes \"mcp_obs-set-scene-item-enabled\" in your " ++
      "tools list (note: hyphens are preserved, only colons and dots become underscores).")
  else .ok ()

def checkCreate (runtime : RegexRuntime) (args : CreateArgs) : Except String Unit := do
  if args.action.isNone ∧ ¬ templateTruthy args.candidateTemplate then
    .error "Must provide at least one of action or candidateTemplate"
  if args.patternMatch.type = .regex then
    checkRegex runtime args.patternMatch.pattern
  checkEventTypes args.conditions
  checkTool (args.action.map CreateAction.tool)

def checkUpdate (runtime : RegexRuntime) (updates : UpdateArgs) : Except String Unit := do
  let updated := updates.patternMatch.getD {}
  let pattern := updated.pattern.getD ""
  if updated.type = some .regex ∧ pattern ≠ "" then
    checkRegex runtime pattern
  checkEventTypes updates.conditions
  checkTool (updates.action.bind ToolInvocation.tool)

abbrev ReflexStore := OrderedMap String Reflex

structure CallStamp where
  now : Nat
  nowIso : String
  randomText : String

def createdReflex (stamp : CallStamp) (args : CreateArgs) : Reflex where
  id := "reflex-" ++ toString stamp.now ++ "-" ++ stamp.randomText
  name := args.name
  description := args.description
  -- What the schema leaves open takes its default here.
  active := args.active.getD true
  priority := args.priority.getD 100
  patternMatch :=
    { type := some args.patternMatch.type, pattern := some args.patternMatch.pattern
      field := some args.patternMatch.field, flags := args.patternMatch.flags
      caseSensitive := args.patternMatch.caseSensitive }
  conditions := args.conditions
  action := args.action.map fun action =>
    { tool := some action.tool, parameters := some action.parameters, timeout := action.timeout }
  candidateTemplate := args.candidateTemplate
  tags := args.tags
  createdAt := stamp.nowIso
  updatedAt := stamp.nowIso

/-- A stored reflex under an update, which replaces whole fields. -/
def updatedReflex (stamp : CallStamp) (existing : Reflex) (updates : UpdateArgs) : Reflex where
  id := updates.id
  name := updates.name.getD existing.name
  -- A field that the update leaves out keeps its value.
  description := updates.description.or existing.description
  active := updates.active.getD existing.active
  priority := updates.priority.getD existing.priority
  patternMatch := updates.patternMatch.getD existing.patternMatch
  conditions := updates.conditions.or existing.conditions
  action := updates.action.or existing.action
  candidateTemplate := updates.candidateTemplate.or existing.candidateTemplate
  tags := updates.tags.or existing.tags
  createdAt := existing.createdAt
  updatedAt := stamp.nowIso

namespace ReflexRepository

def create (stamp : CallStamp) (args : CreateArgs) (store : ReflexStore) : Reflex × ReflexStore :=
  let document := createdReflex stamp args
  (document, store.set document.id document)

def update (stamp : CallStamp) (updates : UpdateArgs) (store : ReflexStore) :
    Except String (Reflex × ReflexStore) :=
  match store.get? updates.id with
  | none => .error ("Reflex not found: " ++ updates.id)
  | some existing =>
    let updated := updatedReflex stamp existing updates
    .ok (updated, store.set updates.id updated)

def delete (stamp : CallStamp) (id : String) (store : ReflexStore) :
    Except String (Reflex × ReflexStore) :=
  update stamp { id, active := some false } store

end ReflexRepository

structure ToolResult where
  text : String
  isError : Bool := false
  deriving DecidableEq

def flagText (flag : Bool) : String := if flag then "true" else "false"

def reflexCreate (runtime : RegexRuntime) (stamp : CallStamp) (args : CreateArgs)
    (store : ReflexStore) : ToolResult × ReflexStore :=
  match checkCreate runtime args with
  | .error error => ({ text := "Failed to create reflex: " ++ error, isError := true }, store)
  | .ok () =>
    -- Nothing is stored before the arguments have passed their check.
    let created := ReflexRepository.create stamp args store
    let reflex := created.1
    let actionDescription := match args.action with
      | some action => "and execute tool \"" ++ action.tool ++ "\""
      | none => "and generate candidate response (no tool execution)"
    ({ text := "Reflex created successfully:\n\nID: " ++ reflex.id ++ "\nName: " ++ reflex.name ++
        "\nPriority: " ++ toString reflex.priority.val ++ "\nActive: " ++ flagText reflex.active ++
        "\n\nThe reflex will match \"" ++ args.patternMatch.pattern ++ "\" (" ++
        args.patternMatch.type.toText ++ ") in field \"" ++ args.patternMatch.field ++ "\" " ++
        actionDescription ++ "." },
      created.2)

def reflexUpdate (runtime : RegexRuntime) (stamp : CallStamp) (updates : UpdateArgs)
    (store : ReflexStore) : ToolResult × ReflexStore :=
  match (do checkUpdate runtime updates; ReflexRepository.update stamp updates store) with
  | .error error => ({ text := "Failed to update reflex: " ++ error, isError := true }, store)
  | .ok (reflex, after) =>
    ({ text := "Reflex updated successfully:\n\nID: " ++ reflex.id ++ "\nName: " ++ reflex.name ++
        "\nPriority: " ++ toString reflex.priority.val ++ "\nActive: " ++ flagText reflex.active },
      after)

def reflexDelete (stamp : CallStamp) (id : String) (store : ReflexStore) :
    ToolResult × ReflexStore :=
  match ReflexRepository.delete stamp id store with
  | .error error => ({ text := "Failed to delete reflex: " ++ error, isError := true }, store)
  | .ok (reflex, after) =>
    ({ text := "Reflex deleted successfully (soft delete):\n\nID: " ++ reflex.id ++ "\nName: " ++
        reflex.name ++ "\nActive: " ++ flagText reflex.active },
      after)

end BitBrat
