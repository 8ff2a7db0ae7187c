import BitBrat.Js.Text
import BitBrat.Js.Value

/-! Servers of the tool registry, what they offer, and who asks for it. -/

namespace BitBrat

open Js

def stringifyTexts : Value → String
  | .obj fields => "\x7b" ++ String.intercalate "," (fields.map fun field =>
      "\"" ++ field.1 ++ "\":\"" ++ field.2.toText ++ "\"") ++ "\x7d"
  | value => value.toText

inductive McpTransport where
  | stdio
  | sse
  | inactive
  deriving DecidableEq

inductive McpServerStatus where
  | active
  | inactive
  deriving DecidableEq

structure McpServerConfig where
  name : String
  transport : Option McpTransport := none
  url : Option String := none
  command : Option String := none
  args : Option (List String) := none
  env : Option (List (String × String)) := none
  requiredRoles : Option (List String) := none
  toolPrefix : Option String := none
  agentAllowlist : Option (List String) := none
  status : Option McpServerStatus := none
  timeoutMs : Option Nat := none
  failureThreshold : Option Nat := none
  resetTimeoutMs : Option Nat := none
  deriving DecidableEq

/-- Who a request comes from, as far as its headers and metadata tell. -/
structure SessionContext where
  userId : Value := .undefined
  roles : List Value := []
  agentName : Option String := none
  deriving DecidableEq

structure BitBratTool where
  id : String
  displayName : Option String := none
  description : Option String := none
  inputSchema : Value := .undefined
  requiredRoles : Option (List String) := none
  agentAllowlist : Option (List String) := none
  /-- The server that offers the tool, if it is not the gateway itself. -/
  originServer : Option String := none
  scopes : Option (List String) := none
  deriving DecidableEq

structure BitBratResource where
  uri : String
  name : String
  description : Option String := none
  mimeType : Option String := none
  requiredRoles : Option (List String) := none
  originServer : Option String := none
  deriving DecidableEq

structure BitBratPrompt where
  id : String
  name : String
  description : Option String := none
  arguments : Value := .undefined
  requiredRoles : Option (List String) := none
  originServer : Option String := none
  deriving DecidableEq

structure McpTool where
  name : String
  description : Option String := none
  inputSchema : Value := .undefined
  scopes : Option (List String) := none
  deriving DecidableEq

structure McpResource where
  uri : String
  name : String
  description : Option String := none
  mimeType : Option String := none
  deriving DecidableEq

structure McpPrompt where
  name : String
  description : Option String := none
  arguments : Value := .undefined
  deriving DecidableEq

/-! Who may use a server, and what it offers. -/

/-- The agent of a context, without the blanks around its name. -/
def SessionContext.agent (context : SessionContext) : String :=
  String.ofList (trimBlanks (context.agentName.getD "").toList)

def SessionContext.isAllowlisted (context : SessionContext)
    (agentAllowlist : Option (List String)) : Bool :=
  agentAllowlist.any (·.contains context.agent)

/-- An agent that is listed is trusted, and any other needs a role where roles are required, and
is turned away where agents are listed. -/
def SessionContext.passes (context : SessionContext)
    (requiredRoles agentAllowlist : Option (List String)) : Bool :=
  if context.isAllowlisted agentAllowlist then true
  else
    -- No roles, or an empty list of them, let everyone in.
    let hasAny := requiredRoles.all fun roles =>
      roles = [] ∨ roles.any fun role => context.roles.contains (.str role)
    -- Who is not on a list of agents that is not empty stays outside.
    hasAny && agentAllowlist.all (· = [])

def isAllowedServer (config : McpServerConfig) (context : SessionContext) : Bool :=
  context.passes config.requiredRoles config.agentAllowlist

/-- Whether a context may use an item of a server, by the policies of both. -/
def isAllowedItem (requiredRoles agentAllowlist : Option (List String))
    (serverConfig : Option McpServerConfig) (context : SessionContext) : Bool :=
  -- An agent that the server lists is not held to the policy of the item.
  if serverConfig.any fun config => context.isAllowlisted config.agentAllowlist then true
  else if serverConfig.any fun config => !isAllowedServer config context then false
  else context.passes requiredRoles agentAllowlist

def isAllowedTool (tool : BitBratTool) (serverConfig : Option McpServerConfig)
    (context : SessionContext) : Bool :=
  isAllowedItem tool.requiredRoles tool.agentAllowlist serverConfig context

end BitBrat
