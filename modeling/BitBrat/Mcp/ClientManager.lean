import BitBrat.Js.OrderedMap
import BitBrat.Mcp.Rbac

/-! Items of one kind that servers list, with the identifiers that each server has registered. -/

namespace BitBrat

open Js

structure ItemKind (ρ α : Type) where
  translate : String → Option (List String) → ρ → α
  id : α → String
  originServer : α → Option String
  origin_translate : ∀ server roles raw, originServer (translate server roles raw) = some server

/-- The registry of one kind of item, and the identifiers registered for each server. -/
structure ItemTable (α : Type) where
  items : OrderedMap String α
  serverItems : OrderedMap String (List String)
  listed : OrderedMap String (OrderedMap String α)

namespace ItemTable

variable {ρ α : Type}

def empty : ItemTable α where
  items := .empty
  serverItems := .empty
  listed := .empty

/-- Register items one after the other: a later one takes the place of an earlier one. -/
def register (id : α → String) (items : OrderedMap String α) (listing : List α) :
    OrderedMap String α :=
  listing.foldl (fun items item => items.set (id item) item) items

def unregister (items : OrderedMap String α) (ids : List String) : OrderedMap String α :=
  ids.foldl (fun items id => items.erase id) items

/-- What a server lists is registered, and its identifiers replace those on record. A listing that
fails, or that the server does not support, changes nothing. -/
def discover (kind : ItemKind ρ α) (table : ItemTable α) (server : String)
    (roles : Option (List String)) : Option (List ρ) → ItemTable α
  | none => table
  | some listing =>
    let translated := listing.map (kind.translate server roles)
    { items := register kind.id table.items translated
      serverItems := table.serverItems.set server (translated.map kind.id)
      listed := table.listed.set server (register kind.id .empty translated) }

def disconnect (table : ItemTable α) (server : String) : ItemTable α where
  items := unregister table.items ((table.serverItems.get? server).getD [])
  serverItems := table.serverItems.erase server
  listed := table.listed.erase server

theorem get?_register (id : α → String) (items : OrderedMap String α) (listing : List α)
    (key : String) : (register id items listing).get? key =
      ((register id .empty listing).get? key).or (items.get? key) := by
  -- Both tables are filled from the front, whatever they hold before.
  have general : ∀ left : OrderedMap String α,
      (register id left listing).get? key =
        (listing.reverse.find? fun item => id item = key).or (left.get? key) := by
    induction listing with
    | nil => simp [register]
    | cons item rest ih =>
      intro left
      have step := ih (left.set (id item) item)
      rw [OrderedMap.get?_set] at step
      rw [register, List.foldl_cons, ← register, step, List.reverse_cons, List.find?_append,
        Option.or_assoc]
      by_cases here : id item = key
      · simp [here]
      · simp [here, Ne.symm here]
  rw [general items, general .empty, OrderedMap.get?_empty, Option.or_none]

theorem isSome_register_empty (id : α → String) (listing : List α) (key : String) :
    ((register id .empty listing).get? key).isSome = true ↔ key ∈ listing.map id := by
  -- The induction registers the first item before the others.
  induction listing with
  | nil => simp [register]
  | cons item rest ih =>
    have first : (register id .empty (item :: rest)).get? key =
        (register id (OrderedMap.empty.set (id item) item) rest).get? key := rfl
    rw [first, get?_register, Option.isSome_or, Bool.or_eq_true, ih, OrderedMap.get?_set,
      List.map_cons, List.mem_cons]
    by_cases here : key = id item
    · simp [here]
    · simp [here]

theorem mem_of_register_empty {id : α → String} {listing : List α} {key : String} {item : α}
    (found : (register id .empty listing).get? key = some item) : item ∈ listing := by
  -- The induction registers the first item before the others, which may replace it.
  induction listing with
  | nil => simp [register] at found
  | cons first rest ih =>
    have split : (register id .empty (first :: rest)).get? key =
        (register id (OrderedMap.empty.set (id first) first) rest).get? key := rfl
    rw [split, get?_register, OrderedMap.get?_set, Option.or_eq_some_iff] at found
    rcases found with later | ⟨_, here⟩
    · exact List.mem_cons_of_mem _ (ih later)
    · split at here
      · cases here
        exact List.mem_cons_self
      · cases here

theorem get?_unregister (items : OrderedMap String α) (ids : List String) (key : String) :
    (unregister items ids).get? key = if key ∈ ids then none else items.get? key := by
  -- The induction takes the identifiers off one after the other.
  induction ids generalizing items with
  | nil => simp [unregister]
  | cons id rest ih =>
    rw [unregister, List.foldl_cons, ← unregister, ih, OrderedMap.get?_erase]
    by_cases later : key ∈ rest
    · simp [later]
    · by_cases here : key = id
      · simp [here]
      · simp [here, later]

end ItemTable

/-! Connections to servers, whose tools, resources and prompts are kept in the registry. -/

def isPlatformToolName (name : String) : Bool :=
  name = "bit" || "bit.".toList.isPrefixOf name.toList

/-- The identifier of a tool: platform tools are qualified by their server, and others are not. -/
def qualifyToolId (serverName name : String) : String :=
  -- A name that already has a prefix gets no other one.
  if "mcp:".toList.isPrefixOf name.toList || "internal:".toList.isPrefixOf name.toList then name
  else if isPlatformToolName name then "mcp:" ++ serverName ++ "/" ++ name
  else "mcp:" ++ name

/-- The schema of a tool's arguments, which is an object schema where none was given. -/
def toolSchema (inputSchema : Value) : Value :=
  match inputSchema with
  | .obj _ =>
    if inputSchema.get "type" = .str "None" then
      inputSchema.extend [("type", .str "object"),
        ("properties", (inputSchema.get "properties").or (.obj []))]
    else inputSchema
  -- These are objects too, without a type of their own.
  | .arr _ | .date _ => inputSchema
  -- A schema that is not an object at all is replaced.
  | _ => .obj [("type", .str "object"), ("properties", .obj [])]

def translateTool (serverName : String) (requiredRoles : Option (List String)) (mcpTool : McpTool) :
    BitBratTool where
  id := qualifyToolId serverName mcpTool.name
  displayName := some mcpTool.name
  description := mcpTool.description
  inputSchema := toolSchema mcpTool.inputSchema
  requiredRoles
  originServer := some serverName
  scopes := mcpTool.scopes

def translateResource (serverName : String) (requiredRoles : Option (List String))
    (mcpResource : McpResource) : BitBratResource where
  uri := mcpResource.uri
  name := mcpResource.name
  description := mcpResource.description
  mimeType := mcpResource.mimeType
  requiredRoles
  originServer := some serverName

def translatePrompt (serverName : String) (requiredRoles : Option (List String))
    (mcpPrompt : McpPrompt) : BitBratPrompt where
  -- Prompts are never qualified by their server.
  id := "mcp:" ++ mcpPrompt.name
  name := mcpPrompt.name
  description := mcpPrompt.description
  arguments := mcpPrompt.arguments
  requiredRoles
  originServer := some serverName

def toolKind : ItemKind McpTool BitBratTool where
  translate := translateTool
  id := BitBratTool.id
  originServer := BitBratTool.originServer
  origin_translate _ _ _ := rfl

def resourceKind : ItemKind McpResource BitBratResource where
  translate := translateResource
  -- A resource goes by its address, which two servers may have in common.
  id := BitBratResource.uri
  originServer := BitBratResource.originServer
  origin_translate _ _ _ := rfl

def promptKind : ItemKind McpPrompt BitBratPrompt where
  translate := translatePrompt
  id := BitBratPrompt.id
  originServer := BitBratPrompt.originServer
  origin_translate _ _ _ := rfl

/-- What a server answers when it is asked what it offers, where a listing can fail. -/
structure Listings where
  tools : Option (List McpTool)
  resources : Option (List McpResource)
  prompts : Option (List McpPrompt)

structure McpClientManager where
  clients : OrderedMap String String := .empty
  tools : ItemTable BitBratTool := .empty
  resources : ItemTable BitBratResource := .empty
  prompts : ItemTable BitBratPrompt := .empty

inductive McpRequest where
  | connectServer (config : McpServerConfig) (signature : String) (connects : Bool)
      (listings : Listings)
  | rediscover (serverName : String) (requiredRoles : Option (List String)) (listings : Listings)
  | disconnectServer (name : String)

def McpServerConfig.isOff (config : McpServerConfig) : Bool :=
  config.transport = some .inactive || config.status = some .inactive

def McpServerConfig.hasAddress (config : McpServerConfig) : Bool :=
  match config.transport with
  | some .sse => config.url.any (· ≠ "")
  | _ => config.command.any (· ≠ "")

namespace McpClientManager

/-- Ask a connected server for its tools, its resources and its prompts. -/
def discover (manager : McpClientManager) (serverName : String)
    (requiredRoles : Option (List String)) (listings : Listings) : McpClientManager :=
  { manager with
    -- Each of the three listings can fail on its own.
    tools := manager.tools.discover toolKind serverName requiredRoles listings.tools
    resources := manager.resources.discover resourceKind serverName requiredRoles
      listings.resources
    prompts := manager.prompts.discover promptKind serverName requiredRoles listings.prompts }

/-- Close a connection, and unregister what is on record for it. -/
def disconnectServer (manager : McpClientManager) (name : String) : McpClientManager where
  clients := manager.clients.erase name
  tools := manager.tools.disconnect name
  resources := manager.resources.disconnect name
  prompts := manager.prompts.disconnect name

/-- Connect to a server, unless it is connected with the same signature. -/
def connectServer (manager : McpClientManager) (config : McpServerConfig) (signature : String)
    (connects : Bool) (listings : Listings) : McpClientManager :=
  -- A connection that was made with the same configuration stands.
  if manager.clients.get? config.name = some signature ∧ config.isOff = false then manager
  else
    -- A changed configuration, or one that is off, closes the old connection.
    let closed := if (manager.clients.get? config.name).isSome then
      manager.disconnectServer config.name else manager
    -- A connection that cannot be made is tried again later.
    if config.isOff ∨ config.hasAddress = false ∨ connects = false then closed
    else
      { closed with clients := closed.clients.set config.name signature }.discover config.name
        config.requiredRoles listings

def rediscover (manager : McpClientManager) (serverName : String)
    (requiredRoles : Option (List String)) (listings : Listings) : McpClientManager :=
  if (manager.clients.get? serverName).isNone then manager
  else manager.discover serverName requiredRoles listings

def step (manager : McpClientManager) : McpRequest → McpClientManager
  | .connectServer config signature connects listings =>
    manager.connectServer config signature connects listings
  | .rediscover serverName requiredRoles listings =>
    manager.rediscover serverName requiredRoles listings
  | .disconnectServer name => manager.disconnectServer name

end McpClientManager

end BitBrat
