import BitBrat.Machine.Run
import BitBrat.Mcp.ClientManager
import BitBrat.Mcp.ItemConsistency

/-! What the registry holds, next to what the connected servers have listed last. -/

namespace BitBrat

open Js Machine

def McpRequest.server : McpRequest → String
  | .connectServer config _ _ _ => config.name
  | .rediscover serverName _ _ => serverName
  | .disconnectServer name => name

namespace McpClientManager

/-- The registry holds exactly what the connected servers have listed last, and a request for one
server has left what the others have in it. -/
structure RegistryLaw (before : McpClientManager) (request : McpRequest)
    (after : McpClientManager) : Prop where
  tools : ItemTable.Law after.clients before.tools after.tools request.server
  resources : ItemTable.Law after.clients before.resources after.resources request.server
  prompts : ItemTable.Law after.clients before.prompts after.prompts request.server

structure SharesNothing (manager : McpClientManager) (serverName : String)
    (requiredRoles : Option (List String)) (listings : Listings) : Prop where
  tools : ItemTable.NothingShared toolKind manager.tools serverName requiredRoles listings.tools
  resources : ItemTable.NothingShared resourceKind manager.resources serverName requiredRoles
    listings.resources
  prompts : ItemTable.NothingShared promptKind manager.prompts serverName requiredRoles
    listings.prompts

/-- No item that the server has listed is missing from its listings. -/
structure MissesNothing (manager : McpClientManager) (serverName : String)
    (requiredRoles : Option (List String)) (listings : Listings) : Prop where
  tools : ItemTable.NothingGone toolKind manager.tools serverName requiredRoles listings.tools
  resources : ItemTable.NothingGone resourceKind manager.resources serverName requiredRoles
    listings.resources
  prompts : ItemTable.NothingGone promptKind manager.prompts serverName requiredRoles
    listings.prompts

def ListingFits (manager : McpClientManager) : McpRequest → Prop
  | .connectServer config signature connects listings =>
    -- Nothing is listed for a connection that stands, and for one that is not made.
    ¬(manager.clients.get? config.name = some signature ∧ config.isOff = false) →
      config.isOff = false → config.hasAddress = true → connects = true →
        manager.SharesNothing config.name config.requiredRoles listings
  | .rediscover serverName requiredRoles listings =>
    (manager.clients.get? serverName).isSome = true →
      manager.SharesNothing serverName requiredRoles listings ∧
        manager.MissesNothing serverName requiredRoles listings
  | .disconnectServer _ => True

structure Tracks (manager : McpClientManager) : Prop where
  tools : ItemTable.Tracks toolKind manager.clients manager.tools
  resources : ItemTable.Tracks resourceKind manager.clients manager.resources
  prompts : ItemTable.Tracks promptKind manager.clients manager.prompts

section

variable {manager : McpClientManager}

theorem Tracks.disconnectServer (tracks : manager.Tracks) (name : String) :
    (manager.disconnectServer name).Tracks :=
  ⟨tracks.tools.disconnect name, tracks.resources.disconnect name, tracks.prompts.disconnect name⟩

private theorem Tracks.unchanged_law (tracks : manager.Tracks) (request : McpRequest) :
    RegistryLaw manager request manager :=
  ⟨tracks.tools.law fun _ _ => rfl, tracks.resources.law fun _ _ => rfl,
    tracks.prompts.law fun _ _ => rfl⟩

private theorem Tracks.disconnect_law (tracks : manager.Tracks) {request : McpRequest}
    {name : String} (own : request.server = name) :
    RegistryLaw manager request (manager.disconnectServer name) := by
  -- The other servers' listings are as they were, in all three tables.
  subst own
  have after := tracks.disconnectServer request.server
  exact ⟨after.tools.law fun other apart => by
      rw [McpClientManager.disconnectServer, ItemTable.get?_listed_disconnect, if_neg apart],
    after.resources.law fun other apart => by
      rw [McpClientManager.disconnectServer, ItemTable.get?_listed_disconnect, if_neg apart],
    after.prompts.law fun other apart => by
      rw [McpClientManager.disconnectServer, ItemTable.get?_listed_disconnect, if_neg apart]⟩

theorem Tracks.discover (tracks : manager.Tracks) {serverName : String}
    {requiredRoles : Option (List String)} {listings : Listings} {before : McpClientManager}
    {request : McpRequest} (there : (manager.clients.get? serverName).isSome = true)
    (law : RegistryLaw before request (manager.discover serverName requiredRoles listings)) :
    (manager.discover serverName requiredRoles listings).Tracks :=
  ⟨tracks.tools.discover there law.tools.exact, tracks.resources.discover there law.resources.exact,
    tracks.prompts.discover there law.prompts.exact⟩

theorem connectServer_cases (manager : McpClientManager) (config : McpServerConfig)
    (signature : String) (connects : Bool) (listings : Listings) :
    let asked := ¬(manager.clients.get? config.name = some signature ∧ config.isOff = false) ∧
      config.isOff = false ∧ config.hasAddress = true ∧ connects = true
    (¬ asked ∧ (manager.connectServer config signature connects listings = manager ∨
        manager.connectServer config signature connects listings =
          manager.disconnectServer config.name)) ∨
      (asked ∧ (manager.clients.get? config.name).isSome = true ∧
        manager.connectServer config signature connects listings =
          { manager.disconnectServer config.name with
            clients := (manager.clients.erase config.name).set config.name signature }.discover
              config.name config.requiredRoles listings) ∨
      (asked ∧ manager.clients.get? config.name = none ∧
        manager.connectServer config signature connects listings =
          { manager with clients := manager.clients.set config.name signature }.discover
            config.name config.requiredRoles listings) := by
  -- The cases are those of the code: an unchanged connection, none made, and a new one.
  intro asked
  unfold connectServer
  by_cases stands : manager.clients.get? config.name = some signature ∧ config.isOff = false
  · rw [if_pos stands]
    exact .inl ⟨fun asked => asked.1 stands, .inl rfl⟩
  · rw [if_neg stands]
    by_cases made : config.isOff = true ∨ config.hasAddress = false ∨ connects = false
    · -- The old connection is closed in any case.
      have unasked : ¬ asked := by
        rintro ⟨_, on, address, connected⟩
        simp [on, address, connected] at made
      simp only [if_pos made]
      split
      · exact .inl ⟨unasked, .inr rfl⟩
      · exact .inl ⟨unasked, .inl rfl⟩
    · -- The server is asked, over a connection that is new.
      have asks : asked := by
        simp only [not_or, Bool.not_eq_true, Bool.not_eq_false] at made
        exact ⟨stands, made⟩
      simp only [if_neg made]
      cases there : manager.clients.get? config.name with
      | none => exact .inr (.inr ⟨asks, rfl, rfl⟩)
      | some previous => exact .inr (.inl ⟨asks, rfl, rfl⟩)

private theorem Tracks.step_law_iff (tracks : manager.Tracks) (request : McpRequest) :
    RegistryLaw manager request (manager.step request) ↔ manager.ListingFits request := by
  -- A request that asks no server keeps the law, and one that does keeps it in each table.
  cases request with
  | disconnectServer name =>
    exact iff_of_true (tracks.disconnect_law rfl) trivial
  | rediscover serverName requiredRoles listings =>
    simp only [step, rediscover, ListingFits]
    cases there : manager.clients.get? serverName with
    | none =>
      exact iff_of_true (tracks.unchanged_law _) fun connected => by cases connected
    | some signature =>
      have connected : (manager.clients.get? serverName).isSome = true := by rw [there]; rfl
      have tools := tracks.tools.discover_law_iff connected requiredRoles listings.tools
      have resources := tracks.resources.discover_law_iff connected requiredRoles
        listings.resources
      have prompts := tracks.prompts.discover_law_iff connected requiredRoles listings.prompts
      constructor
      · intro law _
        exact ⟨⟨(tools.mp law.tools).1, (resources.mp law.resources).1, (prompts.mp law.prompts).1⟩,
          ⟨(tools.mp law.tools).2, (resources.mp law.resources).2, (prompts.mp law.prompts).2⟩⟩
      · intro fits
        obtain ⟨shares, misses⟩ := fits rfl
        exact ⟨tools.mpr ⟨shares.tools, misses.tools⟩,
          resources.mpr ⟨shares.resources, misses.resources⟩,
          prompts.mpr ⟨shares.prompts, misses.prompts⟩⟩
  | connectServer config signature connects listings =>
    simp only [step, ListingFits]
    rcases connectServer_cases manager config signature connects listings with
      ⟨unasked, same | closed⟩ | ⟨asked, there, made⟩ | ⟨asked, absent, made⟩
    · -- A connection that stands is left alone.
      rw [same]
      exact iff_of_true (tracks.unchanged_law _) fun stands on address connected =>
        absurd ⟨stands, on, address, connected⟩ unasked
    · rw [closed]
      exact iff_of_true (tracks.disconnect_law rfl) fun stands on address connected =>
        absurd ⟨stands, on, address, connected⟩ unasked
    · -- The server is connected anew, after its old connection was closed.
      rw [made]
      constructor
      · intro law _ _ _ _
        exact ⟨(tracks.tools.reconnect_law_iff ..).mp law.tools,
          (tracks.resources.reconnect_law_iff ..).mp law.resources,
          (tracks.prompts.reconnect_law_iff ..).mp law.prompts⟩
      · intro fits
        have shares := fits asked.1 asked.2.1 asked.2.2.1 asked.2.2.2
        exact ⟨(tracks.tools.reconnect_law_iff ..).mpr shares.tools,
          (tracks.resources.reconnect_law_iff ..).mpr shares.resources,
          (tracks.prompts.reconnect_law_iff ..).mpr shares.prompts⟩
    · -- The server is connected for the first time.
      rw [made]
      constructor
      · intro law _ _ _ _
        exact ⟨(tracks.tools.connect_law_iff absent ..).mp law.tools,
          (tracks.resources.connect_law_iff absent ..).mp law.resources,
          (tracks.prompts.connect_law_iff absent ..).mp law.prompts⟩
      · intro fits
        have shares := fits asked.1 asked.2.1 asked.2.2.1 asked.2.2.2
        exact ⟨(tracks.tools.connect_law_iff absent ..).mpr shares.tools,
          (tracks.resources.connect_law_iff absent ..).mpr shares.resources,
          (tracks.prompts.connect_law_iff absent ..).mpr shares.prompts⟩

theorem Tracks.step (tracks : manager.Tracks) {request : McpRequest}
    (law : RegistryLaw manager request (manager.step request)) :
    (manager.step request).Tracks := by
  cases request with
  | disconnectServer name => exact tracks.disconnectServer name
  | rediscover serverName requiredRoles listings =>
    simp only [McpClientManager.step, rediscover] at law ⊢
    split
    · exact tracks
    · rename_i connected
      rw [if_neg connected] at law
      exact tracks.discover (Option.isSome_iff_ne_none.mpr (by simpa using connected)) law
  | connectServer config signature connects listings =>
    simp only [McpClientManager.step] at law ⊢
    rcases connectServer_cases manager config signature connects listings with
      ⟨_, same | closed⟩ | ⟨_, _, made⟩ | ⟨_, _, made⟩
    · rw [same]
      exact tracks
    · rw [closed]
      exact tracks.disconnectServer config.name
    · -- The server is connected anew, after its old connection was closed.
      rw [made] at law ⊢
      have closed := tracks.disconnectServer config.name
      exact Tracks.discover ⟨closed.tools.set config.name signature,
        closed.resources.set config.name signature, closed.prompts.set config.name signature⟩
        (by simp) law
    · rw [made] at law ⊢
      exact Tracks.discover ⟨tracks.tools.set config.name signature,
        tracks.resources.set config.name signature, tracks.prompts.set config.name signature⟩
        (by simp) law

end

end McpClientManager

/-- The registry is exact after every request exactly when every listing fits it. -/
theorem registryLaw_along_iff (requests : List McpRequest) :
    Along McpClientManager.step
        (fun manager request => manager.RegistryLaw request (manager.step request)) {} requests ↔
      Along McpClientManager.step McpClientManager.ListingFits {} requests := by
  have initial : McpClientManager.Tracks {} :=
    ⟨⟨ItemTable.sound_empty, fun _ _ lists => by cases lists⟩,
      ⟨ItemTable.sound_empty, fun _ _ lists => by cases lists⟩,
      ⟨ItemTable.sound_empty, fun _ _ lists => by cases lists⟩⟩
  -- The condition is the law itself, as long as the registry tracks the connected servers.
  exact along_congr McpClientManager.Tracks
    (fun _ request tracks fits => tracks.step ((tracks.step_law_iff request).mpr fits))
    (fun _ request tracks => tracks.step_law_iff request) initial requests

/-- A tool that a server does not list any more stays in the registry. -/
theorem vanished_tool_stays :
    ¬ ∀ requests : List McpRequest, Along McpClientManager.step
      (fun manager request => manager.RegistryLaw request (manager.step request)) {} requests := by
  intro exact_always
  let obs : McpServerConfig := { name := "obs", command := some "obs-mcp" }
  let both : Listings :=
    { tools := some [{ name := "start_stream" }, { name := "stop_stream" }]
      resources := some [], prompts := some [] }
  let one : Listings :=
    { tools := some [{ name := "start_stream" }], resources := some [], prompts := some [] }
  let manager := run McpClientManager.step {}
    [.connectServer obs "obs-mcp" true both, .rediscover "obs" none one]
  have law := (exact_always [.connectServer obs "obs-mcp" true both,
    .rediscover "obs" none one]).2.1
  have stays : manager.tools.items.get? "mcp:stop_stream" =
      some (translateTool "obs" none { name := "stop_stream" }) := by decide +kernel
  obtain ⟨server, listing, _, lists, found⟩ := (law.tools.exact _ _).mp stays
  -- No listing has the tool.
  have unlisted : ∀ entry ∈ manager.tools.listed.entries,
      entry.2.get? "mcp:stop_stream" = none := by decide +kernel
  rw [unlisted (server, listing) (mem_of_lookup lists)] at found
  cases found

end BitBrat
