import BitBrat.Mcp.ServerConnection

/-! What is connected once all is settled: at most one client, with the configuration asked for. -/

namespace BitBrat

open Machine

namespace ServerConnection

structure Agreement (env : String → Option String) (connection : ServerConnection) : Prop where
  atMostOne : connection.live.length ≤ 1
  disconnected : connection.lastRequest = none →
    connection.live = [] ∧ connection.reconnectTimer = none
  /-- What is connected, or going to be, has the configuration that was asked for last. -/
  current : ∀ target, connection.lastRequest = some target →
    (∀ client ∈ connection.live, client.2 = target.connectionSignature env) ∧
      ∀ config, connection.reconnectTimer = some config →
        config.connectionSignature env = target.connectionSignature env
  off : ∀ target, connection.lastRequest = some target → target.isOff = true →
    connection.live = [] ∧ connection.reconnectTimer = none
  /-- A server that is to be connected is connected, or going to be. -/
  kept : ∀ target, connection.lastRequest = some target → target.isOff = false →
    connection.live ≠ [] ∨ connection.reconnectTimer.isSome

/-- An attempt that fails at once leaves no timer that was set for something else. -/
def FailsInOrder (env : String → Option String) (connection : ServerConnection)
    (config : McpServerConfig) : Prop :=
  config.isOff = false → config.hasAddress = false → connection.RetryCurrent env

instance (env : String → Option String) (connection : ServerConnection)
    (config : McpServerConfig) : Decidable (connection.FailsInOrder env config) :=
  inferInstanceAs (Decidable (_ → _ → _))

/-- What comes back was not superseded in the meantime, and no other client is in its way. -/
def InOrder (env : String → Option String) (connection : ServerConnection) :
    ConnectionInput → Prop
  | .connectServer config => connection.client = none →
      FailsInOrder env { connection with lastRequest := some config } config
  | .closed index => ∀ closing ∈ connection.closing[index]?,
      ∀ client ∈ connection.client, client = closing.client
  | .resume index => ∀ config ∈ connection.resuming[index]?, connection.Wanted env config ∧
      FailsInOrder env { connection with resuming := connection.resuming.eraseIdx index } config
  | .connected index true => ∀ config ∈ connection.connecting[index]?,
      connection.client = none ∧ connection.Wanted env config
  | .connected index false => index < connection.connecting.length →
      RetryCurrent env { connection with connecting := connection.connecting.eraseIdx index }
  | .fireTimer => ∀ config ∈ connection.reconnectTimer, connection.Wanted env config
  | .disconnectServer | .monitor => True

instance : ∀ env connection input, Decidable (InOrder env connection input)
  | env, connection, .connectServer config => inferInstanceAs (Decidable
      (connection.client = none →
        FailsInOrder env { connection with lastRequest := some config } config))
  | _, connection, .closed index => inferInstanceAs (Decidable
      (∀ closing ∈ connection.closing[index]?, ∀ client ∈ connection.client,
        client = closing.client))
  | env, connection, .resume index => inferInstanceAs (Decidable
      (∀ config ∈ connection.resuming[index]?, connection.Wanted env config ∧
        FailsInOrder env { connection with resuming := connection.resuming.eraseIdx index }
          config))
  | env, connection, .connected index true => inferInstanceAs (Decidable
      (∀ config ∈ connection.connecting[index]?,
        connection.client = none ∧ connection.Wanted env config))
  | env, connection, .connected index false => inferInstanceAs (Decidable
      (index < connection.connecting.length →
        RetryCurrent env { connection with connecting := connection.connecting.eraseIdx index }))
  | env, connection, .fireTimer => inferInstanceAs (Decidable
      (∀ config ∈ connection.reconnectTimer, connection.Wanted env config))
  | _, _, .disconnectServer => inferInstanceAs (Decidable True)
  | _, _, .monitor => inferInstanceAs (Decidable True)

/-- The connection that is up, with nothing that would take it down. -/
structure Healthy (connection : ServerConnection) (client : Nat)
    (signature : ConnectionSignature) : Prop where
  recorded : connection.client = some client
  signed : connection.connectedSignature = some signature
  live : connection.live = [(client, signature)]
  timer : connection.reconnectTimer = none
  staying : ∀ closing ∈ connection.closing, closing.client ≠ client

/-- What is on record is what is connected, whatever was asked for. -/
structure Tracked (connection : ServerConnection) : Prop where
  registered : connection.live.map Prod.fst = connection.client.toList
  timerOn : ∀ config, connection.reconnectTimer = some config → config.isOff = false
  healthy : connection.status = some .connected →
    ∃ client signature, connection.Healthy client signature
  clientOpened : ∀ client, connection.client = some client → client < connection.opened
  closingOpened : ∀ closing ∈ connection.closing, closing.client < connection.opened
  /-- Nothing that is switched off is connected, or going to be. -/
  connectingOn : ∀ config ∈ connection.connecting, config.isOff = false
  liveOn : ∀ client ∈ connection.live, client.2.isOff = false

/-- What is on record or under way is for what was asked for last. -/
structure Faithful (env : String → Option String) (connection : ServerConnection) : Prop where
  live : ∀ client ∈ connection.live, (∃ closing ∈ connection.closing, closing.client = client.1) ∨
    connection.lastRequest.map (McpServerConfig.connectionSignature env) = some client.2
  config : ∀ config, connection.serverConfig = some config → connection.Wanted env config
  retry : connection.RetryCurrent env
  remembered : connection.lastRequest.isSome →
    connection.serverConfig.isSome ∨ connection.Restarting

/-- Where the server is to be connected, it is connected or something is going to connect it. -/
def Kept (connection : ServerConnection) : Prop :=
  ∀ target, connection.lastRequest = some target → target.isOff = false →
    connection.reconnectTimer.isSome ∨ connection.Attempting ∨
      ∃ client ∈ connection.live, ∀ closing ∈ connection.closing, closing.client ≠ client.1

structure Follows (env : String → Option String) (connection : ServerConnection) : Prop where
  tracked : connection.Tracked
  faithful : connection.Faithful env
  kept : connection.Kept

section

variable {env : String → Option String} {connection : ServerConnection}
variable {config target : McpServerConfig}

private theorem Wanted.signature_eq (wanted : connection.Wanted env config)
    (request : connection.lastRequest = some target) :
    config.connectionSignature env = target.connectionSignature env := by
  rw [Wanted, request, Option.map_some] at wanted
  exact (Option.some.inj wanted).symm

theorem not_wanted_of_none (request : connection.lastRequest = none) :
    ¬ connection.Wanted env config := by
  rw [Wanted, request]
  exact nofun

theorem unset_timer :
    ∀ config : McpServerConfig, none = some config → config.isOff = false :=
  fun config set => absurd set.symm (Option.some_ne_none config)

theorem Tracked.down (tracked : connection.Tracked) {status : Option ConnectionStatus}
    (down : status ≠ some .connected) {reconnectTimer : Option McpServerConfig}
    (on : ∀ config, reconnectTimer = some config → config.isOff = false)
    (serverConfig : Option McpServerConfig) (connectedSignature : Option ConnectionSignature) :
    Tracked { connection with status, reconnectTimer, serverConfig, connectedSignature } where
  registered := tracked.registered
  timerOn := on
  healthy up := absurd up down
  clientOpened := tracked.clientOpened
  closingOpened := tracked.closingOpened
  connectingOn := tracked.connectingOn
  liveOn := tracked.liveOn

theorem Tracked.change (tracked : connection.Tracked)
    (serverConfig lastRequest : Option McpServerConfig) (resuming : List McpServerConfig)
    {connecting : List McpServerConfig}
    (attempts : ∀ config ∈ connecting, config ∈ connection.connecting) :
    Tracked { connection with serverConfig, lastRequest, resuming, connecting } where
  registered := tracked.registered
  timerOn := tracked.timerOn
  healthy up := by
    obtain ⟨client, signature, healthy⟩ := tracked.healthy up
    exact ⟨client, signature, healthy.recorded, healthy.signed, healthy.live, healthy.timer,
      healthy.staying⟩
  clientOpened := tracked.clientOpened
  closingOpened := tracked.closingOpened
  connectingOn config member := tracked.connectingOn config (attempts config member)
  liveOn := tracked.liveOn

theorem scheduleReconnect_cases (connection : ServerConnection) :
    connection.scheduleReconnect = connection ∧
        (connection.reconnectTimer.isSome ∨
          ∀ config, connection.serverConfig = some config → config.isOff = true) ∨
      ∃ config, connection.serverConfig = some config ∧ config.isOff = false ∧
        connection.scheduleReconnect = { connection with reconnectTimer := some config } := by
  unfold scheduleReconnect
  split
  · -- Nothing is remembered.
    rename_i none
    exact .inl ⟨rfl, .inr fun config some => by rw [none] at some; cases some⟩
  · rename_i config remembered
    split
    · rename_i off
      refine .inl ⟨rfl, .inr fun other some => ?_⟩
      rw [remembered] at some
      exact Option.some.inj some ▸ off
    · rename_i on
      split
      · rename_i timer
        exact .inl ⟨rfl, .inl timer⟩
      · exact .inr ⟨config, remembered, Bool.eq_false_iff.mpr on, rfl⟩

theorem follows_scheduleReconnect (tracked : connection.Tracked)
    (faithful : connection.Faithful env) (down : connection.status ≠ some .connected) :
    connection.scheduleReconnect.Follows env := by
  rcases scheduleReconnect_cases connection with ⟨same, why⟩ | ⟨config, remembered, on, equation⟩
  · -- No timer was set, for one is there or the server is off.
    rw [same]
    refine ⟨tracked, faithful, fun target request targetOn => ?_⟩
    rcases why with timer | off
    · exact .inl timer
    · -- What is remembered has the signature of the request, which is on.
      rcases faithful.remembered (by rw [request]; rfl) with remembered | restarting
      · obtain ⟨config, remembered⟩ := Option.isSome_iff_exists.mp remembered
        have sameOff := isOff_eq_of_signature env
          ((faithful.config config remembered).signature_eq request)
        rw [off config remembered, targetOn] at sameOff
        cases sameOff
      · exact .inr (.inl (.inr restarting))
  · -- The timer is set for what is remembered, which is wanted.
    rw [equation]
    have set : ∀ other, some config = some other → other.isOff = false :=
      fun other same => Option.some.inj same ▸ on
    refine ⟨tracked.down down set .., ⟨faithful.live, faithful.config, .inl ?_,
      faithful.remembered⟩, fun target request targetOn => .inl rfl⟩
    intro other some
    rw [Option.mem_some_iff] at some
    exact some ▸ faithful.config config remembered

theorem follows_connectFailed (tracked : connection.Tracked)
    (faithful : connection.Faithful env) : connection.connectFailed.Follows env := by
  have down : some ConnectionStatus.error ≠ some .connected := by decide
  exact follows_scheduleReconnect (tracked.down down tracked.timerOn ..)
    ⟨faithful.live, faithful.config, faithful.retry, faithful.remembered⟩ down

theorem attempt_cases (connection : ServerConnection) (config : McpServerConfig) :
    (config.isOff = true ∧ connection.attempt config =
        { connection with status := some .connecting, reconnectTimer := none }) ∨
      (config.isOff = false ∧ config.hasAddress = false ∧ connection.attempt config =
        connectFailed { connection with status := some .connecting }) ∨
      (config.isOff = false ∧ connection.attempt config =
        { connection with
          status := some .connecting, connecting := connection.connecting ++ [config] }) := by
  cases off : config.isOff with
  | true => exact .inl ⟨rfl, by simp [attempt, off]⟩
  | false =>
    cases address : config.hasAddress with
    | false => exact .inr (.inl ⟨rfl, rfl, by simp [attempt, off, address]⟩)
    | true => exact .inr (.inr ⟨rfl, by simp [attempt, off, address]⟩)

theorem follows_attempt (tracked : connection.Tracked)
    (live : ∀ client ∈ connection.live,
      (∃ closing ∈ connection.closing, closing.client = client.1) ∨
        connection.lastRequest.map (McpServerConfig.connectionSignature env) = some client.2)
    (remembered : connection.serverConfig = some config) (wanted : connection.Wanted env config)
    (fails : connection.FailsInOrder env config) :
    (connection.attempt config).Follows env := by
  have configured : ∀ other, connection.serverConfig = some other →
      connection.Wanted env other := by
    intro other some
    rw [remembered] at some
    exact Option.some.inj some ▸ wanted
  have present : connection.serverConfig.isSome := by rw [remembered]; rfl
  have down : some ConnectionStatus.connecting ≠ some .connected := by decide
  rcases attempt_cases connection config with ⟨off, equation⟩ | ⟨on, missing, equation⟩ |
    ⟨on, equation⟩
  · -- The server is switched off, and so is the request.
    rw [equation]
    refine ⟨tracked.down down unset_timer .., ⟨live, configured,
      .inl fun other set => absurd set (Option.not_mem_none other), fun _ => .inl present⟩, ?_⟩
    intro target request on
    rw [← isOff_eq_of_signature env (wanted.signature_eq request), off] at on
    cases on
  · -- The address is missing, so that the attempt fails at once.
    rw [equation]
    exact follows_connectFailed (tracked.down down tracked.timerOn ..)
      ⟨live, configured, fails on missing, fun _ => .inl present⟩
  · -- The attempt is under way.
    have attempting : Attempting { connection with
        status := some .connecting, connecting := connection.connecting ++ [config] } :=
      .inl (List.append_ne_nil_of_right_ne_nil _ (List.cons_ne_nil _ _))
    rw [equation]
    refine ⟨⟨tracked.registered, tracked.timerOn, fun up => absurd up down,
      tracked.clientOpened, tracked.closingOpened, ?_, tracked.liveOn⟩,
      ⟨live, configured, .inr attempting, fun _ => .inl present⟩,
      fun _ _ _ => .inr (.inl attempting)⟩
    intro other member
    rcases List.mem_append.mp member with earlier | last
    · exact tracked.connectingOn other earlier
    · rw [List.mem_singleton.mp last]
      exact on

private theorem Tracked.client_eq (tracked : connection.Tracked)
    {client : Nat × ConnectionSignature} (connected : client ∈ connection.live) :
    connection.client = some client.1 := by
  have recorded : client.1 ∈ connection.client.toList :=
    tracked.registered ▸ List.mem_map_of_mem connected
  exact Option.mem_toList.mp recorded

private theorem Tracked.live_eq_nil (tracked : connection.Tracked)
    (unrecorded : connection.client = none) : connection.live = [] := by
  have none := tracked.registered
  rw [unrecorded] at none
  exact List.map_eq_nil_iff.mp none

theorem follows_beginDisconnect (tracked : connection.Tracked) {client : Nat}
    (recorded : connection.client = some client) {andThen : Option McpServerConfig}
    (goesOn : connection.lastRequest.isSome → andThen.isSome) :
    Follows env { connection.beginDisconnect with
      closing := connection.closing ++ [{ client, andThen }] } := by
  have added : (⟨client, andThen⟩ : ClosingClient) ∈ connection.closing ++ [⟨client, andThen⟩] :=
    List.mem_append_right _ (List.mem_singleton_self _)
  have down : some ConnectionStatus.disconnected ≠ some .connected := by decide
  refine ⟨⟨tracked.registered, unset_timer, fun up => absurd up down, tracked.clientOpened, ?_,
    tracked.connectingOn, tracked.liveOn⟩, ⟨?_, ?_, ?_, ?_⟩, ?_⟩
  · -- The client that is being closed now was opened before.
    intro closing member
    rcases List.mem_append.mp member with earlier | last
    · exact tracked.closingOpened closing earlier
    · rw [List.mem_singleton.mp last]
      exact tracked.clientOpened client recorded
  · -- What is connected is the client on record, and that is being closed.
    intro live connected
    have same := tracked.client_eq connected
    rw [recorded] at same
    exact .inl ⟨_, added, Option.some.inj same⟩
  · exact fun config set => absurd set.symm (Option.some_ne_none config)
  · exact .inl fun config set => absurd set (Option.not_mem_none config)
  · exact fun asked => .inr (.inr ⟨_, added, goesOn asked⟩)
  · intro target request _
    have asked : connection.lastRequest.isSome := Option.isSome_iff_exists.mpr ⟨target, request⟩
    exact .inr (.inl (.inr (.inr ⟨_, added, goesOn asked⟩)))

theorem follows_connectServer (tracked : connection.Tracked)
    (wanted : connection.Wanted env config)
    (fails : connection.client = none → connection.FailsInOrder env config) :
    (connectServer env connection config).Follows env := by
  unfold connectServer
  split
  · -- The connection is healthy and has the wanted signature, so that it stays.
    rename_i skipped
    obtain ⟨health, same, _⟩ := skipped
    have up : connection.status = some .connected :=
      of_decide_eq_true (Bool.and_eq_true_iff.mp health).2
    obtain ⟨client, signature, healthy⟩ := tracked.healthy up
    rw [healthy.signed] at same
    refine ⟨tracked.change _ _ _ fun _ => id, ⟨?_, ?_, ?_, fun _ => .inl rfl⟩, ?_⟩
    · intro live connected
      change live ∈ connection.live at connected
      rw [healthy.live, List.mem_singleton] at connected
      refine .inr (wanted.trans ?_)
      rw [connected, same]
    · intro other set
      exact Option.some.inj set ▸ wanted
    · refine .inl fun other set => ?_
      change connection.reconnectTimer = some other at set
      rw [healthy.timer] at set
      cases set
    · intro target request on
      refine .inr (.inr ⟨(client, signature), ?_, healthy.staying⟩)
      exact healthy.live ▸ List.mem_singleton_self _
  · have changed : Tracked { connection with serverConfig := some config } :=
      tracked.change _ _ _ fun _ => id
    dsimp only
    split
    · -- The client on record is closed first, and the call goes on after it.
      rename_i client recorded
      exact follows_beginDisconnect changed recorded fun _ => Option.isSome_some
    · -- Nothing is connected, so that the attempt starts at once.
      rename_i recorded
      refine follows_attempt changed ?_ rfl wanted (fails recorded)
      intro live connected
      change live ∈ connection.live at connected
      rw [tracked.live_eq_nil recorded] at connected
      cases connected

theorem follows_disconnectServer (tracked : connection.Tracked)
    (request : connection.lastRequest = none) : connection.disconnectServer.Follows env := by
  unfold disconnectServer
  split
  · rename_i client recorded
    refine follows_beginDisconnect tracked recorded fun asked => ?_
    rw [request] at asked
    cases asked
  · -- Without a client, nothing is connected and nothing is remembered.
    rename_i unrecorded
    have down : some ConnectionStatus.disconnected ≠ some .connected := by decide
    have nothing := tracked.live_eq_nil unrecorded
    refine ⟨tracked.down down unset_timer .., ⟨?_, ?_, ?_, ?_⟩, ?_⟩
    · intro live connected
      change live ∈ connection.live at connected
      rw [nothing] at connected
      cases connected
    · exact fun config set => absurd set.symm (Option.some_ne_none config)
    · exact .inl fun config set => absurd set (Option.not_mem_none config)
    · intro asked
      change connection.lastRequest.isSome at asked
      rw [request] at asked
      cases asked
    · intro target asked
      change connection.lastRequest = some target at asked
      rw [request] at asked
      cases asked

theorem Restarting.closed (restarting : connection.Restarting) (index : Nat)
    {closing : ClosingClient} (pending : connection.closing[index]? = some closing) :
    connection.resuming ++ closing.andThen.toList ≠ [] ∨
      ∃ other ∈ connection.closing.eraseIdx index, other.andThen.isSome := by
  rcases restarting with resuming | ⟨other, member, goesOn⟩
  · exact .inl (List.append_ne_nil_of_left_ne_nil resuming _)
  · -- The call that goes on is the one of the closed client, or it still waits.
    obtain ⟨position, found⟩ := List.mem_iff_getElem?.mp member
    by_cases here : position = index
    · rw [here, pending] at found
      obtain ⟨config, continues⟩ := Option.isSome_iff_exists.mp goesOn
      rw [Option.some.inj found, continues]
      exact .inl (List.append_ne_nil_of_right_ne_nil _ (List.cons_ne_nil _ _))
    · exact .inr ⟨other, List.mem_eraseIdx_iff_getElem?.mpr ⟨position, here, found⟩, goesOn⟩

theorem follows_closed (follows : connection.Follows env) (index : Nat)
    (inOrder : InOrder env connection (.closed index)) : (connection.closed index).Follows env := by
  obtain ⟨tracked, faithful, kept⟩ := follows
  unfold ServerConnection.closed
  split
  · exact ⟨tracked, faithful, kept⟩
  · rename_i closing pending
    have member : closing ∈ connection.closing := List.mem_of_getElem? pending
    -- The client that is closed is the only one that can be connected.
    have same : ∀ client ∈ connection.live, client.1 = closing.client := by
      intro client connected
      exact inOrder closing pending client.1 (tracked.client_eq connected)
    have nothing : connection.live.filter (·.1 ≠ closing.client) = [] := by
      refine List.filter_eq_nil_iff.mpr fun client connected => ?_
      simp [same client connected]
    have sublist : ∀ other ∈ connection.closing.eraseIdx index, other ∈ connection.closing :=
      fun other => List.mem_of_mem_eraseIdx
    refine ⟨⟨?_, tracked.timerOn, ?_, ?_, ?_, tracked.connectingOn, ?_⟩,
      ⟨?_, faithful.config, ?_, ?_⟩, ?_⟩
    · simp only [nothing]
      rfl
    · -- A healthy connection is not the one that is being closed.
      intro up
      obtain ⟨client, signature, healthy⟩ := tracked.healthy up
      have closes := inOrder closing pending client healthy.recorded
      exact absurd closes.symm (healthy.staying closing member)
    · exact fun client set => absurd set.symm (Option.some_ne_none client)
    · exact fun other remains => tracked.closingOpened other (sublist other remains)
    · exact fun client connected => tracked.liveOn client (List.mem_of_mem_filter connected)
    · intro client connected
      simp only [nothing] at connected
      cases connected
    · rcases faithful.retry with timer | connecting | restarting
      · exact .inl timer
      · exact .inr (.inl connecting)
      · exact .inr (.inr (restarting.closed index pending))
    · intro asked
      rcases faithful.remembered asked with remembered | restarting
      · exact .inl remembered
      · exact .inr (restarting.closed index pending)
    · intro target request on
      rcases kept target request on with timer | (connecting | restarting) | ⟨client, live, stays⟩
      · exact .inl timer
      · exact .inr (.inl (.inl connecting))
      · exact .inr (.inl (.inr (restarting.closed index pending)))
      · exact absurd (same client live).symm (stays closing member)

theorem follows_resume (follows : connection.Follows env) (index : Nat)
    (inOrder : InOrder env connection (.resume index)) : (connection.resume index).Follows env := by
  unfold resume
  split
  · exact follows
  · rename_i config pending
    obtain ⟨wanted, fails⟩ := inOrder config pending
    have tracked : Tracked { connection with
        resuming := connection.resuming.eraseIdx index, serverConfig := some config } :=
      follows.tracked.change _ _ _ fun _ => id
    exact follows_attempt tracked follows.faithful.live rfl wanted fails

theorem follows_connected (follows : connection.Follows env) (index : Nat)
    (inOrder : InOrder env connection (.connected index true)) :
    (connected env connection index true).Follows env := by
  unfold connected
  split
  · exact follows
  · rename_i config pending
    obtain ⟨unrecorded, wanted⟩ := inOrder config pending
    have nothing := follows.tracked.live_eq_nil unrecorded
    -- The new client is not among those that are being closed.
    have staying : ∀ closing ∈ connection.closing, closing.client ≠ connection.opened :=
      fun closing member => Nat.ne_of_lt (follows.tracked.closingOpened closing member)
    simp only [↓reduceIte, nothing, List.nil_append]
    refine ⟨⟨rfl, unset_timer, fun _ => ?_, ?_, ?_, ?_, ?_⟩,
      ⟨?_, follows.faithful.config, ?_, follows.faithful.remembered⟩, ?_⟩
    · exact ⟨_, _, rfl, rfl, rfl, rfl, staying⟩
    · intro client set
      exact Option.some.inj set ▸ Nat.lt_succ_self _
    · intro closing member
      exact Nat.lt_succ_of_lt (follows.tracked.closingOpened closing member)
    · exact fun other member => follows.tracked.connectingOn other (List.mem_of_mem_eraseIdx member)
    · intro client connected
      rw [List.mem_singleton.mp connected, isOff_connectionSignature]
      exact follows.tracked.connectingOn config (List.mem_of_getElem? pending)
    · intro client connected
      rw [List.mem_singleton.mp connected]
      exact .inr wanted
    · exact .inl fun config set => absurd set (Option.not_mem_none config)
    · exact fun _ _ _ => .inr (.inr ⟨_, List.mem_singleton_self _, staying⟩)

theorem follows_failed (follows : connection.Follows env) (index : Nat)
    (inOrder : InOrder env connection (.connected index false)) :
    (connected env connection index false).Follows env := by
  unfold connected
  split
  · exact follows
  · rename_i config pending
    have retry := inOrder (List.getElem?_eq_some_iff.mp pending).1
    have tracked : Tracked { connection with
        connecting := connection.connecting.eraseIdx index } :=
      follows.tracked.change _ _ _ fun _ => List.mem_of_mem_eraseIdx
    exact follows_connectFailed tracked ⟨follows.faithful.live, follows.faithful.config, retry,
      follows.faithful.remembered⟩

theorem follows_fireTimer (follows : connection.Follows env)
    (inOrder : InOrder env connection .fireTimer) : (fireTimer env connection).Follows env := by
  unfold fireTimer
  split
  · exact follows
  · rename_i config set
    -- Without its timer, what is connected is tracked as before.
    have tracked : Tracked { connection with reconnectTimer := none } := by
      refine ⟨follows.tracked.registered, unset_timer, fun up => ?_, follows.tracked.clientOpened,
        follows.tracked.closingOpened, follows.tracked.connectingOn, follows.tracked.liveOn⟩
      obtain ⟨client, signature, healthy⟩ := follows.tracked.healthy up
      exact ⟨client, signature, healthy.recorded, healthy.signed, healthy.live, rfl,
        healthy.staying⟩
    refine follows_connectServer tracked (inOrder config set) fun _ _ _ => .inl ?_
    exact fun other set => absurd set (Option.not_mem_none other)

theorem follows_monitor (follows : connection.Follows env) :
    connection.monitor.Follows env := by
  unfold monitor
  split
  · rename_i lost
    refine follows_scheduleReconnect follows.tracked follows.faithful fun up => ?_
    -- What is connected has a client on record.
    obtain ⟨client, signature, healthy⟩ := follows.tracked.healthy up
    rcases lost with down | unrecorded
    · exact down up
    · rw [healthy.recorded] at unrecorded
      cases unrecorded
  · exact follows

theorem follows_step (follows : connection.Follows env) (input : ConnectionInput)
    (inOrder : InOrder env connection input) : (step env connection input).Follows env := by
  cases input with
  | connectServer config =>
    have tracked : Tracked { connection with lastRequest := some config } :=
      follows.tracked.change _ _ _ fun _ => id
    exact follows_connectServer tracked rfl inOrder
  | disconnectServer =>
    have tracked : Tracked { connection with lastRequest := none } :=
      follows.tracked.change _ _ _ fun _ => id
    exact follows_disconnectServer tracked rfl
  | closed index => exact follows_closed follows index inOrder
  | resume index => exact follows_resume follows index inOrder
  | connected index succeeds =>
    cases succeeds with
    | true => exact follows_connected follows index inOrder
    | false => exact follows_failed follows index inOrder
  | fireTimer => exact follows_fireTimer follows inOrder
  | monitor => exact follows_monitor follows

theorem follows_start : Follows env {} where
  tracked := {
    registered := rfl
    timerOn := unset_timer
    healthy := fun up => absurd up (by decide)
    clientOpened := fun client set => absurd set.symm (Option.some_ne_none client)
    closingOpened := fun _ member => absurd member List.not_mem_nil
    connectingOn := fun _ member => absurd member List.not_mem_nil
    liveOn := fun _ member => absurd member List.not_mem_nil }
  faithful := {
    live := fun _ member => absurd member List.not_mem_nil
    config := fun config set => absurd set.symm (Option.some_ne_none config)
    retry := .inl fun config set => absurd set (Option.not_mem_none config)
    remembered := fun asked => absurd asked (by decide) }
  kept target request := absurd request.symm (Option.some_ne_none target)

theorem Settled.idle (settled : connection.Settled) : ¬ connection.Attempting := by
  obtain ⟨connecting, closing, resuming⟩ := settled
  rintro (attempt | resume | ⟨client, member, _⟩)
  · exact attempt connecting
  · exact resume resuming
  · rw [closing] at member
    cases member

theorem Follows.agreement (follows : connection.Follows env) (settled : connection.Settled) :
    connection.Agreement env := by
  obtain ⟨tracked, faithful, kept⟩ := follows
  have wanted : ∀ client ∈ connection.live,
      connection.lastRequest.map (McpServerConfig.connectionSignature env) = some client.2 := by
    intro client connected
    rcases faithful.live client connected with ⟨other, member, _⟩ | wanted
    · rw [settled.2.1] at member
      cases member
    · exact wanted
  have retry : ∀ config, connection.reconnectTimer = some config → connection.Wanted env config :=
    faithful.retry.resolve_right settled.idle
  have same : ∀ target, connection.lastRequest = some target →
      ∀ client ∈ connection.live, client.2 = target.connectionSignature env := by
    intro target request client connected
    have signature := wanted client connected
    rw [request, Option.map_some] at signature
    exact (Option.some.inj signature).symm
  constructor
  case atMostOne =>
    rw [← List.length_map Prod.fst, tracked.registered]
    exact Option.length_toList_le
  case disconnected =>
    intro request
    constructor
    · refine List.eq_nil_iff_forall_not_mem.mpr fun client connected => ?_
      have signature := wanted client connected
      rw [request] at signature
      cases signature
    · refine Option.eq_none_iff_forall_ne_some.mpr fun config set => ?_
      exact not_wanted_of_none request (retry config set)
  case current =>
    intro target request
    exact ⟨same target request, fun config set => (retry config set).signature_eq request⟩
  case off =>
    -- Nothing that is off is connected, or going to be.
    intro target request off
    constructor
    · refine List.eq_nil_iff_forall_not_mem.mpr fun client connected => ?_
      have on := tracked.liveOn client connected
      rw [same target request client connected, isOff_connectionSignature, off] at on
      cases on
    · refine Option.eq_none_iff_forall_ne_some.mpr fun config set => ?_
      have on := tracked.timerOn config set
      rw [isOff_eq_of_signature env ((retry config set).signature_eq request), off] at on
      cases on
  case kept =>
    intro target request on
    rcases kept target request on with timer | attempting | ⟨client, connected, _⟩
    · exact .inr timer
    · exact absurd attempting settled.idle
    · exact .inl (List.ne_nil_of_mem connected)

/-- As long as what comes back comes in order, the connection agrees with the last request whenever
it is settled. -/
theorem agreement_of_inOrder (env : String → Option String) (inputs : List ConnectionInput)
    (inOrder : Along (step env) (InOrder env) {} inputs)
    (settled : (run (step env) {} inputs).Settled) :
    (run (step env) {} inputs).Agreement env := by
  have follows : (run (step env) {} inputs).Follows env :=
    run_invariant (Follows env) (fun _ input follows inOrder => follows_step follows input inOrder)
      follows_start inOrder
  exact follows.agreement settled

/-- A configuration is replaced by another one, whose first attempt fails. -/
theorem agreement_after_update :
    let first : McpServerConfig := { name := "tools", command := some "node" }
    let second : McpServerConfig := { name := "tools", command := some "deno" }
    let inputs : List ConnectionInput := [.connectServer first, .connected 0 true,
      .connectServer second, .closed 0, .resume 0, .connected 0 false, .monitor, .fireTimer,
      .connected 0 true]
    (run (step fun _ => none) {} inputs).live =
        [(1, second.connectionSignature fun _ => none)] ∧
      (run (step fun _ => none) {} inputs).Agreement fun _ => none :=
  ⟨by decide, agreement_of_inOrder _ _ (by decide) (by decide)⟩

/-- A server that is disconnected while its connection is under way is connected all the same. -/
theorem connected_after_disconnect :
    let config : McpServerConfig := { name := "tools", command := some "node" }
    let inputs : List ConnectionInput :=
      [.connectServer config, .disconnectServer, .connected 0 true]
    (run (step fun _ => none) {} inputs).Settled ∧
      (run (step fun _ => none) {} inputs).live ≠ [] ∧
      ¬ (run (step fun _ => none) {} inputs).Agreement fun _ => none := by
  refine ⟨by decide, by decide, fun agreement => ?_⟩
  exact absurd (agreement.disconnected rfl).1 (by decide)

end

end ServerConnection

end BitBrat
