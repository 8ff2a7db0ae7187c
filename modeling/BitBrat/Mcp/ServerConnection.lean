import BitBrat.Machine.Run
import BitBrat.Mcp.ClientManager

/-! What a connection depends on: a configuration, with references to the environment resolved. -/

namespace BitBrat

/-- A reference to an environment variable, as it was found in a text. -/
structure EnvRef where
  varName : List Char
  default : Option (List Char)
  length : Nat

def isEnvNameChar (char : Char) : Bool := char.isAlphanum || char = '_'

def isLineTerminator (char : Char) : Bool :=
  char = '\n' || char = '\r' || char.toNat = 0x2028 || char.toNat = 0x2029

def envRefAt : List Char → Option EnvRef
  | '$' :: '\x7b' :: text =>
    let varName := text.takeWhile isEnvNameChar
    if varName.isEmpty then none
    else match text.dropWhile isEnvNameChar with
      | '\x7d' :: _ => some { varName, default := none, length := varName.length + 3 }
      | ':' :: '-' :: rest =>
        -- The default goes to the first closing brace, which is to be on the same line.
        let default := rest.takeWhile (· ≠ '\x7d')
        if rest.length = default.length || default.any isLineTerminator then none
        else some
          { varName, default := some default, length := varName.length + default.length + 5 }
      | _ => none
  | _ => none

/-- What a reference stands for: a variable that is not set, or empty, gives its default. -/
def EnvRef.value (env : String → Option String) (ref : EnvRef) : List Char :=
  match env (String.ofList ref.varName) with
  | some value => if value = "" then ref.default.getD [] else value.toList
  | none => ref.default.getD []

/-- A text with its references replaced, where the first characters may belong to a reference. -/
def interpolateInto (env : String → Option String) : Nat → List Char → List Char
  | _, [] => []
  | skipped + 1, _ :: rest => interpolateInto env skipped rest
  | 0, char :: rest =>
    match envRefAt (char :: rest) with
    | some ref => ref.value env ++ interpolateInto env (ref.length - 1) rest
    | none => char :: interpolateInto env 0 rest

def interpolateEnvString (env : String → Option String) (input : String) : String :=
  String.ofList (interpolateInto env 0 input.toList)

def McpServerConfig.resolveConfig (env : String → Option String) (config : McpServerConfig) :
    McpServerConfig :=
  { config with
    env := config.env.map fun record => record.map fun entry =>
      (entry.1, interpolateEnvString env entry.2)
    args := config.args.map fun args => args.map (interpolateEnvString env) }

structure ConnectionSignature where
  transport : McpTransport
  url : Option String
  command : Option String
  args : List String
  env : List (String × String)
  requiredRoles : List String
  toolPrefix : Option String
  status : Option McpServerStatus
  timeoutMs : Option Nat
  failureThreshold : Option Nat
  resetTimeoutMs : Option Nat
  deriving DecidableEq

/-- The signature of a configuration, which leaves out what is only metadata. -/
def McpServerConfig.connectionSignature (env : String → Option String)
    (config : McpServerConfig) : ConnectionSignature :=
  let resolved := config.resolveConfig env
  { transport := resolved.transport.getD .stdio
    url := resolved.url
    command := resolved.command
    args := resolved.args.getD []
    env := resolved.env.getD []
    requiredRoles := resolved.requiredRoles.getD []
    toolPrefix := resolved.toolPrefix
    status := resolved.status
    timeoutMs := resolved.timeoutMs
    failureThreshold := resolved.failureThreshold
    resetTimeoutMs := resolved.resetTimeoutMs }

def ConnectionSignature.isOff (signature : ConnectionSignature) : Bool :=
  signature.transport = .inactive || signature.status = some .inactive

theorem isOff_connectionSignature (env : String → Option String) (config : McpServerConfig) :
    (config.connectionSignature env).isOff = config.isOff := by
  -- A missing transport is the one of a local process, so that nothing is off by it.
  have transport : decide (config.transport.getD .stdio = .inactive) =
      decide (config.transport = some .inactive) := by
    cases config.transport with
    | none => rfl
    | some transport => exact decide_eq_decide.mpr Option.some_inj.symm
  change (decide (config.transport.getD .stdio = .inactive) ||
    decide (config.status = some .inactive)) = config.isOff
  rw [transport, McpServerConfig.isOff]

theorem isOff_eq_of_signature (env : String → Option String) {config other : McpServerConfig}
    (same : config.connectionSignature env = other.connectionSignature env) :
    config.isOff = other.isOff := by
  rw [← isOff_connectionSignature env, same, isOff_connectionSignature]

/-! The connection to one server, with the work that is still under way for it. -/

inductive ConnectionStatus where
  | connecting
  | connected
  | disconnected
  | error
  deriving DecidableEq

/-- A client that is being closed, and the configuration that is to be connected to after it. -/
structure ClosingClient where
  client : Nat
  andThen : Option McpServerConfig
  deriving DecidableEq

/-- What the manager has on record for one server, and what it waits for. -/
structure ServerConnection where
  client : Option Nat := none
  status : Option ConnectionStatus := none
  serverConfig : Option McpServerConfig := none
  connectedSignature : Option ConnectionSignature := none
  reconnectTimer : Option McpServerConfig := none
  connecting : List McpServerConfig := []
  closing : List ClosingClient := []
  resuming : List McpServerConfig := []
  live : List (Nat × ConnectionSignature) := []
  opened : Nat := 0
  /-- The configuration of the last request, unless it was to disconnect. -/
  lastRequest : Option McpServerConfig := none

inductive ConnectionInput where
  | connectServer (config : McpServerConfig)
  | disconnectServer
  | closed (index : Nat)
  | resume (index : Nat)
  | connected (index : Nat) (succeeds : Bool)
  | fireTimer
  | monitor
  deriving DecidableEq

namespace ServerConnection

/-- Set a timer for the next attempt, if there is none. -/
def scheduleReconnect (connection : ServerConnection) : ServerConnection :=
  match connection.serverConfig with
  | none => connection
  | some config =>
    if config.isOff then connection
    -- A timer that is already set keeps the configuration that it has.
    else if connection.reconnectTimer.isSome then connection
    else { connection with reconnectTimer := some config }

def connectFailed (connection : ServerConnection) : ServerConnection :=
  scheduleReconnect { connection with status := some .error }

/-- Try to connect: the second half of the call, once there is no old client. -/
def attempt (connection : ServerConnection) (config : McpServerConfig) : ServerConnection :=
  let connection := { connection with status := some .connecting }
  if config.isOff then { connection with reconnectTimer := none }
  else if !config.hasAddress then connection.connectFailed
  else { connection with connecting := connection.connecting ++ [config] }

/-- The first half of a disconnection, up to the closing of the client. -/
def beginDisconnect (connection : ServerConnection) : ServerConnection :=
  { connection with
    reconnectTimer := none
    serverConfig := none
    connectedSignature := none
    status := some .disconnected }

def isHealthy (connection : ServerConnection) : Bool :=
  connection.client.isSome && connection.status = some .connected

/-- Connect to a configuration, from whichever side the call comes. -/
def connectServer (env : String → Option String) (connection : ServerConnection)
    (config : McpServerConfig) : ServerConnection :=
  -- A healthy connection with the same signature is left alone.
  if connection.isHealthy ∧
      connection.connectedSignature = some (config.connectionSignature env) ∧ !config.isOff then
    { connection with serverConfig := some config }
  else
    let connection := { connection with serverConfig := some config }
    match connection.client with
    | some client =>
      { connection.beginDisconnect with
        closing := connection.closing ++ [{ client, andThen := some config }] }
    | none => connection.attempt config

/-- Disconnect: without a client there is nothing to wait for. -/
def disconnectServer (connection : ServerConnection) : ServerConnection :=
  match connection.client with
  | some client =>
    { connection.beginDisconnect with
      closing := connection.closing ++ [{ client, andThen := none }] }
  | none => connection.beginDisconnect

/-- A client is closed: the name has no client on record any more, whichever it was. -/
def closed (connection : ServerConnection) (index : Nat) : ServerConnection :=
  match connection.closing[index]? with
  | none => connection
  | some closing =>
    { connection with
      closing := connection.closing.eraseIdx index
      live := connection.live.filter (·.1 ≠ closing.client)
      client := none
      resuming := connection.resuming ++ closing.andThen.toList }

/-- A call goes on after the closing of its old client. -/
def resume (connection : ServerConnection) (index : Nat) : ServerConnection :=
  match connection.resuming[index]? with
  | none => connection
  | some config =>
    -- The configuration that the disconnection forgot is remembered again.
    attempt
      { connection with
        resuming := connection.resuming.eraseIdx index
        serverConfig := some config }
      config

/-- An attempt comes back, and is on record from then on if it succeeded. -/
def connected (env : String → Option String) (connection : ServerConnection) (index : Nat)
    (succeeds : Bool) : ServerConnection :=
  match connection.connecting[index]? with
  | none => connection
  | some config =>
    let connection :=
      { connection with connecting := connection.connecting.eraseIdx index }
    if succeeds then
      let signature := config.connectionSignature env
      { connection with
        client := some connection.opened
        opened := connection.opened + 1
        live := connection.live ++ [(connection.opened, signature)]
        connectedSignature := some signature
        status := some .connected
        reconnectTimer := none }
    else connection.connectFailed

/-- The timer goes off, and connects to the configuration that it was set for. -/
def fireTimer (env : String → Option String) (connection : ServerConnection) : ServerConnection :=
  match connection.reconnectTimer with
  | none => connection
  | some config => connectServer env { connection with reconnectTimer := none } config

def monitor (connection : ServerConnection) : ServerConnection :=
  if connection.status ≠ some .connected ∨ connection.client = none then
    connection.scheduleReconnect
  else connection

def step (env : String → Option String) (connection : ServerConnection) :
    ConnectionInput → ServerConnection
  | .connectServer config => connectServer env { connection with lastRequest := some config } config
  | .disconnectServer => disconnectServer { connection with lastRequest := none }
  | .closed index => connection.closed index
  | .resume index => connection.resume index
  | .connected index succeeds => connected env connection index succeeds
  | .fireTimer => fireTimer env connection
  | .monitor => connection.monitor

def Settled (connection : ServerConnection) : Prop :=
  connection.connecting = [] ∧ connection.closing = [] ∧ connection.resuming = []

instance (connection : ServerConnection) : Decidable connection.Settled :=
  inferInstanceAs (Decidable (_ ∧ _))

/-- A configuration is that of the last request, as far as its connection goes. -/
def Wanted (env : String → Option String) (connection : ServerConnection)
    (config : McpServerConfig) : Prop :=
  connection.lastRequest.map (McpServerConfig.connectionSignature env) =
    some (config.connectionSignature env)

instance (env : String → Option String) (connection : ServerConnection)
    (config : McpServerConfig) : Decidable (connection.Wanted env config) :=
  inferInstanceAs (Decidable (_ = _))

/-- Some call is still to go on with a configuration, once its old client is closed. -/
def Restarting (connection : ServerConnection) : Prop :=
  connection.resuming ≠ [] ∨ ∃ closing ∈ connection.closing, closing.andThen.isSome

instance (connection : ServerConnection) : Decidable connection.Restarting :=
  inferInstanceAs (Decidable (_ ∨ _))

def Attempting (connection : ServerConnection) : Prop :=
  connection.connecting ≠ [] ∨ connection.Restarting

instance (connection : ServerConnection) : Decidable connection.Attempting :=
  inferInstanceAs (Decidable (_ ∨ _))

/-- The timer is set for what is wanted, unless some call is still going to connect. -/
def RetryCurrent (env : String → Option String) (connection : ServerConnection) : Prop :=
  (∀ config ∈ connection.reconnectTimer, connection.Wanted env config) ∨ connection.Attempting

instance (env : String → Option String) (connection : ServerConnection) :
    Decidable (connection.RetryCurrent env) :=
  inferInstanceAs (Decidable (_ ∨ _))

end ServerConnection

end BitBrat
