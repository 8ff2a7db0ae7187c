import BitBrat.Egress.IntegrationBit

/-! The WebSocket side of the gateway: who a connection is, and what passes through it. -/

namespace BitBrat

open Js

structure WebSocketEnv where
  /-- Whether a connection without a valid token is let in. -/
  allowAnonymous : Bool
  egressDestinationTopic : String

structure UpgradeRequest where
  pathname : String
  authorization : Option String := none
  userId : Option String := none

structure Connection where
  ws : Nat
  userId : String
  validated : Option String
  preferred : Option String
  isOpen : Bool := true
  closed : Bool := false

def Connection.closing (connection : Connection) : Connection := { connection with isOpen := false }

def Connection.close (connection : Connection) : Connection :=
  { connection with isOpen := false, closed := true }

structure ApiGatewayServer where
  userConnections : OrderedMap String (List Nat) := .empty
  connections : List Connection := []
  upgrades : List UpgradeRequest := []
  published : List Value := []
  sent : List (Nat × Value) := []

structure EventUuids where
  correlationId : String
  traceId : String
  messageId : String

inductive WebSocketInput where
  | upgrade (request : UpgradeRequest) (handshake : Bool) (now : String)
  | validated (index : Nat) (uid : Option String) (handshake : Bool) (now : String)
  | message (ws : Nat) (data : Option Value) (uuids : EventUuids) (now : String) (fails : Bool)
  | closing (ws : Nat)
  | close (ws : Nat)
  | egress (event : Value) (random : ℚ) (now : String) (webhook : Bool)

def UpgradeRequest.token (request : UpgradeRequest) : Option String :=
  match request.authorization with
  | some header =>
    if "Bearer ".toList.isPrefixOf header.toList then
      nonEmpty (String.ofList (header.toList.drop 7))
    else none
  | none => none

def isChatName (name : String) : Bool := "brat-chat:".toList.isPrefixOf name.toList

/-- The user of a connection, from what is known of its token and from the name it asks for. -/
def upgradeUser (env : WebSocketEnv) (request : UpgradeRequest) (uid : Option String) :
    Option String :=
  let known := (uid.bind nonEmpty).or (if env.allowAnonymous then some "anonymous" else none)
  known.map fun userId =>
    match request.userId with
    | some preferred => if isChatName preferred then preferred else userId
    | none => userId

section

variable (server : ApiGatewayServer)

def ApiGatewayServer.send (ws : Nat) (frame : Value) : ApiGatewayServer :=
  { server with sent := server.sent ++ [(ws, frame)] }

def ApiGatewayServer.connect (userId : String) (validated preferred : Option String)
    (now : String) : ApiGatewayServer :=
  let ws := server.connections.length
  let sockets := (server.userConnections.get? userId).getD [] ++ [ws]
  let joined : ApiGatewayServer := { server with
    userConnections := server.userConnections.set userId sockets
    connections := server.connections ++ [{ ws := ws, userId, validated, preferred }] }
  joined.send ws (.obj [("type", .str "connection.ready"),
    ("payload", .obj [("user_id", .str userId)]), ("metadata", .obj [("timestamp", .str now)])])

def ApiGatewayServer.finishUpgrade (env : WebSocketEnv) (request : UpgradeRequest)
    (uid : Option String) (handshake : Bool) (now : String) : ApiGatewayServer :=
  match upgradeUser env request uid with
  | some userId => if handshake then server.connect userId uid request.userId now else server
  | none => server

def ApiGatewayServer.connection? (ws : Nat) : Option Connection :=
  server.connections.find? (·.ws = ws)

def ApiGatewayServer.update (ws : Nat) (change : Connection → Connection) : List Connection :=
  server.connections.map fun connection =>
    if connection.ws = ws then change connection else connection

/-- Forget a connection once it is closed, and its user with the last one. -/
def ApiGatewayServer.disconnect (ws : Nat) (userId : String) : ApiGatewayServer :=
  let connections := server.update ws Connection.close
  match server.userConnections.get? userId with
  | some registered =>
    let others := registered.filter (· ≠ ws)
    { server with
      connections
      userConnections :=
        if others.isEmpty then server.userConnections.erase userId
        else server.userConnections.set userId others }
  | none => { server with connections }

end

def isInboundFrame (frame : Value) : Bool :=
  (frame.get "type").truthy && (frame.get "payload").truthy

/-- The event of a frame of a user, if the frame is valid. -/
def IngressManager.handleMessage (env : WebSocketEnv) (userId : String) (frame : Value)
    (uuids : EventUuids) (now : String) : Option Value :=
  if !isInboundFrame frame then none
  else
    let payload := frame.get "payload"
    let id := (frame.get "metadata").get "id"
    let type :=
      if frame.get "type" = .str "chat.message.send" then .str "chat.message.v1"
      else frame.get "type"
    let channel := (payload.get "channel").or (payload.get "room")
    some (.obj [("v", .str "2"), ("type", type),
      ("correlationId", id.or (.str uuids.correlationId)), ("traceId", .str uuids.traceId),
      ("ingress", .obj [("ingressAt", .str now), ("source", .str "api-gateway"),
        ("connector", .str "api"), ("channel", channel)]),
      ("identity", .obj [("external", .obj [("id", .str userId),
        ("platform", .str "api-gateway")])]),
      ("egress", .obj [("destination", .str (textOr (some env.egressDestinationTopic)
          "api-gateway")), ("type", .str "chat"), ("connector", .str "api"), ("channel", channel)]),
      ("message",
        if type = .str "chat.message.v1" then
          .obj [("id", id.or (.str uuids.messageId)), ("role", .str "user"),
            ("text", payload.get "text"), ("rawPlatformPayload", payload)]
        else .undefined),
      ("payload", payload),
      ("routing", .obj [("stage", .str "initial"), ("slip", .arr []), ("history", .arr [])])])

def chatError (message now : String) : Value :=
  .obj [("type", .str "chat.error"), ("payload", .obj [("message", .str message)]),
    ("metadata", .obj [("timestamp", .str now)])]

def ApiGatewayServer.onMessage (env : WebSocketEnv) (server : ApiGatewayServer)
    (connection : Connection) (data : Option Value) (uuids : EventUuids) (now : String)
    (fails : Bool) : ApiGatewayServer :=
  match data with
  | none => server.send connection.ws (chatError "Unexpected token in JSON" now)
  | some .null => server.send connection.ws (chatError "Cannot read properties of null" now)
  | some frame =>
    if frame.get "type" = .str "heartbeat" then server
    else
      match IngressManager.handleMessage env connection.userId frame uuids now with
      | none => server.send connection.ws
          (chatError "Invalid message frame: missing type or payload" now)
      | some event =>
        if fails then server.send connection.ws (chatError "publish failed" now)
        else { server with published := server.published ++ [event] }

inductive EgressResult where
  | delivered
  | notFound
  | failed
  | ignored
  deriving DecidableEq

def egressText (random : ℚ) (event : Value) : Option String :=
  let candidates := match event.get "candidates" with
    | .arr items => some items
    | _ => none
  match (selectBestCandidate random candidates).bind fun best =>
    deliverable (best.get "text") with
  | some text => some text
  | none =>
    if candidates.isSome then none
    else if (event.get "egress").truthy && (event.get "message").truthy then none
    else
      let raw := (event.get "message").get "rawPlatformPayload"
      let payload := event.get "payload"
      (deliverable ((raw.get "chat").get "text" |>.coalesce (raw.get "text"))).or
        (deliverable ((payload.get "chat").get "text" |>.coalesce (payload.get "text")))

/-- Whether an event is for the clients of the gateway, which a type that is no text breaks. -/
def isWebSocketTarget (event : Value) : Option Bool :=
  let egress := event.get "egress"
  if egress.get "connector" = .str "api" then some true
  else if egress.get "connector" ≠ .undefined then some false
  else if egress.get "destination" = .str "api-gateway" ∨
      (event.get "ingress").get "source" = .str "api-gateway" then some true
  else
    match event.get "type" with
    | .str type => some ("api.".toList.isPrefixOf type.toList)
    | .undefined => some false
    | .null => some false
    | _ => none

def egressUser (event : Value) : Value :=
  let identity := event.get "identity"
  ((identity.get "external").get "id").or ((identity.get "user").get "id")

def outboundFrame (text : Option String) (event : Value) (now : String) : Value :=
  let channel := (event.get "egress").get "channel"
  let type := event.get "type"
  let chat := ["chat.message.v1", "egress.deliver.v1", "dm.message.v1"].any (type = .str ·)
  let source := match event.get "candidates" with
    | .arr (best :: _) => (best.get "source").or (.str "platform")
    | _ => (event.get "ingress").get "source"
  .obj [("type", if chat then .str "chat.message.received" else type),
    ("payload", match text with
      | some text => .obj [("text", .str text), ("channel", channel)]
      | none => (event.get "payload").extend [("channel", channel)]),
    ("metadata", .obj [("id", event.get "correlationId"), ("timestamp", .str now),
      ("source", source)])]

def EgressManager.handleEgressEvent (server : ApiGatewayServer) (event : Value) (random : ℚ)
    (now : String) (webhook : Bool) : Option EgressResult × List (Nat × Value) :=
  let egress := event.get "egress"
  if egress.get "connector" = .str "webhook" then
    (some (if webhook then .delivered else .failed), [])
  else
    match isWebSocketTarget event with
    | none => (none, [])
    | some target =>
      if !target &&
          (egress.get "destination" ≠ .undefined || egress.get "connector" ≠ .undefined) then
        (some .ignored, [])
      else if !(egressUser event).truthy then (some .failed, [])
      else
        let connections := match egressUser event with
          | .str userId => (server.userConnections.get? userId).getD []
          | _ => []
        if connections.isEmpty then (some .notFound, [])
        else
          let text := egressText random event
          if text.isNone && !(event.get "payload").truthy then (some .failed, [])
          else
            let frame := outboundFrame text event now
            let openSockets := connections.filter fun ws =>
              (server.connection? ws).any (·.isOpen)
            (some (if openSockets.isEmpty then .failed else .delivered),
              openSockets.map fun ws => (ws, frame))

def webSocketStep (env : WebSocketEnv) (server : ApiGatewayServer) :
    WebSocketInput → ApiGatewayServer
  | .upgrade request handshake now =>
    if request.pathname ≠ "/ws/v1" then server
    else if request.token.isSome then { server with upgrades := server.upgrades ++ [request] }
    else server.finishUpgrade env request none handshake now
  | .validated index uid handshake now =>
    match server.upgrades[index]? with
    | some request =>
      { server with upgrades := server.upgrades.eraseIdx index }.finishUpgrade env request uid
        handshake now
    | none => server
  | .message ws data uuids now fails =>
    match server.connection? ws with
    | some connection =>
      if connection.closed then server
      else server.onMessage env connection data uuids now fails
    | none => server
  | .closing ws =>
    { server with connections := server.update ws Connection.closing }
  | .close ws =>
    match server.connection? ws with
    | some connection =>
      if connection.closed then server else server.disconnect ws connection.userId
    | none => server
  | .egress event random now webhook =>
    { server with
      sent := server.sent ++
        (EgressManager.handleEgressEvent server event random now webhook).2 }

end BitBrat
