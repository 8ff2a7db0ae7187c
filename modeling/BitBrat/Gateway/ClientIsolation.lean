import BitBrat.Gateway.WebSocket
import BitBrat.Machine.Run

/-! Clients of the gateway: whom they are registered as, and what they can do to each other. -/

namespace BitBrat

open Js Machine

def correlationKey (event : Value) : String := (event.get "correlationId").toText

def members (connections : List Connection) (userId : String) : List Nat :=
  (connections.filter fun connection => connection.userId = userId && !connection.closed).map (·.ws)

/-- The connection is that of its token, or anonymous, or has a name that its token allows. -/
def Connection.Named (connection : Connection) : Prop :=
  connection.validated = some connection.userId ∧ connection.userId ≠ "" ∨
    connection.userId = "anonymous" ∨
    (connection.preferred = some connection.userId ∧ isChatName connection.userId = true ∧
      (connection.validated.bind nonEmpty).isSome)

/-- An event for clients that has something to send, and the user that it is for. -/
structure AddressedTo (random : ℚ) (event : Value) (userId : String) : Prop where
  notWebhook : (event.get "egress").get "connector" ≠ .str "webhook"
  target : isWebSocketTarget event = some true ∨ (isWebSocketTarget event = some false ∧
    (event.get "egress").get "destination" = .undefined ∧
    (event.get "egress").get "connector" = .undefined)
  user : egressUser event = .str userId
  named : userId ≠ ""
  content : (egressText random event).isSome = true ∨ (event.get "payload").truthy = true

structure ClientLaw (server : ApiGatewayServer) : Prop where
  named : ∀ connection ∈ server.connections, connection.Named
  /-- A connection is registered under its user until its close event. -/
  registered : ∀ connection ∈ server.connections, connection.closed = false →
    ∃ sockets, server.userConnections.get? connection.userId = some sockets ∧
      connection.ws ∈ sockets
  nonempty : ∀ userId sockets, server.userConnections.get? userId = some sockets → sockets ≠ []
  alive : ∀ userId sockets ws, server.userConnections.get? userId = some sockets → ws ∈ sockets →
    ∃ connection ∈ server.connections, connection.ws = ws ∧ connection.userId = userId ∧
      connection.closed = false
  distinct : (server.published.map correlationKey).Nodup

/-- What is owed at a step: after it, and to the clients that an event is for. -/
structure IsolationLaw (env : WebSocketEnv) (server : ApiGatewayServer)
    (input : WebSocketInput) : Prop where
  after : ClientLaw (webSocketStep env server input)
  delivered : ∀ event random now webhook userId, input = .egress event random now webhook →
    AddressedTo random event userId →
      let sends := (EgressManager.handleEgressEvent server event random now webhook).2
      (sends.map Prod.fst).Nodup ∧ ∀ ws, ws ∈ sends.map Prod.fst ↔
        ∃ connection ∈ server.connections, connection.ws = ws ∧ connection.userId = userId ∧
          connection.isOpen = true
  unaddressed : ∀ event random now webhook, input = .egress event random now webhook →
    (∀ userId, ¬ AddressedTo random event userId) →
      (EgressManager.handleEgressEvent server event random now webhook).2 = []

/-- A name that is asked for comes with a valid token, or is refused. -/
def ChatNameInPlace (env : WebSocketEnv) (request : UpgradeRequest) (uid : Option String) : Prop :=
  env.allowAnonymous = true → request.userId.any isChatName = true →
    (uid.bind nonEmpty).isSome = true

def IsolationInPlace (env : WebSocketEnv) (server : ApiGatewayServer) : WebSocketInput → Prop
  | .upgrade request _ _ => request.token = none → ChatNameInPlace env request none
  | .validated index uid _ _ =>
    ∀ request ∈ server.upgrades[index]?, ChatNameInPlace env request uid
  | .message _ (some frame) _ _ _ =>
    -- A client that names its frame uses a name that no event had before.
    let id := (frame.get "metadata").get "id"
    isInboundFrame frame = true → id.truthy = true →
      id.toText ∉ server.published.map correlationKey
  | _ => True

def UuidsFresh (server : ApiGatewayServer) : WebSocketInput → Prop
  | .message _ _ uuids _ _ => uuids.correlationId ∉ server.published.map correlationKey
  | _ => True

instance (env : WebSocketEnv) (request : UpgradeRequest) (uid : Option String) :
    Decidable (ChatNameInPlace env request uid) :=
  inferInstanceAs (Decidable (_ = true → _ = true → _ = true))

instance (env : WebSocketEnv) (server : ApiGatewayServer) :
    ∀ input, Decidable (IsolationInPlace env server input)
  | .upgrade request _ _ =>
    inferInstanceAs (Decidable (request.token = none → ChatNameInPlace env request none))
  | .validated index uid _ _ => inferInstanceAs
    (Decidable (∀ request ∈ server.upgrades[index]?, ChatNameInPlace env request uid))
  | .message _ (some frame) _ _ _ => inferInstanceAs
    (Decidable (isInboundFrame frame = true → ((frame.get "metadata").get "id").truthy = true →
      ((frame.get "metadata").get "id").toText ∉ server.published.map correlationKey))
  | .message _ none _ _ _ => isTrue trivial
  | .closing _ => isTrue trivial
  | .close _ => isTrue trivial
  | .egress _ _ _ _ => isTrue trivial

instance (server : ApiGatewayServer) : ∀ input, Decidable (UuidsFresh server input)
  | .message _ _ uuids _ _ => inferInstanceAs
    (Decidable (uuids.correlationId ∉ server.published.map correlationKey))
  | .upgrade _ _ _ => isTrue trivial
  | .validated _ _ _ _ => isTrue trivial
  | .closing _ => isTrue trivial
  | .close _ => isTrue trivial
  | .egress _ _ _ _ => isTrue trivial

structure GatewayHolds (server : ApiGatewayServer) : Prop where
  numbered : server.connections.map (·.ws) = List.range server.connections.length
  registry : ∀ userId, server.userConnections.get? userId =
    if members server.connections userId = [] then none
    else some (members server.connections userId)
  shut : ∀ connection ∈ server.connections, connection.closed = true → connection.isOpen = false
  named : ∀ connection ∈ server.connections, connection.Named
  distinct : (server.published.map correlationKey).Nodup

section

variable {env : WebSocketEnv} {server : ApiGatewayServer}

theorem map_ws_update (ws : Nat) (change : Connection → Connection)
    (keeps : ∀ connection, (change connection).ws = connection.ws) :
    (server.update ws change).map (·.ws) = server.connections.map (·.ws) := by
  rw [ApiGatewayServer.update, List.map_map]
  apply List.map_congr_left
  intro connection _
  simp only [Function.comp_apply]
  split
  · exact keeps connection
  · rfl

theorem length_update (ws : Nat) (change : Connection → Connection) :
    (server.update ws change).length = server.connections.length := by
  rw [ApiGatewayServer.update, List.length_map]

theorem eq_of_ws (holds : GatewayHolds server) {first second : Connection}
    (one : first ∈ server.connections) (other : second ∈ server.connections)
    (same : first.ws = second.ws) : first = second := by
  have distinct : (server.connections.map (·.ws)).Nodup := by
    rw [holds.numbered]
    exact List.nodup_range
  exact List.inj_on_of_nodup_map distinct one other same

variable {ws : Nat} {connection : Connection}

theorem connection?_eq_some_iff (holds : GatewayHolds server) :
    server.connection? ws = some connection ↔
      connection ∈ server.connections ∧ connection.ws = ws := by
  unfold ApiGatewayServer.connection?
  constructor
  · intro found
    exact ⟨List.mem_of_find?_eq_some found, by simpa using List.find?_some found⟩
  · rintro ⟨member, same⟩
    cases found : server.connections.find? (·.ws = ws) with
    | none =>
      rw [List.find?_eq_none] at found
      exact absurd same (by simpa using found connection member)
    | some other =>
      have matched : other.ws = ws := by simpa using List.find?_some found
      rw [eq_of_ws holds (List.mem_of_find?_eq_some found) member (matched.trans same.symm)]

variable {userId : String}

theorem mem_members {connections : List Connection} :
    ws ∈ members connections userId ↔ ∃ connection ∈ connections, connection.ws = ws ∧
      connection.userId = userId ∧ connection.closed = false := by
  simp only [members, List.mem_map, List.mem_filter, Bool.and_eq_true,
    decide_eq_true_eq, Bool.not_eq_true']
  constructor
  · rintro ⟨connection, ⟨member, same, alive⟩, here⟩
    exact ⟨connection, member, here, same, alive⟩
  · rintro ⟨connection, member, here, same, alive⟩
    exact ⟨connection, ⟨member, same, alive⟩, here⟩

theorem nodup_members (holds : GatewayHolds server) (userId : String) :
    (members server.connections userId).Nodup := by
  have distinct : (server.connections.map (·.ws)).Nodup := by
    rw [holds.numbered]
    exact List.nodup_range
  exact distinct.sublist (List.Sublist.map _ List.filter_sublist)

theorem getD_userConnections (holds : GatewayHolds server) (userId : String) :
    (server.userConnections.get? userId).getD [] = members server.connections userId := by
  rw [holds.registry]
  split
  case isTrue empty => exact empty.symm
  case isFalse => rfl

theorem GatewayHolds.start : GatewayHolds {} where
  numbered := rfl
  registry _ := rfl
  shut := by simp
  named := by simp
  distinct := List.nodup_nil

theorem GatewayHolds.send (holds : GatewayHolds server) (ws : Nat) (frame : Value) :
    GatewayHolds (server.send ws frame) := ⟨holds.1, holds.2, holds.3, holds.4, holds.5⟩

theorem members_append (connections : List Connection) (ws : Nat) (userId other : String)
    (validated preferred : Option String) :
    members (connections ++ [{ ws := ws, userId, validated, preferred }]) other =
      members connections other ++ if userId = other then [ws] else [] := by
  unfold members
  rw [List.filter_append, List.map_append]
  congr 1
  by_cases same : userId = other <;> simp [same]

theorem GatewayHolds.connect (holds : GatewayHolds server) {validated preferred : Option String}
    (named : ∀ ws, Connection.Named { ws, userId, validated, preferred }) (now : String) :
    GatewayHolds (server.connect userId validated preferred now) := by
  apply GatewayHolds.send
  constructor
  · -- The new socket is numbered by the connections before it.
    dsimp only
    rw [List.map_append, holds.numbered, List.length_append, List.length_singleton,
      List.range_succ]
    rfl
  · intro other
    dsimp only
    rw [OrderedMap.get?_set, getD_userConnections holds, members_append]
    by_cases same : other = userId
    · subst same
      simp
    · rw [if_neg same, if_neg (Ne.symm same), List.append_nil, holds.registry]
  · intro connection member closed
    rcases List.mem_append.mp member with old | new
    · exact holds.shut connection old closed
    · rw [List.mem_singleton.mp new] at closed
      cases closed
  · intro connection member
    rcases List.mem_append.mp member with old | new
    · exact holds.named connection old
    · rw [List.mem_singleton.mp new]
      exact named _
  · exact holds.distinct

theorem named_of_upgradeUser {request : UpgradeRequest} {uid : Option String}
    (chosen : upgradeUser env request uid = some userId)
    (placed : ChatNameInPlace env request uid) (ws : Nat) :
    Connection.Named { ws, userId, validated := uid, preferred := request.userId } := by
  obtain ⟨known, allowed, rfl⟩ := Option.map_eq_some_iff.mp chosen
  have identity : (uid.bind nonEmpty = some known) ∨
      (uid.bind nonEmpty = none ∧ env.allowAnonymous = true ∧ known = "anonymous") := by
    cases valid : uid.bind nonEmpty with
    | some name =>
      rw [valid] at allowed
      exact .inl allowed
    | none =>
      rw [valid, Option.none_or] at allowed
      split at allowed
      case isTrue anonymous =>
        cases allowed
        exact .inr ⟨rfl, anonymous, rfl⟩
      case isFalse => cases allowed
  have own : ∀ preferred,
      Connection.Named { ws, userId := known, validated := uid, preferred } := by
    intro preferred
    rcases identity with valid | ⟨-, -, rfl⟩
    · obtain ⟨name, token, kept⟩ := Option.bind_eq_some_iff.mp valid
      unfold nonEmpty at kept
      split at kept
      case isTrue => cases kept
      case isFalse nonempty =>
        cases kept
        exact .inl ⟨token, nonempty⟩
    · exact .inr (.inl rfl)
  cases asked : request.userId with
  | none => exact own none
  | some preferred =>
    dsimp only
    by_cases chat : isChatName preferred = true
    · rw [if_pos chat]
      refine .inr (.inr ⟨rfl, chat, ?_⟩)
      rcases identity with valid | ⟨-, anonymous, -⟩
      · rw [valid]
        rfl
      · -- Without a token, the name is not asked for.
        exact placed anonymous (by rw [asked]; exact chat)
    · rw [if_neg chat]
      exact own (some preferred)

theorem GatewayHolds.finishUpgrade (holds : GatewayHolds server) {request : UpgradeRequest}
    {uid : Option String} (placed : ChatNameInPlace env request uid) (handshake : Bool)
    (now : String) : GatewayHolds (server.finishUpgrade env request uid handshake now) := by
  unfold ApiGatewayServer.finishUpgrade
  split
  case h_1 userId chosen =>
    split
    · exact holds.connect (named_of_upgradeUser chosen placed) now
    · exact holds
  case h_2 => exact holds

theorem members_closing (ws : Nat) (userId : String) :
    members (server.update ws Connection.closing) userId = members server.connections userId := by
  simp only [members, ApiGatewayServer.update, List.filter_map, List.map_map]
  have kept : ((fun connection : Connection =>
      decide (connection.userId = userId) && !connection.closed) ∘ fun connection =>
        if connection.ws = ws then connection.closing else connection) =
      fun connection => decide (connection.userId = userId) && !connection.closed := by
    funext connection
    simp only [Function.comp_apply]
    split <;> rfl
  rw [kept]
  apply List.map_congr_left
  intro connection _
  simp only [Function.comp_apply]
  split <;> rfl

theorem members_close (ws : Nat) (userId : String) :
    members (server.update ws Connection.close) userId =
      (members server.connections userId).filter (· ≠ ws) := by
  simp only [members, ApiGatewayServer.update, List.filter_map, List.map_map, List.filter_filter]
  have left : ((fun connection : Connection =>
      decide (connection.userId = userId) && !connection.closed) ∘ fun connection : Connection =>
        if connection.ws = ws then connection.close else connection) =
      fun connection => ((fun socket => decide (socket ≠ ws)) ∘ (·.ws)) connection &&
        (decide (connection.userId = userId) && !connection.closed) := by
    funext connection
    by_cases here : connection.ws = ws <;> simp [here, Connection.close]
  rw [left]
  apply List.map_congr_left
  intro connection _
  simp only [Function.comp_apply]
  split <;> rfl

theorem mem_update {change : Connection → Connection}
    (member : connection ∈ server.update ws change) :
    ∃ before ∈ server.connections, connection = before ∨ connection = change before := by
  obtain ⟨before, old, rfl⟩ := List.mem_map.mp member
  refine ⟨before, old, ?_⟩
  split
  · exact .inr rfl
  · exact .inl rfl

theorem GatewayHolds.closing (holds : GatewayHolds server) (ws : Nat) :
    GatewayHolds { server with connections := server.update ws Connection.closing } := by
  constructor
  · dsimp only
    rw [map_ws_update ws Connection.closing fun _ => rfl, length_update, holds.numbered]
  · intro userId
    dsimp only
    rw [members_closing, holds.registry]
  · intro connection member closed
    obtain ⟨before, old, rfl | rfl⟩ := mem_update member
    · exact holds.shut connection old closed
    · rfl
  · intro connection member
    obtain ⟨before, old, rfl | rfl⟩ := mem_update member
    · exact holds.named connection old
    · exact holds.named before old
  · exact holds.distinct

theorem GatewayHolds.disconnect (holds : GatewayHolds server)
    (member : connection ∈ server.connections) (alive : connection.closed = false) :
    GatewayHolds (server.disconnect connection.ws connection.userId) := by
  have listed : connection.ws ∈ members server.connections connection.userId :=
    mem_members.mpr ⟨connection, member, rfl, rfl, alive⟩
  have found : server.userConnections.get? connection.userId =
      some (members server.connections connection.userId) := by
    rw [holds.registry, if_neg (List.ne_nil_of_mem listed)]
  -- Other users do not have the socket.
  have apart : ∀ userId, userId ≠ connection.userId →
      (members server.connections userId).filter (· ≠ connection.ws) =
        members server.connections userId := by
    intro userId different
    rw [List.filter_eq_self]
    intro socket among
    obtain ⟨other, present, here, mine, -⟩ := mem_members.mp among
    have separate : socket ≠ connection.ws := by
      rintro rfl
      rw [eq_of_ws holds present member here] at mine
      exact different mine.symm
    simpa using separate
  unfold ApiGatewayServer.disconnect
  rw [found]
  constructor
  · dsimp only
    rw [map_ws_update connection.ws Connection.close fun _ => rfl, length_update, holds.numbered]
  · intro userId
    dsimp only
    rw [members_close]
    by_cases mine : userId = connection.userId
    · subst mine
      cases others : (members server.connections connection.userId).filter (· ≠ connection.ws) with
      | nil => simp [OrderedMap.get?_erase]
      | cons first rest => simp
    · rw [apart userId mine, ← holds.registry userId]
      split
      · rw [OrderedMap.get?_erase, if_neg mine]
      · rw [OrderedMap.get?_set, if_neg mine]
  · intro other present closed
    obtain ⟨before, old, rfl | rfl⟩ := mem_update present
    · exact holds.shut other old closed
    · rfl
  · intro other present
    obtain ⟨before, old, rfl | rfl⟩ := mem_update present
    · exact holds.named other old
    · exact holds.named before old
  · exact holds.distinct

variable {event : Value}

theorem correlationKey_handleMessage {frame : Value} {uuids : EventUuids} {now : String}
    (made : IngressManager.handleMessage env userId frame uuids now = some event) :
    isInboundFrame frame = true ∧ correlationKey event =
      if ((frame.get "metadata").get "id").truthy then ((frame.get "metadata").get "id").toText
      else uuids.correlationId := by
  unfold IngressManager.handleMessage at made
  split at made
  case isTrue => cases made
  case isFalse valid =>
    cases made
    refine ⟨by simpa using valid, ?_⟩
    unfold correlationKey
    rw [Value.get_obj_cons, if_neg (by decide), Value.get_obj_cons, if_neg (by decide),
      Value.get_obj_cons, if_pos rfl, Value.or]
    split <;> rfl

theorem GatewayHolds.onMessage (holds : GatewayHolds server) (connection : Connection)
    {data : Option Value} {uuids : EventUuids} (now : String) (fails : Bool)
    (fresh : uuids.correlationId ∉ server.published.map correlationKey)
    (named : ∀ frame, data = some frame → isInboundFrame frame = true →
      ((frame.get "metadata").get "id").truthy = true →
        ((frame.get "metadata").get "id").toText ∉ server.published.map correlationKey) :
    GatewayHolds (server.onMessage env connection data uuids now fails) := by
  unfold ApiGatewayServer.onMessage
  split
  case h_1 => exact holds.send _ _
  case h_2 => exact holds.send _ _
  case h_3 frame _ =>
    split
    case isTrue => exact holds
    case isFalse =>
      split
      case h_1 => exact holds.send _ _
      case h_2 event made =>
        split
        case isTrue => exact holds.send _ _
        case isFalse =>
          obtain ⟨valid, key⟩ := correlationKey_handleMessage made
          have new : correlationKey event ∉ server.published.map correlationKey := by
            rw [key]
            split
            case isTrue own => exact named frame rfl valid own
            case isFalse => exact fresh
          refine ⟨holds.1, holds.2, holds.3, holds.4, ?_⟩
          dsimp only
          rw [List.map_append, List.map_singleton, List.nodup_append]
          refine ⟨holds.distinct, List.nodup_singleton _, ?_⟩
          intro earlier among later last
          rw [List.mem_singleton.mp last]
          rintro rfl
          exact new among

theorem GatewayHolds.step (holds : GatewayHolds server) {input : WebSocketInput}
    (fresh : UuidsFresh server input) (placed : IsolationInPlace env server input) :
    GatewayHolds (webSocketStep env server input) := by
  cases input with
  | upgrade request handshake now =>
    unfold webSocketStep
    dsimp only
    split
    case isTrue => exact holds
    case isFalse =>
      split
      case isTrue => exact ⟨holds.1, holds.2, holds.3, holds.4, holds.5⟩
      case isFalse without =>
        exact holds.finishUpgrade (placed (by simpa using without)) handshake now
  | validated index uid handshake now =>
    unfold webSocketStep
    dsimp only
    split
    case h_1 request found =>
      have others : GatewayHolds { server with upgrades := server.upgrades.eraseIdx index } :=
        ⟨holds.1, holds.2, holds.3, holds.4, holds.5⟩
      exact others.finishUpgrade (placed request found) handshake now
    case h_2 => exact holds
  | message ws data uuids now fails =>
    unfold webSocketStep
    dsimp only
    split
    case h_1 connection found =>
      split
      case isTrue => exact holds
      case isFalse =>
        apply holds.onMessage connection now fails fresh
        rintro frame rfl
        exact placed
    case h_2 => exact holds
  | closing ws => exact holds.closing ws
  | close ws =>
    unfold webSocketStep
    dsimp only
    split
    case h_1 connection found =>
      obtain ⟨member, rfl⟩ := (connection?_eq_some_iff holds).mp found
      split
      case isTrue => exact holds
      case isFalse alive => exact holds.disconnect member (by simpa using alive)
    case h_2 => exact holds
  | egress event random now webhook => exact ⟨holds.1, holds.2, holds.3, holds.4, holds.5⟩

theorem GatewayHolds.law (holds : GatewayHolds server) : ClientLaw server := by
  have sockets_eq : ∀ {userId sockets}, server.userConnections.get? userId = some sockets →
      sockets ≠ [] ∧ sockets = members server.connections userId := by
    intro userId sockets found
    rw [holds.registry] at found
    split at found
    case isTrue => cases found
    case isFalse some_sockets =>
      cases found
      exact ⟨some_sockets, rfl⟩
  refine ⟨holds.named, ?_, fun _ _ found => (sockets_eq found).1, ?_, holds.distinct⟩
  · intro connection member alive
    have listed : connection.ws ∈ members server.connections connection.userId :=
      mem_members.mpr ⟨connection, member, rfl, rfl, alive⟩
    refine ⟨members server.connections connection.userId, ?_, listed⟩
    rw [holds.registry, if_neg (List.ne_nil_of_mem listed)]
  · intro userId sockets ws found among
    rw [(sockets_eq found).2] at among
    exact mem_members.mp among

theorem handleEgressEvent_of_addressed (holds : GatewayHolds server) {random : ℚ}
    (addressed : AddressedTo random event userId) (now : String) (webhook : Bool) :
    ((EgressManager.handleEgressEvent server event random now webhook).2).map Prod.fst =
      (members server.connections userId).filter fun ws =>
        (server.connection? ws).any (·.isOpen) := by
  obtain ⟨notWebhook, target, user, named, content⟩ := addressed
  have truthy : (Value.str userId).truthy = true := by simpa using named
  have content' : ¬ ((egressText random event).isNone && !(event.get "payload").truthy) = true := by
    rcases content with text | payload
    · simp [Option.isNone_eq_false_iff.mpr text]
    · simp [payload]
  have sends : ∀ sockets : List Nat, (if sockets.isEmpty = true then
        (some EgressResult.notFound, ([] : List (Nat × Value)))
      else
        (some (if (sockets.filter fun ws => (server.connection? ws).any (·.isOpen)).isEmpty
            then EgressResult.failed else EgressResult.delivered),
          (sockets.filter fun ws => (server.connection? ws).any (·.isOpen)).map fun ws =>
            (ws, outboundFrame (egressText random event) event now))).2.map Prod.fst =
      sockets.filter fun ws => (server.connection? ws).any (·.isOpen) := by
    intro sockets
    cases sockets with
    | nil => rfl
    | cons first rest => simp [Function.comp_def]
  unfold EgressManager.handleEgressEvent
  rw [user]
  rcases target with yes | ⟨no, destination, connector⟩
  · simp only [if_neg notWebhook, yes, truthy, Bool.not_true, Bool.false_and, Bool.false_eq_true,
      ↓reduceIte, if_neg content', getD_userConnections holds]
    exact sends _
  · have plain : ¬ Value.undefined = Value.str "webhook" := by simp
    simp only [if_neg plain, no, destination, connector, truthy, Bool.not_true, ne_eq,
      not_true_eq_false, decide_false, Bool.or_false, Bool.and_false, Bool.false_eq_true,
      ↓reduceIte, if_neg content', getD_userConnections holds]
    exact sends _

theorem handleEgressEvent_of_unaddressed {random : ℚ}
    (unaddressed : ∀ userId, ¬ AddressedTo random event userId) (now : String) (webhook : Bool) :
    (EgressManager.handleEgressEvent server event random now webhook).2 = [] := by
  unfold EgressManager.handleEgressEvent
  dsimp only
  split
  case isTrue => rfl
  case isFalse notWebhook =>
    split
    case h_1 => rfl
    case h_2 target known =>
      split
      case isTrue => rfl
      case isFalse aimed =>
        split
        case isTrue => rfl
        case isFalse truthy =>
          cases user : egressUser event with
          | str userId =>
            dsimp only
            split
            case isTrue => rfl
            case isFalse =>
              split
              case isTrue => rfl
              case isFalse content =>
                -- Whatever is sent is for the user whose sockets these are.
                refine absurd ⟨notWebhook, ?_, user, ?_, ?_⟩ (unaddressed userId)
                · cases target with
                  | true => exact .inl known
                  | false => exact .inr ⟨known, by simpa using aimed⟩
                · simpa [user] using truthy
                · cases text : egressText random event with
                  | some found => exact .inl rfl
                  | none => exact .inr (by simpa [text] using content)
          | _ => rfl

private theorem GatewayHolds.isolation (holds : GatewayHolds server) {input : WebSocketInput}
    (fresh : UuidsFresh server input) (placed : IsolationInPlace env server input) :
    IsolationLaw env server input := by
  refine ⟨(holds.step fresh placed).law, ?_, ?_⟩
  · rintro event random now webhook userId - addressed
    have sockets := handleEgressEvent_of_addressed holds addressed now webhook
    dsimp only
    rw [sockets]
    refine ⟨(nodup_members holds userId).filter _, fun ws => ?_⟩
    rw [List.mem_filter, mem_members]
    constructor
    · rintro ⟨⟨connection, member, rfl, mine, -⟩, opened⟩
      rw [(connection?_eq_some_iff holds).mpr ⟨member, rfl⟩] at opened
      exact ⟨connection, member, rfl, mine, opened⟩
    · rintro ⟨connection, member, rfl, mine, opened⟩
      -- An open connection was not closed.
      have alive : connection.closed = false := by
        rw [Bool.eq_false_iff]
        intro closed
        rw [holds.shut connection member closed] at opened
        cases opened
      refine ⟨⟨connection, member, rfl, mine, alive⟩, ?_⟩
      rw [(connection?_eq_some_iff holds).mpr ⟨member, rfl⟩]
      exact opened
  · rintro event random now webhook - unaddressed
    exact handleEgressEvent_of_unaddressed unaddressed now webhook

/-- Clients are kept apart in every run whose names, of clients and of frames, are in place. -/
theorem clients_isolated (env : WebSocketEnv) {inputs : List WebSocketInput}
    (fresh : Along (webSocketStep env) UuidsFresh {} inputs)
    (placed : Along (webSocketStep env) (IsolationInPlace env) {} inputs) :
    Along (webSocketStep env) (IsolationLaw env) {} inputs := by
  refine along_of_invariant GatewayHolds ?_ ?_ GatewayHolds.start (fresh.and placed)
  · exact fun _ _ holds ok => holds.step ok.1 ok.2
  · exact fun _ _ holds ok => holds.isolation ok.1 ok.2

end

def openGateway : WebSocketEnv :=
  { allowAnonymous := true, egressDestinationTopic := "internal.api.egress.v1.local" }

def upgradeOf (token userId : Option String) : UpgradeRequest :=
  { pathname := "/ws/v1", authorization := token.map ("Bearer " ++ ·), userId }

def chatFrame (id : String) : Value :=
  .obj [("type", .str "chat.message.send"), ("payload", .obj [("text", .str "hello")]),
    ("metadata", .obj [("id", .str id)])]

def drawn (index : Nat) : EventUuids :=
  { correlationId := "c-" ++ toString index, traceId := "t-" ++ toString index,
    messageId := "m-" ++ toString index }

def twoUsers : List WebSocketInput :=
  [.upgrade (upgradeOf (some "one") none) true "now", .validated 0 (some "alice") true "now",
    .upgrade (upgradeOf (some "two") (some "brat-chat:Bob")) true "now",
    .validated 0 (some "bob") true "now"]

/-- Two users send what they name differently, one of them gets an answer, and both leave. -/
theorem clients_isolated_two_users :
    Along (webSocketStep openGateway) (IsolationLaw openGateway) {} (twoUsers ++
      [.message 0 (some (chatFrame "first")) (drawn 0) "now" false,
        .message 1 (some (chatFrame "second")) (drawn 1) "now" false,
        .egress (.obj [("type", .str "chat.message.v1"),
          ("egress", .obj [("connector", .str "api")]),
          ("identity", .obj [("external", .obj [("id", .str "brat-chat:Bob")])]),
          ("payload", .obj [("text", .str "hi")])]) 0 "now" true,
        .closing 0, .close 0, .close 1]) :=
  clients_isolated openGateway (by decide +kernel) (by decide +kernel)

/-- A client without a token takes the name of another; and two frames have one name. -/
theorem clients_not_isolated :
    ¬ Along (webSocketStep openGateway) (IsolationLaw openGateway) {}
        [.upgrade (upgradeOf none (some "brat-chat:Bob")) true "now"] ∧
      ¬ Along (webSocketStep openGateway) (IsolationLaw openGateway) {} (twoUsers ++
        [.message 0 (some (chatFrame "1")) (drawn 0) "now" false,
          .message 1 (some (chatFrame "1")) (drawn 1) "now" false]) := by
  constructor
  · intro law
    have named := law.1.after.named _ List.mem_cons_self
    -- It has no token, and is not anonymous.
    rcases named with ⟨token, -⟩ | anonymous | ⟨-, -, valid⟩
    · cases token
    · exact absurd anonymous (by decide +kernel)
    · cases valid
  · intro law
    have distinct := law.2.2.2.2.2.1.after.distinct
    revert distinct
    decide +kernel

end BitBrat
