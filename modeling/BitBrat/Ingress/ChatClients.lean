import BitBrat.Js.Text
import BitBrat.Types.Event

/-! The clients of the chat platforms: which messages they pass on, and in what shape. -/

namespace BitBrat

open Js

structure DebugStamp where
  uuid : String
  nowIso : String
  deriving DecidableEq

structure DebugMetadata where
  initiatedBy : String
  feedbackChannel : String
  startedAt : String
  deriving DecidableEq

structure EnvelopeRequest (μ : Type) where
  message : μ
  egressDestination : Option String
  correlationId : Option String := none
  debugMetadata : Option DebugMetadata := none
  deriving DecidableEq

inductive Handling (μ : Type) where
  | ignored
  | filtered
  | deduplicated
  | rejected
  | publish (request : EnvelopeRequest μ)
  deriving DecidableEq

def debugMatch (text : String) : Option String :=
  let command := text.toList.take 6
  let rest := text.toList.drop 6
  if command.map Char.toLower = "!debug".toList ∧ rest.head?.any isBlank then
    some (String.ofList (rest.dropWhile isBlank))
  else none

def addProcessed (processed : List String) (id : String) : List String := processed ++ [id]

structure SlackEvent where
  type : String
  user : Option String := none
  botId : Option String := none
  channel : Option String := none
  text : Option String := none
  ts : Option String := none
  eventTs : Option String := none
  threadTs : Option String := none
  team : Option String := none

structure SlackEnvelope where
  type : String
  event : Option SlackEvent
  teamId : Option String := none
  stamp : DebugStamp

structure SlackEventMeta where
  type : String
  user : Option String
  channel : Option String
  text : String
  ts : Option String
  threadTs : Option String
  team : Option String
  eventTs : Option String
  deriving DecidableEq

structure SlackIngressClient where
  botUserId : String
  debugAuthorizedUsers : List String
  egressDestinationTopic : Option String

namespace SlackIngressClient

variable (client : SlackIngressClient)

/-- The bot's own messages, and those of other bots. -/
def isBotMessage (event : SlackEvent) : Bool :=
  event.user = some client.botUserId || (event.botId.bind nonEmpty).isSome

def messageTs (event : SlackEvent) : Option String :=
  ((event.ts.bind nonEmpty).or event.eventTs).bind nonEmpty

def envelopeRequest (event : SlackEvent) (teamId : Option String) (stamp : DebugStamp) :
    EnvelopeRequest SlackEventMeta :=
  let text := event.text.getD ""
  let requested := debugMatch text
  let userId := (event.user.bind nonEmpty).getD "unknown"
  -- A request without the right to it is published without the command.
  let authorized := requested.isSome && client.debugAuthorizedUsers.contains userId
  { message :=
      { type := event.type, user := event.user, channel := event.channel
        text := requested.getD text, ts := event.ts, threadTs := event.threadTs
        team := (event.team.bind nonEmpty).or teamId, eventTs := event.eventTs }
    egressDestination := client.egressDestinationTopic
    correlationId := if authorized then some stamp.uuid else none
    debugMetadata :=
      if authorized then
        some
          { initiatedBy := userId
            feedbackChannel := (event.channel.bind nonEmpty).getD "unknown"
            startedAt := stamp.nowIso }
      else none }

def handleMessage (processed : List String) (event : SlackEvent) (teamId : Option String)
    (stamp : DebugStamp) : List String × Handling SlackEventMeta :=
  if client.isBotMessage event then (processed, .filtered)
  else
    match messageTs event with
    | some ts =>
      if processed.contains ts then (processed, .deduplicated)
      -- The message counts as processed from here on, whatever becomes of it.
      else (addProcessed processed ts, .publish (client.envelopeRequest event teamId stamp))
    | none => (processed, .publish (client.envelopeRequest event teamId stamp))

/-- What the socket hands over: only workspace events are messages. -/
def onSlackEvent (processed : List String) (envelope : SlackEnvelope) :
    List String × Handling SlackEventMeta :=
  match envelope.event with
  | some event =>
    if envelope.type = "events_api" then
      client.handleMessage processed event envelope.teamId envelope.stamp
    else (processed, .ignored)
  | none => (processed, .ignored)

end SlackIngressClient

structure DiscordGuild where
  id : String
  ownerId : String

structure DiscordMessage where
  id : String
  channelId : String
  channelType : Nat := 0
  guild : Option DiscordGuild := none
  content : Option String := none
  authorId : String
  authorName : String
  authorIsBot : Bool := false
  createdAt : Option String := none
  mentions : List String := []
  roles : Option (List String) := none
  stamp : DebugStamp

structure DiscordMessageMeta where
  guildId : String
  channelId : String
  messageId : String
  authorId : String
  authorName : String
  content : String
  createdAt : String
  mentions : List String
  roles : Option (List String)
  isOwner : Bool
  channelType : Nat
  deriving DecidableEq

structure DiscordIngressClient where
  guildId : String
  channels : List String
  debugAuthorizedUsers : List String
  egressDestinationTopic : Option String
  disableIngress : Bool
  useTokenStore : Bool

namespace DiscordIngressClient

variable (client : DiscordIngressClient)

def isDM (message : DiscordMessage) : Bool := message.channelType = 1

/-- A message that no filter stops: a direct one, or one of the guild and a channel that is listened
to, with a text, and not of a bot. -/
def accepts (message : DiscordMessage) : Bool :=
  (isDM message || (message.guild.any (·.id = client.guildId) &&
    client.channels.contains message.channelId)) &&
    (message.content.bind nonEmpty).isSome && !message.authorIsBot

/-- What is published of a message, unless it asks for a debug run without the right to. -/
def envelopeRequest (message : DiscordMessage) : Option (EnvelopeRequest DiscordMessageMeta) :=
  let text := message.content.getD ""
  let requested := debugMatch text
  let userId := (nonEmpty message.authorId).getD "unknown"
  let authorized := client.debugAuthorizedUsers.contains userId
  if requested.isSome && !authorized then none
  else
    some
      { message :=
          { guildId := if isDM message then "" else client.guildId
            channelId := message.channelId, messageId := message.id
            authorId := message.authorId, authorName := message.authorName
            content := requested.getD text
            createdAt := message.createdAt.getD message.stamp.nowIso
            mentions := message.mentions, roles := message.roles
            isOwner := message.guild.any (·.ownerId = message.authorId)
            channelType := message.channelType }
        egressDestination := client.egressDestinationTopic
        correlationId := if requested.isSome then some message.stamp.uuid else none
        debugMetadata :=
          if requested.isSome then
            some
              { initiatedBy := userId, feedbackChannel := message.channelId
                startedAt := message.stamp.nowIso }
          else none }

def handleNew (message : DiscordMessage) : Handling DiscordMessageMeta :=
  match client.envelopeRequest message with
  | some request => .publish request
  | none => .rejected

def onMessageCreate (processed : List String) (message : DiscordMessage) :
    List String × Handling DiscordMessageMeta :=
  if client.disableIngress then (processed, .ignored)
  else if !client.accepts message then (processed, .filtered)
  else
    match nonEmpty message.id with
    | some id =>
      if processed.contains id then (processed, .deduplicated)
      -- The message counts as processed from here on, whatever becomes of it.
      else (addProcessed processed id, client.handleNew message)
    | none => (processed, client.handleNew message)

end DiscordIngressClient

end BitBrat
