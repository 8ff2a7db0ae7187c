import BitBrat.Js.Json
import BitBrat.Js.Text
import BitBrat.Routing.Next

/-! The delivery of an egress event: the text it is taken to have, and the connector that sends. -/

namespace BitBrat

open Js

def quotePairs : List (Char × Char) :=
  [(0x22, 0x22), (0x27, 0x27), (0x201C, 0x201D), (0x2018, 0x2019), (0x60, 0x60)].map
    fun pair : Nat × Nat => (Char.ofNat pair.1, Char.ofNat pair.2)

def unwrapOnce (text : List Char) : Option (List Char) :=
  quotePairs.findSome? fun (opening, closing) =>
    match text with
    | first :: rest =>
      -- A single quote is not a quoted text.
      if first = opening ∧ rest.getLast? = some closing then some (trimBlanks rest.dropLast)
      else none
    | [] => none

/-- A text without blanks around it, and without up to two layers of quotes. -/
def unwrapQuoted (text : List Char) : List Char :=
  let trimmed := trimBlanks text
  match unwrapOnce trimmed with
  | none => trimmed
  | some once => (unwrapOnce once).getD once

/-- The text to deliver for a value, unless nothing is left of it. -/
def deliverable : Value → Option String
  | .undefined => none
  | .null => none
  | text =>
    let trimmed := trimBlanks (unwrapQuoted text.toText.toList)
    if trimmed = [] then none else some (String.ofList trimmed)

/-- The text that an event delivers, with a fallback to older shapes of events. -/
def extractEgressTextFromEvent (random : ℚ) (event : Event) : Option String :=
  match (selectBestCandidate random event.candidates).bind fun best =>
    deliverable (best.get "text") with
  | some text => some text
  | none =>
    -- An event with candidates never echoes the message that it answers.
    if event.candidates.isSome then none
    else if event.egress.isSome ∧ event.message.isSome then none
    else
      let raw := (event.rest.get "rawPlatformPayload").onlyIf event.message.isSome
      let payload := event.rest.get "payload"
      (deliverable ((raw.get "chat").get "text" |>.coalesce (raw.get "text"))).or
        (deliverable ((payload.get "chat").get "text" |>.coalesce (payload.get "text")))

inductive EgressFieldValue where
  | path (path : String)
  | object (value : Value) (path : Option String) (fallback : Value)

/-- The method of a connector to call, and the payload to call it with. -/
structure EgressMapping where
  method : Option String
  fieldMapping : List (String × EgressFieldValue)

structure PlatformMapping where
  internalEventType : String
  egress : Option EgressMapping := none

/-- The mappings that are configured for the platforms, highest priority first. -/
def platformMappings : List (String × List PlatformMapping) :=
  [("discord",
      [{ internalEventType := "dm.message.v1"
         egress := some
          { method := some "sendDM"
            fieldMapping := [("text", .path "message.text"),
              ("userId", .path "identity.external.id")] } },
        { internalEventType := "chat.message.v1" }]),
    ("slack",
      [{ internalEventType := "dm.message.v1"
         egress := some
          { method := some "sendText"
            fieldMapping :=
              [("text", .path "message.text"), ("channel", .path "egress.channel")] } },
        { internalEventType := "chat.message.v1"
          egress := some
            { method := some "sendText"
              fieldMapping := [("channel", .path "egress.channel"),
                ("text", .path "message.text")] } }]),
    ("twitch",
      [{ internalEventType := "dm.message.v1"
         egress := some
          { method := some "sendWhisper"
            fieldMapping := [("text", .path "message.text"),
              ("userId", .path "identity.external.id")] } },
        { internalEventType := "chat.message.v1" }])]

structure EgressEnv where
  /-- The methods of the connector of a platform, each with whether a call of it succeeds. -/
  connectors : String → Option (String → Option Bool)
  translates : Bool
  valueAt : Event → String → Value
  isoText : Int → String

def findEgressMapping (platform eventType : String) : Option EgressMapping :=
  (platformMappings.lookup platform).bind fun mappings =>
    (mappings.find? fun mapping =>
      mapping.internalEventType = eventType && mapping.egress.isSome).bind PlatformMapping.egress

def extractFieldValue (env : EgressEnv) (envelope : Event) : EgressFieldValue → Value
  | .path path => env.valueAt envelope path
  | .object value path fallback =>
    -- A fixed value comes before a path, and a path before the default.
    if value ≠ .undefined then value
    else
      match path.bind nonEmpty with
      | some path =>
        let found := env.valueAt envelope path
        if found ≠ .undefined then found else fallback
      | none => fallback

def buildPayload (env : EgressEnv) (envelope : Event)
    (fieldMapping : List (String × EgressFieldValue)) : List (String × Value) :=
  fieldMapping.foldl (fun payload field =>
    let value := extractFieldValue env envelope field.2
    if value ≠ .undefined then setEntry field.1 value payload else payload) []

/-- The method and the payload for an event, or the message of what is missing. -/
def translateOutbound (env : EgressEnv) (platform eventType : String) (envelope : Event) :
    Except String (String × List (String × Value)) :=
  match findEgressMapping platform eventType with
  | none => .error ("No egress mapping found for " ++ platform ++ ":" ++ eventType)
  | some mapping =>
    .ok (textOr mapping.method "sendText", buildPayload env envelope mapping.fieldMapping)

inductive EgressCall where
  | invoke (method : String) (payload : List (String × Value))
  | sendDM (text userId : String)
  | sendText (text : String) (target : Option String)

def EgressCall.text : EgressCall → Value
  | invoke _ payload => (payload.lookup "text").getD .undefined
  | sendDM text _ => .str text
  | sendText text _ => .str text

def targetChannel (event : Event) : Option String :=
  ((event.egress.bind Egress.channel).bind nonEmpty).or (event.ingress.bind Ingress.channel)

/-- Send a text as a direct message or to a channel, whichever the event and connector allow. -/
def sendLegacy (connector : String → Option Bool) (event : Event) (text : String) :
    List EgressCall :=
  let toChannel :=
    if (connector "sendText").isSome then [.sendText text (targetChannel event)] else []
  if event.egress.bind Egress.type = some "dm" then
    -- A direct message without a recipient is dropped.
    match event.externalId.bind nonEmpty with
    | none => []
    | some userId =>
      if (connector "sendDM").isSome then [.sendDM text userId] else toChannel
  else toChannel

/-- The calls with which an egress event is delivered, in order. -/
def processEgress (env : EgressEnv) (random : ℚ) (event : Event) : List EgressCall :=
  match event.egress.bind (nonEmpty ·.connector) with
  | none => []
  | some platform =>
    match env.connectors platform with
    | none => []
    | some connector =>
      let legacy :=
        match extractEgressTextFromEvent random event with
        | none => []
        | some text => sendLegacy connector event text
      if env.translates then
        match translateOutbound env platform event.type event with
        -- Without a mapping, the event is delivered as before.
        | .error _ => legacy
        | .ok (method, payload) =>
          match connector method with
          | none => legacy
          | some true => [.invoke method payload]
          | some false => .invoke method payload :: legacy
      else legacy

/-- An event as it arrives after its transport as JSON text. -/
def overBus (isoText : Int → String) (event : Event) : Event :=
  { event with
    egress := event.egress.map fun egress =>
      { egress with metadata := jsonForm isoText egress.metadata }
    annotations := event.annotations.map (·.map (jsonItem isoText))
    candidates := event.candidates.map (·.map (jsonItem isoText))
    metadata := jsonForm isoText event.metadata
    replyTo := jsonForm isoText event.replyTo
    rest := jsonForm isoText event.rest }

end BitBrat
