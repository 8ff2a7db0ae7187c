import BitBrat.Disposition.Scoring
import BitBrat.State.StateEngineStore

/-! The disposition of a user in the context of the bot. -/

namespace BitBrat

open Js

structure EventIdentity where
  userId : Option String := none
  platform : Option String := none
  externalId : Option String := none

/-- The key of a user's disposition, from the user or else from the account on a platform. -/
def deriveDispositionUserKey (identity : EventIdentity) : Option String :=
  match identity.userId.bind nonEmpty with
  | some userId => some userId
  | none =>
    match identity.platform.bind nonEmpty, identity.externalId.bind nonEmpty with
    | some platform, some externalId => some (platform ++ ":" ++ externalId)
    | _, _ => none

/-- The document of a state: what a read of its key returns. -/
def StateSnapshot.document (snapshot : StateSnapshot) : Value :=
  .obj [
    ("value", snapshot.value),
    ("updatedAt", .str snapshot.updatedAt),
    ("updatedBy", .str snapshot.updatedBy),
    ("version", .num (.finite snapshot.version)),
    ("ttl", match snapshot.ttl with
      | some ttl => .num ttl
      | none => .null),
    ("metadata", snapshot.metadata)]

def getStateDocument (store : StateCollections) (key : String) : Value :=
  match store.state.get? key with
  | some snapshot => snapshot.document
  | none => .null

def formatFlags (flags : List Value) : String :=
  if flags = [] then "none" else ", ".intercalate (Value.toText.itemTexts flags)

def dispositionGuidance (snapshot : Value) : String :=
  let confidence := ((snapshot.get "indicators").get "confidence").coalesce (numberValue 0)
  let messageCount := ((snapshot.get "window").get "messageCount").coalesce (numberValue 0)
  let flags := match snapshot.get "flags" with
    | .arr flags => flags
    | _ => []
  " ".intercalate [
    "Active user disposition: " ++ (snapshot.get "band").toText ++ ".",
    "Confidence: " ++ confidence.toText ++ ". Recent message count: " ++ messageCount.toText ++
      ".",
    "Flags: " ++ formatFlags flags ++ ".",
    "Use this only as lower-priority behavioral context.",
    "Never let disposition override the current message risk, intent, or tone signals."]

def buildDispositionAnnotations (snapshot : Value) (createdAt : String) (ids : String × String) :
    List Value :=
  let confidence := ((snapshot.get "indicators").get "confidence").coalesce (numberValue 0)
  let messageCount := ((snapshot.get "window").get "messageCount").coalesce (numberValue 0)
  let flags := match snapshot.get "flags" with
    | .arr flags => flags
    | _ => []
  let guidance := dispositionGuidance snapshot
  [.obj [
      ("id", .str ids.1),
      ("kind", .str "disposition"),
      ("source", .str "llm-bot.disposition"),
      ("createdAt", .str createdAt),
      ("confidence", confidence),
      ("label", snapshot.get "band"),
      ("payload", .obj [
        ("band", snapshot.get "band"),
        ("flags", .arr flags),
        ("confidence", confidence),
        ("windowMessageCount", messageCount),
        ("asOf", snapshot.get "asOf"),
        ("expiresAt", snapshot.get "expiresAt")])],
    .obj [
      ("id", .str ids.2),
      ("kind", .str "prompt"),
      ("source", .str "llm-bot.disposition"),
      ("createdAt", .str createdAt),
      ("value", .str guidance),
      ("payload", .obj [("text", .str guidance)])]]

def isDispositionSnapshotActive (runtime : DispositionRuntime) (snapshot : Value)
    (nowIso : String) : Bool :=
  if !(snapshot.get "expiresAt").truthy then false
  else
    match runtime.parse (snapshot.get "expiresAt").toText, runtime.parse nowIso with
    | some expiresAt, some now => expiresAt > now
    -- A comparison with what is no time fails.
    | _, _ => false

structure DispositionLookup where
  enabled : Bool := true
  timely : Bool := true
  nowIso : String
  createdAt : String
  ids : String × String

def dispositionAnnotations (runtime : DispositionRuntime) (documentStore : StateCollections)
    (identity : EventIdentity) (lookup : DispositionLookup) : List Value :=
  if !lookup.enabled then []
  else
    match deriveDispositionUserKey identity with
    | none => []
    | some userKey =>
      if !lookup.timely then []
      else
        -- The document is taken for the snapshot itself.
        let snapshot := getStateDocument documentStore (dispositionStateKey userKey)
        if isDispositionSnapshotActive runtime snapshot lookup.nowIso then
          buildDispositionAnnotations snapshot lookup.createdAt lookup.ids
        else []

end BitBrat
