import BitBrat.Js.Value

/-! Bearer tokens of the gateway: how they are validated from a cache, and how they are revoked. -/

namespace BitBrat

open Js

structure TokenEnv where
  /-- The digest of a token, under which the token is stored. -/
  sha256 : String → String
  /-- The milliseconds since the epoch that a value denotes as a date, where it denotes one. -/
  parseDate : Value → Option Int

/-- A date, which has no time where it was made from something that is not a date. -/
structure Date where
  getTime : Option Int
  deriving DecidableEq

structure TokenInfo where
  token_hash : String
  uid : Value
  expires_at : Option Date
  created_at : Date
  last_used_at : Option Date

structure CachedToken where
  uid : Value
  expires_at : Option Date

/-- A validation that asks the store, with the document once the store has answered. -/
structure PendingValidation where
  hash : String
  startedAt : Int
  answer : Option (Option Value) := none

/-- An update of the time of last use, with the document once the store has answered. -/
structure PendingUse where
  hash : String
  answer : Option (Option Value) := none

/-- The table of the tokens, and the process that validates them. -/
structure GatewayState where
  tokens : OrderedMap String Value
  now : Int
  cache : OrderedMap String CachedToken := .empty
  timers : List (Int × String) := []
  validations : List PendingValidation := []
  uses : List PendingUse := []
  revokedAt : OrderedMap String Int := .empty

inductive TokenInput where
  | validateToken (token : String)
  | answerValidation (index : Nat) (fails : Bool)
  | finishValidation (index : Nat)
  | answerUse (index : Nat) (fails : Bool)
  | writeUse (index : Nat) (lastUsedAt : String) (fails : Bool)
  | setToken (tokenHash userId createdAt : String)
  | deleteToken (tokenHash : String)
  | advance (ms : Nat)

/-- How long an accepted token stays in the cache, in milliseconds. -/
def CACHE_TTL_MS : Int := 300000

/-- The date that a property denotes, unless it is absent or empty. -/
def dateOf (env : TokenEnv) (value : Value) : Option Date :=
  if value.truthy then some { getTime := env.parseDate value } else none

/-- Whether a date has passed, which one without a time never has. -/
def Date.passed (date : Date) (now : Int) : Bool :=
  match date.getTime with
  | some time => time < now
  | none => false

def DocumentStoreApiTokenStore.getToken (env : TokenEnv) (now : Int) (hash : String)
    (doc : Option Value) : Option TokenInfo :=
  match doc with
  | some doc =>
    if doc.truthy then
      some {
        token_hash := hash
        uid := (doc.get "uid").or (doc.get "user_id")
        expires_at := dateOf env (doc.get "expires_at")
        created_at := (dateOf env (doc.get "created_at")).getD { getTime := some now }
        last_used_at := dateOf env (doc.get "last_used_at") }
    else none
  | none => none

/-- What became of a validation: the user of the token, or nothing. -/
structure Validated where
  hash : String
  startedAt : Int
  uid : Option Value

def GatewayState.start (tokens : OrderedMap String Value) (now : Int) : GatewayState :=
  { tokens, now }

section

variable (env : TokenEnv) (state : GatewayState)

/-- Look a token up in the cache, or else ask the store for it. -/
def AuthService.validateToken (token : String) : GatewayState × Option Validated :=
  let hash := env.sha256 token
  let validated (uid : Option Value) : Option Validated :=
    some { hash, startedAt := state.now, uid }
  if token = "" then (state, validated none)
  else
    match state.cache.get? hash with
    | some cached =>
      if cached.expires_at.any (·.passed state.now) then
        ({ state with cache := state.cache.erase hash }, validated none)
      else (state, validated (some cached.uid))
    | none =>
      ({ state with
        validations := state.validations ++ [{ hash, startedAt := state.now }] }, none)

/-- The answer of the store to a call, which is nothing when it fails. -/
def storeAnswer (hash : String) (fails : Bool) : Option Value :=
  if fails then none else state.tokens.get? hash

def AuthService.finishValidation (index : Nat) : GatewayState × Option Validated :=
  match state.validations[index]? with
  | some { hash, startedAt, answer := some doc } =>
    let rest := { state with validations := state.validations.eraseIdx index }
    let validated (uid : Option Value) : Option Validated := some { hash, startedAt, uid }
    match DocumentStoreApiTokenStore.getToken env state.now hash doc with
    | some info =>
      if info.expires_at.any (·.passed state.now) then (rest, validated none)
      else
        ({ rest with
          cache := state.cache.set hash { uid := info.uid, expires_at := info.expires_at }
          timers := state.timers ++ [(state.now + CACHE_TTL_MS, hash)]
          -- The update of the last use starts, and is not waited for.
          uses := state.uses ++ [{ hash }] }, validated (some info.uid))
    | none => (rest, validated none)
  | _ => (state, none)

/-- Write the time of last use into the document that was read, if one was. -/
def DocumentStoreApiTokenStore.updateLastUsed (index : Nat) (lastUsedAt : String) (fails : Bool) :
    GatewayState :=
  match state.uses[index]? with
  | some { hash, answer := some doc } =>
    let rest := { state with uses := state.uses.eraseIdx index }
    match doc with
    | some doc =>
      if doc.truthy && !fails then
        { rest with
          tokens := state.tokens.set hash (doc.extend [("last_used_at", .str lastUsedAt)]) }
      else rest
    | none => rest
  | _ => state

def tokenDoc (tokenHash userId createdAt : String) : Value :=
  .obj [("user_id", .str userId), ("created_at", .str createdAt), ("token_hash", .str tokenHash)]

/-- Let time pass, at the end of which all timers that are due have run. -/
def GatewayState.advance (ms : Nat) : GatewayState :=
  let now := state.now + ms
  let due := state.timers.filter fun timer => timer.1 ≤ now
  { state with
    now
    cache := state.cache.filter fun entry => entry.1 ∉ due.map Prod.snd
    timers := state.timers.filter fun timer => now < timer.1 }

/-- A validation with the answer of the store, which comes once. -/
def PendingValidation.answered (pending : PendingValidation) (fails : Bool) : PendingValidation :=
  { pending with answer := some (pending.answer.getD (storeAnswer state pending.hash fails)) }

/-- An update of the last use with the answer of the store, which comes once. -/
def PendingUse.answered (pending : PendingUse) (fails : Bool) : PendingUse :=
  { pending with answer := some (pending.answer.getD (storeAnswer state pending.hash fails)) }

/-- One step, with the validation that it ends, if it ends one. -/
def tokenOutcome : TokenInput → GatewayState × Option Validated
  | .validateToken token => AuthService.validateToken env state token
  | .answerValidation index fails =>
    ({ state with
      validations := state.validations.modify index fun pending =>
        pending.answered state fails }, none)
  | .finishValidation index => AuthService.finishValidation env state index
  | .answerUse index fails =>
    ({ state with
      uses := state.uses.modify index fun pending => pending.answered state fails }, none)
  | .writeUse index lastUsedAt fails =>
    (DocumentStoreApiTokenStore.updateLastUsed state index lastUsedAt fails, none)
  | .setToken tokenHash userId createdAt =>
    ({ state with
      tokens := state.tokens.set tokenHash (tokenDoc tokenHash userId createdAt)
      revokedAt := state.revokedAt.erase tokenHash }, none)
  | .deleteToken tokenHash =>
    ({ state with
      tokens := state.tokens.erase tokenHash
      revokedAt := state.revokedAt.set tokenHash state.now }, none)
  | .advance ms => (state.advance ms, none)

def tokenStep (input : TokenInput) : GatewayState := (tokenOutcome env state input).1

end

end BitBrat
