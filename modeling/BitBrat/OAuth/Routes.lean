import BitBrat.OAuth.State

/-! The requests that begin an authorization, and those that come back from it with a code. -/

namespace BitBrat.OAuth

open Js

inductive TwitchIdentity where
  | bot | broadcaster
  deriving DecidableEq

/-- The routes of an identity: of its own, or those that serve any provider and identity. -/
inductive Route where
  | twitch (identity : TwitchIdentity)
  | generic (provider identity : String)
  deriving DecidableEq

abbrev Key := String × String

def Route.key (env : OAuthEnv) : Route → Key
  | .twitch .bot => ("twitch", "bot")
  | .twitch .broadcaster => ("twitch", "broadcaster")
  | .generic provider identity => (env.toLowerCase provider, identity)

structure OAuthApp where
  cfg : OAuthConfig
  providers : List String
  hasTokenStore : Bool := true
  /-- The address at which an identity is asked for access, by the place that it returns to. -/
  buildAuthUrl : OAuthConfig → String → String → String
  /-- The same of a registered provider, for an identity and a state. -/
  getAuthorizeUrl : String → String → String → Bool → Except String String

structure TwitchTokenData where
  accessToken : String
  refreshToken : Option String := none
  scope : List String := []
  expiresIn : Option Int := none
  obtainmentTimestamp : Option Int := none
  userId : Option String := none
  deriving DecidableEq

structure TokenPayload where
  accessToken : String
  refreshToken : Option String := none
  expiresAt : Option String := none
  scope : List String := []
  tokenType : Option String := none
  providerUserId : Option String := none
  metadata : List (String × String) := []
  deriving DecidableEq

inductive StoredToken where
  | twitch (token : TwitchTokenData)
  | provider (token : TokenPayload)
  deriving DecidableEq

inductive OAuthEvent where
  | issued (key : Key) (call : StateCall)
  | stored (key : Key) (state : String) (token : StoredToken)
  | succeeded (key : Key) (state : String)
  deriving DecidableEq

structure CallbackFlow where
  route : Route
  state : String
  code : String
  deriving DecidableEq

/-- The service: its clock, the callbacks in flight, and what has happened so far. -/
structure OAuthService where
  now : Nat
  flows : List CallbackFlow := []
  log : List OAuthEvent := []

structure CallbackQuery where
  code : Option String := none
  state : Option String := none
  error : Option String := none

inductive Reply where
  | send (status : Nat) (text : String)
  | json (status : Nat) (body : Value)
  | redirect (url : String)
  | rejected (error : String)
  | pending

inductive OAuthInput where
  | clock (now : Nat)
  | start (route : Route) (redirectUri : String) (wantsJson : Bool) (random : RandomNonce)
  | callback (route : Route) (query : CallbackQuery)
  | twitchToken (index : Nat) (exchange : Except String TwitchTokenData)
    (store : Except String Unit)
  | providerToken (index : Nat) (exchange : Except String TokenPayload)
    (store : Except String Unit)

def issuedCalls (log : List OAuthEvent) : List StateCall :=
  log.filterMap fun
    | .issued _ call => some call
    | _ => none

def OAuthApp.resolve (env : OAuthEnv) (app : OAuthApp) (key : String) : Except String String :=
  if env.toLowerCase key ∈ app.providers then .ok key else .error ("unknown_provider:" ++ key)

def failureStatus (message : String) : Nat :=
  if "unknown_provider:".toList.isPrefixOf message.toList then 404 else 500

def errorBody (message : String) : Value := .obj [("error", .str message)]

def OAuthService.issue (service : OAuthService) (key : Key) (call : StateCall) (url : String)
    (wantsJson : Bool) : OAuthService × Reply :=
  ({ service with log := service.log ++ [.issued key call] },
    if wantsJson then .json 200 (.obj [("url", .str url)]) else .redirect url)

def start (env : OAuthEnv) (app : OAuthApp) (service : OAuthService) (route : Route)
    (redirectUri : String) (wantsJson : Bool) (random : RandomNonce) : OAuthService × Reply :=
  let call : StateCall := { cfg := app.cfg, random, now := service.now }
  match route with
  | .twitch _ =>
    if (present app.cfg.twitchClientId).isNone then
      (service, .json 500 (errorBody "failed_to_build_url"))
    else
      service.issue (route.key env) call
        (app.buildAuthUrl app.cfg (generateState env call) redirectUri) wantsJson
  | .generic provider identity =>
    match app.resolve env (env.toLowerCase provider) with
    | .error message => (service, .json (failureStatus message) (errorBody message))
    | .ok providerKey =>
      match app.getAuthorizeUrl providerKey identity (generateState env call) wantsJson with
      | .error message => (service, .json (failureStatus message) (errorBody message))
      | .ok url => service.issue (route.key env) call url wantsJson

def OAuthService.await (service : OAuthService) (flow : CallbackFlow) : OAuthService × Reply :=
  ({ service with flows := service.flows ++ [flow] }, .pending)

/-- A callback that fails, which only the routes for any provider answer themselves. -/
def callbackFailed (route : Route) (message : String) : Reply :=
  match route with
  | .twitch _ => .rejected message
  | .generic _ _ => .json (failureStatus message) (errorBody "callback_failed")

def OAuthApp.serves (env : OAuthEnv) (app : OAuthApp) : Route → Except Reply Unit
  | .twitch _ =>
    if (present app.cfg.twitchClientId).isNone || (present app.cfg.twitchClientSecret).isNone then
      .error (.send 500 "Token exchange failed")
    else .ok ()
  | .generic provider _ =>
    match app.resolve env (env.toLowerCase provider) with
    | .error message => .error (.json (failureStatus message) (errorBody "callback_failed"))
    | .ok _ => .ok ()

def callback (env : OAuthEnv) (app : OAuthApp) (service : OAuthService) (route : Route)
    (query : CallbackQuery) : OAuthService × Reply :=
  if (present query.error).isSome then (service, .send 400 "OAuth error")
  else
    match verifyState env app.cfg query.state service.now maxStateAgeMs with
    | .error message => (service, callbackFailed route message)
    | .ok false => (service, .send 400 "Invalid state")
    | .ok true =>
      match present query.code with
      | none => (service, .send 400 "Missing code")
      | some code =>
        match app.serves env route with
        | .error reply => (service, reply)
        | .ok () => service.await { route, state := query.state.getD "", code }

def OAuthService.answer (service : OAuthService) (index : Nat) (events : List OAuthEvent) :
    OAuthService :=
  { service with flows := service.flows.eraseIdx index, log := service.log ++ events }

def twitchToken (env : OAuthEnv) (service : OAuthService) (index : Nat) (flow : CallbackFlow)
    (exchange : Except String TwitchTokenData) (store : Except String Unit) :
    OAuthService × Reply :=
  match exchange, store with
  | .ok token, .ok () =>
    let key := flow.route.key env
    (service.answer index [.stored key flow.state (.twitch token), .succeeded key flow.state],
      .send 200 "Twitch authentication successful. You can close this window.")
  | _, _ => (service.answer index [], .send 500 "Token exchange failed")

def tokenTypeOf (token : TokenPayload) : String := (present token.tokenType).getD "oauth"

def providerToken (env : OAuthEnv) (app : OAuthApp) (service : OAuthService) (index : Nat)
    (flow : CallbackFlow) (exchange : Except String TokenPayload) (store : Except String Unit) :
    OAuthService × Reply :=
  match exchange with
  | .error message =>
    (service.answer index [], .json (failureStatus message) (errorBody "callback_failed"))
  | .ok token =>
    let key := flow.route.key env
    let stored := app.hasTokenStore && store.isOk
    let saved := { token with tokenType := some (tokenTypeOf token) }
    -- A store that fails is only logged.
    let events := if stored then [.stored key flow.state (.provider saved)] else []
    (service.answer index (events ++ [.succeeded key flow.state]),
      .json 200 (.obj [("ok", .bool true), ("provider", .str key.1), ("identity", .str key.2),
        ("stored", .bool stored), ("tokenType", .str (tokenTypeOf token))]))

def oauthStep (env : OAuthEnv) (app : OAuthApp) (service : OAuthService) :
    OAuthInput → OAuthService × Reply
  | .clock now => ({ service with now }, .pending)
  | .start route redirectUri wantsJson random =>
    start env app service route redirectUri wantsJson random
  | .callback route query => callback env app service route query
  | .twitchToken index exchange store =>
    match service.flows[index]? with
    | some { route := .twitch identity, state, code } =>
      twitchToken env service index { route := .twitch identity, state, code } exchange store
    | _ => (service, .pending)
  | .providerToken index exchange store =>
    match service.flows[index]? with
    | some { route := .generic provider identity, state, code } =>
      providerToken env app service index { route := .generic provider identity, state, code }
        exchange store
    | _ => (service, .pending)

end BitBrat.OAuth
