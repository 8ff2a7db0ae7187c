import BitBrat.Machine.DeliveryLog
import BitBrat.Machine.Run
import BitBrat.OAuth.Routes
import Mathlib.Data.List.Perm.Basic

/-! States of authorizations: whom they are for, and how often they are of use. -/

namespace BitBrat.OAuth

open Js Machine

/-- A token is stored for whom its state was issued, if no callback has succeeded with it yet. -/
def StateBound (env : OAuthEnv) (before : List OAuthEvent) : OAuthEvent → Prop
  | .stored key state _ =>
    (∃ call, .issued key call ∈ before ∧ generateState env call = state) ∧
      ∀ other, .succeeded other state ∉ before
  | _ => True

def serviceStep (env : OAuthEnv) (app : OAuthApp) (service : OAuthService) (input : OAuthInput) :
    OAuthService :=
  (oauthStep env app service input).1

def IsAnswer : OAuthInput → Prop
  | .twitchToken _ _ _ => True
  | .providerToken _ _ _ => True
  | _ => False

/-- Whatever is answered at any time of a run, its tokens are stored for whom they are meant. -/
def AlwaysBound (env : OAuthEnv) (app : OAuthApp) (service : OAuthService)
    (inputs : List OAuthInput) : Prop :=
  ∀ early answers, early <+: inputs → (∀ answer ∈ answers, IsAnswer answer) →
    Guarded (StateBound env) (run (serviceStep env app) service (early ++ answers)).log

/-- A callback comes with no tag but of a state that was issued. -/
def PresentsUnforged (env : OAuthEnv) (app : OAuthApp) (service : OAuthService) :
    OAuthInput → Prop
  | .callback _ query => ∀ state ∈ query.state,
    Unforged env app.cfg (issuedCalls service.log) state
  | _ => True

def OAuthApp.stores (app : OAuthApp) : Route → Bool
  | .twitch _ => true
  | .generic _ _ => app.hasTokenStore

/-- A callback with a code and a state that was issued a short time ago. -/
structure ComesBack (env : OAuthEnv) (app : OAuthApp) (service : OAuthService) (route : Route)
    (query : CallbackQuery) (state code : String) : Prop where
  noError : present query.error = none
  presented : present query.state = some state
  exchanged : present query.code = some code
  recent : Recent env app.cfg (issuedCalls service.log) state service.now maxStateAgeMs
  served : app.serves env route = .ok ()

/-- A state comes back to whom it was issued for, before a callback has succeeded with it, and not
while another one is in flight. -/
structure InPlace (env : OAuthEnv) (app : OAuthApp) (service : OAuthService) (route : Route)
    (state : String) : Prop where
  own : app.stores route = true →
    ∃ call, .issued (route.key env) call ∈ service.log ∧ generateState env call = state
  unused : app.stores route = true → ∀ key, .succeeded key state ∉ service.log
  alone : ∀ flow ∈ service.flows, flow.state = state →
    app.stores flow.route = false ∧ app.stores route = false

def BindingInPlace (env : OAuthEnv) (app : OAuthApp) (service : OAuthService) :
    OAuthInput → Prop
  | .callback route query => ∀ state code,
    ComesBack env app service route query state code → InPlace env app service route state
  | _ => True

structure BindingHolds (env : OAuthEnv) (app : OAuthApp) (service : OAuthService) : Prop where
  guarded : Guarded (StateBound env) service.log
  drawn : ∀ call ∈ issuedCalls service.log, call.cfg = app.cfg ∧ call.nonce = none
  own : ∀ flow ∈ service.flows, app.stores flow.route = true →
    ∃ call, .issued (flow.route.key env) call ∈ service.log ∧ generateState env call = flow.state
  unused : ∀ flow ∈ service.flows, app.stores flow.route = true →
    ∀ key, .succeeded key flow.state ∉ service.log
  apart : service.flows.Pairwise fun first second => first.state = second.state →
    app.stores first.route = false ∧ app.stores second.route = false

section

variable {env : OAuthEnv} {app : OAuthApp} {service : OAuthService}

theorem BindingHolds.start (now : Nat) : BindingHolds env app { now } where
  guarded := Guarded.nil
  drawn := by simp [issuedCalls]
  own := by simp
  unused := by simp
  apart := .nil

variable {state : String}

theorem recent_of_verifyState {cfg : OAuthConfig} {calls : List StateCall} {now : Nat}
    {maxAgeMs : Number} (unforged : Unforged env cfg calls state)
    (verified : verifyState env cfg (some state) now maxAgeMs = .ok true) :
    Recent env cfg calls state now maxAgeMs := by
  by_cases three : ∃ n ts sig, dotParts state = [n, ts, sig]
  · obtain ⟨n, ts, sig, parts⟩ := three
    rw [verifyState_of_parts cfg now maxAgeMs parts] at verified
    split at verified
    case isTrue => cases verified
    case isFalse =>
      rw [Except.ok.injEq, Bool.and_eq_true, decide_eq_true_eq] at verified
      exact (recent_iff_of_parts parts unforged).mp verified
  · push Not at three
    rw [verifyState_of_other cfg now maxAgeMs three] at verified
    cases verified

theorem verifyState_of_recent {cfg : OAuthConfig} {calls : List StateCall} {now : Nat}
    {maxAgeMs : Number} (drawn : ∀ call ∈ calls, call.nonce = none)
    (recent : Recent env cfg calls state now maxAgeMs) :
    verifyState env cfg (some state) now maxAgeMs = .ok true := by
  obtain ⟨call, member, secret, rfl, inRange⟩ := recent
  have nonce : '.' ∉ call.n.toList := by
    rw [StateCall.n, drawn call member]
    exact dot_not_mem_of_hex call.random.hex
  rw [verifyState_of_parts cfg now maxAgeMs (dotParts_generateState nonce),
    if_neg (by simp [byteLength_hmacSHA256]), (age_in_range_iff call.now now maxAgeMs).mpr inRange,
    secret, StateCall.signed]
  simp

theorem eq_some_of_present {text : Option String} {value : String}
    (found : present text = some value) : text = some value :=
  (Option.filter_eq_some_iff.mp found).1

variable {route : Route}

theorem callback_of_comesBack (holds : BindingHolds env app service) {query : CallbackQuery}
    {code : String} (back : ComesBack env app service route query state code) :
    callback env app service route query = service.await { route, state, code } := by
  have given : query.state = some state := eq_some_of_present back.presented
  have verified : verifyState env app.cfg query.state service.now maxStateAgeMs = .ok true := by
    rw [given]
    exact verifyState_of_recent (fun call member => (holds.drawn call member).2) back.recent
  unfold callback
  rw [back.noError, verified]
  dsimp only
  rw [back.exchanged]
  dsimp only
  rw [back.served, given]
  rfl

theorem callback_of_not_comesBack {query : CallbackQuery}
    (unforged : ∀ state ∈ query.state, Unforged env app.cfg (issuedCalls service.log) state)
    (lost : ∀ state code, ¬ ComesBack env app service route query state code) :
    (callback env app service route query).1 = service := by
  unfold callback
  split
  · rfl
  · rename_i noError
    split
    · rfl
    · rfl
    · rename_i verified
      split
      · rfl
      · rename_i code exchanged
        split
        · rfl
        · rename_i served
          -- All checks are passed: this callback comes back.
          exfalso
          cases presented : present query.state with
          | none =>
            unfold verifyState at verified
            rw [presented] at verified
            cases verified
          | some state =>
            have given : query.state = some state := eq_some_of_present presented
            rw [given] at verified
            exact lost state code
              { noError := by simpa using noError, presented, exchanged,
                recent := recent_of_verifyState (unforged state given) verified, served }

theorem start_cases (env : OAuthEnv) (app : OAuthApp) (service : OAuthService)
    (route : Route) (redirectUri : String) (wantsJson : Bool) (random : RandomNonce) :
    (OAuth.start env app service route redirectUri wantsJson random).1 = service ∨
      ∃ call : StateCall, call.cfg = app.cfg ∧ call.nonce = none ∧
        (OAuth.start env app service route redirectUri wantsJson random).1 =
          { service with log := service.log ++ [.issued (route.key env) call] } := by
  let call : StateCall := { cfg := app.cfg, random, now := service.now }
  unfold OAuth.start
  cases route with
  | twitch identity =>
    dsimp only
    split
    · exact .inl rfl
    · exact .inr ⟨call, rfl, rfl, rfl⟩
  | generic provider identity =>
    dsimp only
    split
    · exact .inl rfl
    · split
      · exact .inl rfl
      · exact .inr ⟨call, rfl, rfl, rfl⟩

inductive Records (env : OAuthEnv) (app : OAuthApp) (flow : CallbackFlow) :
    List OAuthEvent → Prop
  | failed : Records env app flow []
  | unsaved : Records env app flow [.succeeded (flow.route.key env) flow.state]
  | saved (token : StoredToken) (stores : app.stores flow.route = true) :
    Records env app flow [.stored (flow.route.key env) flow.state token,
      .succeeded (flow.route.key env) flow.state]

variable {input : OAuthInput}

theorem answer_cases (env : OAuthEnv) (app : OAuthApp) (service : OAuthService)
    (answer : IsAnswer input) : serviceStep env app service input = service ∨
      ∃ index flow events, service.flows[index]? = some flow ∧ Records env app flow events ∧
        serviceStep env app service input = service.answer index events := by
  cases input with
  | clock => cases answer
  | start => cases answer
  | callback => cases answer
  | twitchToken index exchange store =>
    unfold serviceStep oauthStep
    dsimp only
    split
    case h_2 => exact .inl rfl
    case h_1 identity state code inFlight =>
      right
      unfold twitchToken
      split
      · exact ⟨index, _, _, inFlight, .saved _ rfl, rfl⟩
      · exact ⟨index, _, _, inFlight, .failed, rfl⟩
  | providerToken index exchange store =>
    unfold serviceStep oauthStep
    dsimp only
    split
    case h_2 => exact .inl rfl
    case h_1 provider identity state code inFlight =>
      right
      unfold providerToken
      cases exchange with
      | error message => exact ⟨index, _, _, inFlight, .failed, rfl⟩
      | ok token =>
        dsimp only
        split
        case isTrue kept =>
          rw [Bool.and_eq_true] at kept
          exact ⟨index, _, _, inFlight, .saved _ kept.1, rfl⟩
        case isFalse => exact ⟨index, _, _, inFlight, .unsaved, rfl⟩

private theorem BindingHolds.append_issued (holds : BindingHolds env app service) {key : Key}
    {call : StateCall} (cfg : call.cfg = app.cfg) (nonce : call.nonce = none) :
    BindingHolds env app { service with log := service.log ++ [.issued key call] } where
  guarded := guarded_concat.mpr ⟨holds.guarded, trivial⟩
  drawn := by
    have calls : issuedCalls (service.log ++ [.issued key call]) =
        issuedCalls service.log ++ [call] := by
      simp [issuedCalls]
    intro other member
    rw [calls, List.mem_append, List.mem_singleton] at member
    rcases member with earlier | rfl
    · exact holds.drawn other earlier
    · exact ⟨cfg, nonce⟩
  own := by
    intro flow member stores
    obtain ⟨issued, inside, same⟩ := holds.own flow member stores
    exact ⟨issued, List.mem_append_left _ inside, same⟩
  unused := by
    intro flow member stores other inside
    rw [List.mem_append, List.mem_singleton] at inside
    rcases inside with earlier | new
    · exact holds.unused flow member stores other earlier
    · cases new
  apart := holds.apart

theorem BindingHolds.await (holds : BindingHolds env app service) {code : String}
    (place : InPlace env app service route state) :
    BindingHolds env app (service.await { route, state, code }).1 where
  guarded := holds.guarded
  drawn := holds.drawn
  own := by
    intro flow member stores
    rcases List.mem_append.mp member with earlier | new
    · exact holds.own flow earlier stores
    · cases List.mem_singleton.mp new
      exact place.own stores
  unused := by
    intro flow member stores
    rcases List.mem_append.mp member with earlier | new
    · exact holds.unused flow earlier stores
    · cases List.mem_singleton.mp new
      exact place.unused stores
  apart := by
    unfold OAuthService.await
    rw [List.pairwise_append]
    refine ⟨holds.apart, List.pairwise_singleton _ _, ?_⟩
    intro flow member new inside same
    cases List.mem_singleton.mp inside
    exact place.alone flow member same

variable {index : Nat} {flow : CallbackFlow}

theorem stores_of_same_state (holds : BindingHolds env app service) {other : CallbackFlow}
    (inFlight : service.flows[index]? = some flow) (beside : other ∈ service.flows.eraseIdx index)
    (same : other.state = flow.state) : app.stores other.route = false := by
  obtain ⟨bound, rfl⟩ := List.getElem?_eq_some_iff.mp inFlight
  have pairs := (List.getElem_cons_eraseIdx_perm bound).symm.pairwise holds.apart
    (fun related same => (related same.symm).symm)
  exact ((List.pairwise_cons.mp pairs).1 other beside same.symm).2

theorem BindingHolds.answer (holds : BindingHolds env app service) {events : List OAuthEvent}
    (inFlight : service.flows[index]? = some flow) (records : Records env app flow events) :
    BindingHolds env app (service.answer index events) := by
  have member : flow ∈ service.flows := List.mem_of_getElem? inFlight
  have remains {other : CallbackFlow} (inside : other ∈ service.flows.eraseIdx index) :
      other ∈ service.flows := List.mem_of_mem_eraseIdx inside
  -- Nothing is issued, and nothing succeeds but the callback that is answered.
  have issued : issuedCalls (service.log ++ events) = issuedCalls service.log := by
    cases records <;> simp [issuedCalls]
  have successes {key : Key} {state : String}
      (inside : .succeeded key state ∈ service.log ++ events) :
      .succeeded key state ∈ service.log ∨ state = flow.state := by
    rcases List.mem_append.mp inside with earlier | new
    · exact .inl earlier
    · cases records <;> simp_all
  refine ⟨?_, ?_, ?_, ?_, ?_⟩
  · cases records with
    | failed => simpa [OAuthService.answer] using holds.guarded
    | unsaved => exact guarded_concat.mpr ⟨holds.guarded, trivial⟩
    | saved token stores =>
      have stored : Guarded (StateBound env)
          (service.log ++ [.stored (flow.route.key env) flow.state token]) :=
        guarded_concat.mpr
          ⟨holds.guarded, holds.own flow member stores, holds.unused flow member stores⟩
      have both : Guarded (StateBound env)
          (service.log ++ [.stored (flow.route.key env) flow.state token] ++
            [.succeeded (flow.route.key env) flow.state]) :=
        guarded_concat.mpr ⟨stored, trivial⟩
      simpa [OAuthService.answer] using both
  · intro call inside
    rw [OAuthService.answer, issued] at inside
    exact holds.drawn call inside
  · intro other inside stores
    obtain ⟨call, found, same⟩ := holds.own other (remains inside) stores
    exact ⟨call, List.mem_append_left _ found, same⟩
  · intro other inside stores key success
    rcases successes success with earlier | same
    · exact holds.unused other (remains inside) stores key earlier
    · rw [stores_of_same_state holds inFlight inside same] at stores
      cases stores
  · exact holds.apart.sublist (List.eraseIdx_sublist _ _)

private theorem BindingHolds.of_answer (holds : BindingHolds env app service)
    (answer : IsAnswer input) : BindingHolds env app (serviceStep env app service input) := by
  rcases answer_cases env app service answer with same | ended
  · rw [same]
    exact holds
  · obtain ⟨index, flow, events, inFlight, records, same⟩ := ended
    rw [same]
    exact holds.answer inFlight records

theorem BindingHolds.step (holds : BindingHolds env app service)
    (unforged : PresentsUnforged env app service input)
    (place : BindingInPlace env app service input) :
    BindingHolds env app (serviceStep env app service input) := by
  cases input with
  | clock now => exact ⟨holds.guarded, holds.drawn, holds.own, holds.unused, holds.apart⟩
  | start route redirectUri wantsJson random =>
    unfold serviceStep oauthStep
    dsimp only
    rcases start_cases env app service route redirectUri wantsJson random with
      same | ⟨call, cfg, nonce, same⟩
    · rw [same]
      exact holds
    · rw [same]
      exact holds.append_issued cfg nonce
  | callback route query =>
    unfold serviceStep oauthStep
    dsimp only
    by_cases back : ∃ state code, ComesBack env app service route query state code
    · obtain ⟨state, code, back⟩ := back
      rw [callback_of_comesBack holds back]
      exact holds.await (place state code back)
    · push Not at back
      rw [callback_of_not_comesBack unforged back]
      exact holds
  | twitchToken => exact holds.of_answer trivial
  | providerToken => exact holds.of_answer trivial

def successAnswer (index : Nat) : Route → OAuthInput
  | .twitch _ => .twitchToken index (.ok { accessToken := "" }) (.ok ())
  | .generic _ _ => .providerToken index (.ok { accessToken := "" }) (.ok ())

theorem isAnswer_successAnswer (index : Nat) (route : Route) :
    IsAnswer (successAnswer index route) := by
  cases route <;> trivial

theorem step_successAnswer (env : OAuthEnv) (app : OAuthApp) {service : OAuthService}
    (inFlight : service.flows[index]? = some flow) :
    ∃ token, serviceStep env app service (successAnswer index flow.route) =
      service.answer index
        ((if app.stores flow.route then [.stored (flow.route.key env) flow.state token] else []) ++
          [.succeeded (flow.route.key env) flow.state]) := by
  obtain ⟨route, state, code⟩ := flow
  unfold serviceStep oauthStep
  cases route with
  | twitch identity =>
    refine ⟨.twitch { accessToken := "" }, ?_⟩
    simp [successAnswer, inFlight, twitchToken, OAuthApp.stores]
  | generic provider identity =>
    refine ⟨.provider { accessToken := "", tokenType := some "oauth" }, ?_⟩
    cases kept : app.hasTokenStore <;>
      simp [successAnswer, inFlight, providerToken, OAuthApp.stores, kept, tokenTypeOf, present,
        Except.isOk, Except.toBool]

theorem bound_of_success (service : OAuthService)
    (inFlight : service.flows[index]? = some flow) (stores : app.stores flow.route = true)
    (guarded : Guarded (StateBound env)
      (serviceStep env app service (successAnswer index flow.route)).log) :
    (∃ call, .issued (flow.route.key env) call ∈ service.log ∧
      generateState env call = flow.state) ∧ ∀ key, .succeeded key flow.state ∉ service.log := by
  obtain ⟨token, after⟩ := step_successAnswer env app inFlight
  rw [after, if_pos stores] at guarded
  exact guarded service.log (.stored (flow.route.key env) flow.state token)
    [.succeeded (flow.route.key env) flow.state] (by simp [OAuthService.answer])

theorem stores_of_success (service : OAuthService) {first : Nat} (second : Nat)
    (other : CallbackFlow) (inFlight : service.flows[first]? = some flow)
    (beside : (service.flows.eraseIdx first)[second]? = some other)
    (same : other.state = flow.state)
    (guarded : Guarded (StateBound env) (run (serviceStep env app) service
      [successAnswer first flow.route, successAnswer second other.route]).log) :
    app.stores other.route = false := by
  obtain ⟨token, after⟩ := step_successAnswer env app inFlight
  by_contra stores
  have next : (serviceStep env app service (successAnswer first flow.route)).flows[second]? =
      some other := by
    rw [after]
    exact beside
  have unused := (bound_of_success _ next (by simpa using stores) guarded).2 (flow.route.key env)
  apply unused
  rw [after, same]
  simp [OAuthService.answer]

theorem inPlace_of_bound (holds : BindingHolds env app service) {route : Route}
    {query : CallbackQuery} {state code : String}
    (back : ComesBack env app service route query state code)
    (bound : ∀ answers, (∀ answer ∈ answers, IsAnswer answer) → Guarded (StateBound env)
      (run (serviceStep env app) service (.callback route query :: answers)).log) :
    InPlace env app service route state := by
  let flow : CallbackFlow := { route, state, code }
  have taken : serviceStep env app service (.callback route query) =
      { service with flows := service.flows ++ [flow] } := by
    unfold serviceStep oauthStep
    dsimp only
    rw [callback_of_comesBack holds back]
    rfl
  have inFlight : (service.flows ++ [flow])[service.flows.length]? = some flow := by simp
  simp only [run_cons, taken] at bound
  have here (stores : app.stores route = true) :=
    bound_of_success { service with flows := service.flows ++ [flow] } inFlight stores
      (bound [successAnswer service.flows.length route]
        (by simpa using isAnswer_successAnswer _ _))
  refine ⟨fun stores => (here stores).1, fun stores => (here stores).2, ?_⟩
  intro other member same
  obtain ⟨index, small, rfl⟩ := List.getElem_of_mem member
  have early : (service.flows ++ [flow])[index]? = some service.flows[index] := by
    rw [List.getElem?_append_left small, List.getElem?_eq_getElem small]
  constructor
  · -- The new callback succeeds first, and then the one that was in flight.
    have rest : (service.flows ++ [flow]).eraseIdx service.flows.length = service.flows := by
      rw [List.eraseIdx_append_of_length_le (Nat.le_refl _)]
      simp
    refine stores_of_success { service with flows := service.flows ++ [flow] } index
      service.flows[index] inFlight ?_ same (bound [_, _] (by simp [isAnswer_successAnswer]))
    rw [rest, List.getElem?_eq_getElem small]
  · -- The one that was in flight succeeds first, and then the new callback.
    have rest : (service.flows ++ [flow]).eraseIdx index =
        service.flows.eraseIdx index ++ [flow] := List.eraseIdx_append_of_lt_length small _
    have last : (service.flows.eraseIdx index).length = service.flows.length - 1 :=
      List.length_eraseIdx_of_lt small
    refine stores_of_success { service with flows := service.flows ++ [flow] }
      (service.flows.length - 1) flow early ?_ same.symm
      (bound [_, _] (by simp [isAnswer_successAnswer]))
    rw [rest, ← last]
    simp

theorem alwaysBound_iff_along (holds : BindingHolds env app service)
    {inputs : List OAuthInput}
    (unforged : Along (serviceStep env app) (PresentsUnforged env app) service inputs) :
    AlwaysBound env app service inputs ↔
      Along (serviceStep env app) (BindingInPlace env app) service inputs := by
  constructor
  · intro bound
    -- Each callback is in its place because of what can be answered to it.
    induction inputs generalizing service with
    | nil => trivial
    | cons input rest ih =>
      have place : BindingInPlace env app service input := by
        cases input with
        | callback route query =>
          intro state code back
          apply inPlace_of_bound holds back
          intro answers all
          exact bound [.callback route query] answers (by simp) all
        | _ => trivial
      refine ⟨place, ih (holds.step unforged.1 place) unforged.2 ?_⟩
      intro early answers begins all
      exact bound (input :: early) answers (List.cons_prefix_cons.mpr ⟨rfl, begins⟩) all
  · rintro along early answers ⟨later, rfl⟩ all
    have ended : BindingHolds env app (run (serviceStep env app) service early) :=
      run_invariant (BindingHolds env app)
        (fun service input holds both => holds.step both.1 both.2) holds
        (unforged.and along).of_append
    have answered : Along (serviceStep env app) (fun _ input => IsAnswer input)
        (run (serviceStep env app) service early) answers := along_iff_forall.mpr all
    rw [run_append]
    exact (run_invariant (BindingHolds env app)
      (fun service input holds answer => holds.of_answer answer) ended answered).guarded

/-- A state is verified as it should be, and tokens are stored for whom they are meant: exactly
when tags have their length and recent states their parts, and callbacks keep states apart. -/
theorem oauthStates_bound_iff (env : OAuthEnv) (app : OAuthApp) (cfg : OAuthConfig)
    (calls : List StateCall) (state : String) (now : Nat) (maxAgeMs : Number)
    (unforged : Unforged env cfg calls state) (time : Nat) (inputs : List OAuthInput)
    (presented : Along (serviceStep env app) (PresentsUnforged env app) { now := time } inputs) :
    (verifyState env cfg (some state) now maxAgeMs =
        .ok (decide (Recent env cfg calls state now maxAgeMs)) ↔
      TagSized state ∧ (Recent env cfg calls state now maxAgeMs →
        (dotParts state).length = 3)) ∧
      (AlwaysBound env app { now := time } inputs ↔
        Along (serviceStep env app) (BindingInPlace env app) { now := time } inputs) :=
  ⟨verifyState_eq_ok_iff cfg calls state now maxAgeMs unforged,
    alwaysBound_iff_along (.start time) presented⟩

end

def sampleDigest (secret data : String) : String :=
  if secret ≠ "dev-secret" then String.ofList (List.replicate 64 '0')
  else if data = "0011223344556677.1000" then
    "229d531bf30fa5f557cfbad9269d1d4e7c6d513fb0364d3f5c23133e71f9cadf"
  else if data = "a.b" then "628674d63c822cce90c58ab1ab10d9a0e9148cd7f7621d9d4c9cf390a320fd7f"
  else if data = "a.b.1000" then
    "254e6d2c1b6af4c9e064d76877d9ea67fa9823a5a9169ee7b6f7895fbc07cd68"
  else String.ofList (List.replicate 64 '0')

def sampleEnv : OAuthEnv where
  hmacSHA256 := sampleDigest
  hexDigest := by
    intro secret data
    unfold sampleDigest
    split
    · exact ⟨hex_of_all (by decide +kernel), by decide +kernel⟩
    · repeat' split
      all_goals exact ⟨hex_of_all (by decide +kernel), by decide +kernel⟩
  toLowerCase key := String.ofList (key.toList.map Char.toLower)

def sampleApp : OAuthApp where
  cfg := { twitchClientId := some "client", twitchClientSecret := some "secret" }
  providers := ["twitch", "discord"]
  buildAuthUrl _ _ _ := "https://id.twitch.tv/oauth2/authorize"
  getAuthorizeUrl _ _ _ _ := .ok "https://discord.com/oauth2/authorize"

def sampleNonce : RandomNonce :=
  ⟨"0011223344556677", hex_of_all (by decide +kernel), by decide +kernel⟩

def sampleCall : StateCall := { cfg := sampleApp.cfg, random := sampleNonce, now := 1000 }

def sampleState : String := generateState sampleEnv sampleCall

def startBot : OAuthInput := .start (.twitch .bot) "https://brat.example" false sampleNonce

def comeBack (route : Route) : OAuthInput :=
  .callback route { code := some "code", state := some sampleState }

def botRun : List OAuthInput :=
  [startBot, comeBack (.twitch .bot), successAnswer 0 (.twitch .bot)]

theorem presented_sampleState {route : Route} {service : OAuthService}
    (issued : sampleCall ∈ issuedCalls service.log) :
    PresentsUnforged sampleEnv sampleApp service (comeBack route) := by
  intro state given
  cases given
  exact unforged_generateState issued rfl

theorem log_startBot : (serviceStep sampleEnv sampleApp { now := 1000 } startBot).log =
    [.issued ("twitch", "bot") sampleCall] := by
  decide +kernel

theorem issued_startBot :
    sampleCall ∈ issuedCalls (serviceStep sampleEnv sampleApp { now := 1000 } startBot).log := by
  rw [log_startBot]
  exact List.mem_cons_self

/-- The state of the bot is verified, and its token is stored for the bot. -/
theorem oauthStates_bound_bot :
    verifyState sampleEnv sampleApp.cfg (some sampleState) 2000 maxStateAgeMs = .ok true ∧
      AlwaysBound sampleEnv sampleApp { now := 1000 } botRun := by
  have idle : (serviceStep sampleEnv sampleApp { now := 1000 } startBot).flows = [] := by
    decide +kernel
  have recent :
      Recent sampleEnv sampleApp.cfg [sampleCall] sampleState 2000 maxStateAgeMs := by
    decide +kernel
  have parts := @dotParts_generateState sampleEnv sampleCall (by decide +kernel)
  obtain ⟨verified, bound⟩ := oauthStates_bound_iff sampleEnv sampleApp sampleApp.cfg [sampleCall]
    sampleState 2000 maxStateAgeMs (unforged_generateState (by simp) rfl) 1000 botRun
    ⟨trivial, presented_sampleState issued_startBot, trivial, trivial⟩
  constructor
  · rw [decide_eq_true recent] at verified
    refine verified.mpr ⟨?_, fun _ => by rw [sampleState, parts]; rfl⟩
    intro n ts sig split
    rw [sampleState, parts] at split
    cases split
    exact byteLength_hmacSHA256 _ _
  · refine bound.mpr ⟨trivial, ?_, trivial, trivial⟩
    intro state code back
    have same : sampleState = state := by
      simpa [present] using eq_some_of_present back.presented
    subst same
    refine ⟨fun _ => ⟨sampleCall, by simp [log_startBot, Route.key], rfl⟩,
      by simp [log_startBot], ?_⟩
    simp [idle]

def dottedCall : StateCall :=
  { cfg := sampleApp.cfg, nonce := some "a.b", random := sampleNonce, now := 1000 }

def botToken : StoredToken := .twitch { accessToken := "" }

def adminToken : StoredToken := .provider { accessToken := "", tokenType := some "oauth" }

def foreignRun : List OAuthInput :=
  [startBot, comeBack (.generic "discord" "admin"),
    successAnswer 0 (.generic "discord" "admin")]

def replayRun : List OAuthInput :=
  botRun ++ [comeBack (.twitch .bot), successAnswer 0 (.twitch .bot)]

/-- A short tag fails, a nonce with a dot is refused, the state of one identity stores the token of
another, and a state stores a token twice. -/
theorem oauthStates_unbound :
    (Unforged sampleEnv sampleApp.cfg [] "a.b.c" ∧
      verifyState sampleEnv sampleApp.cfg (some "a.b.c") 1000 maxStateAgeMs =
        .error "Input buffers must have the same byte length") ∧
    (Recent sampleEnv sampleApp.cfg [dottedCall] (generateState sampleEnv dottedCall) 1000
        maxStateAgeMs ∧
      verifyState sampleEnv sampleApp.cfg (some (generateState sampleEnv dottedCall)) 1000
        maxStateAgeMs = .ok false) ∧
    (∀ inputs ∈ [foreignRun, replayRun],
      Along (serviceStep sampleEnv sampleApp) (PresentsUnforged sampleEnv sampleApp)
          { now := 1000 } inputs ∧
        ¬ Guarded (StateBound sampleEnv)
          (run (serviceStep sampleEnv sampleApp) { now := 1000 } inputs).log) := by
  refine ⟨⟨unforged_of_short "a.b" "c" (by decide +kernel) (by decide +kernel) (by decide +kernel),
    by decide +kernel⟩, ⟨by decide +kernel, by decide +kernel⟩, ?_⟩
  intro inputs member
  simp only [List.mem_cons, List.not_mem_nil, or_false] at member
  rcases member with rfl | rfl
  · refine ⟨⟨trivial, presented_sampleState issued_startBot, trivial, trivial⟩, ?_⟩
    have log : (run (serviceStep sampleEnv sampleApp) { now := 1000 } foreignRun).log =
        [.issued ("twitch", "bot") sampleCall] ++
          .stored ("discord", "admin") sampleState adminToken ::
            [.succeeded ("discord", "admin") sampleState] := by
      decide +kernel
    intro guarded
    obtain ⟨⟨call, issued, -⟩, -⟩ := guarded _ _ _ log
    simp at issued
  · refine ⟨⟨trivial, presented_sampleState issued_startBot, trivial,
      presented_sampleState (by decide +kernel), trivial, trivial⟩, ?_⟩
    have log : (run (serviceStep sampleEnv sampleApp) { now := 1000 } replayRun).log =
        [.issued ("twitch", "bot") sampleCall, .stored ("twitch", "bot") sampleState botToken,
            .succeeded ("twitch", "bot") sampleState] ++
          .stored ("twitch", "bot") sampleState botToken ::
            [.succeeded ("twitch", "bot") sampleState] := by
      decide +kernel
    intro guarded
    obtain ⟨-, unused⟩ := guarded _ _ _ log
    exact unused ("twitch", "bot") (by simp)

end BitBrat.OAuth
