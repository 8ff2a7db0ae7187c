import BitBrat.Gateway.ApiToken
import BitBrat.Js.IsoDate
import BitBrat.Machine.Pending
import BitBrat.Machine.Run

/-! Revocation of tokens: when a deleted token stays deleted, and leaves the cache in time. -/

namespace BitBrat

open Js Machine

def expiryOf (env : TokenEnv) (doc : Value) : Option Int :=
  (dateOf env (doc.get "expires_at")).bind (·.getTime)

section

variable (env : TokenEnv) (state : GatewayState)

/-- What is owed to those who delete a token, and to those who store an expiry with it. -/
structure RevocationLaw (input : TokenInput) : Prop where
  /-- A deleted token stays absent until it is set again. -/
  absent : ∀ hash deletedAt, (tokenStep env state input).revokedAt.get? hash = some deletedAt →
    (tokenStep env state input).tokens.get? hash = none
  /-- A validation of a deleted token that succeeds started within the time of the cache. -/
  rejected : ∀ validated uid, (tokenOutcome env state input).2 = some validated →
    validated.uid = some uid → ∀ deletedAt, state.revokedAt.get? validated.hash = some deletedAt →
      validated.startedAt ≤ deletedAt + CACHE_TTL_MS
  /-- No token is accepted after the expiry that is stored with it. -/
  unexpired : ∀ validated uid, (tokenOutcome env state input).2 = some validated →
    validated.uid = some uid → ∀ doc expiry, state.tokens.get? validated.hash = some doc →
      expiryOf env doc = some expiry → state.now ≤ expiry

def acceptedDoc (doc : Value) : Bool :=
  doc.truthy && !(dateOf env (doc.get "expires_at")).any (·.passed state.now)

/-- No answer of the store is acted upon after its document has been deleted. -/
def AnswerInPlace : TokenInput → Prop
  | .finishValidation index =>
    ∀ pending ∈ state.validations[index]?, ∀ doc, pending.answer = some (some doc) →
      acceptedDoc env state doc = true → state.revokedAt.get? pending.hash = none
  | .writeUse index _ fails =>
    ∀ pending ∈ state.uses[index]?, ∀ doc, pending.answer = some (some doc) →
      doc.truthy = true → fails = false →
        ∃ current, state.tokens.get? pending.hash = some current ∧
          expiryOf env current = expiryOf env doc
  | _ => True

/-- What holds of the table, of the cache and of the answers while all of them are in place. -/
structure TokensAgree : Prop where
  absent : ∀ hash deletedAt, state.revokedAt.get? hash = some deletedAt →
    state.tokens.get? hash = none
  /-- A timer takes no longer than the time of the cache, and has not run. -/
  timely : ∀ timer ∈ state.timers, state.now < timer.1 ∧ timer.1 ≤ state.now + CACHE_TTL_MS
  /-- What is in the cache leaves it in time after a deletion. -/
  leaving : ∀ hash cached, state.cache.get? hash = some cached →
    ∃ timer ∈ state.timers, timer.2 = hash ∧
      ∀ deletedAt, state.revokedAt.get? hash = some deletedAt → timer.1 ≤ deletedAt + CACHE_TTL_MS
  cachedExpiry : ∀ hash doc expiry, state.tokens.get? hash = some doc →
    expiryOf env doc = some expiry → ∀ cached, state.cache.get? hash = some cached →
      cached.expires_at.bind (·.getTime) = some expiry
  answeredExpiry : ∀ pending ∈ state.validations, ∀ doc expiry,
    state.tokens.get? pending.hash = some doc → expiryOf env doc = some expiry →
      ∀ answer, pending.answer = some (some answer) → expiryOf env answer = some expiry

end

section

variable {env : TokenEnv} {state : GatewayState}

@[simp] theorem expiryOf_lastUsed (doc : Value) (lastUsedAt : Value) :
    expiryOf env (doc.extend [("last_used_at", lastUsedAt)]) = expiryOf env doc := by
  have other : (doc.extend [("last_used_at", lastUsedAt)]).get "expires_at" =
      doc.get "expires_at" := by
    rw [Value.get_extend]
    rfl
  simp only [expiryOf, other]

@[simp] theorem expiryOf_tokenDoc (tokenHash userId createdAt : String) :
    expiryOf env (tokenDoc tokenHash userId createdAt) = none := by
  rfl

theorem le_of_not_passed {date : Option Date} {now expiry : Int}
    (time : date.bind (·.getTime) = some expiry) (pending : date.any (·.passed now) = false) :
    now ≤ expiry := by
  obtain ⟨date, rfl, set⟩ := Option.bind_eq_some_iff.mp time
  simpa [Date.passed, set] using pending

theorem finishValidation_cases (env : TokenEnv) (state : GatewayState) (index : Nat) :
    AuthService.finishValidation env state index = (state, none) ∨
    (∃ pending ∈ state.validations[index]?, AuthService.finishValidation env state index =
      ({ state with validations := state.validations.eraseIdx index },
        some { hash := pending.hash, startedAt := pending.startedAt, uid := none })) ∨
    ∃ pending ∈ state.validations[index]?, ∃ doc, pending.answer = some (some doc) ∧
      acceptedDoc env state doc = true ∧
      AuthService.finishValidation env state index =
        ({ state with
          validations := state.validations.eraseIdx index
          cache := state.cache.set pending.hash {
            uid := (doc.get "uid").or (doc.get "user_id")
            expires_at := dateOf env (doc.get "expires_at") }
          timers := state.timers ++ [(state.now + CACHE_TTL_MS, pending.hash)]
          uses := state.uses ++ [{ hash := pending.hash }] },
          some { hash := pending.hash, startedAt := pending.startedAt
                 uid := some ((doc.get "uid").or (doc.get "user_id")) }) := by
  unfold AuthService.finishValidation
  split
  case h_2 => exact .inl rfl
  case h_1 hash startedAt doc found =>
    right
    cases doc with
    | none => exact .inl ⟨_, found, rfl⟩
    | some doc =>
      simp only [DocumentStoreApiTokenStore.getToken]
      by_cases there : doc.truthy = true
      · simp only [if_pos there]
        split
        case isTrue passed => exact .inl ⟨_, found, rfl⟩
        case isFalse current =>
          have accepted : acceptedDoc env state doc = true := by
            simp [acceptedDoc, there, Bool.eq_false_of_not_eq_true current]
          exact .inr ⟨_, found, doc, rfl, accepted, rfl⟩
      · simp only [if_neg there]
        exact .inl ⟨_, found, rfl⟩

theorem updateLastUsed_cases (state : GatewayState) (index : Nat) (lastUsedAt : String)
    (fails : Bool) :
    (∃ uses, DocumentStoreApiTokenStore.updateLastUsed state index lastUsedAt fails =
      { state with uses }) ∨
    ∃ pending ∈ state.uses[index]?, ∃ doc, pending.answer = some (some doc) ∧ doc.truthy = true ∧
      fails = false ∧
      DocumentStoreApiTokenStore.updateLastUsed state index lastUsedAt fails =
        { state with
          uses := state.uses.eraseIdx index
          tokens := state.tokens.set pending.hash
            (doc.extend [("last_used_at", .str lastUsedAt)]) } := by
  unfold DocumentStoreApiTokenStore.updateLastUsed
  split
  case h_2 => exact .inl ⟨state.uses, rfl⟩
  case h_1 hash doc found =>
    cases doc with
    | none => exact .inl ⟨_, rfl⟩
    | some doc =>
      simp only
      split
      case isTrue writes =>
        simp only [Bool.and_eq_true, Bool.not_eq_true'] at writes
        exact .inr ⟨_, found, doc, rfl, writes.1, writes.2, rfl⟩
      case isFalse => exact .inl ⟨_, rfl⟩

namespace TokensAgree

theorem forget (agree : TokensAgree env state) (hash : String) :
    TokensAgree env { state with cache := state.cache.erase hash } := by
  have kept : ∀ {other cached}, (state.cache.erase hash).get? other = some cached →
      state.cache.get? other = some cached := by
    intro other cached found
    rw [OrderedMap.get?_erase] at found
    split at found
    · cases found
    · exact found
  exact {
    absent := agree.absent
    timely := agree.timely
    leaving := fun other cached found => agree.leaving other cached (kept found)
    cachedExpiry := fun other doc expiry stored set cached found =>
      agree.cachedExpiry other doc expiry stored set cached (kept found)
    answeredExpiry := agree.answeredExpiry }

theorem ask (agree : TokensAgree env state) {validations : List PendingValidation}
    (known : ∀ pending ∈ validations, pending ∈ state.validations ∨ pending.answer = none) :
    TokensAgree env { state with validations } where
  absent := agree.absent
  timely := agree.timely
  leaving := agree.leaving
  cachedExpiry := agree.cachedExpiry
  answeredExpiry := by
    intro pending member doc expiry stored set answer given
    rcases known pending member with earlier | silent
    · exact agree.answeredExpiry pending earlier doc expiry stored set answer given
    · rw [silent] at given
      cases given

theorem answer (agree : TokensAgree env state) (index : Nat) (fails : Bool) :
    TokensAgree env { state with
      validations := state.validations.modify index fun pending =>
        pending.answered state fails } where
  absent := agree.absent
  timely := agree.timely
  leaving := agree.leaving
  cachedExpiry := agree.cachedExpiry
  answeredExpiry := by
    intro pending member doc expiry stored set answer given
    obtain ⟨before, earlier, rfl | rfl⟩ := mem_modify member
    · exact agree.answeredExpiry pending earlier doc expiry stored set answer given
    · cases waited : before.answer with
      | some known =>
        -- The store has answered before.
        simp only [PendingValidation.answered, waited, Option.getD_some,
          Option.some.injEq] at given
        exact agree.answeredExpiry before earlier doc expiry stored set answer (given ▸ waited)
      | none =>
        simp only [PendingValidation.answered, waited, Option.getD_none, storeAnswer,
          Option.some.injEq] at given stored
        split at given
        · cases given
        · rw [stored, Option.some.injEq] at given
          rw [← given]
          exact set

private theorem accept (agree : TokensAgree env state) {pending : PendingValidation}
    (member : pending ∈ state.validations) {doc : Value}
    (answered : pending.answer = some (some doc))
    (kept : state.revokedAt.get? pending.hash = none) (uid : Value)
    (validations : List PendingValidation) (uses : List PendingUse)
    (known : ∀ pending ∈ validations, pending ∈ state.validations) :
    TokensAgree env { state with
      validations
      cache := state.cache.set pending.hash {
        uid, expires_at := dateOf env (doc.get "expires_at") }
      timers := state.timers ++ [(state.now + CACHE_TTL_MS, pending.hash)]
      uses } where
  absent := agree.absent
  timely := by
    intro timer running
    rcases List.mem_append.mp running with earlier | last
    · exact agree.timely timer earlier
    · rw [List.mem_singleton.mp last]
      simp [CACHE_TTL_MS]
  leaving := by
    intro hash cached found
    rw [OrderedMap.get?_set] at found
    split at found
    case isTrue same =>
      -- The token has a timer of its own, and was not deleted.
      refine ⟨_, List.mem_append_right _ (List.mem_singleton_self _), same.symm, ?_⟩
      intro deletedAt deleted
      rw [same, kept] at deleted
      cases deleted
    case isFalse other =>
      obtain ⟨timer, running, due⟩ := agree.leaving hash cached found
      exact ⟨timer, List.mem_append_left _ running, due⟩
  cachedExpiry := by
    intro hash stored expiry there set cached found
    rw [OrderedMap.get?_set] at found
    split at found
    case isTrue same =>
      cases found
      subst same
      exact agree.answeredExpiry pending member stored expiry there set doc answered
    case isFalse other => exact agree.cachedExpiry hash stored expiry there set cached found
  answeredExpiry := fun other earlier => agree.answeredExpiry other (known other earlier)

theorem rewrite (agree : TokensAgree env state) {hash : String} {current doc : Value}
    (there : state.tokens.get? hash = some current)
    (same : expiryOf env current = expiryOf env doc) (uses : List PendingUse) :
    TokensAgree env { state with uses, tokens := state.tokens.set hash doc } where
  absent := by
    intro other deletedAt deleted
    have gone := agree.absent other deletedAt deleted
    rw [OrderedMap.get?_set]
    split
    case isTrue equal =>
      -- The token would have been deleted.
      rw [equal, there] at gone
      cases gone
    case isFalse => exact gone
  timely := agree.timely
  leaving := agree.leaving
  cachedExpiry := by
    intro other stored expiry found set
    rw [OrderedMap.get?_set] at found
    split at found
    case isTrue equal =>
      cases found
      rw [equal]
      exact agree.cachedExpiry hash current expiry there (same.trans set)
    case isFalse => exact agree.cachedExpiry other stored expiry found set
  answeredExpiry := by
    intro pending member stored expiry found set
    rw [OrderedMap.get?_set] at found
    split at found
    case isTrue equal =>
      cases found
      exact agree.answeredExpiry pending member current expiry (equal ▸ there) (same.trans set)
    case isFalse => exact agree.answeredExpiry pending member stored expiry found set

theorem setToken (agree : TokensAgree env state) (tokenHash userId createdAt : String) :
    TokensAgree env { state with
      tokens := state.tokens.set tokenHash (tokenDoc tokenHash userId createdAt)
      revokedAt := state.revokedAt.erase tokenHash } where
  absent := by
    intro hash deletedAt deleted
    rw [OrderedMap.get?_erase] at deleted
    split at deleted
    case isTrue => cases deleted
    case isFalse other =>
      rw [OrderedMap.get?_set, if_neg other]
      exact agree.absent hash deletedAt deleted
  timely := agree.timely
  leaving := by
    intro hash cached found
    obtain ⟨timer, running, named, due⟩ := agree.leaving hash cached found
    refine ⟨timer, running, named, fun deletedAt deleted => ?_⟩
    rw [OrderedMap.get?_erase] at deleted
    split at deleted
    · cases deleted
    · exact due deletedAt deleted
  cachedExpiry := by
    intro hash doc expiry stored set
    rw [OrderedMap.get?_set] at stored
    split at stored
    case isTrue =>
      cases stored
      rw [expiryOf_tokenDoc] at set
      cases set
    case isFalse => exact agree.cachedExpiry hash doc expiry stored set
  answeredExpiry := by
    intro pending member doc expiry stored set
    rw [OrderedMap.get?_set] at stored
    split at stored
    case isTrue =>
      cases stored
      rw [expiryOf_tokenDoc] at set
      cases set
    case isFalse => exact agree.answeredExpiry pending member doc expiry stored set

theorem deleteToken (agree : TokensAgree env state) (tokenHash : String) :
    TokensAgree env { state with
      tokens := state.tokens.erase tokenHash
      revokedAt := state.revokedAt.set tokenHash state.now } where
  absent := by
    intro hash deletedAt deleted
    rw [OrderedMap.get?_set] at deleted
    rw [OrderedMap.get?_erase]
    split at deleted
    case isTrue same => rw [if_pos same]
    case isFalse other =>
      rw [if_neg other]
      exact agree.absent hash deletedAt deleted
  timely := agree.timely
  leaving := by
    intro hash cached found
    obtain ⟨timer, running, named, due⟩ := agree.leaving hash cached found
    refine ⟨timer, running, named, fun deletedAt deleted => ?_⟩
    rw [OrderedMap.get?_set] at deleted
    split at deleted
    · cases deleted
      exact (agree.timely timer running).2
    · exact due deletedAt deleted
  cachedExpiry := by
    intro hash doc expiry stored
    rw [OrderedMap.get?_erase] at stored
    split at stored
    · cases stored
    · exact agree.cachedExpiry hash doc expiry stored
  answeredExpiry := by
    intro pending member doc expiry stored
    rw [OrderedMap.get?_erase] at stored
    split at stored
    · cases stored
    · exact agree.answeredExpiry pending member doc expiry stored

theorem advance (agree : TokensAgree env state) (ms : Nat) :
    TokensAgree env (state.advance ms) where
  absent := agree.absent
  timely := by
    intro timer running
    obtain ⟨earlier, ahead⟩ := List.mem_filter.mp running
    have bounds := agree.timely timer earlier
    simp only [decide_eq_true_eq] at ahead
    simp only [GatewayState.advance]
    omega
  leaving := by
    intro hash cached found
    obtain ⟨timer, running, named, due⟩ :=
      agree.leaving hash cached (OrderedMap.get?_of_filter found)
    refine ⟨timer, ?_, named, due⟩
    -- A timer that is due would have taken the entry with it.
    have stays := (List.mem_filter.mp (mem_of_lookup found)).2
    refine List.mem_filter.mpr ⟨running, ?_⟩
    simp only [decide_eq_true_eq] at stays ⊢
    by_contra late
    refine stays (List.mem_map.mpr ⟨timer, List.mem_filter.mpr ⟨running, ?_⟩, named⟩)
    simpa using Int.not_lt.mp late
  cachedExpiry := fun hash doc expiry stored set cached found =>
    agree.cachedExpiry hash doc expiry stored set cached (OrderedMap.get?_of_filter found)
  answeredExpiry := agree.answeredExpiry

/-- Every step whose answer is in place keeps the table, the cache and the answers in agreement. -/
theorem step (agree : TokensAgree env state) {input : TokenInput}
    (inPlace : AnswerInPlace env state input) : TokensAgree env (tokenStep env state input) := by
  cases input with
  | validateToken token =>
    simp only [tokenStep, tokenOutcome, AuthService.validateToken]
    split
    · exact agree
    · split
      · split
        · exact agree.forget _
        · exact agree
      · refine agree.ask fun pending member => ?_
        rcases List.mem_append.mp member with earlier | last
        · exact .inl earlier
        · exact .inr (List.mem_singleton.mp last ▸ rfl)
  | answerValidation index fails => exact agree.answer index fails
  | finishValidation index =>
    have fewer : ∀ pending ∈ state.validations.eraseIdx index, pending ∈ state.validations :=
      fun _ member => List.mem_of_mem_eraseIdx member
    simp only [tokenStep, tokenOutcome]
    rcases finishValidation_cases env state index with same | ⟨pending, -, rejects⟩ |
      ⟨pending, found, doc, answered, accepted, accepts⟩
    · rw [same]
      exact agree
    · rw [rejects]
      exact agree.ask fun pending member => .inl (fewer pending member)
    · rw [accepts]
      exact agree.accept (List.mem_of_getElem? found) answered
        (inPlace pending found doc answered accepted) _ _ _ fewer
  | answerUse index fails =>
    exact ⟨agree.absent, agree.timely, agree.leaving, agree.cachedExpiry, agree.answeredExpiry⟩
  | writeUse index lastUsedAt fails =>
    simp only [tokenStep, tokenOutcome]
    rcases updateLastUsed_cases state index lastUsedAt fails with ⟨uses, same⟩ |
      ⟨pending, found, doc, answered, there, works, writes⟩
    · rw [same]
      exact ⟨agree.absent, agree.timely, agree.leaving, agree.cachedExpiry, agree.answeredExpiry⟩
    · rw [writes]
      obtain ⟨current, stored, expiry⟩ := inPlace pending found doc answered there works
      exact agree.rewrite stored (expiry.trans (expiryOf_lastUsed doc _).symm) _
  | setToken tokenHash userId createdAt => exact agree.setToken tokenHash userId createdAt
  | deleteToken tokenHash => exact agree.deleteToken tokenHash
  | advance ms => exact agree.advance ms

theorem start (tokens : OrderedMap String Value) (now : Int) :
    TokensAgree env (.start tokens now) := by
  constructor <;> simp [GatewayState.start]

theorem accept_cached (agree : TokensAgree env state) {hash : String} {cached : CachedToken}
    (found : state.cache.get? hash = some cached)
    (current : cached.expires_at.any (·.passed state.now) = false) :
    (∀ deletedAt, state.revokedAt.get? hash = some deletedAt →
      state.now ≤ deletedAt + CACHE_TTL_MS) ∧
    ∀ doc expiry, state.tokens.get? hash = some doc → expiryOf env doc = some expiry →
      state.now ≤ expiry := by
  refine ⟨fun deletedAt deleted => ?_, fun doc expiry stored set => ?_⟩
  · -- Its timer has not run, and was due in time after the deletion.
    obtain ⟨timer, running, -, due⟩ := agree.leaving hash cached found
    have ahead := (agree.timely timer running).1
    have bound := due deletedAt deleted
    omega
  · exact le_of_not_passed (agree.cachedExpiry hash doc expiry stored set cached found) current

theorem law (agree : TokensAgree env state) {input : TokenInput}
    (inPlace : AnswerInPlace env state input) : RevocationLaw env state input := by
  have accepts : ∀ validated uid, (tokenOutcome env state input).2 = some validated →
      validated.uid = some uid →
      (∀ deletedAt, state.revokedAt.get? validated.hash = some deletedAt →
        validated.startedAt ≤ deletedAt + CACHE_TTL_MS) ∧
      ∀ doc expiry, state.tokens.get? validated.hash = some doc → expiryOf env doc = some expiry →
        state.now ≤ expiry := by
    intro validated uid outcome user
    cases input with
    | validateToken token =>
      simp only [tokenOutcome, AuthService.validateToken] at outcome
      split at outcome
      · cases outcome
        cases user
      · split at outcome
        case h_1 cached found =>
          split at outcome
          case isTrue passed =>
            cases outcome
            cases user
          case isFalse current =>
            cases outcome
            exact agree.accept_cached found (Bool.eq_false_of_not_eq_true current)
        case h_2 => cases outcome
    | finishValidation index =>
      simp only [tokenOutcome] at outcome
      rcases finishValidation_cases env state index with same | ⟨pending, -, rejects⟩ |
        ⟨pending, found, doc, answered, accepted, accepted_uid⟩
      · rw [same] at outcome
        cases outcome
      · rw [rejects] at outcome
        cases outcome
        cases user
      · rw [accepted_uid] at outcome
        cases outcome
        refine ⟨fun deletedAt deleted => ?_, fun stored expiry there set => ?_⟩
        · rw [inPlace pending found doc answered accepted] at deleted
          cases deleted
        · -- The document that was read has the expiry that is stored.
          simp only [acceptedDoc, Bool.and_eq_true, Bool.not_eq_true'] at accepted
          exact le_of_not_passed (agree.answeredExpiry pending (List.mem_of_getElem? found) stored
            expiry there set doc answered) accepted.2
    | answerValidation => cases outcome
    | answerUse => cases outcome
    | writeUse => cases outcome
    | setToken => cases outcome
    | deleteToken => cases outcome
    | advance => cases outcome
  exact {
    absent := (agree.step inPlace).absent
    rejected := fun validated uid outcome user => (accepts validated uid outcome user).1
    unexpired := fun validated uid outcome user => (accepts validated uid outcome user).2 }

end TokensAgree

end

/-- In a run in which no answer is acted upon after a deletion, revocation holds at every step. -/
theorem token_revocation_holds (env : TokenEnv) (tokens : OrderedMap String Value) (now : Int)
    (inputs : List TokenInput)
    (inPlace : Along (tokenStep env) (AnswerInPlace env) (.start tokens now) inputs) :
    Along (tokenStep env) (RevocationLaw env) (.start tokens now) inputs :=
  along_of_invariant (TokensAgree env) (fun _ _ agree inPlace => agree.step inPlace)
    (fun _ _ agree inPlace => agree.law inPlace) (TokensAgree.start tokens now) inPlace

/-- Digests that are told apart by their tokens, and dates in the format that is stored. -/
def isoTokenEnv : TokenEnv where
  sha256 token := "sha256:" ++ token
  parseDate
    | .str text => ofISOString text
    | _ => none

/-- A token is set, validated and deleted, and validated again after the time of the cache. -/
def revokedRun : List TokenInput := [
  .setToken "sha256:t" "twitch:1" "2026-01-01T00:00:00.000Z",
  .validateToken "t", .answerValidation 0 false, .finishValidation 0,
  .answerUse 0 false, .writeUse 0 "2026-01-01T00:00:01.000Z" false,
  .deleteToken "sha256:t", .validateToken "t",
  .advance 300001, .validateToken "t", .answerValidation 0 false, .finishValidation 0]

theorem revokedRun_holds :
    Along (tokenStep isoTokenEnv) (RevocationLaw isoTokenEnv) (.start .empty 0) revokedRun := by
  apply token_revocation_holds
  refine ⟨trivial, trivial, trivial, ?_, trivial, ?_, trivial, trivial, trivial, trivial, trivial,
    ?_, trivial⟩
  · -- The token is there when the first validation goes on.
    rintro pending ⟨⟩ doc ⟨⟩ -
    rfl
  · -- It is still there when the time of its last use is written.
    rintro pending ⟨⟩ doc ⟨⟩ - -
    exact ⟨_, rfl, rfl⟩
  · -- The last validation finds nothing to accept.
    rintro pending ⟨⟩ doc ⟨⟩

/-- The update of the last use reads the token before it is deleted, and writes it afterwards. -/
def resurrectingRun : List TokenInput := [
  .setToken "sha256:t" "twitch:1" "2026-01-01T00:00:00.000Z",
  .validateToken "t", .answerValidation 0 false, .finishValidation 0,
  .answerUse 0 false, .deleteToken "sha256:t",
  .writeUse 0 "2026-01-01T00:00:01.000Z" false]

/-- A deleted token is there again after an update of its last use. -/
theorem not_token_revocation :
    ¬ ∀ (env : TokenEnv) (tokens : OrderedMap String Value) (now : Int) (inputs : List TokenInput),
      Along (tokenStep env) (RevocationLaw env) (.start tokens now) inputs := by
  intro holds
  obtain ⟨-, -, -, -, -, -, law, -⟩ := holds isoTokenEnv .empty 0 resurrectingRun
  have absent := law.absent "sha256:t" 0 rfl
  cases absent

end BitBrat
