import BitBrat.Js.NumberText
import Mathlib.Data.Nat.Cast.Order.Ring
import Mathlib.Algebra.Order.Ring.Rat

/-! The state parameter of an authorization: how it is made, and how it is verified. -/

namespace BitBrat.OAuth

open Js

def hexDigits : List Char := "0123456789abcdef".toList

structure OAuthEnv where
  hmacSHA256 : String → String → String
  /-- It is written in hexadecimal digits, two for each of its 32 bytes. -/
  hexDigest : ∀ secret data, (∀ char ∈ (hmacSHA256 secret data).toList, char ∈ hexDigits) ∧
    (hmacSHA256 secret data).toList.length = 64
  toLowerCase : String → String

structure OAuthConfig where
  oauthStateSecret : Option String := none
  twitchClientId : Option String := none
  twitchClientSecret : Option String := none
  deriving DecidableEq

def present (text : Option String) : Option String := text.filter (· ≠ "")

def OAuthConfig.stateSecret (cfg : OAuthConfig) : String :=
  (present cfg.oauthStateSecret).getD "dev-secret"

structure RandomNonce where
  text : String
  hex : ∀ char ∈ text.toList, char ∈ hexDigits
  width : text.toList.length = 16
  deriving DecidableEq

/-- A call for a state: under what configuration, with which nonce, and when. -/
structure StateCall where
  cfg : OAuthConfig
  nonce : Option String := none
  random : RandomNonce
  now : Nat
  deriving DecidableEq

def StateCall.n (call : StateCall) : String := (present call.nonce).getD call.random.text

def StateCall.signed (call : StateCall) : String := call.n ++ "." ++ toString call.now

def generateState (env : OAuthEnv) (call : StateCall) : String :=
  call.signed ++ "." ++ env.hmacSHA256 call.cfg.stateSecret call.signed

def dotParts (text : String) : List String := (text.toList.splitOn '.').map String.ofList

def byteLength (text : String) : Nat := (text.toList.map Char.utf8Size).sum

/-- Whether two texts have the same bytes, which is asked of texts of one length only. -/
def timingSafeEqual (left right : String) : Except String Bool :=
  if byteLength left ≠ byteLength right then
    .error "Input buffers must have the same byte length"
  else .ok (left = right)

/-- The age that a state may reach unless another is asked for, in milliseconds. -/
def maxStateAgeMs : Number := .finite (10 * 60 * 1000)

/-- Whether a state was signed with the secret, and not too long ago. -/
def verifyState (env : OAuthEnv) (cfg : OAuthConfig) (state : Option String) (now : Nat)
    (maxAgeMs : Number) : Except String Bool :=
  match present state with
  | none => .ok false
  | some state =>
    match dotParts state with
    | [n, ts, sig] => do
      let expected := env.hmacSHA256 cfg.stateSecret (n ++ "." ++ ts)
      if !(← timingSafeEqual expected sig) then return false
      let age := (Number.finite now).sub (Number.ofText ts)
      return Number.le (.finite 0) age && Number.le age maxAgeMs
    | _ => .ok false

/-- A state that was generated under the secret, and not longer ago than the age. -/
def Recent (env : OAuthEnv) (cfg : OAuthConfig) (calls : List StateCall) (state : String)
    (now : Nat) (maxAgeMs : Number) : Prop :=
  ∃ call ∈ calls, call.cfg.stateSecret = cfg.stateSecret ∧ generateState env call = state ∧
    call.now ≤ now ∧ Number.le (.finite ((now - call.now : ℕ) : ℚ)) maxAgeMs = true

instance (env : OAuthEnv) (cfg : OAuthConfig) (calls : List StateCall) (state : String)
    (now : Nat) (maxAgeMs : Number) : Decidable (Recent env cfg calls state now maxAgeMs) :=
  inferInstanceAs (Decidable (∃ call ∈ calls, _ = _ ∧ _ = _ ∧ _ ≤ _ ∧ _ = true))

/-- No tag is known of a text but from a state that was generated with it. -/
def Unforged (env : OAuthEnv) (cfg : OAuthConfig) (calls : List StateCall) (state : String) :
    Prop :=
  ∀ data, state = data ++ "." ++ env.hmacSHA256 cfg.stateSecret data →
    ∃ call ∈ calls, call.cfg.stateSecret = cfg.stateSecret ∧ call.signed = data

/-- A text of three parts has a last part of as many bytes as a tag. -/
def TagSized (state : String) : Prop :=
  ∀ n ts sig, dotParts state = [n, ts, sig] → byteLength sig = 64

theorem hex_of_all {text : List Char}
    (all : (text.all fun char => hexDigits.contains char) = true) :
    ∀ char ∈ text, char ∈ hexDigits := by
  intro char member
  exact List.contains_iff_mem.mp (List.all_eq_true.mp all char member)

theorem utf8Size_of_mem_hexDigits :
    ∀ char ∈ hexDigits, char.utf8Size = 1 ∧ char ≠ '.' := by
  have all : (hexDigits.all fun char => char.utf8Size = 1 && char ≠ '.') = true := by
    decide +kernel
  intro char member
  simpa using List.all_eq_true.mp all char member

theorem dot_not_mem_of_hex {text : List Char} (hex : ∀ char ∈ text, char ∈ hexDigits) :
    '.' ∉ text :=
  fun member => (utf8Size_of_mem_hexDigits '.' (hex '.' member)).2 rfl

theorem dot_not_mem_toString (number : Nat) : '.' ∉ (toString number).toList :=
  not_mem_toString (by decide) number

theorem append_dot_inj {first second left right : String}
    (same : first ++ "." ++ left = second ++ "." ++ right) (leftDotless : '.' ∉ left.toList)
    (rightDotless : '.' ∉ right.toList) : first = second ∧ left = right := by
  have chars : first.toList ++ '.' :: left.toList = second.toList ++ '.' :: right.toList := by
    simpa using congrArg String.toList same
  have kept (text : List Char) (dotless : '.' ∉ text) : ∀ char ∈ text, (char != '.') = true := by
    intro char member
    simp only [bne_iff_ne, ne_eq]
    rintro rfl
    exact dotless member
  obtain ⟨front, back⟩ :=
    append_stop_inj (kept _ leftDotless) (kept _ rightDotless) (by decide) chars
  exact ⟨String.toList_injective front, String.toList_injective back⟩

theorem dotParts_eq_iff {text n ts sig : String} : dotParts text = [n, ts, sig] ↔
    text = n ++ "." ++ ts ++ "." ++ sig ∧ '.' ∉ n.toList ∧ '.' ∉ ts.toList ∧ '.' ∉ sig.toList := by
  have joined : ['.'].intercalate [n.toList, ts.toList, sig.toList] =
      (n ++ "." ++ ts ++ "." ++ sig).toList := by
    simp [List.intercalate, List.intersperse]
  constructor
  · intro split
    have fields : text.toList.splitOn '.' = [n.toList, ts.toList, sig.toList] := by
      have texts := congrArg (List.map String.toList) split
      simpa [dotParts, List.map_map, Function.comp_def] using texts
    -- Joining the parts again gives the text back.
    have whole : text.toList = ['.'].intercalate [n.toList, ts.toList, sig.toList] := by
      rw [← fields, List.intercalate_splitOn]
    have dotless (segment : List Char)
        (member : segment ∈ [n.toList, ts.toList, sig.toList]) : '.' ∉ segment :=
      not_mem_of_mem_splitOn '.' (fields ▸ member)
    exact ⟨String.toList_injective (whole.trans joined), dotless _ (by simp),
      dotless _ (by simp), dotless _ (by simp)⟩
  · rintro ⟨rfl, nonce, time, tag⟩
    unfold dotParts
    rw [← joined, List.splitOn_intercalate]
    · simp
    · simp [nonce, time, tag]
    · simp

section

variable {env : OAuthEnv}

theorem byteLength_hmacSHA256 (secret data : String) :
    byteLength (env.hmacSHA256 secret data) = 64 := by
  obtain ⟨hex, width⟩ := env.hexDigest secret data
  have single : (env.hmacSHA256 secret data).toList.map Char.utf8Size =
      List.replicate 64 1 := by
    rw [List.eq_replicate_iff]
    refine ⟨by rw [List.length_map, width], ?_⟩
    intro size member
    obtain ⟨char, inside, rfl⟩ := List.mem_map.mp member
    exact (utf8Size_of_mem_hexDigits char (hex char inside)).1
  rw [byteLength, single]
  rfl

theorem dot_not_mem_hmacSHA256 (secret data : String) :
    '.' ∉ (env.hmacSHA256 secret data).toList :=
  dot_not_mem_of_hex (env.hexDigest secret data).1

variable {state ts sig : String}

theorem verifyState_of_parts (cfg : OAuthConfig) {n : String} (now : Nat) (maxAgeMs : Number)
    (parts : dotParts state = [n, ts, sig]) : verifyState env cfg (some state) now maxAgeMs =
      if byteLength sig ≠ 64 then .error "Input buffers must have the same byte length"
      else .ok (decide (env.hmacSHA256 cfg.stateSecret (n ++ "." ++ ts) = sig) &&
        (Number.le (.finite 0) ((Number.finite now).sub (Number.ofText ts)) &&
          Number.le ((Number.finite now).sub (Number.ofText ts)) maxAgeMs)) := by
  -- A text of three parts is not empty.
  have nonempty : present (some state) = some state := by
    have filled : state ≠ "" := by
      rintro rfl
      exact absurd parts (by simp [dotParts])
    simp [present, filled]
  unfold verifyState
  rw [nonempty]
  dsimp only
  rw [parts]
  dsimp only
  unfold timingSafeEqual
  rw [byteLength_hmacSHA256]
  by_cases sized : byteLength sig = 64
  · rw [if_neg (by simp [sized]), if_neg (by simp [sized])]
    by_cases same : env.hmacSHA256 cfg.stateSecret (n ++ "." ++ ts) = sig
    · simp [same, bind, Except.bind, pure, Except.pure]
    · simp [same, bind, Except.bind, pure, Except.pure]
  · rw [if_pos (Ne.symm sized), if_pos sized]
    rfl

theorem verifyState_of_other (cfg : OAuthConfig) (now : Nat) (maxAgeMs : Number)
    (other : ∀ n ts sig, dotParts state ≠ [n, ts, sig]) :
    verifyState env cfg (some state) now maxAgeMs = .ok false := by
  unfold verifyState
  cases nonempty : present (some state) with
  | none => rfl
  | some text =>
    obtain ⟨same, -⟩ := Option.filter_eq_some_iff.mp nonempty
    cases same
    dsimp only
    split
    case h_1 n ts sig parts => exact absurd parts (other n ts sig)
    case h_2 => rfl

theorem dotParts_generateState {call : StateCall} (dotless : '.' ∉ call.n.toList) :
    dotParts (generateState env call) =
      [call.n, toString call.now, env.hmacSHA256 call.cfg.stateSecret call.signed] :=
  dotParts_eq_iff.mpr
    ⟨rfl, dotless, dot_not_mem_toString call.now, dot_not_mem_hmacSHA256 _ _⟩

theorem generateState_parts {call : StateCall} {n : String}
    (parts : dotParts (generateState env call) = [n, ts, sig]) :
    call.n = n ∧ toString call.now = ts ∧
      env.hmacSHA256 call.cfg.stateSecret call.signed = sig := by
  obtain ⟨joined, -, time, tag⟩ := dotParts_eq_iff.mp parts
  obtain ⟨signed, same⟩ := append_dot_inj joined (dot_not_mem_hmacSHA256 _ _) tag
  obtain ⟨nonce, at'⟩ := append_dot_inj signed (dot_not_mem_toString call.now) time
  exact ⟨nonce, at', same⟩

variable {cfg : OAuthConfig} {calls : List StateCall}

theorem unforged_generateState {call : StateCall} (member : call ∈ calls)
    (secret : call.cfg.stateSecret = cfg.stateSecret) :
    Unforged env cfg calls (generateState env call) := by
  intro data same
  obtain ⟨signed, -⟩ :=
    append_dot_inj same (dot_not_mem_hmacSHA256 _ _) (dot_not_mem_hmacSHA256 _ _)
  exact ⟨call, member, secret, signed⟩

theorem unforged_of_short (front tag : String) (joined : state = front ++ "." ++ tag)
    (dotless : '.' ∉ tag.toList) (short : byteLength tag ≠ 64) : Unforged env cfg calls state := by
  intro data same
  obtain ⟨-, rfl⟩ :=
    append_dot_inj (joined.symm.trans same) dotless (dot_not_mem_hmacSHA256 _ _)
  exact absurd (byteLength_hmacSHA256 _ _) short

theorem age_in_range_iff (issued now : Nat) (maxAgeMs : Number) :
    (Number.le (.finite 0) ((Number.finite now).sub (Number.ofText (toString issued))) &&
      Number.le ((Number.finite now).sub (Number.ofText (toString issued))) maxAgeMs) = true ↔
      issued ≤ now ∧ Number.le (.finite ((now - issued : ℕ) : ℚ)) maxAgeMs = true := by
  have age : (Number.finite now).sub (Number.ofText (toString issued)) =
      .finite ((now : ℚ) - issued) := by
    rw [Number.ofText_toString]
    simp [Number.sub, Number.neg, Number.add, sub_eq_add_neg]
  rw [age, Number.le_finite, Bool.and_eq_true, decide_eq_true_eq, sub_nonneg, Nat.cast_le]
  apply and_congr_right
  intro past
  rw [Nat.cast_sub past]

theorem recent_iff_of_parts {n : String} {now : Nat} {maxAgeMs : Number}
    (parts : dotParts state = [n, ts, sig]) (unforged : Unforged env cfg calls state) :
    (env.hmacSHA256 cfg.stateSecret (n ++ "." ++ ts) = sig ∧
      (Number.le (.finite 0) ((Number.finite now).sub (Number.ofText ts)) &&
        Number.le ((Number.finite now).sub (Number.ofText ts)) maxAgeMs) = true) ↔
      Recent env cfg calls state now maxAgeMs := by
  obtain ⟨joined, -, time, -⟩ := dotParts_eq_iff.mp parts
  constructor
  · rintro ⟨rfl, inRange⟩
    -- The tag is known from a call that signed the same nonce and time.
    obtain ⟨call, member, secret, signed⟩ := unforged _ joined
    obtain ⟨nonce, rfl⟩ := append_dot_inj signed (dot_not_mem_toString call.now) time
    refine ⟨call, member, secret, ?_, (age_in_range_iff call.now now maxAgeMs).mp inRange⟩
    rw [generateState, secret, signed, joined]
  · rintro ⟨call, -, secret, rfl, inRange⟩
    obtain ⟨rfl, rfl, rfl⟩ := generateState_parts parts
    exact ⟨by rw [secret, StateCall.signed],
      (age_in_range_iff call.now now maxAgeMs).mpr inRange⟩

/-- A text is verified as recent exactly when it is, unless it has a tag of another length, or is
recent with a dot in its nonce. -/
theorem verifyState_eq_ok_iff (cfg : OAuthConfig) (calls : List StateCall) (state : String)
    (now : Nat) (maxAgeMs : Number) (unforged : Unforged env cfg calls state) :
    verifyState env cfg (some state) now maxAgeMs =
        .ok (decide (Recent env cfg calls state now maxAgeMs)) ↔
      TagSized state ∧ (Recent env cfg calls state now maxAgeMs →
        (dotParts state).length = 3) := by
  by_cases three : ∃ n ts sig, dotParts state = [n, ts, sig]
  · obtain ⟨n, ts, sig, parts⟩ := three
    have sized : TagSized state ↔ byteLength sig = 64 := by
      constructor
      · exact fun every => every n ts sig parts
      · intro here n' ts' sig' parts'
        rw [parts] at parts'
        cases parts'
        exact here
    have verdict : decide (Recent env cfg calls state now maxAgeMs) =
        (decide (env.hmacSHA256 cfg.stateSecret (n ++ "." ++ ts) = sig) &&
          (Number.le (.finite 0) ((Number.finite now).sub (Number.ofText ts)) &&
            Number.le ((Number.finite now).sub (Number.ofText ts)) maxAgeMs)) := by
      rw [Bool.eq_iff_iff, decide_eq_true_eq, ← recent_iff_of_parts parts unforged]
      simp only [Bool.and_eq_true, decide_eq_true_eq]
    rw [verifyState_of_parts cfg now maxAgeMs parts, sized, verdict, parts]
    by_cases here : byteLength sig = 64
    · simp [here]
    · simp [here]
  · push Not at three
    rw [verifyState_of_other cfg now maxAgeMs three]
    have sized : TagSized state := fun n ts sig parts => absurd parts (three n ts sig)
    have short : (dotParts state).length ≠ 3 := by
      intro length
      obtain ⟨n, ts, sig, parts⟩ := List.length_eq_three.mp length
      exact three n ts sig parts
    simp [sized, short]

end

end BitBrat.OAuth
