import BitBrat.Auth.SessionCount
import BitBrat.Js.Arithmetic
import BitBrat.Js.IsoDate
import BitBrat.Js.Json
import BitBrat.OAuth.Routes

/-! The two stores of tokens, and what they give back of the tokens that were put in them. -/

namespace BitBrat.OAuth

open Js Machine

structure AuthToken where
  tokenType : String
  accessToken : String
  refreshToken : Option String := none
  expiresAt : Option String := none
  scope : Option (List String) := none
  providerUserId : Option String := none
  metadata : Value := .undefined

structure AuthTokenDoc where
  provider : Value
  identity : Value
  tokenType : Value
  accessToken : Value
  refreshToken : Value
  expiresAt : Value
  scope : Value
  providerUserId : Value
  metadata : Value
  updatedAt : Value

structure TokenEnv where
  /-- The point in time that a text stands for, if it is a date. -/
  parseDate : String → Option Int
  toLowerCase : String → String

inductive TokenWrite where
  | done
  | lost
  | unanswered
  deriving DecidableEq

/-- The document of a store and the tokens that were stored so far, from the last one on. -/
structure TokenBooks where
  docs : OrderedMap String Value
  puts : List (Key × AuthToken × Int) := []

/-- The last token that was stored for a pair, and when. -/
def TokenBooks.last (books : TokenBooks) (key : Key) : Option (AuthToken × Int) :=
  (books.puts.find? fun entry => entry.1 = key).map Prod.snd

/-- Whether a path names a document: it has an even number of segments, none of them empty. -/
def isDocumentPath (path : String) : Bool :=
  let segments := path.toList.splitOn '/'
  segments.length % 2 = 0 && !segments.contains []

def docKey (backend : Backend) (key : Key) : Option String :=
  match backend with
  | .firestore =>
    let path := "oauth/" ++ key.1 ++ "/" ++ key.2 ++ "/token"
    -- There is no reference to anything else.
    if isDocumentPath path then some path else none
  | .documentStore => some (key.1 ++ ":" ++ key.2)

def tokenDocument (key : Key) (token : AuthToken) (now : Int) : Value :=
  .obj [("provider", .str key.1), ("identity", .str key.2), ("tokenType", .str token.tokenType),
    ("accessToken", .str token.accessToken), ("refreshToken", optionalText token.refreshToken),
    ("expiresAt", optionalText token.expiresAt), ("scope", textList (token.scope.getD [])),
    ("providerUserId", optionalText token.providerUserId), ("metadata", token.metadata),
    ("updatedAt", .str (toISOString now))]

def storedForm (backend : Backend) (value : Value) : Value :=
  match backend with
  | .firestore => stripUndefinedDeep value
  | .documentStore => jsonForm toISOString value

/-- A document after it is written: merged into the one that is there, or in its place. -/
def writtenDoc (backend : Backend) (old document : Value) : Value :=
  match backend with
  | .firestore => Backend.firestore.merge old (stripUndefinedDeep document)
  | .documentStore => jsonForm toISOString document

/-- Put a token in a store, and whether the call comes back without a failure. -/
def putAuthToken (backend : Backend) (books : TokenBooks) (key : Key) (token : AuthToken)
    (now : Int) (write : TokenWrite) : TokenBooks × Bool :=
  -- Only the document store passes a failure on.
  let resolved := backend = .firestore ∨ write = .done
  match docKey backend key with
  | some path =>
    if write = .lost then (books, resolved)
    else
      let old := (books.docs.get? path).getD (.obj [])
      ({ docs := books.docs.set path (writtenDoc backend old (tokenDocument key token now))
         puts := (key, token, now) :: books.puts }, resolved)
  | none => (books, resolved)

def thousandfold : Number → Number
  | .finite value => .finite (value * 1000)
  | other => other

def plusNumber (value : Value) (number : Number) : Value :=
  match value with
  | .undefined | .null | .bool _ | .num _ => .num (value.toNumber.add number)
  | _ => .str (value.toText ++ number.toText)

/-- The text of the date that is made from a value, unless there is no such date. -/
def TokenEnv.isoText (env : TokenEnv) (value : Value) : Option Value :=
  (match value with
    | .num (.finite ms) => if |ms| ≤ 8640000000000000 then some (Number.trunc ms) else none
    | .num _ => none
    | .bool flag => some (if flag then 1 else 0)
    | .date ms => some ms
    | other => env.parseDate other.toText).map fun ms => .str (toISOString ms)

/-- When a token ends: at a date, or a span of time after it was obtained. -/
def expiryOf (env : TokenEnv) (obtainment d : Value) : Option Value :=
  if (d.get "expiresAt").truthy then some (d.get "expiresAt")
  else if (d.get "expiresIn").truthy then
    env.isoText (plusNumber obtainment (thousandfold (d.get "expiresIn").toNumber))
  else some .undefined

def updateOf (env : TokenEnv) (obtainment d : Value) : Option Value :=
  if (d.get "updatedAt").truthy then some (d.get "updatedAt") else env.isoText obtainment

/-- The token that a document holds, if it has an access token and its dates are dates. -/
def readToken (env : TokenEnv) (backend : Backend) (key : Key) (now : Int) (d : Value) :
    Option AuthTokenDoc := do
  guard (d.get "accessToken").truthy
  let obtainment := (d.get "obtainmentTimestamp").or (.num
    (if (d.get "updatedAt").truthy then
      ((env.parseDate (d.get "updatedAt").toText).map fun ms => Number.finite ms).getD .nan
    else .finite now))
  let expiresAt ← expiryOf env obtainment d
  let updatedAt ← updateOf env obtainment d
  let own (field : String) (value : String) :=
    match backend with
    | .firestore => Value.str value
    | .documentStore => (d.get field).or (.str value)
  some {
    provider := own "provider" key.1
    identity := own "identity" key.2
    tokenType := (d.get "tokenType").or (.str "oauth")
    accessToken := d.get "accessToken"
    refreshToken := (d.get "refreshToken").or .undefined
    expiresAt
    scope := (d.get "scope").onlyIf (d.get "scope").isArray
    providerUserId := ((d.get "providerUserId").or (d.get "userId")).or .undefined
    metadata := d.get "metadata"
    updatedAt }

/-- The token of a provider and an identity, unless the store fails or has none. -/
def getAuthToken (env : TokenEnv) (backend : Backend) (docs : OrderedMap String Value) (key : Key)
    (now : Int) (fails : Bool) : Option AuthTokenDoc := do
  let path ← docKey backend key
  guard !fails
  readToken env backend key now (← docs.get? path)

def savedToken (payload : AuthToken) : AuthToken :=
  { payload with tokenType := textOr (some payload.tokenType) "oauth" }

/-- The calls of the stores, and of the callback with the payload that a code is exchanged for. -/
inductive TokenCall where
  | put (key : Key) (token : AuthToken) (now : Int) (write : TokenWrite)
  | get (key : Key) (now : Int) (fails : Bool)
  | callback (provider identity : String) (payload : AuthToken) (now : Int) (write : TokenWrite)

def tokenStep (env : TokenEnv) (backend : Backend) (books : TokenBooks) : TokenCall → TokenBooks
  | .put key token now write => (putAuthToken backend books key token now write).1
  | .get _ _ _ => books
  | .callback provider identity payload now write =>
    (putAuthToken backend books (env.toLowerCase provider, identity) (savedToken payload) now
      write).1

structure TokenShown (key : Key) (token : AuthToken) (putAt : Int) (doc : AuthTokenDoc) :
    Prop where
  provider : doc.provider = .str key.1
  identity : doc.identity = .str key.2
  tokenType : doc.tokenType = .str token.tokenType
  accessToken : doc.accessToken = .str token.accessToken
  refreshToken : doc.refreshToken = optionalText token.refreshToken
  expiresAt : doc.expiresAt = optionalText token.expiresAt
  scope : doc.scope = optionalTexts token.scope
  providerUserId : doc.providerUserId = optionalText token.providerUserId
  metadata : Value.Same doc.metadata token.metadata
  updatedAt : doc.updatedAt = .str (toISOString putAt)

def PutLaw (backend : Backend) (books : TokenBooks) (key : Key) (token : AuthToken) (now : Int)
    (write : TokenWrite) : Prop :=
  (putAuthToken backend books key token now write).1 = books →
    (putAuthToken backend books key token now write).2 = false

/-- What is promised of a call, in a store that began with some documents. -/
def TokenLaw (env : TokenEnv) (backend : Backend) (initial : OrderedMap String Value)
    (books : TokenBooks) : TokenCall → Prop
  | .put key token now write => PutLaw backend books key token now write
  | .get key now fails =>
    let given := getAuthToken env backend books.docs key now fails
    match books.last key with
    | some (token, putAt) => ∃ doc, given = some doc ∧ TokenShown key token putAt doc
    -- Of a pair that no token was put for, there is only what was there from the beginning.
    | none => given = getAuthToken env backend initial key now false
  | .callback provider identity payload now write =>
    let key := (env.toLowerCase provider, identity)
    let put := putAuthToken backend books key (savedToken payload) now write
    PutLaw backend books key (savedToken payload) now write ∧
      (put.2 = true → ∀ later, ∃ doc, getAuthToken env backend put.1.docs key later false =
        some doc ∧ TokenShown key (savedToken payload) now doc)

/-- A token none of whose fields is taken for a missing one, or changed when it is stored. -/
structure AuthToken.Plain (backend : Backend) (token : AuthToken) : Prop where
  tokenType : token.tokenType ≠ ""
  accessToken : token.accessToken ≠ ""
  refreshToken : token.refreshToken ≠ some ""
  expiresAt : token.expiresAt ≠ some ""
  scope : token.scope ≠ none
  providerUserId : token.providerUserId ≠ some ""
  metadata : Value.Same (storedForm backend token.metadata) token.metadata

structure AuthToken.Replaces (token : AuthToken) (old : Value) : Prop where
  refreshToken : token.refreshToken = none → (old.get "refreshToken").truthy = false
  expiresAt : token.expiresAt = none →
    (old.get "expiresAt").truthy = false ∧ (old.get "expiresIn").truthy = false
  providerUserId : token.providerUserId = none →
    (old.get "providerUserId").truthy = false ∧ (old.get "userId").truthy = false
  noMetadata : token.metadata = .undefined → old.get "metadata" = .undefined
  metadata : Value.Covered (old.get "metadata") (stripUndefinedDeep token.metadata)

def Apart (backend : Backend) (books : TokenBooks) (key : Key) : Prop :=
  ∀ entry ∈ books.puts, docKey backend entry.1 = docKey backend key → entry.1 = key

/-- A token replaces what is stored for its pair, and is itself not changed. -/
structure PutKept (backend : Backend) (books : TokenBooks) (key : Key) (token : AuthToken)
    (write : TokenWrite) : Prop where
  taken : backend = .firestore → write ≠ .lost ∧ (docKey backend key).isSome
  apart : write ≠ .lost → Apart backend books key
  plain : write ≠ .lost → token.Plain backend
  replaces : backend = .firestore → ∀ path ∈ docKey backend key, ∀ old ∈ books.docs.get? path,
    token.Replaces old

/-- A call loses nothing, and meets nothing that an earlier token or another pair has left. -/
def TokenKept (env : TokenEnv) (backend : Backend) (books : TokenBooks) : TokenCall → Prop
  | .put key token _ write => PutKept backend books key token write
  | .get key _ fails => Apart backend books key ∧
      (fails = true → ∀ path ∈ docKey backend key, books.docs.get? path = none)
  | .callback provider identity payload _ write =>
    PutKept backend books (env.toLowerCase provider, identity) (savedToken payload) write

theorem get_writtenDoc (backend : Backend) (old document : Value) (key : String) :
    (writtenDoc backend old document).get key =
      match backend with
      | .firestore =>
        if document.get key = .undefined then old.get key
        else Value.deepMerge (stripUndefinedDeep (document.get key)) (old.get key)
      | .documentStore => jsonForm toISOString (document.get key) := by
  cases backend with
  | firestore => exact get_merge .firestore old document key
  | documentStore => exact get_jsonForm toISOString document key

variable {document : Value} {key : String}

theorem get_writtenDoc_of_plain {value : Value} (plain : Plain value)
    (json : jsonForm toISOString value = value) (held : document.get key = value)
    (backend : Backend) (old : Value) : (writtenDoc backend old document).get key = value := by
  rw [get_writtenDoc, held]
  cases backend with
  | firestore =>
    simp only [if_neg plain.present, plain.stripped]
    exact Value.deepMerge_of_no_fields plain.bare _
  | documentStore => exact json

theorem get_writtenDoc_str {text : String} (held : document.get key = .str text)
    (backend : Backend) (old : Value) : (writtenDoc backend old document).get key = .str text :=
  get_writtenDoc_of_plain (.str text) (by simp [jsonForm]) held backend old

theorem jsonForm_textList (texts : List String) :
    jsonForm toISOString (textList texts) = textList texts := by
  have items : jsonItems toISOString (texts.map Value.str) = texts.map Value.str := by
    induction texts with
    | nil => simp [jsonItems]
    | cons text rest ih => simp [jsonItems, jsonForm, ih]
  simp [textList, jsonForm, items]

theorem falsy_writtenDoc {old : Value} {backend : Backend}
    (lacks : document.get key = .undefined)
    (gone : backend = .firestore → (old.get key).truthy = false) :
    ((writtenDoc backend old document).get key).truthy = false := by
  rw [get_writtenDoc, lacks]
  cases backend with
  | firestore => exact gone rfl
  | documentStore => simp [jsonForm]

theorem or_writtenDoc {old : Value} {backend : Backend} {text : Option String}
    (held : document.get key = optionalText text) (nonempty : text ≠ some "")
    (gone : backend = .firestore → text = none → (old.get key).truthy = false) (spare : Value) :
    ((writtenDoc backend old document).get key).or spare = (text.map .str).getD spare := by
  cases text with
  | some text =>
    rw [get_writtenDoc_str held]
    exact Value.or_of_truthy (by simpa using nonempty) spare
  | none => exact Value.or_of_falsy (falsy_writtenDoc held fun at_fire => gone at_fire rfl) spare

theorem toISOString_ne_empty (ms : Int) : toISOString ms ≠ "" := by
  intro empty
  have read := ofISOString_toISOString ms
  rw [empty] at read
  exact absurd read (by simp [ofISOString, readSign, readNumber])

section

variable {backend : Backend} {token : AuthToken} {old : Value}

theorem expiryOf_writtenDoc (env : TokenEnv) (obtainment : Value) (key : Key) (putAt : Int)
    (plain : token.Plain backend) (replaces : backend = .firestore → token.Replaces old) :
    expiryOf env obtainment (writtenDoc backend old (tokenDocument key token putAt)) =
      some (optionalText token.expiresAt) := by
  have held : (tokenDocument key token putAt).get "expiresAt" = optionalText token.expiresAt := rfl
  unfold expiryOf
  cases given : token.expiresAt with
  | some text =>
    have nonempty : text ≠ "" := fun empty => plain.expiresAt (by rw [given, empty])
    rw [given] at held
    simp [get_writtenDoc_str held, nonempty, optionalText]
  | none =>
    have no_span : (tokenDocument key token putAt).get "expiresIn" = .undefined := rfl
    rw [given] at held
    have replaced := fun at_fire => (replaces at_fire).expiresAt given
    simp [falsy_writtenDoc held fun at_fire => (replaced at_fire).1,
      falsy_writtenDoc no_span fun at_fire => (replaced at_fire).2, optionalText]

theorem metadata_writtenDoc (key : Key) (putAt : Int) (plain : token.Plain backend)
    (replaces : backend = .firestore → token.Replaces old) :
    Value.Same ((writtenDoc backend old (tokenDocument key token putAt)).get "metadata")
      token.metadata := by
  have held : (tokenDocument key token putAt).get "metadata" = token.metadata := by
    simp [tokenDocument, Value.get_obj_cons]
  rw [get_writtenDoc, held]
  cases backend with
  | firestore =>
    dsimp only
    split
    case isTrue absent => rw [absent, (replaces rfl).noMetadata absent]
    case isFalse => exact (Value.deepMerge_same (replaces rfl).metadata).trans plain.metadata
  | documentStore => exact plain.metadata

theorem readToken_writtenDoc (env : TokenEnv) (key : Key) (putAt later : Int)
    (plain : token.Plain backend) (replaces : backend = .firestore → token.Replaces old) :
    ∃ doc, readToken env backend key later
      (writtenDoc backend old (tokenDocument key token putAt)) = some doc ∧
        TokenShown key token putAt doc := by
  have expiresAt := fun obtainment => expiryOf_writtenDoc env obtainment key putAt plain replaces
  have metadata := metadata_writtenDoc key putAt plain replaces
  have given (name : String) {text : String}
      (held : (tokenDocument key token putAt).get name = .str text) :=
    get_writtenDoc_str held backend old
  have provider := given "provider" rfl
  have identity := given "identity" rfl
  have tokenType := given "tokenType" rfl
  have accessToken := given "accessToken" rfl
  have updatedAt := given "updatedAt" rfl
  have refreshToken : ((writtenDoc backend old (tokenDocument key token putAt)).get
      "refreshToken").or .undefined = optionalText token.refreshToken := by
    rw [or_writtenDoc rfl plain.refreshToken fun at_fire => (replaces at_fire).refreshToken]
    cases token.refreshToken <;> rfl
  have providerUserId : (((writtenDoc backend old (tokenDocument key token putAt)).get
      "providerUserId").or ((writtenDoc backend old (tokenDocument key token putAt)).get
        "userId")).or .undefined = optionalText token.providerUserId := by
    rw [or_writtenDoc rfl plain.providerUserId fun at_fire missing =>
      ((replaces at_fire).providerUserId missing).1]
    cases given : token.providerUserId with
    | some text =>
      have nonempty : text ≠ "" := fun empty => plain.providerUserId (by rw [given, empty])
      exact Value.or_of_truthy (by simpa using nonempty) _
    | none =>
      exact Value.or_of_falsy (falsy_writtenDoc rfl fun at_fire =>
        ((replaces at_fire).providerUserId given).2) _
  have scope : (writtenDoc backend old (tokenDocument key token putAt)).get "scope" =
      optionalTexts token.scope := by
    obtain ⟨texts, held⟩ := Option.ne_none_iff_exists'.mp plain.scope
    have listed : (tokenDocument key token putAt).get "scope" = textList texts := by
      simp [tokenDocument, Value.get_obj_cons, held]
    rw [held]
    exact get_writtenDoc_of_plain (.texts texts) (jsonForm_textList texts) listed backend old
  generalize writtenDoc backend old (tokenDocument key token putAt) = d at *
  have shown : readToken env backend key later d = some {
      provider := .str key.1, identity := .str key.2, tokenType := .str token.tokenType
      accessToken := .str token.accessToken, refreshToken := optionalText token.refreshToken
      expiresAt := optionalText token.expiresAt, scope := optionalTexts token.scope
      providerUserId := optionalText token.providerUserId, metadata := d.get "metadata"
      updatedAt := .str (toISOString putAt) } := by
    have own (text : String) : (Value.str text).or (.str text) = .str text := by simp [Value.or]
    have listed : (optionalTexts token.scope).isArray = true := by
      obtain ⟨texts, held⟩ := Option.ne_none_iff_exists'.mp plain.scope
      rw [held]
      rfl
    simp only [readToken, accessToken, updateOf, updatedAt, expiresAt, provider, identity,
      tokenType, refreshToken, providerUserId, scope, listed, own, Value.onlyIf]
    cases backend <;>
      simp [Value.or, plain.tokenType, plain.accessToken, toISOString_ne_empty]
  exact ⟨_, shown, rfl, rfl, rfl, rfl, rfl, rfl, rfl, rfl, metadata, rfl⟩

end

section

variable {env : TokenEnv} {backend : Backend} {initial : OrderedMap String Value}
  {books : TokenBooks} {key : Key} {token : AuthToken} {now : Int} {write : TokenWrite}

theorem putAuthToken_cases (backend : Backend) (books : TokenBooks) (key : Key)
    (token : AuthToken) (now : Int) (write : TokenWrite) :
    ((putAuthToken backend books key token now write).1 = books ∧
      (write = .lost ∨ docKey backend key = none)) ∨
    ∃ path, docKey backend key = some path ∧ write ≠ .lost ∧
      (putAuthToken backend books key token now write).1 =
        { docs := books.docs.set path (writtenDoc backend
            ((books.docs.get? path).getD (.obj [])) (tokenDocument key token now))
          puts := (key, token, now) :: books.puts } := by
  unfold putAuthToken
  cases found : docKey backend key with
  | none => exact .inl ⟨rfl, .inr rfl⟩
  | some path =>
    by_cases lost : write = .lost
    · exact .inl ⟨by simp [lost], .inl lost⟩
    · exact .inr ⟨path, rfl, lost, by simp [lost]⟩

theorem putAuthToken_resolved :
    (putAuthToken backend books key token now write).2 =
      decide (backend = .firestore ∨ write = .done) := by
  unfold putAuthToken
  cases docKey backend key with
  | none => rfl
  | some path => by_cases lost : write = .lost <;> simp [lost]

/-- The last token of every pair is read from its document, and other documents are untouched. -/
structure TokenBooks.Sound (env : TokenEnv) (backend : Backend)
    (initial : OrderedMap String Value) (books : TokenBooks) : Prop where
  shown : ∀ key token putAt, books.last key = some (token, putAt) →
    ∃ path d, docKey backend key = some path ∧ books.docs.get? path = some d ∧
      ∀ later, ∃ doc, readToken env backend key later d = some doc ∧
        TokenShown key token putAt doc
  untouched : ∀ path, (∀ entry ∈ books.puts, docKey backend entry.1 ≠ some path) →
    books.docs.get? path = initial.get? path

theorem exists_of_last {given : AuthToken} {putAt : Int}
    (found : books.last key = some (given, putAt)) :
    ∃ entry ∈ books.puts, entry.1 = key ∧ entry.2 = (given, putAt) := by
  obtain ⟨entry, first, same⟩ := Option.map_eq_some_iff.mp found
  exact ⟨entry, List.mem_of_find?_eq_some first, by simpa using List.find?_some first, same⟩

theorem TokenBooks.Sound.put (now : Int) (sound : books.Sound env backend initial)
    (kept : PutKept backend books key token write) :
    ((putAuthToken backend books key token now write).1).Sound env backend initial := by
  rcases putAuthToken_cases backend books key token now write with
    ⟨same, -⟩ | ⟨path, located, stored, after⟩
  · rwa [same]
  · rw [after]
    refine ⟨fun other given putAt found => ?_, fun place free => ?_⟩
    · by_cases same : other = key
      · subst same
        simp only [TokenBooks.last, List.find?_cons, decide_true, Option.map_some,
          Option.some.injEq, Prod.mk.injEq] at found
        obtain ⟨rfl, rfl⟩ := found
        refine ⟨path, _, located, OrderedMap.get?_set_self .., fun later =>
          readToken_writtenDoc env other now later (kept.plain stored) fun at_fire => ?_⟩
        cases there : books.docs.get? path with
        | some old => exact kept.replaces at_fire path located old there
        -- In an empty document there is nothing to be left.
        | none => exact ⟨fun _ => rfl, fun _ => ⟨rfl, rfl⟩, fun _ => ⟨rfl, rfl⟩, fun _ => rfl,
            fun _ _ object => by simp [Value.atPath_undefined, Value.isObject] at object⟩
      · have earlier : books.last other = some (given, putAt) := by
          simpa [TokenBooks.last, Ne.symm same] using found
        obtain ⟨place, d, held, there, reads⟩ := sound.shown other given putAt earlier
        have elsewhere : place ≠ path := by
          intro shared
          subst shared
          obtain ⟨entry, member, of_other, -⟩ := exists_of_last earlier
          subst of_other
          exact same (kept.apart stored entry member (held.trans located.symm))
        exact ⟨place, d, held, (OrderedMap.get?_set_of_ne _ elsewhere _).trans there, reads⟩
    · obtain ⟨first, rest⟩ := List.forall_mem_cons.mp free
      have elsewhere : place ≠ path := fun shared => first (shared ▸ located)
      exact (OrderedMap.get?_set_of_ne _ elsewhere _).trans (sound.untouched place rest)

theorem PutKept.law (kept : PutKept backend books key token write) :
    PutLaw backend books key token now write := by
  intro same
  rw [putAuthToken_resolved]
  rcases putAuthToken_cases backend books key token now write with
    ⟨-, none_stored⟩ | ⟨_, _, _, after⟩
  · cases backend with
    | firestore =>
      obtain ⟨stored, located⟩ := kept.taken rfl
      rcases none_stored with lost | nowhere
      · exact absurd lost stored
      · simp [nowhere] at located
    | documentStore =>
      rcases none_stored with rfl | nowhere
      · rfl
      · cases nowhere
  · -- What is stored is a token more.
    have longer := congrArg (fun books => books.puts.length) (after.symm.trans same)
    simp at longer

theorem TokenBooks.Sound.get (sound : books.Sound env backend initial) (fails : Bool)
    (kept : TokenKept env backend books (.get key now fails)) :
    TokenLaw env backend initial books (.get key now fails) := by
  obtain ⟨apart, fails_nowhere⟩ := kept
  simp only [TokenLaw]
  cases found : books.last key with
  | some entry =>
    obtain ⟨path, d, located, there, reads⟩ := sound.shown key entry.1 entry.2 found
    have answers : fails = false := by
      by_contra failing
      have missing := fails_nowhere (by simpa using failing) path located
      rw [there] at missing
      cases missing
    simpa [getAuthToken, located, there, answers] using reads now
  | none =>
    cases located : docKey backend key with
    | none => simp [getAuthToken, located]
    | some path =>
      have free : ∀ entry ∈ books.puts, docKey backend entry.1 ≠ some path := by
        intro entry member shared
        have same := apart entry member (shared.trans located.symm)
        simp only [TokenBooks.last, Option.map_eq_none_iff, List.find?_eq_none] at found
        exact found entry member (by simpa using same)
      have same := sound.untouched path free
      cases fails with
      | false => simp [getAuthToken, located, same]
      | true =>
        have missing := same.symm.trans (fails_nowhere rfl path located)
        simp [getAuthToken, located, missing]

end

/-- Where every token replaces what is there, the stores give back the last token of each pair. -/
theorem tokenLaw_along (env : TokenEnv) (backend : Backend) (docs : OrderedMap String Value)
    (calls : List TokenCall)
    (kept : Along (tokenStep env backend) (TokenKept env backend) { docs } calls) :
    Along (tokenStep env backend) (TokenLaw env backend docs) { docs } calls := by
  refine along_of_invariant (TokenBooks.Sound env backend docs) ?_ ?_ ?_ kept
  · intro books call sound fits
    cases call with
    | put key token now write => exact sound.put now fits
    | get key now fails => exact sound
    | callback provider identity payload now write => exact sound.put now fits
  · intro books call sound fits
    cases call with
    | put key token now write => exact fits.law
    | get key now fails => exact sound.get fails fits
    | callback provider identity payload now write =>
      refine ⟨fits.law, fun stored later => ?_⟩
      rcases putAuthToken_cases backend books (env.toLowerCase provider, identity)
        (savedToken payload) now write with ⟨same, -⟩ | ⟨path, located, -, after⟩
      · exact absurd ((fits.law same).symm.trans stored) (by decide)
      · have after_sound := sound.put now fits
        rw [after] at after_sound
        obtain ⟨place, d, held, there, reads⟩ := after_sound.shown
          (env.toLowerCase provider, identity) (savedToken payload) now (by simp [TokenBooks.last])
        rw [after]
        simpa [getAuthToken, held, there] using reads later
  · exact ⟨fun _ _ _ found => by simp [TokenBooks.last] at found, fun _ _ => rfl⟩

def plainEnv : TokenEnv := { parseDate := ofISOString, toLowerCase := String.toLower }

/-- A token that came with a refresh token is given back with it, after the callback. -/
theorem tokenLaw_along_callback :
    let payload : AuthToken :=
      { tokenType := "", accessToken := "a", refreshToken := some "r", scope := some [] }
    Along (tokenStep plainEnv .firestore) (TokenLaw plainEnv .firestore .empty) { docs := .empty }
      [.callback "Twitch" "bot" payload 0 .done, .get ("twitch", "bot") 1 false] := by
  intro payload
  have keys : (tokenStep plainEnv .firestore { docs := .empty }
      (.callback "Twitch" "bot" payload 0 .done)).puts.map Prod.fst = [("twitch", "bot")] := by
    decide +kernel
  refine tokenLaw_along plainEnv .firestore .empty _ ⟨?_, ⟨?_, nofun⟩, trivial⟩
  · refine ⟨fun _ => ⟨by decide, by decide +kernel⟩, nofun, fun _ => ?_, fun _ _ _ _ there => ?_⟩
    · exact ⟨by decide, by decide, by decide, by decide, by decide, by decide, Value.Same.refl _⟩
    · cases there
  · intro entry member _
    have listed := List.mem_map_of_mem (f := Prod.fst) member
    rw [keys] at listed
    exact List.mem_singleton.mp listed

/-- A token without a refresh token is given back with that of an earlier one. -/
theorem not_tokenLaw_along :
    ¬ ∀ (env : TokenEnv) (backend : Backend) (docs : OrderedMap String Value)
      (calls : List TokenCall),
      Along (tokenStep env backend) (TokenLaw env backend docs) { docs } calls := by
  intro all
  let first : AuthToken :=
    { tokenType := "oauth", accessToken := "a", refreshToken := some "r", scope := some [] }
  let second : AuthToken := { first with accessToken := "b", refreshToken := none }
  have law := (all plainEnv .firestore .empty [.put ("twitch", "bot") first 0 .done,
    .put ("twitch", "bot") second 1 .done, .get ("twitch", "bot") 2 false]).2.2.1
  obtain ⟨doc, given, shown⟩ : ∃ doc, _ ∧ TokenShown ("twitch", "bot") second 1 doc := law
  have left : (getAuthToken plainEnv .firestore (run (tokenStep plainEnv .firestore)
      { docs := .empty } [.put ("twitch", "bot") first 0 .done,
        .put ("twitch", "bot") second 1 .done]).docs ("twitch", "bot") 2 false).map
          AuthTokenDoc.refreshToken = some (.str "r") := by decide +kernel
  have none_left := congrArg (Option.map AuthTokenDoc.refreshToken) given
  rw [Option.map_some, shown.refreshToken] at none_left
  cases left.symm.trans none_left

end BitBrat.OAuth
