import BitBrat.Auth.UserRepo

/-! The user of an event: found by the platform's identifier or by email, and attached to it. -/

namespace BitBrat

open Js

/-- What the enrichment knows about texts, about its settings, and about the database. -/
structure EnrichmentEnv extends UserRepoEnv where
  toLowerCase : String → String
  /-- The setting that names the moderator roles, if there is one. -/
  discordModRoles : String := ""
  /-- The order in which the database goes through the documents of a query. -/
  enumerate : List (String × Value) → List (String × Value)
  enumerate_perm : ∀ entries, (enumerate entries).Perm entries

inductive EnsureOutcome where
  | unsupported
  | failed
  /-- The document is written, and the call throws nevertheless. -/
  | lost
  | done
  deriving DecidableEq

/-- One call, with what is drawn for it and how its recording ends. -/
structure EnrichCall where
  event : Value
  provider : Value := .undefined
  nowIso : String
  suffix : String
  outcome : EnsureOutcome

structure EnrichResult where
  event : Value
  matched : Bool
  userRef : Option String := none
  created : Option Bool := none
  isFirstMessage : Option Bool := none
  isNewSession : Option Bool := none

structure EnrichmentData where
  displayName : Value := .undefined
  profile : Option (List (String × Value)) := none
  roles : Option (List String) := none
  rolesMeta : Option RolesMeta := none

def asText : Value → Option String
  | .str text => some text
  | _ => none

def asTexts : Value → List String
  | .arr items => items.filterMap asText
  | _ => []

def pickProperties (value : Value) (keys : List String) : List (String × Value) :=
  (keys.map fun key => (key, value.get key)).filter fun entry => entry.2 ≠ .undefined

def resolveCandidateId (event : Value) : Value :=
  let ext := (event.get "externalEvent").get "metadata"
  let candidate := if ext.truthy then
      (ext.get "userId").or ((ext.get "broadcasterId").or (ext.get "id"))
    else .undefined
  if candidate.truthy then candidate else ((event.get "identity").get "external").get "id"

def resolveCandidateEmail (event : Value) : Option String :=
  let fromExternal := (((event.get "identity").get "external").get "metadata").get "email"
  let raw := (event.get "message").get "rawPlatformPayload"
  let fromPayload := ((raw.get "user").get "email").or
    ((raw.get "email").or ((event.get "payload").get "email"))
  match (asText fromExternal).bind nonEmpty with
  | some email => some email
  | none => (asText fromPayload).bind nonEmpty

def providerOf (call : EnrichCall) : Value :=
  (((call.event.get "identity").get "external").get "platform").or call.provider

/-- The identifier under which the sender has a document, if the sender has an identifier. -/
def compositeIdOf (call : EnrichCall) : Option String :=
  let provider := providerOf call
  let rawId := resolveCandidateId call.event
  if provider.truthy ∧ rawId.truthy then some (provider.toText ++ ":" ++ rawId.toText)
  else if rawId.truthy then some rawId.toText
  else none

def mapTwitchEnrichment (event : Value) (nowIso : String) : EnrichmentData :=
  let messagePayload := (event.get "message").get "rawPlatformPayload"
  let externalPayload := (event.get "externalEvent").get "payload"
  let badges := asTexts (messagePayload.get "badges")
  let roles :=
    (if (messagePayload.get "isMod").truthy then ["moderator"] else []) ++
      (if (messagePayload.get "isSubscriber").truthy then ["subscriber"] else []) ++
      (if "broadcaster" ∈ badges then ["broadcaster"] else []) ++
      (if "vip" ∈ badges then ["vip"] else [])
  { displayName := ((messagePayload.get "user").get "displayName").or
      ((externalPayload.get "userDisplayName").or (externalPayload.get "broadcasterDisplayName"))
    profile := some
      [("username", ((messagePayload.get "user").get "login").or
         ((externalPayload.get "userLogin").or
           ((externalPayload.get "broadcasterLogin").or (.str "")))),
       ("updatedAt", .str nowIso)]
    roles := some roles
    rolesMeta := some { twitch := some roles } }

def mapDiscordEnrichment (env : EnrichmentEnv) (event : Value) (nowIso : String) :
    EnrichmentData :=
  let payload := (event.get "message").get "rawPlatformPayload"
  let discordRoles := asTexts (payload.get "roles")
  let modRolesEnv := (nonEmpty env.discordModRoles).getD "Moderator,Admin,Staff"
  let modRoles := (modRolesEnv.toList.splitOn ',').map fun role =>
    env.toLowerCase (trimText (String.ofList role))
  let hasModRole := discordRoles.any fun role => env.toLowerCase role ∈ modRoles
  let isOwner := (payload.get "isOwner").truthy
  { displayName := payload.get "authorName"
    profile := some
      [("username", (payload.get "authorName").or (.str "")), ("updatedAt", .str nowIso)]
    roles := some ((if isOwner then ["broadcaster"] else []) ++
      (if hasModRole then ["moderator"] else []))
    -- The owner of a server counts as another role of the platform.
    rolesMeta := some { discord := some (discordRoles ++ if isOwner then ["owner"] else []) } }

def mapTwilioEnrichment (event : Value) (nowIso : String) : EnrichmentData :=
  let payload := (event.get "message").get "rawPlatformPayload"
  let participant := payload.get "participant"
  let author := (payload.get "author").or ((event.get "userId").or (.str "unknown"))
  { displayName := (participant.get "friendlyName").or author
    profile := some
      [("username", author), ("updatedAt", .str nowIso),
       ("channelType", participant.get "channelType"),
       ("conversationSid", payload.get "conversationSid"),
       ("twilioParticipantSid", participant.get "sid"),
       ("twilioAttributes", participant.get "attributes")]
    roles := some []
    rolesMeta := some { twilio := some [] } }

def enrichmentDataOf (env : EnrichmentEnv) (call : EnrichCall) : EnrichmentData :=
  match providerOf call with
  | .str "twitch" => mapTwitchEnrichment call.event call.nowIso
  | .str "discord" => mapDiscordEnrichment env call.event call.nowIso
  | .str "twilio" => mapTwilioEnrichment call.event call.nowIso
  | _ => {}

def UserRepo.findByEmail (env : EnrichmentEnv) (users : UserTable) (email : String) :
    Option (String × Value) :=
  if email = "" then none
  else (env.enumerate users.entries).find? fun entry => entry.2.get "email" = .str email

def UserRepo.getById (backend : Backend) (users : UserTable) (id : String) : Value :=
  match backend with
  | .firestore => FirestoreUserRepo.getById users id
  | .documentStore => DocumentStoreUserRepo.getById users id

def UserRepo.getByEmail (backend : Backend) (env : EnrichmentEnv) (users : UserTable)
    (email : String) : Value :=
  match UserRepo.findByEmail env users email with
  | none => .null
  | some (id, data) =>
    -- Both readers answer with the same properties as by identifier, and whatever the identifier.
    let basic := [("id", Value.str id), ("provider", data.get "provider"),
      ("email", data.get "email"), ("displayName", data.get "displayName"),
      ("roles", .arr (storedRoles data)), ("status", data.get "status"),
      ("notes", data.get "notes"), ("profile", data.get "profile"),
      ("rolesMeta", data.get "rolesMeta")]
    match backend with
    | .firestore => .obj basic
    | .documentStore =>
      .obj (basic ++ ["firstSeenAt", "lastSeenAt", "lastMessageAt", "messageCountAllTime",
        "lastSessionId", "lastSessionStartedAt", "lastSessionActivityAt", "sessionCount",
        "tags"].map fun key => (key, data.get key))

def computeTags (env : EnrichmentEnv) (provider : Value)
    (created isFirstMessage isNewSession : Bool) (persistent : List Value) : Value :=
  .arr (((if provider.truthy then ["PROVIDER_" ++ env.toUpperCase provider.toText] else []) ++
    (if created then ["NEW_USER", "FIRST_ALLTIME_MESSAGE", "FIRST_SESSION_MESSAGE"]
     else
       (if isFirstMessage then ["FIRST_ALLTIME_MESSAGE"] else []) ++
         (if isNewSession then ["FIRST_SESSION_MESSAGE"] else []) ++
         (if isFirstMessage then [] else ["RETURNING_USER"]))).map Value.str ++
    persistent).eraseDups

def storedTags (document : Value) : List Value :=
  match document.get "tags" with
  | .arr tags => tags
  | _ => []

def shownProperties : List String :=
  ["id", "email", "displayName", "roles", "status", "notes", "profile", "rolesMeta"]

def attachUser (event user auth : Value) : Value :=
  event.extend [("identity", (event.get "identity").extend [("user", user), ("auth", auth)])]

def matchedAuth (call : EnrichCall) (document : Value) (userRef : String) : Value :=
  .obj [("v", .str "2"), ("method", .str "enrichment"), ("matched", .bool true),
    ("at", .str call.nowIso), ("provider", (document.get "provider").or (providerOf call)),
    ("userRef", .str userRef)]

def userRefOf (document : Value) : String := "users/" ++ (document.get "id").toText

/-- What a message records about its sender, with a name and an email to fall back on. -/
def recordedData (env : EnrichmentEnv) (call : EnrichCall) (email : Option String)
    (displayName : Value) : UserData :=
  let enrichmentData := enrichmentDataOf env call
  { provider := asText (providerOf call)
    providerUserId := asText (resolveCandidateId call.event)
    displayName := asText (enrichmentData.displayName.or displayName)
    email
    profile := enrichmentData.profile
    roles := enrichmentData.roles
    rolesMeta := enrichmentData.rolesMeta }

/-- Record a message, unless the repository cannot, and say what it answers if it answers. -/
def tryEnsure (backend : Backend) (env : EnrichmentEnv) (users : UserTable) (call : EnrichCall)
    (id : String) (data : UserData) : Option EnsureResult × UserTable :=
  let (result, after) := ensureUserOnMessage backend env.toUserRepoEnv users id data call.nowIso
    call.suffix
  match call.outcome with
  | .unsupported => (none, users)
  | .failed => (none, users)
  | .lost => (none, after)
  | .done => (some result, after)

def enrichFound (backend : Backend) (env : EnrichmentEnv) (users : UserTable) (call : EnrichCall)
    (document : Value) : EnrichResult × UserTable :=
  let data := recordedData env call (asText (document.get "email")) (document.get "displayName")
  let (ensured, after) :=
    match compositeIdOf call with
    | some compositeId => tryEnsure backend env users call compositeId data
    | none => (none, users)
  -- What the repository answers is preferred to what was found.
  let effective := (ensured.map (·.doc)).getD document
  let picked := pickProperties effective shownProperties
  let tags := match ensured with
    | some result =>
      [("tags", computeTags env (providerOf call) result.created result.isFirstMessage
        result.isNewSession (storedTags effective))]
    | none => []
  let userRef := userRefOf effective
  ({ event := attachUser call.event (.obj (picked ++ tags)) (matchedAuth call effective userRef)
     matched := true
     userRef := some userRef
     created := some ((ensured.map (·.created)).getD false)
     isFirstMessage := some ((ensured.map (·.isFirstMessage)).getD false)
     isNewSession := some ((ensured.map (·.isNewSession)).getD false) }, after)

def enrichUnmatched (call : EnrichCall) : EnrichResult where
  event := call.event.extend [("identity", (call.event.get "identity").extend
    [("auth", .obj [("v", .str "2"), ("method", .str "enrichment"), ("matched", .bool false),
      ("at", .str call.nowIso), ("provider", providerOf call)])])]
  matched := false

def enrichUnknown (backend : Backend) (env : EnrichmentEnv) (users : UserTable)
    (call : EnrichCall) : EnrichResult × UserTable :=
  match compositeIdOf call with
  | none => (enrichUnmatched call, users)
  | some compositeId =>
    let data := recordedData env call (resolveCandidateEmail call.event) .undefined
    match tryEnsure backend env users call compositeId data with
    | (none, after) => (enrichUnmatched call, after)
    | (some result, after) =>
      let userRef := userRefOf result.doc
      let tags := computeTags env (providerOf call) true true true (storedTags result.doc)
      ({ event := attachUser call.event
           (.obj (pickProperties result.doc shownProperties ++ [("tags", tags)]))
           (matchedAuth call result.doc userRef)
         matched := true
         userRef := some userRef
         created := some true
         isFirstMessage := some true
         isNewSession := some true }, after)

/-- The user of an event: the one under the sender's identifier, or else one with the email. -/
def findUser (backend : Backend) (env : EnrichmentEnv) (users : UserTable)
    (call : EnrichCall) : Value :=
  let byId :=
    match compositeIdOf call with
    | some compositeId => UserRepo.getById backend users compositeId
    | none => .null
  if byId.truthy then byId
  else
    match resolveCandidateEmail call.event with
    | some email => UserRepo.getByEmail backend env users email
    | none => .null

/-- Find the user of an event, record the message, and attach the user. -/
def enrichEvent (backend : Backend) (env : EnrichmentEnv) (users : UserTable)
    (call : EnrichCall) : EnrichResult × UserTable :=
  let document := findUser backend env users call
  if document.truthy then enrichFound backend env users call document
  else enrichUnknown backend env users call

/-- One message: the users before and after it, and the event that comes out. -/
structure MessageStep where
  before : UserTable
  call : EnrichCall
  result : EnrichResult
  after : UserTable

def messageSteps (backend : Backend) (env : EnrichmentEnv) :
    UserTable → List EnrichCall → List MessageStep
  | _, [] => []
  | users, call :: later =>
    let (result, after) := enrichEvent backend env users call
    { before := users, call, result, after } :: messageSteps backend env after later

/-- A message was resolved to a user: attached, recorded, and nobody else was created. -/
structure MessageStep.ResolvedTo (step : MessageStep) (existing : String) : Prop where
  attached : step.result.matched = true ∧
    ((step.result.event.get "identity").get "user").get "id" = .str existing
  recorded : ∃ (old new : Value) (count : ℚ),
    step.before.get? existing = some old ∧ step.after.get? existing = some new ∧
    new.get "lastMessageAt" = .str step.call.nowIso ∧
    counter old "messageCountAllTime" = .finite count ∧
    counter new "messageCountAllTime" = .finite (count + 1)
  nobodyNew : ∀ id, step.before.get? id = none → step.after.get? id = none

/-- Messages of one sender, who is unknown by the platform's identifier and known by email. -/
structure KnownByEmail (env : EnrichmentEnv) (users : UserTable) (calls : List EnrichCall)
    (existing : String) : Prop where
  sender : ∃ compositeId : Option String, (∀ call ∈ calls, compositeIdOf call = compositeId) ∧
    ∀ id ∈ compositeId, users.get? id = none
  email : ∃ email document, (∀ call ∈ calls, resolveCandidateEmail call.event = some email) ∧
    UserRepo.findByEmail env users email = some (existing, document)

variable {other : String}

theorem get?_ensureUserOnMessage (backend : Backend) (env : UserRepoEnv) (users : UserTable)
    {id : String} (data : UserData) (nowIso suffix : String) (apart : other ≠ id) :
    (ensureUserOnMessage backend env users id data nowIso suffix).2.get? other =
      users.get? other := by
  -- Either database writes one document, whether it is new or not.
  cases backend with
  | firestore =>
    simp only [ensureUserOnMessage, FirestoreUserRepo.ensureUserOnMessage]
    split <;> simp only [Backend.setMerged] <;> split <;>
      rw [OrderedMap.get?_set, if_neg apart]
  | documentStore =>
    simp only [ensureUserOnMessage, DocumentStoreUserRepo.ensureUserOnMessage]
    split <;> rw [OrderedMap.get?_set, if_neg apart]

theorem get?_tryEnsure (backend : Backend) (env : EnrichmentEnv) (users : UserTable)
    (call : EnrichCall) {id : String} (data : UserData) (apart : other ≠ id) :
    (tryEnsure backend env users call id data).2.get? other = users.get? other := by
  have written := get?_ensureUserOnMessage backend env.toUserRepoEnv users data call.nowIso
    call.suffix apart
  unfold tryEnsure
  cases call.outcome with
  | unsupported => rfl
  | failed => rfl
  | lost => exact written
  | done => exact written

theorem get?_enrichFound (backend : Backend) (env : EnrichmentEnv) (users : UserTable)
    (call : EnrichCall) (document : Value) (apart : ∀ id ∈ compositeIdOf call, other ≠ id) :
    (enrichFound backend env users call document).2.get? other = users.get? other := by
  unfold enrichFound
  cases sender : compositeIdOf call with
  | none => rfl
  | some compositeId =>
    exact get?_tryEnsure backend env users call _ (apart compositeId sender)

theorem get?_enrichUnknown (backend : Backend) (env : EnrichmentEnv) (users : UserTable)
    (call : EnrichCall) (apart : ∀ id ∈ compositeIdOf call, other ≠ id) :
    (enrichUnknown backend env users call).2.get? other = users.get? other := by
  unfold enrichUnknown
  cases sender : compositeIdOf call with
  | none => rfl
  | some compositeId =>
    have untouched := get?_tryEnsure backend env users call
      (recordedData env call (resolveCandidateEmail call.event) .undefined)
      (apart compositeId sender)
    simp only
    split <;> simp_all

theorem get?_enrichEvent (backend : Backend) (env : EnrichmentEnv) (users : UserTable)
    (call : EnrichCall) (apart : ∀ id ∈ compositeIdOf call, other ≠ id) :
    (enrichEvent backend env users call).2.get? other = users.get? other := by
  simp only [enrichEvent]
  split
  · exact get?_enrichFound backend env users call _ apart
  · exact get?_enrichUnknown backend env users call apart

theorem get?_of_mem_messageSteps (backend : Backend) (env : EnrichmentEnv)
    {users : UserTable} {calls : List EnrichCall}
    (apart : ∀ call ∈ calls, ∀ id ∈ compositeIdOf call, other ≠ id) :
    ∀ step ∈ messageSteps backend env users calls,
      step.before.get? other = users.get? other ∧ step.after.get? other = users.get? other := by
  -- The induction is on the run, where every message leaves the document to the next one.
  induction calls generalizing users with
  | nil => simp [messageSteps]
  | cons call later ih =>
    have untouched := get?_enrichEvent backend env users call (apart call (by simp))
    intro step member
    simp only [messageSteps, List.mem_cons] at member
    obtain rfl | member := member
    · exact ⟨rfl, untouched⟩
    · have afterwards := ih (fun call inside => apart call (by simp [inside])) step member
      rw [untouched] at afterwards
      exact afterwards

theorem get?_of_findByEmail {env : EnrichmentEnv} {users : UserTable}
    {email existing : String} {document : Value}
    (found : UserRepo.findByEmail env users email = some (existing, document)) :
    users.get? existing = some document := by
  unfold UserRepo.findByEmail at found
  split at found
  · exact absurd found (by simp)
  · have member := (env.enumerate_perm users.entries).mem_iff.mp (List.mem_of_find?_eq_some found)
    exact lookup_of_mem users.distinct member

/--
A message whose sender is known by email alone is never resolved to the user with this email, be it
the first one or a later one: it is recorded under the sender's own identifier.
-/
theorem enrichEvent_never_byEmail (backend : Backend) (env : EnrichmentEnv) (users : UserTable)
    (calls : List EnrichCall) (existing : String)
    (known : KnownByEmail env users calls existing) :
    ∀ step ∈ messageSteps backend env users calls, ¬ step.ResolvedTo existing := by
  obtain ⟨compositeId, sender, unknown⟩ := known.sender
  obtain ⟨email, document, -, found⟩ := known.email
  have stored := get?_of_findByEmail found
  -- The user with the email has a document, and the sender's identifier has none.
  have apart : ∀ call ∈ calls, ∀ id ∈ compositeIdOf call, existing ≠ id := by
    intro call member id named same
    have absent := unknown id (by rw [← sender call member]; exact named)
    rw [← same, stored] at absent
    exact absurd absent (by simp)
  intro step member resolved
  obtain ⟨before, after⟩ := get?_of_mem_messageSteps backend env apart step member
  obtain ⟨old, new, count, held, holds, -, counted, counts⟩ := resolved.recorded
  -- The document is the same before and after, so that the message was not counted on it.
  have same : old = new := by
    rw [before, ← after, holds] at held
    exact (Option.some.inj held).symm
  rw [same, counts] at counted
  -- No number is its own successor.
  simp at counted

def creationOrder : EnrichmentEnv where
  toUserRepoEnv := dayEnv
  toLowerCase := String.toLower
  enumerate := id
  enumerate_perm entries := List.Perm.refl entries

def emailUsers : UserTable := OrderedMap.empty.set "u-1"
  (.obj [("email", .str "a@b.example"), ("displayName", .str "Ann"), ("roles", .arr []),
    ("messageCountAllTime", .num (.finite 2))])

def emailCall : EnrichCall where
  event := .obj [("identity", .obj [("external", .obj [("id", .str "77"),
    ("platform", .str "slack"), ("metadata", .obj [("email", .str "a@b.example")])])])]
  nowIso := "2024-01-01T00:00:00.000Z"
  suffix := "abc123"
  outcome := .done

theorem emailCall_known :
    KnownByEmail creationOrder emailUsers [emailCall, emailCall] "u-1" where
  sender := ⟨some "slack:77", by decide, by decide⟩
  email := ⟨"a@b.example", _, by decide, rfl⟩

theorem enrichEvent_never_byEmail_example :
    KnownByEmail creationOrder emailUsers [emailCall, emailCall] "u-1" ∧
    ∀ step ∈ messageSteps .firestore creationOrder emailUsers [emailCall, emailCall],
      ¬ step.ResolvedTo "u-1" :=
  ⟨emailCall_known,
    enrichEvent_never_byEmail .firestore creationOrder emailUsers [emailCall, emailCall] "u-1"
      emailCall_known⟩

/-- The first message of a sender who is known by email creates a second user. -/
theorem enrichEvent_byEmail_fails :
    ¬ ∀ (backend : Backend) (env : EnrichmentEnv) (users : UserTable) (calls : List EnrichCall)
      (existing : String), KnownByEmail env users calls existing →
        ∀ step ∈ messageSteps backend env users calls, step.ResolvedTo existing := by
  intro always
  have resolved := always .firestore creationOrder emailUsers [emailCall, emailCall] "u-1"
    emailCall_known _ List.mem_cons_self
  have absent := resolved.nobodyNew "slack:77" (by decide)
  exact absurd absent (by decide)

end BitBrat
