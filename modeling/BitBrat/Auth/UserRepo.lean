import BitBrat.Machine.Run
import BitBrat.Persistence.Repository

/-! The user repositories: one document per user, written on every message, over two databases. -/

namespace BitBrat

open Js

structure UserRepoEnv where
  /-- The milliseconds since the epoch that a text denotes as a date, where it denotes one. -/
  parseDate : String → Option Int
  parseDate_empty : parseDate "" = none
  toUpperCase : String → String

structure RolesMeta where
  twitch : Option (List String) := none
  discord : Option (List String) := none
  twilio : Option (List String) := none

structure UserData where
  provider : Option String := none
  providerUserId : Option String := none
  displayName : Option String := none
  email : Option String := none
  profile : Option (List (String × Value)) := none
  roles : Option (List String) := none
  rolesMeta : Option RolesMeta := none

def optionalTexts : Option (List String) → Value
  | some texts => textList texts
  | none => .undefined

def RolesMeta.toValue (rolesMeta : RolesMeta) : Value :=
  .obj ((rolesMeta.twitch.toList.map fun roles => ("twitch", textList roles)) ++
    (rolesMeta.discord.toList.map fun roles => ("discord", textList roles)) ++
    (rolesMeta.twilio.toList.map fun roles => ("twilio", textList roles)))

/-- The profile object of a message, if it has one. -/
def UserData.profileValue (data : UserData) : Value :=
  match data.profile with
  | some fields => .obj fields
  | none => .undefined

def UserData.rolesMetaValue (data : UserData) : Value :=
  match data.rolesMeta with
  | some rolesMeta => rolesMeta.toValue
  | none => .undefined

def removeUndefined (obj : Value) : Value := .obj (definedFields obj.fields)
where
  definedFields : List (String × Value) → List (String × Value)
    | [] => []
    | (key, value) :: rest =>
      -- An object has each name once, so that nothing is erased from a real one.
      let others := eraseKey key (definedFields rest)
      if value = .undefined then others else (key, value) :: others

def whenTruthy (key : String) (value : Value) : List (String × Value) :=
  if value.truthy then [(key, value)] else []

def providerTags (env : UserRepoEnv) (provider : Option String) : List (String × Value) :=
  if (optionalText provider).truthy then
    [("tags", textList ["PROVIDER_" ++ env.toUpperCase (provider.getD "")])]
  else []

/-- The identifier of a session, with the random end that it was given. -/
def sessionId (id suffix : String) : String := "sess_" ++ id ++ "_" ++ suffix

/-- What both repositories keep of a user who writes for the first time. -/
def initialFields (env : UserRepoEnv) (id : String) (data : UserData) (nowIso suffix : String) :
    List (String × Value) :=
  [("email", optionalText data.email),
   ("displayName", optionalText data.displayName),
   ("roles", textList (data.roles.getD [])),
   ("profile", data.profileValue),
   ("rolesMeta", data.rolesMetaValue),
   ("firstSeenAt", .str nowIso),
   ("lastSeenAt", .str nowIso),
   ("lastMessageAt", .str nowIso),
   ("messageCountAllTime", .num (.finite 1)),
   ("sessionCount", .num (.finite 1)),
   ("lastSessionId", .str (sessionId id suffix)),
   ("lastSessionStartedAt", .str nowIso),
   ("lastSessionActivityAt", .str nowIso)] ++
  providerTags env data.provider

/-- The document of a user who writes for the first time. -/
def initialUser (backend : Backend) (env : UserRepoEnv) (id : String) (data : UserData)
    (nowIso suffix : String) : Value :=
  -- One repository keeps the platform's own identifier, the other repeats the document's.
  let lead := match backend with
    | .firestore =>
      [("provider", optionalText data.provider),
       ("providerUserId", optionalText data.providerUserId)]
    | .documentStore => [("id", Value.str id), ("provider", optionalText data.provider)]
  .obj (lead ++ initialFields env id data nowIso suffix)

/-- The milliseconds that a value denotes as a date, where it denotes one. -/
def UserRepoEnv.parse (env : UserRepoEnv) : Value → Option Int
  | .str text => env.parseDate text
  | _ => none

/-- The milliseconds without a message after which the next one starts a session. -/
def INACTIVITY_MS_24H : Int := 24 * 60 * 60 * 1000

/-- A message starts a session when the last activity is long enough ago. -/
def startsSession (env : UserRepoEnv) (existing : Value) (nowIso : String) : Bool :=
  let lastActivityIso := (existing.get "lastSessionActivityAt").or
    ((existing.get "lastMessageAt").or (.str nowIso))
  -- A date that does not parse compares with nothing.
  match env.parseDate nowIso, env.parse (lastActivityIso.or (.str nowIso)) with
  | some nowMs, some lastActivity => INACTIVITY_MS_24H ≤ nowMs - lastActivity
  | _, _ => false

/-- A stored counter, where a missing one counts from zero. -/
def counter (existing : Value) (key : String) : Number :=
  match (existing.get key).or (.num (.finite 0)) with
  | .num count => count
  | _ => .nan

def storedRoles (existing : Value) : List Value :=
  match existing.get "roles" with
  | .arr roles => roles
  | _ => []

/-- The stored roles and those of a message, each once. -/
def mergedRoles (existing : Value) (data : UserData) : Value :=
  .arr (storedRoles existing ++ (data.roles.getD []).map Value.str).eraseDups

/-- The stored roles on each platform, under those of a message. -/
def mergedRolesMeta (existing : Value) (data : UserData) : Value :=
  let given := data.rolesMeta.getD {}
  (((existing.get "rolesMeta").or (.obj [])).extend
    (whenTruthy "twitch" (optionalTexts given.twitch) ++
      whenTruthy "discord" (optionalTexts given.discord) ++
      whenTruthy "twilio" (optionalTexts given.twilio)))

/-- What a message changes in the document of a user who has written before. -/
def userUpdate (backend : Backend) (env : UserRepoEnv) (id : String) (existing : Value)
    (data : UserData) (nowIso suffix : String) : Value :=
  let isNewSession := startsSession env existing nowIso
  -- A new session is counted with the message that opens it.
  let session := if isNewSession then Number.finite 1 else .finite 0
  .obj
    ([("lastSeenAt", .str nowIso),
      ("lastMessageAt", .str nowIso),
      ("lastSessionActivityAt", .str nowIso),
      ("messageCountAllTime", .num ((counter existing "messageCountAllTime").add (.finite 1))),
      ("sessionCount", .num ((counter existing "sessionCount").add session)),
      ("roles", mergedRoles existing data),
      ("rolesMeta", mergedRolesMeta existing data)] ++
     whenTruthy "provider" (optionalText data.provider) ++
     (match backend with
      | .firestore => whenTruthy "providerUserId" (optionalText data.providerUserId)
      | .documentStore => []) ++
     whenTruthy "displayName" (optionalText data.displayName) ++
     whenTruthy "email" (optionalText data.email) ++
     whenTruthy "profile" data.profileValue ++
     (if isNewSession then
        [("lastSessionId", .str (sessionId id suffix)), ("lastSessionStartedAt", .str nowIso)]
      else []))

theorem lookup_definedFields (fields : List (String × Value)) (key : String) :
    (removeUndefined.definedFields fields).lookup key =
      if (Value.obj fields).get key = .undefined then none
      else some ((Value.obj fields).get key) := by
  -- An undefined property hides none behind it, as every name is there once.
  induction fields with
  | nil => simp [removeUndefined.definedFields]
  | cons entry rest ih =>
    obtain ⟨name, value⟩ := entry
    rw [Value.get_obj_cons, removeUndefined.definedFields]
    by_cases same : key = name
    · subst same
      by_cases absent : value = .undefined <;> simp [absent, lookup_eraseKey]
    · have skipped : (key == name) = false := by simpa using same
      by_cases absent : value = .undefined <;>
        simp [absent, List.lookup_cons, skipped, lookup_eraseKey, same, ih]

@[simp] theorem get_removeUndefined (value : Value) (key : String) :
    (removeUndefined value).get key = value.get key := by
  unfold removeUndefined
  rw [Value.get, Value.fields_obj, lookup_definedFields, Value.get_obj_fields]
  -- An absent property and an undefined one read the same.
  split
  · rename_i absent
    rw [absent]
    rfl
  · rfl

theorem get_concat_removeUndefined (base patch : Value) (key : String) :
    (base.concat (removeUndefined patch)).get key =
      if patch.get key = .undefined then base.get key else patch.get key := by
  rw [Value.get_concat, removeUndefined, Value.fields_obj, lookup_definedFields,
    Value.get_obj_fields]
  split <;> rfl

/-- A document under what is left of a patch, with its own identifier, as the database keeps it. -/
theorem get_stored_identified (base patch : Value) {key id : String} (apart : key ≠ "id") :
    (stripUndefinedDeep
      ((base.concat (removeUndefined patch)).extend [("id", .str id)])).get key =
      stripUndefinedDeep
        (if patch.get key = .undefined then base.get key else patch.get key) := by
  rw [get_strip, Value.extend_cons, Value.extend_nil, Value.fields_obj, Value.get_setEntry,
    if_neg apart, Value.get_obj_fields, get_concat_removeUndefined]

@[simp] theorem get_whenTruthy_append {key name : String} (apart : key ≠ name) (value : Value)
    (rest : List (String × Value)) :
    (Value.obj (whenTruthy name value ++ rest)).get key = (Value.obj rest).get key := by
  unfold whenTruthy
  split
  · -- The property that may be there has another name.
    rw [List.singleton_append, Value.get_obj_cons, if_neg apart]
  · rfl

@[simp] theorem get_whenTruthy_of_ne {key name : String} (apart : key ≠ name) (value : Value) :
    (Value.obj (whenTruthy name value)).get key = .undefined := by
  simpa using get_whenTruthy_append apart value []

structure EnsureResult where
  doc : Value
  created : Bool
  isFirstMessage : Bool
  isNewSession : Bool
  deriving DecidableEq

abbrev UserTable := OrderedMap String Value

/-- What is stored of a document: undefined properties do not reach the database. -/
def stored (document : Value) : Value := stripUndefinedDeep document

namespace FirestoreUserRepo

def getById (users : UserTable) (id : String) : Value :=
  if id = "" then .null
  else match users.get? id with
    | none => .null
    | some data =>
      .obj
        [("id", .str id), ("provider", data.get "provider"), ("email", data.get "email"),
         ("displayName", data.get "displayName"), ("roles", .arr (storedRoles data)),
         ("status", data.get "status"), ("notes", data.get "notes"),
         ("profile", data.get "profile"), ("rolesMeta", data.get "rolesMeta")]

/-- Merge some properties into a user document, and answer with the document. -/
def updateUser (users : UserTable) (id : String) (update : Value) : Value × UserTable :=
  if id = "" then (.null, users)
  else match users.get? id with
    | none => (.null, users)
    | some _ =>
      let cleanUpdate := Value.obj (eraseKey "id" update.fields)
      let after := Backend.firestore.setMerged users id (stored (removeUndefined cleanUpdate))
      (getById after id, after)

def ensureUserOnMessage (env : UserRepoEnv) (users : UserTable) (id : String) (data : UserData)
    (nowIso suffix : String) : EnsureResult × UserTable :=
  match users.get? id with
  | none =>
    let initial := initialUser .firestore env id data nowIso suffix
    ({ doc := (Value.obj [("id", .str id)]).concat initial, created := true
       isFirstMessage := true, isNewSession := true },
      Backend.firestore.setMerged users id (stored (removeUndefined initial)))
  | some existing =>
    let update := userUpdate .firestore env id existing data nowIso suffix
    ({ doc := ((Value.obj [("id", .str id)]).concat existing).concat update
       created := false
       isFirstMessage := counter existing "messageCountAllTime" = .finite 0
       isNewSession := startsSession env existing nowIso },
      Backend.firestore.setMerged users id (stored (removeUndefined update)))

end FirestoreUserRepo

namespace DocumentStoreUserRepo

def getById (users : UserTable) (id : String) : Value :=
  if id = "" then .null
  else match users.get? id with
    | none => .null
    | some data =>
      .obj
        [("id", .str id), ("provider", data.get "provider"), ("email", data.get "email"),
         ("displayName", data.get "displayName"), ("roles", .arr (storedRoles data)),
         ("status", data.get "status"), ("notes", data.get "notes"),
         ("profile", data.get "profile"), ("rolesMeta", data.get "rolesMeta"),
         ("firstSeenAt", data.get "firstSeenAt"), ("lastSeenAt", data.get "lastSeenAt"),
         ("lastMessageAt", data.get "lastMessageAt"),
         ("messageCountAllTime", data.get "messageCountAllTime"),
         ("lastSessionId", data.get "lastSessionId"),
         ("lastSessionStartedAt", data.get "lastSessionStartedAt"),
         ("lastSessionActivityAt", data.get "lastSessionActivityAt"),
         ("sessionCount", data.get "sessionCount"), ("tags", data.get "tags")]

/-- Replace a user document by itself under some properties, and answer with the document. -/
def updateUser (users : UserTable) (id : String) (update : Value) : Value × UserTable :=
  if id = "" then (.null, users)
  else match users.get? id with
    | none => (.null, users)
    | some existing =>
      let cleanUpdate := Value.obj (eraseKey "id" update.fields)
      let merged := (existing.concat (removeUndefined cleanUpdate)).extend [("id", .str id)]
      let after := users.set id (stored merged)
      (getById after id, after)

def ensureUserOnMessage (env : UserRepoEnv) (users : UserTable) (id : String) (data : UserData)
    (nowIso suffix : String) : EnsureResult × UserTable :=
  match users.get? id with
  | none =>
    let initial := initialUser .documentStore env id data nowIso suffix
    ({ doc := initial, created := true, isFirstMessage := true, isNewSession := true },
      users.set id (stored (removeUndefined initial)))
  | some existing =>
    let update := userUpdate .documentStore env id existing data nowIso suffix
    let merged := (existing.concat (removeUndefined update)).extend [("id", .str id)]
    ({ doc := merged, created := false
       isFirstMessage := counter existing "messageCountAllTime" = .finite 0
       isNewSession := startsSession env existing nowIso },
      users.set id (stored merged))

end DocumentStoreUserRepo

def ensureUserOnMessage (backend : Backend) (env : UserRepoEnv) (users : UserTable) (id : String)
    (data : UserData) (nowIso suffix : String) : EnsureResult × UserTable :=
  match backend with
  | .firestore => FirestoreUserRepo.ensureUserOnMessage env users id data nowIso suffix
  | .documentStore => DocumentStoreUserRepo.ensureUserOnMessage env users id data nowIso suffix

/-- Texts that denote the start of a day and of the next one, and the moment before. -/
def dayEnv : UserRepoEnv where
  parseDate text :=
    if text = "2024-01-01T00:00:00.000Z" then some 1704067200000
    else if text = "2024-01-01T23:59:59.999Z" then some 1704153599999
    else if text = "2024-01-02T23:59:59.999Z" then some 1704239999999
    else none
  parseDate_empty := by decide
  toUpperCase := String.toUpper

end BitBrat
