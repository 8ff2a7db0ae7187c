import BitBrat.Auth.UserRepo
import BitBrat.Persistence.Merge

/-! The two user repositories side by side: when they answer alike and leave alike documents. -/

namespace BitBrat

open Js Machine

inductive UserOp where
  | ensureUserOnMessage (id : String) (data : UserData) (nowIso suffix : String)
  | updateUser (id : String) (update : Value)

inductive UserAnswer where
  | ensured (result : EnsureResult)
  | updated (doc : Value)

def UserOp.perform (backend : Backend) (env : UserRepoEnv) (users : UserTable) :
    UserOp → UserAnswer × UserTable
  | ensureUserOnMessage id data nowIso suffix =>
    let answered := BitBrat.ensureUserOnMessage backend env users id data nowIso suffix
    (.ensured answered.1, answered.2)
  | updateUser id update =>
    let answered := match backend with
      | .firestore => FirestoreUserRepo.updateUser users id update
      | .documentStore => DocumentStoreUserRepo.updateUser users id update
    (.updated answered.1, answered.2)

def UserAnswer.Alike : UserAnswer → UserAnswer → Prop
  | ensured left, ensured right =>
    Value.Same left.doc right.doc ∧ left.created = right.created ∧
      left.isFirstMessage = right.isFirstMessage ∧ left.isNewSession = right.isNewSession
  | updated left, updated right => Value.Same left right
  | _, _ => False

/-- The documents of one user are alike, once the name of the nested one joins its properties. -/
def AlikeUser (id : String) (nested flat : Value) : Prop :=
  Value.Same (nested.extend [("id", .str id)]) flat

/-- Both tables hold the same users, with alike documents. -/
def UsersAlike (nested flat : UserTable) : Prop :=
  ∀ id, Option.Rel (AlikeUser id) (nested.get? id) (flat.get? id)

structure UserTables where
  nested : UserTable
  flat : UserTable

def UserTables.empty : UserTables := ⟨.empty, .empty⟩

def UserTables.step (env : UserRepoEnv) (tables : UserTables) (op : UserOp) : UserTables where
  nested := (op.perform .firestore env tables.nested).2
  flat := (op.perform .documentStore env tables.flat).2

/-- The repositories answer alike to a call, and leave alike documents. -/
def RepositoriesAgree (env : UserRepoEnv) (tables : UserTables) (op : UserOp) : Prop :=
  (op.perform .firestore env tables.nested).1.Alike (op.perform .documentStore env tables.flat).1 ∧
    UsersAlike (tables.step env op).nested (tables.step env op).flat

def trackedFields : List String :=
  ["firstSeenAt", "lastSeenAt", "lastMessageAt", "messageCountAllTime", "lastSessionId",
    "lastSessionStartedAt", "lastSessionActivityAt", "sessionCount", "tags"]

def SparesStored (existing patch : Value) : Prop :=
  ∀ key, key ≠ "id" → patch.get key ≠ .undefined →
    Value.Covered (existing.get key) (stored (patch.get key))

def UserOp.Agreeable (users : UserTable) : UserOp → Prop
  | ensureUserOnMessage id data _ _ =>
    match users.get? id with
    | none => data.providerUserId = none
    | some existing =>
      -- The flat repository drops this identifier, and overwrites the whole profile.
      (optionalText data.providerUserId).truthy = false ∧
        (data.profileValue.truthy →
          Value.Covered (existing.get "profile") (stored data.profileValue))
  | updateUser id update =>
    id = "" ∨
      match users.get? id with
      | none => True
      | some existing =>
        -- A merge of nested maps keeps what a flat one drops, unless the update covers it.
        SparesStored existing update ∧
          ∀ key ∈ trackedFields, existing.get key = .undefined ∧ update.get key = .undefined

structure MirroredUser (id : String) (nested flat : Value) : Prop where
  each : ∀ key, key ≠ "id" → Value.Same (nested.get key) (flat.get key)
  unnamed : nested.fields.lookup "id" = none
  named : flat.get "id" = .str id
  object : flat.isObject = true
  defined : ∀ key, stripUndefinedDeep (flat.get key) = flat.get key

def UsersMirrored (nested flat : UserTable) : Prop :=
  ∀ id, Option.Rel (MirroredUser id) (nested.get? id) (flat.get? id)

variable {left right : Value}

theorem same_of_get (left_object : left.isObject = true)
    (right_object : right.isObject = true)
    (each : ∀ key, Value.Same (left.get key) (right.get key)) : Value.Same left right := by
  -- Two objects are compared property by property.
  cases left with
  | obj fields =>
    cases right with
    | obj others => exact .of_get each
    | _ => simp [Value.isObject] at right_object
  | _ => simp [Value.isObject] at left_object

theorem same_ite {test : Prop} [Decidable test] {other another : Value}
    (holds : Value.Same left right) (fails : Value.Same other another) :
    Value.Same (if test then left else other) (if test then right else another) := by
  split
  · exact holds
  · exact fails

theorem MirroredUser.alike {id : String} {nested flat : Value}
    (user : MirroredUser id nested flat) : AlikeUser id nested flat := by
  refine same_of_get rfl user.object fun key => ?_
  rw [Value.extend_cons, Value.extend_nil, Value.fields_obj, Value.get_setEntry]
  -- The name is joined to the nested document, and stored in the flat one.
  split
  · rename_i same
    rw [same, user.named]
  · rename_i apart
    exact user.each key apart

variable {nested flat : UserTable}

theorem UsersMirrored.cases (mirrored : UsersMirrored nested flat) (id : String) :
    (nested.get? id = none ∧ flat.get? id = none) ∨
      ∃ left right, nested.get? id = some left ∧ flat.get? id = some right ∧
        MirroredUser id left right :=
  rel_cases (mirrored id)

theorem UsersMirrored.alike (mirrored : UsersMirrored nested flat) : UsersAlike nested flat := by
  intro id
  rcases mirrored.cases id with ⟨missing, absent⟩ | ⟨left, right, found, held, user⟩
  · rw [missing, absent]
    exact .none
  · rw [found, held]
    exact .some user.alike

theorem UsersMirrored.set (mirrored : UsersMirrored nested flat) {id : String}
    (user : MirroredUser id left right) :
    UsersMirrored (nested.set id left) (flat.set id right) := by
  intro other
  simp only [OrderedMap.get?_set]
  -- The written user is mirrored, and every other one is as before.
  split
  · rename_i same
    subst same
    exact .some user
  · exact mirrored other

section Reads

variable {id : String} {nested flat : Value} (user : MirroredUser id nested flat)

include user

private theorem MirroredUser.counter_eq {key : String} (apart : key ≠ "id") :
    counter nested key = counter flat key := by
  have read : Value.Same ((nested.get key).or (.num (.finite 0)))
      ((flat.get key).or (.num (.finite 0))) := (user.each key apart).or (.refl _)
  unfold counter
  -- A number is only like itself, and every other kind is no counter.
  have root := read.shape_eq
  revert root
  generalize (nested.get key).or (.num (.finite 0)) = left
  generalize (flat.get key).or (.num (.finite 0)) = right
  intro root
  cases left <;> cases right <;> simp_all [Value.shape]

private theorem MirroredUser.storedRoles_eq : storedRoles nested = storedRoles flat := by
  have root := (user.each "roles" (by decide)).shape_eq
  unfold storedRoles
  -- A list is only like itself, and any other kind stands for no roles.
  revert root
  generalize nested.get "roles" = left
  generalize flat.get "roles" = right
  intro root
  cases left <;> cases right <;> simp_all [Value.shape]

theorem MirroredUser.startsSession_eq (env : UserRepoEnv) (nowIso : String) :
    startsSession env nested nowIso = startsSession env flat nowIso := by
  -- The time of the last activity reads alike, however it is found.
  have read : Value.Same
      (((nested.get "lastSessionActivityAt").or
        ((nested.get "lastMessageAt").or (.str nowIso))).or (.str nowIso))
      (((flat.get "lastSessionActivityAt").or
        ((flat.get "lastMessageAt").or (.str nowIso))).or (.str nowIso)) :=
    (((user.each _ (by decide)).or ((user.each _ (by decide)).or (.refl _))).or (.refl _))
  have parsed : env.parse (((nested.get "lastSessionActivityAt").or
        ((nested.get "lastMessageAt").or (.str nowIso))).or (.str nowIso)) =
      env.parse (((flat.get "lastSessionActivityAt").or
        ((flat.get "lastMessageAt").or (.str nowIso))).or (.str nowIso)) := by
    -- Only the outermost layer of a value is parsed.
    have root := read.shape_eq
    revert root
    generalize ((nested.get "lastSessionActivityAt").or _).or _ = left
    generalize ((flat.get "lastSessionActivityAt").or _).or _ = right
    intro root
    cases left <;> cases right <;> simp_all [Value.shape, UserRepoEnv.parse]
  simp only [startsSession, parsed]

private theorem MirroredUser.mergedRolesMeta_same (data : UserData) :
    Value.Same (mergedRolesMeta nested data) (mergedRolesMeta flat data) := by
  have base := (user.each "rolesMeta" (by decide)).or (.refl (.obj []))
  unfold mergedRolesMeta
  refine .extend base.get ?_
  -- The same roles are written in both.
  exact List.forall₂_same.mpr fun _ _ => ⟨rfl, .refl _⟩

private theorem MirroredUser.userUpdate_same (env : UserRepoEnv) {data : UserData}
    (nowIso suffix : String) (anonymous : (optionalText data.providerUserId).truthy = false)
    (key : String) : Value.Same ((userUpdate .firestore env id nested data nowIso suffix).get key)
      ((userUpdate .documentStore env id flat data nowIso suffix).get key) := by
  have silent : whenTruthy "providerUserId" (optionalText data.providerUserId) = [] := by
    simp [whenTruthy, anonymous]
  simp only [userUpdate, user.counter_eq (show "messageCountAllTime" ≠ "id" by decide),
    user.counter_eq (show "sessionCount" ≠ "id" by decide), mergedRoles, user.storedRoles_eq,
    user.startsSession_eq, silent, List.append_nil, List.append_assoc, List.cons_append,
    List.nil_append, Value.get_obj_cons]
  -- The roles on the platforms are alike, and everything else is the same.
  repeat' split
  all_goals first | exact user.mergedRolesMeta_same data | exact .refl _

end Reads

section Merge

theorem covered_of_bare {existing patch : Value} (bare : patch.fields = []) :
    Value.Covered existing patch := by
  intro path held
  cases path with
  | nil => exact absurd bare held
  | cons key rest =>
    rw [Value.atPath, Value.get_of_no_fields bare, Value.atPath_undefined] at held
    exact absurd rfl held

theorem covered_strip (value : Value) : Value.Covered value (stripUndefinedDeep value) := by
  intro path _ _ key present
  rw [atPath_strip, lookup_strip, if_neg present]
  exact ⟨_, rfl⟩

theorem covered_of_get {existing patch : Value}
    (root : ∀ key, existing.get key ≠ .undefined → ∃ value, patch.fields.lookup key = some value)
    (each : ∀ key, Value.Covered (existing.get key) (patch.get key)) :
    Value.Covered existing patch := by
  -- A path is the root, or goes through a property.
  intro path
  cases path with
  | nil => exact fun _ _ => root
  | cons key rest => exact each key rest

theorem get_or_nil (value : Value) (key : String) :
    (value.or (.obj [])).get key = value.get key := by
  by_cases holds : value.truthy
  · rw [Value.or_of_truthy holds]
  · rw [Value.or_of_falsy (by simpa using holds)]
    -- Every object is truthy.
    cases value <;> first | rfl | simp at holds

theorem get_mergedRolesMeta (existing : Value) (data : UserData) (key : String) :
    (∃ texts, (mergedRolesMeta existing data).get key = textList texts) ∨
      (mergedRolesMeta existing data).get key = (existing.get "rolesMeta").get key := by
  -- What a message may write for a platform is a list of texts.
  have given (platform : String) (roles : Option (List String)) (entry : String × Value)
      (member : entry ∈ whenTruthy platform (optionalTexts roles)) :
      ∃ texts, entry.2 = textList texts := by
    unfold whenTruthy at member
    cases roles with
    | none => simp [optionalTexts] at member
    | some texts =>
      split at member
      · exact ⟨texts, by rw [List.mem_singleton.mp member]; rfl⟩
      · simp at member
  simp only [mergedRolesMeta, Value.get_extend, get_or_nil]
  cases found : List.lookup key (List.reverse _) with
  | none => exact .inr rfl
  | some value =>
    -- What is found is one of the three lists of the message.
    have member := List.mem_reverse.mp (mem_of_lookup found)
    simp only [List.mem_append] at member
    rcases member with (twitch | discord) | twilio
    · exact .inl (given _ _ _ twitch)
    · exact .inl (given _ _ _ discord)
    · exact .inl (given _ _ _ twilio)

theorem covered_mergedRolesMeta (existing : Value) (data : UserData) :
    Value.Covered (existing.get "rolesMeta")
      (stripUndefinedDeep (mergedRolesMeta existing data)) := by
  -- Every entry is kept, or replaced by the list of a platform.
  refine covered_of_get ?_ ?_
  · intro key present
    have named : (mergedRolesMeta existing data).get key ≠ .undefined := by
      rcases get_mergedRolesMeta existing data key with ⟨texts, given⟩ | kept
      · simp [given, textList]
      · rwa [kept]
    rw [lookup_strip, if_neg named]
    exact ⟨_, rfl⟩
  · -- A list has no properties of its own, and a kept map covers itself.
    intro key
    rw [get_strip]
    rcases get_mergedRolesMeta existing data key with ⟨texts, given⟩ | kept
    · rw [given]
      exact covered_of_bare (by simp [textList, stripUndefinedDeep, Value.fields])
    · rw [kept]
      exact covered_strip _

theorem lookup_deepMergeFields {patch : List (String × Value)} {key : String}
    (silent : patch.lookup key = none) (fields : List (String × Value)) :
    (Value.deepMerge.deepMergeFields patch fields).lookup key = fields.lookup key := by
  -- The induction is on the patch, none of whose entries is the one looked up.
  induction patch with
  | nil => rfl
  | cons entry rest ih =>
    obtain ⟨name, value⟩ := entry
    by_cases same : key = name
    · subst same
      simp at silent
    · have skipped : (key == name) = false := by simpa using same
      rw [List.lookup_cons, skipped] at silent
      rw [Value.deepMerge.deepMergeFields, lookup_setEntry_of_ne same, ih silent]

variable {id : String} {nested flat : Value} (user : MirroredUser id nested flat)

include user

theorem MirroredUser.merge {patch other : Value}
    (same : ∀ key, key ≠ "id" → Value.Same (patch.get key) (other.get key))
    (unnamed : patch.get "id" = .undefined) (spares : SparesStored nested patch) :
    MirroredUser id (Backend.firestore.merge nested (stored (removeUndefined patch)))
      (stored ((flat.concat (removeUndefined other)).extend [("id", .str id)])) where
  each := by
    intro key apart
    rw [stored, stored, get_stored_identified _ _ apart, get_merge, get_removeUndefined]
    -- Where the update is silent, both documents keep what they had.
    by_cases silent : patch.get key = .undefined
    · have quiet : other.get key = .undefined := by
        have alike := same key apart
        rw [silent] at alike
        exact (alike.eq_of_not_object rfl).symm
      rw [if_pos silent, if_pos quiet, user.defined]
      exact user.each key apart
    · -- What one update names, the other names too.
      have written : other.get key ≠ .undefined := by
        intro quiet
        have alike := same key apart
        rw [quiet] at alike
        exact silent (alike.symm.eq_of_not_object rfl).symm
      rw [if_neg silent, if_neg written]
      exact (Value.deepMerge_same (spares key apart silent)).trans (Same.strip (same key apart))
  unnamed := by
    -- The patch does not name the user, and so the merge does not either.
    have silent : (stored (removeUndefined patch)).fields.lookup "id" = none := by
      rw [stored, lookup_strip, get_removeUndefined, if_pos unnamed]
    exact (lookup_deepMergeFields silent _).trans user.unnamed
  named := by
    rw [stored, get_strip, Value.extend_cons, Value.extend_nil, Value.fields_obj,
      Value.get_setEntry, if_pos rfl, strip_str]
  object := rfl
  defined := by
    intro key
    rw [stored, get_strip, strip_strip]

end Merge

section Steps

variable (env : UserRepoEnv) {id : String} {data : UserData} (nowIso suffix : String)

theorem mem_userUpdate {backend : Backend} {existing : Value} {entry : String × Value}
    (member : entry ∈ (userUpdate backend env id existing data nowIso suffix).fields) :
    entry.1 ≠ "id" ∧ entry.2 ≠ .undefined ∧
      (entry.2.fields = [] ∨ entry = ("rolesMeta", mergedRolesMeta existing data) ∨
        entry = ("profile", data.profileValue) ∧ data.profileValue.truthy) := by
  -- An optional text is there only when it is not empty, and has no properties.
  have optional (name : String) (text : Option String) (named : name ≠ "id")
      (among : entry ∈ whenTruthy name (optionalText text)) :
      entry.1 ≠ "id" ∧ entry.2 ≠ .undefined ∧ entry.2.fields = [] := by
    unfold whenTruthy at among
    cases text with
    | none => simp [optionalText] at among
    | some text =>
      split at among
      · rw [List.mem_singleton.mp among]
        exact ⟨named, by simp [optionalText], rfl⟩
      · simp at among
  have texts {name : String} {text : Option String} (named : name ≠ "id")
      (among : entry ∈ whenTruthy name (optionalText text)) :
      entry.1 ≠ "id" ∧ entry.2 ≠ .undefined ∧
        (entry.2.fields = [] ∨ entry = ("rolesMeta", mergedRolesMeta existing data) ∨
          entry = ("profile", data.profileValue) ∧ data.profileValue.truthy) := by
    obtain ⟨apart, present, bare⟩ := optional name text named among
    exact ⟨apart, present, .inl bare⟩
  simp only [userUpdate, Value.fields_obj, List.mem_append] at member
  rcases member with (((((counted | provider) | platform) | display) | email) | profile) | session
  · -- The seven properties that every update carries.
    simp only [List.mem_cons, List.not_mem_nil, or_false] at counted
    rcases counted with rfl | rfl | rfl | rfl | rfl | rfl | rfl
    all_goals simp [Value.fields, mergedRoles, mergedRolesMeta, Value.extend]
  · exact texts (by decide) provider
  · cases backend with
    | firestore => exact texts (by decide) platform
    | documentStore => simp at platform
  · exact texts (by decide) display
  · exact texts (by decide) email
  · -- The profile is there when the message has one.
    unfold whenTruthy at profile
    split at profile
    · rename_i holds
      rw [List.mem_singleton.mp profile]
      refine ⟨by simp, ?_, .inr (.inr ⟨rfl, holds⟩)⟩
      intro absent
      rw [show data.profileValue = .undefined from absent] at holds
      cases holds
    · simp at profile
  · -- A new session has its own two texts.
    split at session
    · simp only [List.mem_cons, List.not_mem_nil, or_false] at session
      rcases session with rfl | rfl <;> simp [Value.fields]
    · simp at session

variable {key : String}

theorem mem_of_get {value : Value} (present : value.get key ≠ .undefined) :
    (key, value.get key) ∈ value.fields := by
  cases found : value.fields.lookup key with
  | some held =>
    have read := Value.get_of_lookup found
    rw [read]
    exact mem_of_lookup found
  | none => exact absurd (by simp [Value.get, found]) present

theorem sparesStored_userUpdate {existing : Value}
    (profile : data.profileValue.truthy →
      Value.Covered (existing.get "profile") (stored data.profileValue)) :
    SparesStored existing (userUpdate .firestore env id existing data nowIso suffix) := by
  intro key _ present
  obtain ⟨_, _, kind⟩ := mem_userUpdate env nowIso suffix (mem_of_get present)
  -- A written property is no map, or the roles by platform, or the profile.
  rcases kind with bare | roles | ⟨given, holds⟩
  · -- Storing gives a value without properties none.
    refine covered_of_bare ?_
    revert bare
    generalize (userUpdate .firestore env id existing data nowIso suffix).get key = value
    intro bare
    cases value with
    | obj fields =>
      rw [show fields = [] from bare]
      rfl
    | _ => simp [stored, stripUndefinedDeep, Value.fields]
  · obtain ⟨rfl, merged⟩ := Prod.mk.inj roles
    rw [merged]
    exact covered_mergedRolesMeta existing data
  · obtain ⟨rfl, same⟩ := Prod.mk.inj given
    rw [same]
    exact profile holds

theorem lookup_initialFields (either : key = "id" ∨ key = "providerUserId") :
    (initialFields env id data nowIso suffix).lookup key = none := by
  -- Neither identifier is among the names, whatever tags there are.
  rcases either with rfl | rfl <;> unfold initialFields providerTags <;> split <;>
    simp [List.lookup_cons]

theorem get_initialUser_same (anonymous : data.providerUserId = none) (apart : key ≠ "id") :
    (initialUser .firestore env id data nowIso suffix).get key =
      (initialUser .documentStore env id data nowIso suffix).get key := by
  simp only [initialUser, anonymous, optionalText, List.cons_append, List.nil_append,
    Value.get_obj_cons, if_neg apart]
  split
  · rfl
  · split
    · -- The identifier of the platform is undefined, like any property that is not there.
      rename_i platform
      simp [Value.get, lookup_initialFields env nowIso suffix (.inr platform)]
    · rfl

theorem lookup_initialUser_id :
    (initialUser .firestore env id data nowIso suffix).fields.lookup "id" = none := by
  simpa [initialUser, List.lookup_cons] using lookup_initialFields env nowIso suffix (.inl rfl)

theorem get_initialUser_id :
    (initialUser .documentStore env id data nowIso suffix).get "id" = .str id := by
  simp [initialUser, Value.get_obj_cons]

theorem mirrored_initialUser (anonymous : data.providerUserId = none) :
    MirroredUser id
      (stored (removeUndefined (initialUser .firestore env id data nowIso suffix)))
      (stored (removeUndefined (initialUser .documentStore env id data nowIso suffix))) where
  each := by
    intro key apart
    -- Without a provider identifier the two first documents agree.
    rw [stored, stored, get_strip, get_strip, get_removeUndefined, get_removeUndefined,
      get_initialUser_same env nowIso suffix anonymous apart]
  unnamed := by
    -- The nested document takes its name from its place.
    rw [stored, lookup_strip, get_removeUndefined, if_pos]
    rw [Value.get, lookup_initialUser_id]
    rfl
  named := by
    rw [stored, get_strip, get_removeUndefined, get_initialUser_id, strip_str]
  object := rfl
  defined := by
    intro key
    rw [stored, get_strip, strip_strip]

theorem get_identified (apart : key ≠ "id") (document : Value) :
    ((Value.obj [("id", .str id)]).concat document).get key = document.get key := by
  have unnamed : (Value.obj [("id", .str id)]).get key = .undefined := by
    simp [Value.get_obj_cons, apart]
  rw [Value.get_concat, unnamed, Value.get]

theorem initialUser_doc_same (anonymous : data.providerUserId = none) :
    Value.Same
      ((Value.obj [("id", .str id)]).concat (initialUser .firestore env id data nowIso suffix))
      (initialUser .documentStore env id data nowIso suffix) := by
  refine same_of_get rfl rfl fun key => ?_
  -- The identifier is joined to one answer, and part of the other document.
  by_cases named : key = "id"
  · subst named
    rw [Value.get_concat, lookup_initialUser_id, get_initialUser_id]
    simp [Value.get_obj_cons, Value.Same.refl]
  · rw [get_identified named, get_initialUser_same env nowIso suffix anonymous named]

private theorem MirroredUser.update_doc_same {nested flat : Value}
    (user : MirroredUser id nested flat)
    (anonymous : (optionalText data.providerUserId).truthy = false) : Value.Same
      (((Value.obj [("id", .str id)]).concat nested).concat
        (userUpdate .firestore env id nested data nowIso suffix))
      ((flat.concat (removeUndefined
        (userUpdate .documentStore env id flat data nowIso suffix))).extend
          [("id", .str id)]) := by
  refine same_of_get rfl rfl fun key => ?_
  have alike := user.userUpdate_same env nowIso suffix anonymous
  -- Nothing that an update carries is undefined, and it carries no name.
  have carried {value : Value}
      (found : (userUpdate .firestore env id nested data nowIso suffix).fields.lookup key =
        some value) : key ≠ "id" ∧ value ≠ .undefined := by
    obtain ⟨apart, present, -⟩ := mem_userUpdate env nowIso suffix (mem_of_lookup found)
    exact ⟨apart, present⟩
  rw [Value.get_concat, Value.extend_cons, Value.extend_nil, Value.fields_obj, Value.get_setEntry]
  by_cases named : key = "id"
  · rw [if_pos named]
    cases found : (userUpdate .firestore env id nested data nowIso suffix).fields.lookup key with
    -- The update carries no name that could hide it.
    | some value => exact absurd named (carried found).1
    | none =>
      subst named
      rw [Option.getD_none, Value.get_concat, user.unnamed]
      simp [Value.get_obj_cons, Value.Same.refl]
  · rw [if_neg named, Value.get_obj_fields, get_concat_removeUndefined, get_identified named]
    cases found : (userUpdate .firestore env id nested data nowIso suffix).fields.lookup key with
    | some value =>
      -- What one update carries, the other one carries too.
      have read := Value.get_of_lookup found
      have written : (userUpdate .documentStore env id flat data nowIso suffix).get key ≠
          .undefined := by
        intro quiet
        have same := alike key
        rw [read, quiet] at same
        exact (carried found).2 (same.symm.eq_of_not_object rfl).symm
      rw [if_neg written, Option.getD_some, ← read]
      exact alike key
    | none =>
      -- What neither update carries is read from the documents.
      have silent : (userUpdate .firestore env id nested data nowIso suffix).get key =
          .undefined := by
        simp [Value.get, found]
      have quiet : (userUpdate .documentStore env id flat data nowIso suffix).get key =
          .undefined := by
        have same := alike key
        rw [silent] at same
        exact (same.eq_of_not_object rfl).symm
      rw [if_pos quiet, Option.getD_none]
      exact user.each key named

private theorem MirroredUser.getById_same {users others : UserTable} {nested flat : Value}
    (user : MirroredUser id nested flat) (found : users.get? id = some nested)
    (held : others.get? id = some flat)
    (untracked : ∀ key ∈ trackedFields, flat.get key = .undefined) :
    Value.Same (FirestoreUserRepo.getById users id) (DocumentStoreUserRepo.getById others id) := by
  unfold FirestoreUserRepo.getById DocumentStoreUserRepo.getById
  split
  · exact .refl _
  · simp only [found, held]
    refine .of_get fun key => ?_
    simp only [trackedFields, List.mem_cons, List.not_mem_nil, or_false, forall_eq_or_imp,
      forall_eq] at untracked
    -- What only one of them reads back is undefined, like a property that is not there.
    simp only [Value.get_obj_cons, user.storedRoles_eq, untracked, Value.get_obj_nil, ite_self]
    have each {name : String} (apart : name ≠ "id") :
        Value.Same (nested.get name) (flat.get name) := user.each name apart
    refine same_ite (.refl _) (same_ite (each ?_) (same_ite (each ?_) (same_ite (each ?_)
      (same_ite (.refl _) (same_ite (each ?_) (same_ite (each ?_) (same_ite (each ?_)
        (same_ite (each ?_) (.refl _)))))))))
    all_goals decide

theorem agree_of_agreeable {tables : UserTables}
    (mirrored : UsersMirrored tables.nested tables.flat) {op : UserOp}
    (agreeable : op.Agreeable tables.nested) :
    (op.perform .firestore env tables.nested).1.Alike
        (op.perform .documentStore env tables.flat).1 ∧
      UsersMirrored (tables.step env op).nested (tables.step env op).flat := by
  cases op with
  | ensureUserOnMessage id data nowIso suffix =>
    simp only [UserTables.step, UserOp.perform, ensureUserOnMessage,
      FirestoreUserRepo.ensureUserOnMessage, DocumentStoreUserRepo.ensureUserOnMessage,
      UserOp.Agreeable, Backend.setMerged] at agreeable ⊢
    rcases mirrored.cases id with ⟨missing, absent⟩ | ⟨nested, flat, found, held, user⟩
    · -- Both repositories create the user.
      simp only [missing, absent] at agreeable ⊢
      exact ⟨⟨initialUser_doc_same env nowIso suffix agreeable, rfl, rfl, rfl⟩,
        mirrored.set (mirrored_initialUser env nowIso suffix agreeable)⟩
    · -- Both repositories update the user.
      simp only [found, held] at agreeable ⊢
      obtain ⟨anonymous, profile⟩ := agreeable
      have alike := user.userUpdate_same env nowIso suffix anonymous
      have unnamed : (userUpdate .firestore env id nested data nowIso suffix).get "id" =
          .undefined := by
        by_contra present
        exact (mem_userUpdate env nowIso suffix (mem_of_get present)).1 rfl
      refine ⟨⟨user.update_doc_same env nowIso suffix anonymous, rfl, ?_, ?_⟩, ?_⟩
      · rw [user.counter_eq (by decide)]
      · exact user.startsSession_eq env nowIso
      · exact mirrored.set (user.merge (fun key _ => alike key) unnamed
          (sparesStored_userUpdate env nowIso suffix profile))
  | updateUser id update =>
    simp only [UserTables.step, UserOp.perform, FirestoreUserRepo.updateUser,
      DocumentStoreUserRepo.updateUser, UserOp.Agreeable, Backend.setMerged] at agreeable ⊢
    -- An update of nobody answers nothing, in both repositories.
    by_cases empty : id = ""
    · simp only [if_pos empty]
      exact ⟨.refl _, mirrored⟩
    simp only [empty, if_false, false_or] at agreeable ⊢
    rcases mirrored.cases id with ⟨missing, absent⟩ | ⟨nested, flat, found, held, user⟩
    · simp only [missing, absent]
      exact ⟨.refl _, mirrored⟩
    · simp only [found, held] at agreeable ⊢
      obtain ⟨spares, untracked⟩ := agreeable
      -- The patch without a name reads like the patch everywhere else.
      have read {key : String} (apart : key ≠ "id") :
          (Value.obj (eraseKey "id" update.fields)).get key = update.get key := by
        rw [Value.get, Value.fields_obj, lookup_eraseKey, if_neg apart, Value.get]
      have unnamed : (Value.obj (eraseKey "id" update.fields)).get "id" = .undefined := by
        rw [Value.get, Value.fields_obj, lookup_eraseKey, if_pos rfl]
        rfl
      -- So what the patch spares is spared without the name.
      have spared : SparesStored nested (.obj (eraseKey "id" update.fields)) := by
        intro key apart present
        rw [read apart] at present ⊢
        exact spares key apart present
      have after := user.merge (fun key _ => Value.Same.refl
        ((Value.obj (eraseKey "id" update.fields)).get key)) unnamed spared
      refine ⟨after.getById_same (OrderedMap.get?_set_self _ _ _)
        (OrderedMap.get?_set_self _ _ _) ?_, mirrored.set after⟩
      intro key tracked
      have apart : key ≠ "id" := by
        rintro rfl
        revert tracked
        decide
      obtain ⟨unread, unwritten⟩ := untracked key tracked
      -- The property is absent before the update, and is not written by it.
      have flat_unread : flat.get key = .undefined := by
        have same := user.each key apart
        rw [unread] at same
        exact (same.eq_of_not_object rfl).symm
      rw [stored, get_stored_identified _ _ apart, read apart, if_pos unwritten, flat_unread,
        strip_undefined]

end Steps

/-- In a run of agreeable calls the repositories answer alike and leave alike documents. -/
theorem repositories_agree (env : UserRepoEnv) (ops : List UserOp) {tables : UserTables}
    (mirrored : UsersMirrored tables.nested tables.flat)
    (agreeable : Along (UserTables.step env) (fun tables op => op.Agreeable tables.nested)
      tables ops) :
    Along (UserTables.step env) (RepositoriesAgree env) tables ops := by
  -- The tables stay mirrored, which is more than the documents being alike.
  refine along_of_invariant (fun tables => UsersMirrored tables.nested tables.flat) ?_ ?_
    mirrored agreeable
  · intro tables op before agreeable
    exact (agree_of_agreeable env before agreeable).2
  · intro tables op before agreeable
    obtain ⟨answers, after⟩ := agree_of_agreeable env before agreeable
    exact ⟨answers, after.alike⟩

def adminUser : Value := .obj [("displayName", .str "Ann"), ("roles", textList ["viewer"])]

def adminTables : UserTables where
  nested := OrderedMap.empty.set "discord:7" adminUser
  flat := OrderedMap.empty.set "discord:7" (adminUser.extend [("id", .str "discord:7")])

theorem adminTables_mirrored : UsersMirrored adminTables.nested adminTables.flat := by
  -- The only user is the administrator.
  refine UsersMirrored.set (fun _ => .none) ?_
  exact
    { each := by
        intro key apart
        rw [Value.extend_cons, Value.extend_nil, Value.fields_obj, Value.get_setEntry,
          if_neg apart]
        exact .refl _
      unnamed := by decide
      named := by decide
      object := rfl
      defined := by
        intro key
        rw [← get_strip]
        congr 1 }

def agreeableOps : List UserOp :=
  [.updateUser "discord:7" (.obj [("roles", textList ["moderator"])]),
   .ensureUserOnMessage "twitch:1" { provider := some "twitch" } "2024-01-01T00:00:00.000Z"
     "aaaaaa"]

/-- The repositories agree on those two calls. -/
theorem repositories_agree_admin :
    Along (UserTables.step dayEnv) (RepositoriesAgree dayEnv) adminTables agreeableOps := by
  refine repositories_agree dayEnv agreeableOps adminTables_mirrored ⟨.inr ⟨?_, ?_⟩, ?_, trivial⟩
  · intro key _ present
    refine covered_of_bare ?_
    -- The update writes the roles and nothing else.
    have only : key = "roles" := by
      by_contra other
      exact present (by simp [Value.get_obj_cons, other])
    subst only
    decide
  · decide
  · rfl

def smallerProfile : List UserOp :=
  [.ensureUserOnMessage "twilio:1"
     { provider := some "twilio"
       profile := some [("username", .str "ann"), ("updatedAt", .str "2024-01-01T00:00:00.000Z"),
         ("channelType", .str "sms")] }
     "2024-01-01T00:00:00.000Z" "aaaaaa",
   .ensureUserOnMessage "twilio:1"
     { provider := some "twilio"
       profile := some [("username", .str "ann"), ("updatedAt", .str "2024-01-01T23:59:59.999Z")] }
     "2024-01-01T23:59:59.999Z" "bbbbbb"]

theorem UsersAlike.shape_eq (alike : UsersAlike nested flat) (id : String) (path : List String) :
    (nested.get? id).map (fun user => ((user.extend [("id", .str id)]).atPath path).shape) =
      (flat.get? id).map fun user => (user.atPath path).shape := by
  rcases rel_cases (alike id) with ⟨missing, absent⟩ | ⟨left, right, found, held, same⟩
  · rw [missing, absent]
    rfl
  · -- The path is read through the name, which both documents then have.
    rw [found, held, Option.map_some, Option.map_some, same path]

/-- One repository keeps what the smaller profile leaves out, and the other does not. -/
theorem smallerProfile_parts :
    ¬ (∀ env ops, Along (UserTables.step env) (RepositoriesAgree env) .empty ops) := by
  intro agree
  obtain ⟨_, ⟨_, alike⟩, _⟩ := agree dayEnv smallerProfile
  -- The profile of the only user tells the tables apart.
  have read := alike.shape_eq "twilio:1" ["profile", "channelType"]
  revert read
  decide

end BitBrat
