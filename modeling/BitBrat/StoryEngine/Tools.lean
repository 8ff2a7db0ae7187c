import BitBrat.Persistence.Repository

/-! The repositories of the story engine: users, stories, and what is written of them. -/

namespace BitBrat

open Js

structure UserDoc where
  active_story : Option String := none
  updatedAt : String := ""
  deriving DecidableEq

/-- A story: what has happened in it, and the variables of its world. -/
structure StoryDoc where
  userId : String
  theme : String
  setting : String
  status : String
  history : List Value
  worldState : OrderedMap String Value
  createdAt : String
  updatedAt : String

structure StoryStore where
  users : OrderedMap String UserDoc
  stories : OrderedMap String StoryDoc

/-- The variables of a world after some of them are set. -/
def withMutation (worldState : OrderedMap String Value) (mutation : List (String × Value)) :
    OrderedMap String Value :=
  mutation.foldl (fun state entry => state.set entry.1 entry.2) worldState

/-- An array union appends an element, unless an equal one is already there. -/
def arrayUnion (history : List Value) (entry : Value) : List Value :=
  if entry ∈ history then history else history ++ [entry]

def Backend.append (backend : Backend) (history : List Value) (entry : Value) : List Value :=
  match backend with
  | firestore => arrayUnion history entry
  | documentStore => history ++ [entry]

def StoryStore.createStory (store : StoryStore) (id : String) (story : StoryDoc) : StoryStore :=
  { store with stories := store.stories.set id story }

/-- Write the active story of a user, next to what is there of the user. -/
def StoryStore.setUserActiveStory (store : StoryStore) (userId : String)
    (existing : Option UserDoc) (storyId now : String) : StoryStore :=
  { store with
    users := store.users.set userId
      { existing.getD {} with active_story := some storyId, updatedAt := now } }

def StoryStore.appendToHistory (backend : Backend) (store : StoryStore) (storyId : String)
    (story : StoryDoc) (entry : Value) (now : String) : StoryStore :=
  { store with
    stories := store.stories.set storyId
      { story with history := backend.append story.history entry, updatedAt := now } }

def StoryStore.updateStory (store : StoryStore) (storyId : String) (existing : StoryDoc)
    (worldState : OrderedMap String Value) (now : String) : StoryStore :=
  { store with
    stories := store.stories.set storyId { existing with worldState, updatedAt := now } }

section Reading

variable (backend : Backend) (store : StoryStore) (storyId now : String) (story : StoryDoc)

@[simp] theorem StoryStore.stories_createStory :
    (store.createStory storyId story).stories = store.stories.set storyId story := rfl

@[simp] theorem StoryStore.users_createStory :
    (store.createStory storyId story).users = store.users := rfl

@[simp] theorem StoryStore.stories_setUserActiveStory (userId : String)
    (existing : Option UserDoc) :
    (store.setUserActiveStory userId existing storyId now).stories = store.stories := rfl

@[simp] theorem StoryStore.users_appendToHistory (entry : Value) :
    (store.appendToHistory backend storyId story entry now).users = store.users := rfl

@[simp] theorem StoryStore.users_updateStory (worldState : OrderedMap String Value) :
    (store.updateStory storyId story worldState now).users = store.users := rfl

end Reading

/-- The active story of a user, if there is one: a blank identifier is none. -/
def StoryStore.activeStory (store : StoryStore) (userId : String) : Option String :=
  ((store.users.get? userId).bind UserDoc.active_story).filter fun storyId => storyId ≠ ""

/-! The tools of the story engine, one call to the store after the other. -/

inductive StoryCall where
  | start_story (userId theme : String) (setting : Option String) (storyId : String)
  | process_action (userId action : String)
  | commit_scene (userId scene : String) (choices : List String)
      (worldStateMutation : Option (List (String × Value)))
  | update_world_state (userId : String) (mutation : List (String × Value))

def actionEntry (action timestamp : String) : Value :=
  .obj [("type", .str "user_action"), ("action", .str action), ("timestamp", .str timestamp)]

def narrativeEntry (scene : String) (choices : List String) (timestamp : String) : Value :=
  .obj [("type", .str "narrative_scene"), ("scene", .str scene),
    ("choices", .arr (choices.map .str)), ("timestamp", .str timestamp)]

def newStory (userId theme : String) (setting : Option String) (now : String) : StoryDoc where
  userId := userId
  theme := theme
  setting := (setting.filter fun text => text ≠ "").getD "standard"
  status := "active"
  history := []
  worldState := .empty
  createdAt := now
  updatedAt := now

inductive StoryReply where
  | ok
  | no_active_story
  | not_found
  deriving DecidableEq

/-- The call to the store that a tool makes next, with what it remembers of the calls before. -/
inductive StoryPhase where
  | starting
  | activating (storyId : String)
  | activatingWith (storyId : String) (existing : Option UserDoc)
  | appending (storyId : String) (entry : Value)
  | appendingTo (storyId : String) (entry : Value) (story : StoryDoc)
  | reading (storyId : String) (mutation : List (String × Value))
  | updating (storyId : String) (mutation : List (String × Value)) (seen : StoryDoc)
  | updatingTo (storyId : String) (mutation : List (String × Value)) (seen existing : StoryDoc)
  | finished (reply : StoryReply)

inductive StoryEffect where
  | started (storyId : String)
  | recorded (storyId : String) (entry : Value)
  | mutated (storyId : String) (mutation : List (String × Value))

def StoryEffect.storyId : StoryEffect → String
  | started storyId | recorded storyId _ | mutated storyId _ => storyId

def StoryCall.userId : StoryCall → String
  | start_story userId _ _ _ | process_action userId _ | commit_scene userId _ _ _
  | update_world_state userId _ => userId

/-- A call goes on with the active story of its user, or ends. -/
def StoryStore.withActiveStory (store : StoryStore) (userId : String)
    (next : String → StoryPhase) : StoryPhase × StoryStore × List StoryEffect :=
  match store.activeStory userId with
  | none => (.finished .no_active_story, store, [])
  | some storyId => (next storyId, store, [])

def StoryCall.afterAppend (call : StoryCall) (storyId : String) : StoryPhase :=
  match call with
  | commit_scene _ _ _ (some mutation) => .reading storyId mutation
  | _ => .finished .ok

/-- One call to the store: what comes next, what is stored, and what was accepted. -/
def StoryCall.next (backend : Backend) (call : StoryCall) (phase : StoryPhase) (now : String)
    (store : StoryStore) : StoryPhase × StoryStore × List StoryEffect :=
  match phase with
  | .starting =>
    match call with
    | start_story userId theme setting storyId =>
      (.activating storyId, store.createStory storyId (newStory userId theme setting now),
        [.started storyId])
    | process_action userId action =>
      store.withActiveStory userId fun storyId => .appending storyId (actionEntry action now)
    | commit_scene userId scene choices _ =>
      store.withActiveStory userId fun storyId =>
        .appending storyId (narrativeEntry scene choices now)
    | update_world_state userId mutation =>
      store.withActiveStory userId fun storyId => .reading storyId mutation
  | .activating storyId =>
    match backend with
    | .firestore =>
      -- A merge write keeps what is there at the time of the write.
      (.finished .ok,
        store.setUserActiveStory call.userId (store.users.get? call.userId) storyId now, [])
    | .documentStore => (.activatingWith storyId (store.users.get? call.userId), store, [])
  | .activatingWith storyId existing =>
    (.finished .ok, store.setUserActiveStory call.userId existing storyId now, [])
  | .appending storyId entry =>
    match store.stories.get? storyId with
    | none => (.finished .not_found, store, [])
    | some story =>
      match backend with
      | .firestore =>
        (call.afterAppend storyId, store.appendToHistory backend storyId story entry now,
          [.recorded storyId entry])
      | .documentStore => (.appendingTo storyId entry story, store, [])
  | .appendingTo storyId entry story =>
    (call.afterAppend storyId, store.appendToHistory backend storyId story entry now,
      [.recorded storyId entry])
  | .reading storyId mutation =>
    match store.stories.get? storyId with
    | none => (.finished .ok, store, [])
    | some story => (.updating storyId mutation story, store, [])
  | .updating storyId mutation seen =>
    match store.stories.get? storyId with
    | none => (.finished .not_found, store, [])
    | some existing =>
      match backend with
      | .firestore =>
        (.finished .ok,
          store.updateStory storyId existing (withMutation seen.worldState mutation) now,
          [.mutated storyId mutation])
      | .documentStore => (.updatingTo storyId mutation seen existing, store, [])
  | .updatingTo storyId mutation seen existing =>
    (.finished .ok,
      store.updateStory storyId existing (withMutation seen.worldState mutation) now,
      [.mutated storyId mutation])
  | .finished reply => (.finished reply, store, [])

/-- The store, how far every call has come, and what was accepted so far, by which call. -/
structure StoryEngine (ι : Type) where
  store : StoryStore
  phase : ι → StoryPhase
  log : List (ι × StoryEffect)

section Engine

variable {ι : Type} [DecidableEq ι]

omit [DecidableEq ι] in
def StoryEngine.begin (users : OrderedMap String UserDoc) : StoryEngine ι :=
  { store := { users, stories := .empty }, phase := fun _ => .starting, log := [] }

def StoryEngine.step (backend : Backend) (calls : ι → StoryCall) (engine : StoryEngine ι)
    (event : ι × String) : StoryEngine ι :=
  let next := (calls event.1).next backend (engine.phase event.1) event.2 engine.store
  { store := next.2.1
    phase := Function.update engine.phase event.1 next.1
    log := engine.log ++ next.2.2.map fun effect => (event.1, effect) }

end Engine

section Accepted

variable {ι : Type}

def StoryEffect.entryFor (storyId : String) : StoryEffect → Option Value
  | recorded id entry => if id = storyId then some entry else none
  | _ => none

def StoryEffect.mutationFor (storyId : String) : StoryEffect → Option (List (String × Value))
  | mutated id mutation => if id = storyId then some mutation else none
  | _ => none

/-- The entries that were accepted for a story, in their order. -/
def storyEntries (log : List (ι × StoryEffect)) (storyId : String) : List Value :=
  log.filterMap fun logged => logged.2.entryFor storyId

/-- The mutations that were accepted for a story, in their order. -/
def storyMutations (log : List (ι × StoryEffect)) (storyId : String) :
    List (List (String × Value)) :=
  log.filterMap fun logged => logged.2.mutationFor storyId

def effectsOf [DecidableEq ι] (log : List (ι × StoryEffect)) (i : ι) : List StoryEffect :=
  log.filterMap fun logged => if logged.1 = i then some logged.2 else none

end Accepted

/-- The entry that a call is to record, at whatever time. -/
def StoryCall.Records : StoryCall → Value → Prop
  | process_action _ action, entry => ∃ timestamp, entry = actionEntry action timestamp
  | commit_scene _ scene choices _, entry =>
    ∃ timestamp, entry = narrativeEntry scene choices timestamp
  | _, _ => False

def StoryCall.Achieves (call : StoryCall) (effects : List StoryEffect) : Prop :=
  match call with
  | start_story _ _ _ storyId => effects = [.started storyId]
  | process_action _ _ | commit_scene _ _ _ none =>
    ∃ storyId entry, call.Records entry ∧ effects = [.recorded storyId entry]
  | commit_scene _ _ _ (some mutation) =>
    ∃ storyId entry, call.Records entry ∧
      effects = [.recorded storyId entry, .mutated storyId mutation]
  | update_world_state _ mutation => ∃ storyId, effects = [.mutated storyId mutation]

/-- The stories tell what was accepted for them, all of it and in order. -/
structure StoryLaw {ι : Type} [DecidableEq ι] (calls : ι → StoryCall) (engine : StoryEngine ι) :
    Prop where
  history : ∀ storyId story, engine.store.stories.get? storyId = some story →
    story.history = storyEntries engine.log storyId
  worldState : ∀ storyId story, engine.store.stories.get? storyId = some story →
    story.worldState = (storyMutations engine.log storyId).foldl withMutation .empty
  /-- Whatever was accepted was accepted for a story that is stored. -/
  stored : ∀ logged ∈ engine.log, (engine.store.stories.get? logged.2.storyId).isSome
  /-- A call that ends well had everything accepted that it asks for. -/
  complete : ∀ i, engine.phase i = .finished .ok → (calls i).Achieves (effectsOf engine.log i)

def StoryCall.created : StoryCall → Option String
  | start_story _ _ _ storyId => some storyId
  | _ => none

/-- A call that goes on writes over nothing that was written since it read. -/
def StoryPhase.Undisturbed (backend : Backend) (stories : OrderedMap String StoryDoc) :
    StoryPhase → Prop
  | appendingTo storyId _ story => stories.get? storyId = some story
  -- An update of fields leaves the other fields of the story alone.
  | updating storyId _ seen =>
    backend = .firestore → ∀ story, stories.get? storyId = some story →
      story.worldState = seen.worldState
  | updatingTo storyId _ seen existing =>
    stories.get? storyId = some existing ∧ existing.worldState = seen.worldState
  | _ => True

def StoryPhase.Appends (backend : Backend) (stories : OrderedMap String StoryDoc) :
    StoryPhase → Prop
  | appending storyId entry | appendingTo storyId entry _ =>
    backend = .firestore → ∀ story, stories.get? storyId = some story → entry ∉ story.history
  | _ => True

/-- A call is not under way: it has not reached the store, or has come to its end. -/
def StoryPhase.Idle : StoryPhase → Prop
  | starting | finished _ => True
  | _ => False

section Conditions

variable {ι : Type}

def NoOverlap (backend : Backend) (engine : StoryEngine ι) (event : ι × String) : Prop :=
  (engine.phase event.1).Undisturbed backend engine.store.stories

/-- The call that goes on appends no entry a second time, where that would be skipped. -/
def NoRepetition (backend : Backend) (engine : StoryEngine ι) (event : ι × String) : Prop :=
  (engine.phase event.1).Appends backend engine.store.stories

def OneAtATime (engine : StoryEngine ι) (event : ι × String) : Prop :=
  ∀ j, j ≠ event.1 → (engine.phase j).Idle

def FreshStories (calls : ι → StoryCall) : Prop :=
  ∀ i j storyId, (calls i).created = some storyId → (calls j).created = some storyId → i = j

def Unstarted (users : OrderedMap String UserDoc) : Prop :=
  ∀ userId user, users.get? userId = some user → user.active_story = none

end Conditions

end BitBrat
