import BitBrat.Machine.Run
import BitBrat.StoryEngine.Tools

/-! The story log: what overlapping tool calls leave of what they had accepted. -/

namespace BitBrat

open Js

section Log

variable {ι : Type}

@[simp] theorem storyEntries_append (log later : List (ι × StoryEffect)) (storyId : String) :
    storyEntries (log ++ later) storyId =
      storyEntries log storyId ++ storyEntries later storyId :=
  List.filterMap_append

@[simp] theorem storyMutations_append (log later : List (ι × StoryEffect))
    (storyId : String) :
    storyMutations (log ++ later) storyId =
      storyMutations log storyId ++ storyMutations later storyId :=
  List.filterMap_append

@[simp] theorem storyEntries_singleton (i : ι) (effect : StoryEffect) (storyId : String) :
    storyEntries [(i, effect)] storyId = (effect.entryFor storyId).toList := by
  cases entry : effect.entryFor storyId <;> simp [storyEntries, entry]

@[simp] theorem storyMutations_singleton (i : ι) (effect : StoryEffect) (storyId : String) :
    storyMutations [(i, effect)] storyId = (effect.mutationFor storyId).toList := by
  cases mutation : effect.mutationFor storyId <;> simp [storyMutations, mutation]

theorem effectsOf_append_self [DecidableEq ι] (log : List (ι × StoryEffect)) (i : ι)
    (effects : List StoryEffect) :
    effectsOf (log ++ effects.map fun effect => (i, effect)) i = effectsOf log i ++ effects := by
  simp [effectsOf, List.filterMap_map]

theorem effectsOf_append_of_ne [DecidableEq ι] (log : List (ι × StoryEffect)) {i j : ι}
    (apart : j ≠ i) (effects : List StoryEffect) :
    effectsOf (log ++ effects.map fun effect => (i, effect)) j = effectsOf log j := by
  simp [effectsOf, List.filterMap_map, Ne.symm apart]

theorem accepted_eq_nil {log : List (ι × StoryEffect)} {storyId : String}
    (unmentioned : ∀ logged ∈ log, logged.2.storyId ≠ storyId) :
    storyEntries log storyId = [] ∧ storyMutations log storyId = [] := by
  constructor <;>
  · refine List.filterMap_eq_nil_iff.mpr fun logged member => ?_
    obtain ⟨i, effect⟩ := logged
    have apart := unmentioned _ member
    cases effect <;> simp_all [StoryEffect.entryFor, StoryEffect.mutationFor, StoryEffect.storyId]

end Log

/-- The histories and worlds that follow from a log, as a repository appends. -/
structure StoryAccount {ι : Type} (backend : Backend) (stories : OrderedMap String StoryDoc)
    (log : List (ι × StoryEffect)) : Prop where
  history : ∀ storyId story, stories.get? storyId = some story →
    story.history = (storyEntries log storyId).foldl backend.append []
  worldState : ∀ storyId story, stories.get? storyId = some story →
    story.worldState = (storyMutations log storyId).foldl withMutation .empty
  stored : ∀ logged ∈ log, (stories.get? logged.2.storyId).isSome

/-- What one call to the store does: how the call goes on, what is stored, what was accepted. -/
inductive StoryChange (backend : Backend) (call : StoryCall) (store : StoryStore) :
    StoryPhase → StoryStore → List StoryEffect → Prop
  | kept (next : StoryPhase) (begun : next ≠ .starting) :
      StoryChange backend call store next store []
  | started (storyId : String) (story : StoryDoc) (creates : call.created = some storyId)
      (absent : store.stories.get? storyId = none)
      (unwritten : story.history = []) (unset : story.worldState = .empty) :
      StoryChange backend call store (.activating storyId) (store.createStory storyId story)
        [.started storyId]
  | activated (storyId now : String) (existing : Option UserDoc)
      (stored : (store.stories.get? storyId).isSome) :
      StoryChange backend call store (.finished .ok)
        (store.setUserActiveStory call.userId existing storyId now) []
  | recorded (storyId now : String) (entry : Value) (story : StoryDoc)
      (found : store.stories.get? storyId = some story) :
      StoryChange backend call store (call.afterAppend storyId)
        (store.appendToHistory backend storyId story entry now) [.recorded storyId entry]
  | mutated (storyId now : String) (mutation : List (String × Value)) (story : StoryDoc)
      (found : store.stories.get? storyId = some story) :
      StoryChange backend call store (.finished .ok)
        (store.updateStory storyId story (withMutation story.worldState mutation) now)
        [.mutated storyId mutation]

section Account

variable {ι : Type} {backend : Backend} {call : StoryCall} {store later : StoryStore}
  {next : StoryPhase} {log : List (ι × StoryEffect)} {effects : List StoryEffect}

variable {storyId : String}

theorem isSome_set {stories : OrderedMap String StoryDoc} {other : String}
    (story : StoryDoc) (stored : (stories.get? other).isSome) :
    ((stories.set storyId story).get? other).isSome := by
  rw [OrderedMap.get?_set]
  split
  · rfl
  · exact stored

theorem StoryChange.isSome (change : StoryChange backend call store next later effects)
    (stored : (store.stories.get? storyId).isSome) : (later.stories.get? storyId).isSome := by
  cases change with
  | kept => exact stored
  | activated => exact stored
  | started id story => exact isSome_set story stored
  | recorded => exact isSome_set _ stored
  | mutated => exact isSome_set _ stored

theorem StoryChange.isSome_or (change : StoryChange backend call store next later effects)
    (stored : (later.stories.get? storyId).isSome) :
    (store.stories.get? storyId).isSome ∨ call.created = some storyId := by
  cases change with
  | kept => exact .inl stored
  | activated => exact .inl stored
  | started id story creates =>
    by_cases here : storyId = id
    · exact .inr (by rw [here, creates])
    · exact .inl (by simpa [here] using stored)
  | recorded id now entry story found =>
    by_cases here : storyId = id
    · exact .inl (by rw [here, found]; rfl)
    · exact .inl (by simpa [StoryStore.appendToHistory, here] using stored)
  | mutated id now mutation story found =>
    by_cases here : storyId = id
    · exact .inl (by rw [here, found]; rfl)
    · exact .inl (by simpa [StoryStore.updateStory, here] using stored)

private theorem StoryChange.ne_starting
    (change : StoryChange backend call store next later effects) : next ≠ .starting := by
  cases change with
  | kept next begun => exact begun
  | recorded storyId =>
    unfold StoryCall.afterAppend
    split <;> exact StoryPhase.noConfusion
  | started => exact StoryPhase.noConfusion
  | activated => exact StoryPhase.noConfusion
  | mutated => exact StoryPhase.noConfusion

theorem StoryChange.entries (change : StoryChange backend call store next later effects) (i : ι) :
    (∀ storyId, storyEntries (effects.map fun effect => (i, effect)) storyId = []) ∨
      ∃ storyId entry story, store.stories.get? storyId = some story ∧
        effects = [.recorded storyId entry] := by
  cases change with
  | recorded storyId now entry story found => exact .inr ⟨storyId, entry, story, found, rfl⟩
  | kept => exact .inl fun storyId => rfl
  | activated => exact .inl fun storyId => rfl
  | started => exact .inl fun storyId => rfl
  | mutated => exact .inl fun storyId => rfl

theorem StoryChange.active (change : StoryChange backend call store next later effects)
    (active : ∀ userId user, store.users.get? userId = some user → ∀ storyId,
      user.active_story = some storyId → (store.stories.get? storyId).isSome)
    {userId : String} {user : UserDoc} (found : later.users.get? userId = some user)
    {storyId : String} (activated : user.active_story = some storyId) :
    (later.stories.get? storyId).isSome := by
  cases change with
  | activated id now existing stored =>
    simp only [StoryStore.setUserActiveStory, OrderedMap.get?_set] at found
    split at found
    · -- The story that is made active is the one that was created.
      cases found
      cases activated
      exact stored
    · exact active userId user found storyId activated
  | kept => exact active userId user found storyId activated
  | started id story => exact isSome_set story (active userId user found storyId activated)
  | recorded => exact isSome_set _ (active userId user found storyId activated)
  | mutated => exact isSome_set _ (active userId user found storyId activated)

/-- An account of a log stays one when a story is stored as the log and one effect more have it. -/
theorem StoryAccount.set (account : StoryAccount backend store.stories log) (i : ι)
    {effect : StoryEffect} (named : effect.storyId = storyId) {doc : StoryDoc}
    (history : doc.history =
      (storyEntries (log ++ [(i, effect)]) storyId).foldl backend.append [])
    (worldState : doc.worldState =
      (storyMutations (log ++ [(i, effect)]) storyId).foldl withMutation .empty) :
    StoryAccount backend (store.stories.set storyId doc) (log ++ [(i, effect)]) := by
  -- The effect is none on another story.
  have silent {other : String} (apart : other ≠ storyId) :=
    @accepted_eq_nil _ [(i, effect)] other (by simpa [named] using Ne.symm apart)
  refine ⟨fun other found read => ?_, fun other found read => ?_, fun logged member => ?_⟩
  · rw [OrderedMap.get?_set] at read
    split at read
    case isTrue same =>
      cases read
      rw [same, history]
    case isFalse apart =>
      rw [storyEntries_append, (silent apart).1, List.append_nil]
      exact account.history other found read
  · rw [OrderedMap.get?_set] at read
    split at read
    case isTrue same =>
      cases read
      rw [same, worldState]
    case isFalse apart =>
      rw [storyMutations_append, (silent apart).2, List.append_nil]
      exact account.worldState other found read
  · rcases List.mem_append.mp member with before | new
    · exact isSome_set doc (account.stored logged before)
    · rw [List.mem_singleton.mp new]
      simp [named]

theorem StoryAccount.change (account : StoryAccount backend store.stories log)
    (change : StoryChange backend call store next later effects) (i : ι) :
    StoryAccount backend later.stories (log ++ effects.map fun effect => (i, effect)) := by
  cases change with
  | kept => simpa using account
  | activated => simpa using account
  | started storyId story creates absent unwritten unset =>
    -- Nothing was accepted for a story before it is there.
    obtain ⟨entries, mutations⟩ : storyEntries log storyId = [] ∧
        storyMutations log storyId = [] := by
      refine accepted_eq_nil fun logged member same => ?_
      have stored := account.stored logged member
      rw [same, absent] at stored
      cases stored
    refine account.set i (rfl : (StoryEffect.started storyId).storyId = storyId) ?_ ?_
    · simp [StoryEffect.storyId, StoryEffect.entryFor, unwritten, entries]
    · simp [StoryEffect.storyId, StoryEffect.mutationFor, unset, mutations]
  | recorded storyId now entry story found =>
    refine account.set i (rfl : (StoryEffect.recorded storyId entry).storyId = storyId) ?_ ?_
    · simp [StoryEffect.storyId, StoryEffect.entryFor, List.foldl_append,
        account.history storyId story found]
    · simpa [StoryEffect.storyId, StoryEffect.mutationFor] using
        account.worldState storyId story found
  | mutated storyId now mutation story found =>
    refine account.set i (rfl : (StoryEffect.mutated storyId mutation).storyId = storyId) ?_ ?_
    · simpa [StoryEffect.storyId, StoryEffect.entryFor] using account.history storyId story found
    · simp [StoryEffect.storyId, StoryEffect.mutationFor, List.foldl_append,
        account.worldState storyId story found]

end Account

section Union

variable {history entries : List Value}

theorem nodup_foldl_arrayUnion (distinct : history.Nodup) (entries : List Value) :
    (entries.foldl arrayUnion history).Nodup := by
  induction entries generalizing history with
  | nil => exact distinct
  | cons entry rest ih =>
    refine ih ?_
    unfold arrayUnion
    split
    · exact distinct
    · rename_i new
      exact List.Nodup.append distinct (List.nodup_singleton _)
        (List.disjoint_singleton.mpr new)

theorem foldl_arrayUnion_of_nodup (distinct : (history ++ entries).Nodup) :
    entries.foldl arrayUnion history = history ++ entries := by
  induction entries generalizing history with
  | nil => simp
  | cons entry rest ih =>
    have new : entry ∉ history := fun member =>
      (List.nodup_append.mp distinct).2.2 entry member entry List.mem_cons_self rfl
    have appended : arrayUnion history entry = history ++ [entry] := by
      simp [arrayUnion, new]
    rw [List.foldl_cons, appended, ih (by simpa using distinct), List.append_assoc,
      List.singleton_append]

theorem foldl_arrayUnion_eq_iff :
    entries.foldl arrayUnion [] = entries ↔ entries.Nodup := by
  constructor
  · intro same
    rw [← same]
    exact nodup_foldl_arrayUnion List.nodup_nil entries
  · intro distinct
    exact foldl_arrayUnion_of_nodup (by simpa using distinct)

theorem foldl_documentStore_append (history entries : List Value) :
    entries.foldl (Backend.append .documentStore) history = history ++ entries := by
  induction entries generalizing history with
  | nil => simp
  | cons entry rest ih => rw [List.foldl_cons, ih]; simp [Backend.append]

end Union

section Calls

variable {backend : Backend} {call : StoryCall} {phase : StoryPhase} {now : String}
  {store : StoryStore}

theorem withActiveStory_cases (store : StoryStore) (userId : String)
    (next : String → StoryPhase) :
    store.withActiveStory userId next = (.finished .no_active_story, store, []) ∨
      ∃ user storyId, store.users.get? userId = some user ∧ user.active_story = some storyId ∧
        store.withActiveStory userId next = (next storyId, store, []) := by
  unfold StoryStore.withActiveStory StoryStore.activeStory
  cases found : store.users.get? userId with
  | none => exact .inl rfl
  | some user =>
    cases active : user.active_story with
    | none => exact .inl (by simp [active])
    | some storyId =>
      by_cases blank : storyId = ""
      · exact .inl (by simp [active, blank, Option.filter])
      · exact .inr ⟨user, storyId, rfl, active, by simp [active, blank, Option.filter]⟩

/-- How far a call has come, by what was accepted of it. -/
def StoryCall.Progress (call : StoryCall) (stories : OrderedMap String StoryDoc) :
    StoryPhase → List StoryEffect → Prop
  | .starting, made => made = []
  | .activating storyId, made | .activatingWith storyId _, made =>
    (stories.get? storyId).isSome ∧ call.created = some storyId ∧ made = [.started storyId]
  | .appending storyId entry, made | .appendingTo storyId entry _, made =>
    (stories.get? storyId).isSome ∧ call.Records entry ∧ made = []
  -- Only the change of the world is missing.
  | .reading storyId mutation, made | .updating storyId mutation _, made
  | .updatingTo storyId mutation _ _, made =>
    (stories.get? storyId).isSome ∧ call.Achieves (made ++ [.mutated storyId mutation])
  | .finished .ok, made => call.Achieves made
  | .finished _, _ => True

variable {stories : OrderedMap String StoryDoc} {made : List StoryEffect}

theorem StoryCall.Progress.mono {later : OrderedMap String StoryDoc}
    (progress : call.Progress stories phase made)
    (stays : ∀ storyId, (stories.get? storyId).isSome → (later.get? storyId).isSome) :
    call.Progress later phase made := by
  cases phase with
  | starting => exact progress
  | finished reply => cases reply <;> exact progress
  | activating storyId => exact ⟨stays _ progress.1, progress.2⟩
  | activatingWith storyId existing => exact ⟨stays _ progress.1, progress.2⟩
  | appending storyId entry => exact ⟨stays _ progress.1, progress.2⟩
  | appendingTo storyId entry story => exact ⟨stays _ progress.1, progress.2⟩
  | reading storyId mutation => exact ⟨stays _ progress.1, progress.2⟩
  | updating storyId mutation seen => exact ⟨stays _ progress.1, progress.2⟩
  | updatingTo storyId mutation seen existing => exact ⟨stays _ progress.1, progress.2⟩

private theorem StoryCall.next_change
    (fresh : phase = .starting → ∀ storyId, call.created = some storyId →
      store.stories.get? storyId = none) (progress : call.Progress store.stories phase made)
    (undisturbed : phase.Undisturbed backend store.stories) :
    StoryChange backend call store (call.next backend phase now store).1
      (call.next backend phase now store).2.1 (call.next backend phase now store).2.2 := by
  have looked (userId : String) (next : String → StoryPhase)
      (begun : ∀ storyId, next storyId ≠ .starting) :
      StoryChange backend call store (store.withActiveStory userId next).1
        (store.withActiveStory userId next).2.1 (store.withActiveStory userId next).2.2 := by
    rcases withActiveStory_cases store userId next with ended | ⟨_, storyId, _, _, goes⟩
    · rw [ended]
      exact .kept _ StoryPhase.noConfusion
    · rw [goes]
      exact .kept _ (begun storyId)
  cases phase with
  | starting =>
    cases call with
    | start_story userId theme setting storyId =>
      exact .started storyId _ rfl (fresh rfl storyId rfl) rfl rfl
    | process_action userId action => exact looked _ _ fun _ => StoryPhase.noConfusion
    | commit_scene userId scene choices mutation =>
      exact looked _ _ fun _ => StoryPhase.noConfusion
    | update_world_state userId mutation => exact looked _ _ fun _ => StoryPhase.noConfusion
  | activating storyId =>
    cases backend with
    | firestore => exact .activated storyId now (store.users.get? call.userId) progress.1
    | documentStore => exact .kept _ StoryPhase.noConfusion
  | activatingWith storyId existing => exact .activated storyId now existing progress.1
  | appending storyId entry =>
    cases found : store.stories.get? storyId with
    | none => simpa only [StoryCall.next, found] using .kept _ StoryPhase.noConfusion
    | some story =>
      simp only [StoryCall.next, found]
      cases backend with
      | firestore => exact .recorded storyId now entry story found
      | documentStore => exact .kept _ StoryPhase.noConfusion
  | appendingTo storyId entry story => exact .recorded storyId now entry story undisturbed
  | reading storyId mutation =>
    cases found : store.stories.get? storyId <;>
    · simp only [StoryCall.next, found]
      exact .kept _ StoryPhase.noConfusion
  | updating storyId mutation seen =>
    cases found : store.stories.get? storyId with
    | none => simpa only [StoryCall.next, found] using .kept _ StoryPhase.noConfusion
    | some existing =>
      simp only [StoryCall.next, found]
      cases backend with
      | firestore =>
        -- The state that was seen is still the state of the world.
        rw [← undisturbed rfl existing found]
        exact .mutated storyId now mutation existing found
      | documentStore => exact .kept _ StoryPhase.noConfusion
  | updatingTo storyId mutation seen existing =>
    have mutated : StoryChange backend call store _ _ _ :=
      .mutated storyId now mutation existing undisturbed.1
    rw [undisturbed.2] at mutated
    exact mutated
  | finished reply => exact .kept _ StoryPhase.noConfusion

private theorem StoryCall.progress_afterAppend {storyId : String} {entry : Value}
    (stored : (stories.get? storyId).isSome) (records : call.Records entry) :
    call.Progress stories (call.afterAppend storyId) [.recorded storyId entry] := by
  cases call with
  | start_story => cases records
  | update_world_state => cases records
  | process_action userId action => exact ⟨storyId, entry, records, rfl⟩
  | commit_scene userId scene choices worldStateMutation =>
    cases worldStateMutation with
    | none => exact ⟨storyId, entry, records, rfl⟩
    | some mutation => exact ⟨stored, storyId, entry, records, rfl⟩

private theorem StoryCall.next_progress
    (active : ∀ userId user, store.users.get? userId = some user → ∀ storyId,
      user.active_story = some storyId → (store.stories.get? storyId).isSome)
    (progress : call.Progress store.stories phase made) :
    call.Progress (call.next backend phase now store).2.1.stories
      (call.next backend phase now store).1
      (made ++ (call.next backend phase now store).2.2) := by
  have looked (userId : String) (next : String → StoryPhase)
      (begins : ∀ storyId, (store.stories.get? storyId).isSome →
        call.Progress store.stories (next storyId) []) :
      call.Progress (store.withActiveStory userId next).2.1.stories
        (store.withActiveStory userId next).1
        ([] ++ (store.withActiveStory userId next).2.2) := by
    rcases withActiveStory_cases store userId next with
      ended | ⟨user, storyId, found, activated, goes⟩
    · rw [ended]
      trivial
    · rw [goes]
      exact begins storyId (active userId user found storyId activated)
  cases phase with
  | starting =>
    obtain rfl : made = [] := progress
    cases call with
    | start_story userId theme setting storyId =>
      exact ⟨by simp [StoryCall.next], rfl, rfl⟩
    | process_action userId action =>
      exact looked _ _ fun storyId stored => ⟨stored, ⟨now, rfl⟩, rfl⟩
    | commit_scene userId scene choices mutation =>
      exact looked _ _ fun storyId stored => ⟨stored, ⟨now, rfl⟩, rfl⟩
    | update_world_state userId mutation =>
      exact looked _ _ fun storyId stored => ⟨stored, storyId, rfl⟩
  | activating storyId =>
    obtain ⟨stored, creates, rfl⟩ := progress
    cases backend with
    | firestore =>
      cases call with
      | start_story userId theme setting id =>
        cases creates
        rfl
      | _ => cases creates
    | documentStore => exact ⟨stored, creates, rfl⟩
  | activatingWith storyId existing =>
    obtain ⟨stored, creates, rfl⟩ := progress
    cases call with
    | start_story userId theme setting id =>
      cases creates
      rfl
    | _ => cases creates
  | appending storyId entry =>
    obtain ⟨stored, records, rfl⟩ := progress
    obtain ⟨story, found⟩ := Option.isSome_iff_exists.mp stored
    simp only [StoryCall.next, found]
    cases backend with
    | firestore => exact progress_afterAppend (isSome_set _ stored) records
    | documentStore => exact ⟨stored, records, rfl⟩
  | appendingTo storyId entry story =>
    obtain ⟨stored, records, rfl⟩ := progress
    exact progress_afterAppend (isSome_set _ stored) records
  | reading storyId mutation =>
    obtain ⟨stored, achieves⟩ := progress
    obtain ⟨story, found⟩ := Option.isSome_iff_exists.mp stored
    simp only [StoryCall.next, found, List.append_nil]
    exact ⟨stored, achieves⟩
  | updating storyId mutation seen =>
    obtain ⟨stored, achieves⟩ := progress
    obtain ⟨story, found⟩ := Option.isSome_iff_exists.mp stored
    simp only [StoryCall.next, found]
    cases backend with
    | firestore => exact achieves
    | documentStore =>
      simp only [List.append_nil]
      exact ⟨stored, achieves⟩
  | updatingTo storyId mutation seen existing => exact progress.2
  | finished reply =>
    simp only [StoryCall.next, List.append_nil]
    exact progress

def StoryPhase.Current (stories : OrderedMap String StoryDoc) : StoryPhase → Prop
  | appendingTo storyId _ story => stories.get? storyId = some story
  | updating storyId _ seen => stories.get? storyId = some seen
  | updatingTo storyId _ seen existing =>
    stories.get? storyId = some existing ∧ existing.worldState = seen.worldState
  | _ => True

theorem StoryPhase.Current.undisturbed (current : phase.Current stories) :
    phase.Undisturbed backend stories := by
  cases phase with
  | updating storyId mutation seen =>
    intro _ story found
    cases current.symm.trans found
    rfl
  | _ => exact current

theorem StoryPhase.Idle.current (idle : phase.Idle) (stories : OrderedMap String StoryDoc) :
    phase.Current stories := by
  cases phase <;> trivial

private theorem StoryCall.next_current (current : phase.Current store.stories) :
    (call.next backend phase now store).1.Current
      (call.next backend phase now store).2.1.stories := by
  have looked (userId : String) (next : String → StoryPhase)
      (begins : ∀ storyId, (next storyId).Current store.stories) :
      (store.withActiveStory userId next).1.Current
        (store.withActiveStory userId next).2.1.stories := by
    rcases withActiveStory_cases store userId next with ended | ⟨_, storyId, _, _, goes⟩
    · rw [ended]
      trivial
    · rw [goes]
      exact begins storyId
  have appended (storyId : String) (stories : OrderedMap String StoryDoc) :
      (call.afterAppend storyId).Current stories := by
    unfold StoryCall.afterAppend
    split <;> trivial
  cases phase with
  | starting =>
    cases call with
    | start_story => trivial
    | process_action => exact looked _ _ fun _ => trivial
    | commit_scene => exact looked _ _ fun _ => trivial
    | update_world_state => exact looked _ _ fun _ => trivial
  | activating => cases backend <;> trivial
  | activatingWith => trivial
  | appendingTo storyId => exact appended storyId _
  | updatingTo => trivial
  | finished => trivial
  | appending storyId entry =>
    cases found : store.stories.get? storyId with
    | none => simp [StoryCall.next, found, StoryPhase.Current]
    | some story =>
      simp only [StoryCall.next, found]
      cases backend with
      | firestore => exact appended storyId _
      | documentStore => exact found
  | reading storyId mutation =>
    cases found : store.stories.get? storyId with
    | none => simp [StoryCall.next, found, StoryPhase.Current]
    | some story =>
      simp only [StoryCall.next, found]
      exact found
  | updating storyId mutation seen =>
    have there : store.stories.get? storyId = some seen := current
    simp only [StoryCall.next, there]
    cases backend with
    | firestore => trivial
    | documentStore => exact ⟨there, rfl⟩

private theorem StoryCall.phase_of_recorded {storyId : String} {entry : Value}
    (recorded : .recorded storyId entry ∈ (call.next backend phase now store).2.2) :
    phase = .appending storyId entry ∨ ∃ story, phase = .appendingTo storyId entry story := by
  have looked (userId : String) (next : String → StoryPhase) :
      .recorded storyId entry ∉ (store.withActiveStory userId next).2.2 := by
    rcases withActiveStory_cases store userId next with ended | ⟨_, _, _, _, goes⟩
    · simp [ended]
    · simp [goes]
  cases phase with
  | starting =>
    cases call with
    | start_story => simp [StoryCall.next] at recorded
    | process_action => exact absurd recorded (looked _ _)
    | commit_scene => exact absurd recorded (looked _ _)
    | update_world_state => exact absurd recorded (looked _ _)
  | activating => cases backend <;> simp [StoryCall.next] at recorded
  | activatingWith => simp [StoryCall.next] at recorded
  | appending id added =>
    simp only [StoryCall.next] at recorded
    split at recorded
    · cases recorded
    · cases backend <;> simp at recorded
      obtain ⟨rfl, rfl⟩ := recorded
      exact .inl rfl
  | appendingTo id added story =>
    simp only [StoryCall.next, List.mem_singleton, StoryEffect.recorded.injEq] at recorded
    obtain ⟨rfl, rfl⟩ := recorded
    exact .inr ⟨story, rfl⟩
  | reading =>
    simp only [StoryCall.next] at recorded
    split at recorded <;> cases recorded
  | updating =>
    simp only [StoryCall.next] at recorded
    split at recorded
    · cases recorded
    · cases backend <;> simp at recorded
  | updatingTo => simp [StoryCall.next] at recorded
  | finished => simp [StoryCall.next] at recorded

end Calls

/-- The engine keeps account of every story, and every call comes further. -/
structure StoryBooks {ι : Type} [DecidableEq ι] (backend : Backend) (calls : ι → StoryCall)
    (engine : StoryEngine ι) : Prop where
  account : StoryAccount backend engine.store.stories engine.log
  created : ∀ storyId, (engine.store.stories.get? storyId).isSome →
    ∃ i, (calls i).created = some storyId ∧ engine.phase i ≠ .starting
  active : ∀ userId user, engine.store.users.get? userId = some user → ∀ storyId,
    user.active_story = some storyId → (engine.store.stories.get? storyId).isSome
  progress : ∀ i, (calls i).Progress engine.store.stories (engine.phase i)
    (effectsOf engine.log i)

section Runs

variable {ι : Type} [DecidableEq ι] {backend : Backend} {calls : ι → StoryCall}
  {users : OrderedMap String UserDoc} {engine : StoryEngine ι} {event : ι × String}

theorem StoryBooks.begin (unstarted : Unstarted users) :
    StoryBooks backend calls (StoryEngine.begin users) where
  account := by
    refine ⟨fun _ _ found => ?_, fun _ _ found => ?_, fun _ member => ?_⟩
    · cases found
    · cases found
    · cases member
  created _ stored := by cases stored
  active userId user found storyId activated := by
    rw [unstarted userId user found] at activated
    cases activated
  progress _ := rfl

theorem StoryBooks.change (books : StoryBooks backend calls engine) (fresh : FreshStories calls)
    (apart : NoOverlap backend engine event) :
    let next := (calls event.1).next backend (engine.phase event.1) event.2 engine.store
    StoryChange backend (calls event.1) engine.store next.1 next.2.1 next.2.2 := by
  refine StoryCall.next_change (fun begins storyId creates => ?_) (books.progress event.1) apart
  -- A story that is stored was created by a call that has begun, and no other call creates it.
  by_contra stored
  obtain ⟨i, created, begun⟩ := books.created storyId (Option.isSome_iff_ne_none.mpr stored)
  rw [fresh i event.1 storyId created creates] at begun
  exact begun begins

theorem StoryBooks.step (books : StoryBooks backend calls engine) (fresh : FreshStories calls)
    (apart : NoOverlap backend engine event) :
    StoryBooks backend calls (engine.step backend calls event) := by
  obtain ⟨i, now⟩ := event
  have change := books.change fresh apart
  refine ⟨books.account.change change i, fun storyId stored => ?_,
    fun userId user found storyId activated => change.active books.active found activated,
    fun j => ?_⟩
  · -- The story was there before, or the call that goes on has created it.
    rcases change.isSome_or stored with before | creates
    · obtain ⟨j, created, begun⟩ := books.created storyId before
      refine ⟨j, created, ?_⟩
      by_cases here : j = i
      · subst here
        simpa [StoryEngine.step] using change.ne_starting
      · simpa [StoryEngine.step, Function.update_of_ne here] using begun
    · exact ⟨i, creates, by simpa [StoryEngine.step] using change.ne_starting⟩
  · by_cases here : j = i
    · subst here
      simp only [StoryEngine.step, Function.update_self, effectsOf_append_self]
      exact StoryCall.next_progress books.active (books.progress j)
    · simp only [StoryEngine.step, Function.update_of_ne here, effectsOf_append_of_ne _ here]
      exact (books.progress j).mono fun storyId stored => change.isSome stored

theorem noOverlap_of_oneAtATime {schedule : List (ι × String)}
    (alone : Machine.Along (StoryEngine.step backend calls) OneAtATime (StoryEngine.begin users)
      schedule) :
    Machine.Along (StoryEngine.step backend calls) (NoOverlap backend) (StoryEngine.begin users)
      schedule := by
  refine Machine.along_of_invariant
    (fun engine => ∀ i, (engine.phase i).Current engine.store.stories) ?_ ?_ ?_ alone
  · rintro engine ⟨i, now⟩ current alone j
    by_cases here : j = i
    · subst here
      simp only [StoryEngine.step, Function.update_self]
      exact StoryCall.next_current (current j)
    · -- The others are not under way, and remember nothing.
      simp only [StoryEngine.step, Function.update_of_ne here]
      exact (alone j here).current _
  · exact fun engine event current _ => (current event.1).undisturbed
  · exact fun _ => trivial

theorem StoryBooks.run (fresh : FreshStories calls) (unstarted : Unstarted users)
    {schedule : List (ι × String)}
    (apart : Machine.Along (StoryEngine.step backend calls) (NoOverlap backend)
      (StoryEngine.begin users) schedule) :
    StoryBooks backend calls
      (Machine.run (StoryEngine.step backend calls) (StoryEngine.begin users) schedule) :=
  Machine.run_invariant (StoryBooks backend calls)
    (fun _ _ books allowed => books.step fresh allowed) (.begin unstarted) apart

/-- No entry was accepted twice for a story, where the second one would be skipped. -/
def DistinctEntries (backend : Backend) (engine : StoryEngine ι) : Prop :=
  backend = .firestore → ∀ storyId, (storyEntries engine.log storyId).Nodup

theorem StoryBooks.law_iff (books : StoryBooks backend calls engine) :
    StoryLaw calls engine ↔ DistinctEntries backend engine := by
  constructor
  · rintro law rfl storyId
    cases found : engine.store.stories.get? storyId with
    | none =>
      -- Nothing is accepted for a story that is not there.
      rw [(accepted_eq_nil fun logged member same => by
        have stored := law.stored logged member
        rw [same, found] at stored
        cases stored).1]
      exact List.nodup_nil
    | some story =>
      have union := books.account.history storyId story found
      rw [law.history storyId story found] at union
      exact foldl_arrayUnion_eq_iff.mp union.symm
  · intro distinct
    refine ⟨fun storyId story found => ?_, books.account.worldState, books.account.stored,
      fun i ended => ?_⟩
    · rw [books.account.history storyId story found]
      cases backend with
      | firestore => exact foldl_arrayUnion_eq_iff.mpr (distinct rfl storyId)
      | documentStore => simpa using foldl_documentStore_append [] _
    · have progress := books.progress i
      rw [ended] at progress
      exact progress

theorem not_distinctEntries_step (repeated : ¬ DistinctEntries backend engine) :
    ¬ DistinctEntries backend (engine.step backend calls event) := by
  intro distinct
  refine repeated fun nested storyId => ?_
  have later := distinct nested storyId
  simp only [StoryEngine.step, storyEntries_append] at later
  exact (List.nodup_append.mp later).1

private theorem StoryBooks.distinctEntries_step_iff (books : StoryBooks backend calls engine)
    (fresh : FreshStories calls) (apart : NoOverlap backend engine event)
    (distinct : DistinctEntries backend engine) :
    DistinctEntries backend (engine.step backend calls event) ↔
      NoRepetition backend engine event := by
  obtain ⟨i, now⟩ := event
  -- A history without repetitions is what was accepted for the story.
  have told (nested : backend = .firestore) {storyId : String} {story : StoryDoc}
      (found : engine.store.stories.get? storyId = some story) :
      story.history = storyEntries engine.log storyId := by
    rw [books.account.history storyId story found, nested]
    exact foldl_arrayUnion_eq_iff.mpr (distinct nested storyId)
  constructor
  · intro later
    have new {storyId : String} {entry : Value} {story : StoryDoc} (nested : backend = .firestore)
        (found : engine.store.stories.get? storyId = some story)
        (recorded : ((calls i).next backend (engine.phase i) now engine.store).2.2 =
          [.recorded storyId entry]) : entry ∉ story.history := by
      have after := later nested storyId
      simp only [StoryEngine.step, storyEntries_append, recorded, List.map_singleton,
        storyEntries_singleton, StoryEffect.entryFor, if_true, Option.toList_some] at after
      rw [told nested found]
      exact fun member =>
        (List.nodup_append.mp after).2.2 entry member entry (List.mem_singleton_self _) rfl
    unfold NoRepetition StoryPhase.Appends
    split
    · rename_i storyId entry phase
      intro nested story found
      refine new nested found ?_
      subst nested
      simp only [phase, StoryCall.next, found]
    · rename_i storyId entry read phase
      intro nested story found
      refine new nested found ?_
      simp only [phase, StoryCall.next]
    · trivial
  · intro new nested storyId
    simp only [StoryEngine.step, storyEntries_append]
    rcases (books.change fresh apart).entries i with silent | ⟨id, entry, story, found, recorded⟩
    · rw [silent, List.append_nil]
      exact distinct nested storyId
    · have absent : entry ∉ storyEntries engine.log id := by
        rw [← told nested found]
        -- The call that has the entry accepted was going on to append it.
        rcases StoryCall.phase_of_recorded (recorded ▸ List.mem_singleton_self _) with
          phase | ⟨read, phase⟩
        · rw [NoRepetition, phase] at new
          exact new nested story found
        · rw [NoRepetition, phase] at new
          exact new nested story found
      rw [recorded, List.map_singleton, storyEntries_singleton, StoryEffect.entryFor]
      split
      · rename_i here
        subst here
        exact List.Nodup.append (distinct nested id) (List.nodup_singleton _)
          (List.disjoint_singleton.mpr absent)
      · simpa using distinct nested storyId

omit [DecidableEq ι] in
theorem noRepetition_documentStore (engine : StoryEngine ι) (event : ι × String) :
    NoRepetition .documentStore engine event := by
  unfold NoRepetition StoryPhase.Appends
  split
  · exact fun nested => by cases nested
  · exact fun nested => by cases nested
  · trivial

/--
The stories tell what was accepted for them, where no call writes over what it has not read, as
none does when they run one at a time: except that an array union skips an entry that is there.
-/
theorem storyLaw_iff (backend : Backend) (calls : ι → StoryCall) (fresh : FreshStories calls)
    (users : OrderedMap String UserDoc) (unstarted : Unstarted users)
    (schedule : List (ι × String))
    (apart : Machine.Along (StoryEngine.step backend calls) (NoOverlap backend)
        (StoryEngine.begin users) schedule ∨
      Machine.Along (StoryEngine.step backend calls) OneAtATime (StoryEngine.begin users)
        schedule) :
    StoryLaw calls
        (Machine.run (StoryEngine.step backend calls) (StoryEngine.begin users) schedule) ↔
      Machine.Along (StoryEngine.step backend calls) (NoRepetition backend)
        (StoryEngine.begin users) schedule := by
  have apart : Machine.Along (StoryEngine.step backend calls) (NoOverlap backend)
      (StoryEngine.begin users) schedule := apart.elim id noOverlap_of_oneAtATime
  rw [(StoryBooks.run fresh unstarted apart).law_iff]
  -- The first entry that is repeated is missing from then on.
  refine Machine.good_iff_along_of_allowed
    (fun engine => StoryBooks backend calls engine ∧ DistinctEntries backend engine)
    (fun engine => ¬ DistinctEntries backend engine) (DistinctEntries backend) ?_ ?_ ?_ ?_ apart
    (fun both => both.2) (fun repeated => repeated)
  · intro engine event both allowed new
    exact ⟨both.1.step fresh allowed,
      (both.1.distinctEntries_step_iff fresh allowed both.2).mpr new⟩
  · intro engine event both allowed old distinct
    exact old ((both.1.distinctEntries_step_iff fresh allowed both.2).mp distinct)
  · exact fun engine event repeated => not_distinctEntries_step repeated
  · exact ⟨.begin unstarted, fun _ _ => List.nodup_nil⟩

end Runs

def storyCalls (first second : StoryCall) : Fin 3 → StoryCall
  | 0 => .start_story "u-1" "cyberpunk" none "s-1"
  | 1 => first
  | 2 => second

def atOnce (schedule : List (Fin 3)) : List (Fin 3 × String) :=
  schedule.map fun i => (i, "t0")

def storyRun (backend : Backend) (first second : StoryCall) (schedule : List (Fin 3)) :
    StoryEngine (Fin 3) :=
  Machine.run (StoryEngine.step backend (storyCalls first second)) (StoryEngine.begin .empty)
    (atOnce schedule)

instance : DecidablePred StoryPhase.Idle := fun phase => by
  cases phase <;> unfold StoryPhase.Idle <;> infer_instance

instance : DecidableRel (OneAtATime (ι := Fin 3)) := fun engine event => by
  unfold OneAtATime
  infer_instance

theorem freshStories_storyCalls {first second : StoryCall} (plain : first.created = none)
    (other : second.created = none) : FreshStories (storyCalls first second) := by
  have only (i : Fin 3) {storyId : String}
      (creates : (storyCalls first second i).created = some storyId) : i = 0 :=
    match i, creates with
    | 0, _ => rfl
    | 1, creates => by cases plain.symm.trans creates
    | 2, creates => by cases other.symm.trans creates
  intro i j storyId creates again
  rw [only i creates, only j again]

/-- Two equal actions that run one after the other are both recorded by the document store. -/
theorem storyLaw_actions :
    StoryLaw (storyCalls (.process_action "u-1" "1") (.process_action "u-1" "1"))
      (storyRun .documentStore (.process_action "u-1" "1") (.process_action "u-1" "1")
        [0, 0, 0, 1, 1, 1, 2, 2, 2]) := by
  refine (storyLaw_iff .documentStore _ (freshStories_storyCalls rfl rfl) .empty
    (fun _ _ found => by cases found) _ (.inr (by decide +kernel))).mpr ?_
  -- The document store skips no entry, whatever the step.
  exact Machine.along_of_invariant (fun _ => True) (fun _ _ _ _ => trivial)
    (fun engine event _ _ => noRepetition_documentStore engine event) trivial
    (Machine.along_iff_forall.mpr fun event _ => (trivial : (fun _ => True) event))

theorem StoryLaw.history_eq {ι : Type} [DecidableEq ι] {calls : ι → StoryCall}
    {engine : StoryEngine ι} (law : StoryLaw calls engine) {storyId : String}
    (stored : (engine.store.stories.get? storyId).isSome) :
    (engine.store.stories.get? storyId).map StoryDoc.history =
      some (storyEntries engine.log storyId) := by
  obtain ⟨story, found⟩ := Option.isSome_iff_exists.mp stored
  rw [found, Option.map_some, law.history storyId story found]

private theorem StoryLaw.worldState_eq {ι : Type} [DecidableEq ι] {calls : ι → StoryCall}
    {engine : StoryEngine ι} (law : StoryLaw calls engine) {storyId : String}
    (stored : (engine.store.stories.get? storyId).isSome) :
    (engine.store.stories.get? storyId).map (fun story => story.worldState.entries) =
      some ((storyMutations engine.log storyId).foldl withMutation .empty).entries := by
  obtain ⟨story, found⟩ := Option.isSome_iff_exists.mp stored
  rw [found, Option.map_some, law.worldState storyId story found]

/--
One after the other, the second of two equal actions is skipped by an array union. -/
theorem storyLaw_fails :
    ¬ StoryLaw (storyCalls (.process_action "u-1" "1") (.process_action "u-1" "1"))
        (storyRun .firestore (.process_action "u-1" "1") (.process_action "u-1" "1")
          [0, 0, 1, 1, 2, 2]) ∧
      ¬ StoryLaw (storyCalls (.process_action "u-1" "1") (.process_action "u-1" "2"))
        (storyRun .documentStore (.process_action "u-1" "1") (.process_action "u-1" "2")
          [0, 0, 0, 1, 1, 2, 2, 1, 2]) ∧
      ∀ backend, ¬ StoryLaw
        (storyCalls (.update_world_state "u-1" [("health", .num (.finite 1))])
          (.update_world_state "u-1" [("torch", .bool true)]))
        (storyRun backend (.update_world_state "u-1" [("health", .num (.finite 1))])
          (.update_world_state "u-1" [("torch", .bool true)])
          [0, 0, 0, 1, 1, 2, 2, 1, 1, 2, 2]) := by
  refine ⟨fun law => ?_, fun law => ?_, fun backend law => ?_⟩
  · exact absurd (@StoryLaw.history_eq _ _ _ _ law "s-1" (by decide +kernel)) (by decide +kernel)
  · exact absurd (@StoryLaw.history_eq _ _ _ _ law "s-1" (by decide +kernel)) (by decide +kernel)
  · cases backend <;>
    exact absurd (@StoryLaw.worldState_eq _ _ _ _ law "s-1" (by decide +kernel))
      (by decide +kernel)

end BitBrat
