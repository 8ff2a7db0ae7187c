import BitBrat.Analyzer.ObserverTools
import BitBrat.Machine.Run

/-! The life of observers: when windows and topic references follow the active observers. -/

namespace BitBrat

open Js Machine

def RxJSWindowManager.streamCount (manager : RxJSWindowManager) (id : String) : Nat :=
  manager.streams.countP fun stream => stream.2.id = id

def EventStreamAnalyzer.isActive (analyzer : EventStreamAnalyzer) (id : String) : Bool :=
  (analyzer.observers.get? id).any (·.active)

def StreamObserver.listens (topic : String) (observer : StreamObserver) : Bool :=
  observer.active && observer.topics.contains topic

def EventStreamAnalyzer.listenerCount (analyzer : EventStreamAnalyzer) (topic : String) : Nat :=
  analyzer.observers.entries.countP fun entry => entry.2.listens topic

def EventStreamAnalyzer.refCount (analyzer : EventStreamAnalyzer) (topic : String) : Nat :=
  analyzer.subscriptionManager.getTopicRefCount topic

/-- Every active observer has one stream and a reference to each of its topics, and no other has. -/
structure LifecycleLaw (analyzer : EventStreamAnalyzer) : Prop where
  windows : ∀ id, analyzer.windowManager.streamCount id = if analyzer.isActive id then 1 else 0
  topics : ∀ topic, analyzer.refCount topic = analyzer.listenerCount topic

/-- The topics are all different, and the new ones among them can be subscribed to. -/
def Subscribable (analyzer : EventStreamAnalyzer) (subscribes : String → Bool)
    (topics : List String) : Prop :=
  topics.Nodup ∧ ∀ topic ∈ topics, analyzer.refCount topic = 0 → subscribes topic = true

def Balances (analyzer : EventStreamAnalyzer) : ObserverCall → Prop
  | .create params subscribes => analyzer.isActive params.id = false ∧
      Subscribable analyzer subscribes params.observer.topics
  | .update params subscribes => ∀ existing,
      analyzer.observers.get? params.observerId = some existing →
        if params.recreates existing then
          -- An active observer keeps its old references.
          if existing.active then existing.topics = []
          else (params.updated existing).active = true →
            Subscribable analyzer subscribes existing.topics
        else (params.updated existing).active = existing.active
  | .remove observerId => ∀ observer, analyzer.observers.get? observerId = some observer →
      -- An inactive observer has no references to release.
      observer.active = false → ∀ topic ∈ observer.topics, analyzer.refCount topic = 0

/-- Every stream is the one that can be removed for its observer. -/
structure WindowsTidy (manager : RxJSWindowManager) : Prop where
  numbered : ∀ stream ∈ manager.streams, stream.1 < manager.nextStream
  registered : ∀ stream ∈ manager.streams,
    manager.subscriptions.get? stream.2.id = some stream.1
  owned : ∀ id number, manager.subscriptions.get? id = some number →
    number < manager.nextStream ∧ ∀ stream ∈ manager.streams, stream.1 = number → stream.2.id = id

/-- Every observer names its topics, and an active one names each of them once. -/
structure ObserversTidy (analyzer : EventStreamAnalyzer) : Prop where
  windows : WindowsTidy analyzer.windowManager
  named : ∀ id observer, analyzer.observers.get? id = some observer →
    observer.source.bind (·.topics) = some observer.topics ∧
      (observer.active = true → observer.topics.Nodup)

section Windows

variable {manager : RxJSWindowManager}

theorem streamCount_createWindow (observer : StreamObserver) (id : String) :
    (manager.createWindow observer).streamCount id =
      manager.streamCount id + if observer.id = id then 1 else 0 := by
  simp [RxJSWindowManager.streamCount, RxJSWindowManager.createWindow, List.countP_append,
    List.countP_singleton]

theorem streamCount_eq_zero {id : String} :
    manager.streamCount id = 0 ↔ ∀ stream ∈ manager.streams, stream.2.id ≠ id := by
  simp [RxJSWindowManager.streamCount, List.countP_eq_zero]

private theorem WindowsTidy.streamCount_removeObserver (tidy : WindowsTidy manager)
    (id other : String) : (manager.removeObserver id).streamCount other =
      if other = id then 0 else manager.streamCount other := by
  -- What can be removed for an observer is its only stream, if it has one.
  cases registered : manager.subscriptions.get? id with
  | none =>
    -- An observer without a subscription has no stream.
    have same : manager.removeObserver id = manager := by
      simp only [RxJSWindowManager.removeObserver, registered]
    rw [same]
    split
    · rename_i own
      subst own
      refine streamCount_eq_zero.mpr fun stream is_stream own => ?_
      have found := tidy.registered stream is_stream
      rw [own, registered] at found
      cases found
    · rfl
  | some number =>
    have streams : (manager.removeObserver id).streams =
        manager.streams.filter (·.1 ≠ number) := by
      simp only [RxJSWindowManager.removeObserver, registered]
    split
    · rename_i own
      subst own
      refine streamCount_eq_zero.mpr fun stream is_left own => ?_
      rw [streams] at is_left
      obtain ⟨is_stream, another⟩ := List.mem_filter.mp is_left
      have found := tidy.registered stream is_stream
      rw [own, registered] at found
      cases found
      simp at another
    · rename_i apart
      simp only [RxJSWindowManager.streamCount, streams, List.countP_filter]
      refine List.countP_congr fun stream is_stream => ?_
      -- A stream of another observer has another number.
      simp only [decide_eq_true_eq, Bool.and_eq_true, and_iff_left_iff_imp, ne_eq]
      rintro rfl numbered
      exact apart ((tidy.owned id number registered).2 stream is_stream numbered)

theorem WindowsTidy.createWindow (tidy : WindowsTidy manager) {observer : StreamObserver}
    (free : manager.streamCount observer.id = 0) :
    WindowsTidy (manager.createWindow observer) := by
  -- The new stream has a number above all others, and no other has its observer.
  have others := streamCount_eq_zero.mp free
  constructor
  · intro stream is_stream
    simp only [RxJSWindowManager.createWindow, List.mem_append, List.mem_singleton] at is_stream ⊢
    rcases is_stream with earlier | rfl
    · exact Nat.lt_succ_of_lt (tidy.numbered stream earlier)
    · exact Nat.lt_succ_self _
  · intro stream is_stream
    simp only [RxJSWindowManager.createWindow, List.mem_append, List.mem_singleton,
      OrderedMap.get?_set] at is_stream ⊢
    rcases is_stream with earlier | rfl
    · rw [if_neg (others stream earlier)]
      exact tidy.registered stream earlier
    · exact if_pos rfl
  · intro id number registered
    simp only [RxJSWindowManager.createWindow, List.mem_append, List.mem_singleton,
      OrderedMap.get?_set] at registered ⊢
    split at registered
    · -- The new stream has a number that no other one has.
      rename_i same
      cases registered
      refine ⟨Nat.lt_succ_self _, ?_⟩
      rintro stream (earlier | rfl) numbered
      · exact absurd numbered (Nat.ne_of_lt (tidy.numbered stream earlier))
      · exact same.symm
    · obtain ⟨given, owner⟩ := tidy.owned id number registered
      refine ⟨Nat.lt_succ_of_lt given, ?_⟩
      rintro stream (earlier | rfl) numbered
      · exact owner stream earlier numbered
      · exact absurd numbered.symm (Nat.ne_of_lt given)

theorem WindowsTidy.removeObserver (tidy : WindowsTidy manager) (id : String) :
    WindowsTidy (manager.removeObserver id) := by
  -- The streams that are left keep their numbers and their subscriptions.
  simp only [RxJSWindowManager.removeObserver]
  split
  · exact tidy
  · rename_i number registered
    constructor
    · exact fun stream is_left => tidy.numbered stream (List.mem_of_mem_filter is_left)
    · intro stream is_left
      obtain ⟨is_stream, another⟩ := List.mem_filter.mp is_left
      have found := tidy.registered stream is_stream
      -- What is left belongs to another observer.
      have apart : stream.2.id ≠ id := by
        rintro same
        rw [same, registered] at found
        cases found
        simp at another
      simpa only [OrderedMap.get?_erase, if_neg apart] using found
    · intro other given found
      simp only [OrderedMap.get?_erase] at found
      split at found
      · cases found
      · obtain ⟨below, owner⟩ := tidy.owned other given found
        exact ⟨below, fun stream is_left => owner stream (List.mem_of_mem_filter is_left)⟩

end Windows

section Topics

variable {analyzer : EventStreamAnalyzer} {subscribes : String → Bool}

theorem addTopic_eq (topic : String) : addTopic subscribes topic analyzer =
    if analyzer.refCount topic ≠ 0 then
      ({ analyzer with
        subscriptionManager := (analyzer.subscriptionManager.addTopic topic).1 }, true)
    else if subscribes topic then
      ({ analyzer with
        subscriptionManager := (analyzer.subscriptionManager.addTopic topic).1.subscriptionCreated
          topic analyzer.nextSubscription
        nextSubscription := analyzer.nextSubscription + 1 }, true)
    else
      ({ analyzer with
        subscriptionManager :=
          (analyzer.subscriptionManager.addTopic topic).1.subscriptionFailed topic }, false) := by
  have needed : (analyzer.subscriptionManager.addTopic topic).2 =
      decide (analyzer.refCount topic = 0) := rfl
  simp [addTopic, needed]

theorem succeeded_addTopic (subscribes : String → Bool) (analyzer : EventStreamAnalyzer)
    (topic : String) :
    (addTopic subscribes topic analyzer).2 = true ↔
      (analyzer.refCount topic = 0 → subscribes topic = true) := by
  rw [addTopic_eq]
  split_ifs with referenced subscribable
  · simp [referenced]
  · simp [subscribable]
  · simp [not_not.mp referenced, subscribable]

theorem refCount_addTopic (subscribes : String → Bool) (analyzer : EventStreamAnalyzer)
    (topic other : String) :
    (addTopic subscribes topic analyzer).1.refCount other = analyzer.refCount other +
      if (addTopic subscribes topic analyzer).2 = true ∧ topic = other then 1 else 0 := by
  -- Only a subscription that is needed and fails takes no reference.
  have taken := analyzer.subscriptionManager.getTopicRefCount_addTopic topic other
  rw [addTopic_eq]
  by_cases referenced : analyzer.refCount topic = 0
  · by_cases subscribable : subscribes topic = true
    · rw [if_neg (not_not.mpr referenced), if_pos subscribable]
      simpa [EventStreamAnalyzer.refCount] using taken
    · rw [if_neg (not_not.mpr referenced), if_neg subscribable]
      -- Nobody had a reference to the topic that failed.
      have failed := (analyzer.subscriptionManager.addTopic
        topic).1.getTopicRefCount_subscriptionFailed topic other
      rw [taken] at failed
      simp only [EventStreamAnalyzer.refCount] at referenced ⊢
      rw [failed]
      by_cases same : other = topic
      · simp [same, referenced]
      · simp [same, Ne.symm same]
  · rw [if_pos referenced]
    simpa [EventStreamAnalyzer.refCount] using taken

@[simp] theorem observers_addTopic (topic : String) :
    (addTopic subscribes topic analyzer).1.observers = analyzer.observers := by
  simp only [addTopic]
  split_ifs <;> rfl

@[simp] theorem windowManager_addTopic (topic : String) :
    (addTopic subscribes topic analyzer).1.windowManager = analyzer.windowManager := by
  simp only [addTopic]
  split_ifs <;> rfl

@[simp] theorem observers_addTopics (topics : List String) (analyzer : EventStreamAnalyzer) :
    (addTopics subscribes topics analyzer).observers = analyzer.observers := by
  induction topics generalizing analyzer with
  | nil => rfl
  | cons topic rest ih =>
    simp only [addTopics]
    split_ifs <;> simp [ih]

@[simp] theorem windowManager_addTopics (topics : List String) (analyzer : EventStreamAnalyzer) :
    (addTopics subscribes topics analyzer).windowManager = analyzer.windowManager := by
  induction topics generalizing analyzer with
  | nil => rfl
  | cons topic rest ih =>
    simp only [addTopics]
    split_ifs <;> simp [ih]

@[simp] theorem observers_removeTopics (topics : List String) (analyzer : EventStreamAnalyzer) :
    (removeTopics topics analyzer).observers = analyzer.observers := by
  induction topics generalizing analyzer with
  | nil => rfl
  | cons topic rest ih => exact ih _

@[simp] theorem windowManager_removeTopics (topics : List String)
    (analyzer : EventStreamAnalyzer) :
    (removeTopics topics analyzer).windowManager = analyzer.windowManager := by
  induction topics generalizing analyzer with
  | nil => rfl
  | cons topic rest ih => exact ih _

theorem refCount_addTopics (subscribes : String → Bool) (topics : List String)
    (analyzer : EventStreamAnalyzer) :
    ∃ added rest, topics = added ++ rest ∧
      (∀ other, (addTopics subscribes topics analyzer).refCount other =
        analyzer.refCount other + added.count other) ∧
      (∀ topic ∈ added, analyzer.refCount topic = 0 → subscribes topic = true) ∧
      ∀ topic ∈ rest.head?, topic ∉ added ∧ analyzer.refCount topic = 0 ∧
        subscribes topic = false := by
  -- The induction is on the topics, for the references that were taken before.
  induction topics generalizing analyzer with
  | nil => exact ⟨[], [], rfl, by simp [addTopics], by simp, by simp⟩
  | cons topic later ih =>
    have taken := refCount_addTopic subscribes analyzer topic
    have succeeds := succeeded_addTopic subscribes analyzer topic
    by_cases succeeded : (addTopic subscribes topic analyzer).2 = true
    · -- The rest of the topics find one reference more.
      simp only [succeeded, true_and] at taken
      obtain ⟨added, rest, split, after, subscribable, stopped⟩ :=
        ih (addTopic subscribes topic analyzer).1
      refine ⟨topic :: added, rest, by rw [split]; rfl, ?_, ?_, ?_⟩
      · intro other
        simp only [addTopics, succeeded, ↓reduceIte]
        rw [after, taken, List.count_cons]
        simp only [beq_iff_eq]
        omega
      · intro other is_added unreferenced
        by_cases own : topic = other
        · subst own
          exact succeeds.mp succeeded unreferenced
        · refine subscribable other (List.mem_of_ne_of_mem (Ne.symm own) is_added) ?_
          rw [taken, unreferenced, if_neg own]
      · intro other stops
        obtain ⟨unadded, unreferenced, unsubscribable⟩ := stopped other stops
        rw [taken] at unreferenced
        have apart : topic ≠ other := by
          rintro rfl
          simp at unreferenced
        refine ⟨?_, by omega, unsubscribable⟩
        simp [Ne.symm apart, unadded]
    · -- The call ends with the topic that failed.
      obtain ⟨unreferenced, unsubscribable⟩ := Classical.not_imp.mp (mt succeeds.mpr succeeded)
      refine ⟨[], topic :: later, rfl, ?_, by simp, ?_⟩
      · intro other
        simp only [addTopics, if_neg succeeded]
        rw [taken]
        simp [succeeded]
      · rintro other ⟨⟩
        exact ⟨List.not_mem_nil, unreferenced, Bool.eq_false_iff.mpr unsubscribable⟩

theorem refCount_addTopics_iff (subscribes : String → Bool) (topics : List String)
    (analyzer : EventStreamAnalyzer) :
    (∀ topic, (addTopics subscribes topics analyzer).refCount topic =
        analyzer.refCount topic + if topic ∈ topics then 1 else 0) ↔
      Subscribable analyzer subscribes topics := by
  -- What was added is a prefix of the list, and counts how often it lists each topic.
  obtain ⟨added, rest, split, after, subscribable, stopped⟩ :=
    refCount_addTopics subscribes topics analyzer
  constructor
  · intro once
    have counted (topic : String) : added.count topic = if topic ∈ topics then 1 else 0 := by
      have both := (after topic).symm.trans (once topic)
      omega
    -- A topic at which the call has stopped would have no reference.
    have complete : rest = [] := by
      cases rest with
      | nil => rfl
      | cons topic later =>
        have unadded := List.count_eq_zero.mpr (stopped topic rfl).1
        rw [counted, if_pos (by simp [split])] at unadded
        cases unadded
    rw [complete, List.append_nil] at split
    subst split
    refine ⟨List.nodup_iff_count_le_one.mpr fun topic => ?_, subscribable⟩
    rw [counted]
    split <;> omega
  · rintro ⟨distinct, all_subscribable⟩ topic
    have complete : rest = [] := by
      cases rest with
      | nil => rfl
      | cons topic later =>
        obtain ⟨-, unreferenced, unsubscribable⟩ := stopped topic rfl
        rw [all_subscribable topic (by simp [split]) unreferenced] at unsubscribable
        cases unsubscribable
    rw [complete, List.append_nil] at split
    subst split
    rw [after, distinct.count]

theorem refCount_addTopics_unchanged_iff (subscribes : String → Bool) (topics : List String)
    (analyzer : EventStreamAnalyzer)
    (referenced : ∀ topic ∈ topics, 0 < analyzer.refCount topic) :
    (∀ topic, (addTopics subscribes topics analyzer).refCount topic = analyzer.refCount topic) ↔
      topics = [] := by
  constructor
  · intro unchanged
    obtain ⟨added, rest, split, after, -, stopped⟩ :=
      refCount_addTopics subscribes topics analyzer
    -- No topic was added, and the call does not stop at one that is referenced.
    have none_added : added = [] := by
      refine List.eq_nil_iff_forall_not_mem.mpr fun topic is_added => ?_
      have counted := (after topic).symm.trans (unchanged topic)
      have listed := List.count_pos_iff.mpr is_added
      omega
    subst none_added
    rw [List.nil_append] at split
    cases rest with
    | nil => exact split
    | cons topic later =>
      have unreferenced := (stopped topic rfl).2.1
      exact absurd unreferenced (Nat.ne_of_gt (referenced topic (by simp [split])))
  · rintro rfl topic
    rfl

theorem refCount_removeTopics (topics : List String) (analyzer : EventStreamAnalyzer)
    (other : String) :
    (removeTopics topics analyzer).refCount other =
      analyzer.refCount other - topics.count other := by
  induction topics generalizing analyzer with
  | nil => rfl
  | cons topic rest ih =>
    have released := analyzer.subscriptionManager.getTopicRefCount_removeTopic topic other
    rw [removeTopics, ih, List.count_cons]
    simp only [EventStreamAnalyzer.refCount, beq_iff_eq]
    -- The unsubscribe call changes no reference.
    split
    · rw [SubscriptionManager.getTopicRefCount_subscriptionRemoved, released]
      omega
    · rw [released]
      omega

end Topics

section Calls

variable {analyzer : EventStreamAnalyzer} {subscribes : String → Bool}

private theorem UpdateObserver.topics_updated (params : UpdateObserver)
    (existing : StreamObserver) :
    (params.updated existing).source.bind (·.topics) = existing.source.bind (·.topics) := by
  simp only [UpdateObserver.updated, UpdateObserver.sourceChange]
  split
  · -- The new source is the old one with other filters.
    cases existing.source <;> rfl
  · rfl

private theorem UpdateObserver.topics_eq (params : UpdateObserver) (existing : StreamObserver) :
    (params.updated existing).topics = existing.topics := by
  simp only [StreamObserver.topics, params.topics_updated]

/-- The analyzer with an observer updated and its window made anew, before topics are added. -/
def EventStreamAnalyzer.remade (analyzer : EventStreamAnalyzer) (params : UpdateObserver)
    (existing : StreamObserver) : EventStreamAnalyzer :=
  { analyzer with
    observers := analyzer.observers.set params.observerId (params.updated existing)
    windowManager := (analyzer.windowManager.removeObserver params.observerId).createWindow
      (params.updated existing) }

variable {params : UpdateObserver} {existing : StreamObserver}

theorem updateObserver_eq_addTopics
    (found : analyzer.observers.get? params.observerId = some existing)
    (recreates : params.recreates existing = true)
    (comes_back : (params.updated existing).active = true) :
    updateObserver subscribes params analyzer =
      addTopics subscribes existing.topics (analyzer.remade params existing) := by
  simp only [updateObserver, found, recreates, comes_back, if_true, createObserverWindow,
    params.topics_eq, EventStreamAnalyzer.remade]

theorem streamCount_remade (tidy : WindowsTidy analyzer.windowManager)
    (params : UpdateObserver) (existing : StreamObserver) (other : String) :
    (analyzer.remade params existing).windowManager.streamCount other =
      if other = params.observerId then 1 else analyzer.windowManager.streamCount other := by
  have named : (params.updated existing).id = params.observerId := rfl
  simp only [EventStreamAnalyzer.remade, streamCount_createWindow,
    tidy.streamCount_removeObserver params.observerId, named]
  by_cases own : other = params.observerId
  · simp [own]
  · simp [own, Ne.symm own]

variable {observer : StreamObserver}

theorem lifecycleLaw_set_iff (law : LifecycleLaw analyzer) {after : EventStreamAnalyzer}
    {id : String} (written : after.observers = analyzer.observers.set id observer) :
    LifecycleLaw after ↔
      (∀ other, after.windowManager.streamCount other =
        if other = id then (if observer.active then 1 else 0)
        else analyzer.windowManager.streamCount other) ∧
      ∀ topic, after.refCount topic +
          (if (analyzer.observers.get? id).any (·.listens topic) then 1 else 0) =
        analyzer.refCount topic + if observer.listens topic then 1 else 0 := by
  -- One observer changes, so that only its own stream and topics have to be compared.
  have active (other : String) : after.isActive other =
      if other = id then observer.active else analyzer.isActive other := by
    simp only [EventStreamAnalyzer.isActive, written, OrderedMap.get?_set]
    split <;> rfl
  have listeners (topic : String) := analyzer.observers.countP_set id observer (·.listens topic)
  rw [← written] at listeners
  constructor
  · intro after_law
    constructor
    · intro other
      rw [after_law.windows, active]
      split
      · rfl
      · exact (law.windows other).symm
    · intro topic
      rw [after_law.topics, law.topics]
      exact listeners topic
  · rintro ⟨windows, topics⟩
    constructor
    · intro other
      rw [windows, active]
      split
      · rfl
      · exact law.windows other
    · intro topic
      -- The observer that is replaced counts on both sides.
      have counted := listeners topic
      have referenced := topics topic
      rw [law.topics] at referenced
      exact Nat.add_right_cancel (referenced.trans counted.symm)

theorem listens_of_inactive (inactive : observer.active = false) (topic : String) :
    observer.listens topic = false := by
  rw [StreamObserver.listens, inactive, Bool.false_and]

theorem listens_of_active (active : observer.active = true) (topic : String) :
    observer.listens topic = decide (topic ∈ observer.topics) := by
  rw [StreamObserver.listens, active, Bool.true_and, List.contains_eq_mem]

theorem lifecycleLaw_createObserver_iff (law : LifecycleLaw analyzer)
    (params : CreateObserver) : LifecycleLaw (createObserver subscribes params analyzer) ↔
      Balances analyzer (.create params subscribes) := by
  -- The observer is stored and its window is made before its topics are added.
  have added := refCount_addTopics_iff subscribes params.observer.topics
    { analyzer with
      observers := analyzer.observers.set params.id params.observer
      windowManager := analyzer.windowManager.createWindow params.observer }
  have is_active : params.observer.active = true := rfl
  have streams (id : String) :
      (createObserver subscribes params analyzer).windowManager.streamCount id =
        analyzer.windowManager.streamCount id + if params.id = id then 1 else 0 := by
    simp only [createObserver, createObserverWindow, windowManager_addTopics]
    exact streamCount_createWindow params.observer id
  rw [lifecycleLaw_set_iff law (by simp [createObserver, createObserverWindow]; rfl)]
  simp only [streams, listens_of_active is_active, is_active, if_true, decide_eq_true_eq]
  -- An observer that was there and was not active had no references.
  have unlistening (inactive : analyzer.isActive params.id = false) (topic : String) :
      (analyzer.observers.get? params.id).any (·.listens topic) = false := by
    simp only [EventStreamAnalyzer.isActive] at inactive
    cases found : analyzer.observers.get? params.id with
    | none => rfl
    | some observer =>
      rw [found] at inactive
      exact listens_of_inactive inactive topic
  constructor
  · rintro ⟨windows, topics⟩
    have inactive : analyzer.isActive params.id = false := by
      have one := windows params.id
      rw [if_pos rfl, if_pos rfl, law.windows] at one
      simpa using one
    refine ⟨inactive, added.mp fun topic => ?_⟩
    have counted := topics topic
    rw [unlistening inactive topic] at counted
    exact counted
  · rintro ⟨inactive, subscribable⟩
    constructor
    · intro id
      by_cases own : id = params.id
      · simp [own, law.windows, inactive]
      · simp [own, Ne.symm own]
    · intro topic
      rw [unlistening inactive topic]
      exact added.mpr subscribable topic

theorem refCount_pos (law : LifecycleLaw analyzer) {id topic : String}
    (found : analyzer.observers.get? id = some observer) (listens : observer.listens topic = true) :
    0 < analyzer.refCount topic := by
  rw [law.topics]
  exact List.countP_pos_iff.mpr ⟨(id, observer), mem_of_lookup found, listens⟩

theorem lifecycleLaw_recreated_iff (law : LifecycleLaw analyzer)
    (tidy : ObserversTidy analyzer)
    (found : analyzer.observers.get? params.observerId = some existing)
    (recreates : params.recreates existing = true) :
    LifecycleLaw (updateObserver subscribes params analyzer) ↔
      if existing.active then existing.topics = []
      else (params.updated existing).active = true →
        Subscribable analyzer subscribes existing.topics := by
  -- The old window is gone in any case, and the new one is made if the observer is active.
  by_cases comes_back : (params.updated existing).active = true
  · -- The window is made anew, and the topics are added again.
    have added := refCount_addTopics_iff subscribes existing.topics
      (analyzer.remade params existing)
    have streams := streamCount_remade tidy.windows params existing
    rw [updateObserver_eq_addTopics found recreates comes_back,
      lifecycleLaw_set_iff law (observers_addTopics _ _), found]
    simp only [windowManager_addTopics, streams, comes_back, if_true,
      listens_of_active comes_back, params.topics_eq, Option.any_some, decide_eq_true_eq,
      implies_true, true_and]
    by_cases active : existing.active = true
    · -- The references of an active observer are there already.
      have unchanged := refCount_addTopics_unchanged_iff subscribes existing.topics
        (analyzer.remade params existing)
        fun topic listed => refCount_pos law found (by simp [listens_of_active active, listed])
      simp only [active, if_true, listens_of_active active, decide_eq_true_eq, ← unchanged]
      constructor
      · exact fun topics topic => Nat.add_right_cancel (topics topic)
      · exact fun same topic => by rw [same topic]; rfl
    · -- The references of an inactive observer are added.
      rw [Bool.not_eq_true] at active
      simp only [active, Bool.false_eq_true, if_false, listens_of_inactive active, Nat.add_zero,
        forall_const]
      exact added
  · -- The window is gone, and the references stay as they are.
    have gone : updateObserver subscribes params analyzer =
        { analyzer with
          observers := analyzer.observers.set params.observerId (params.updated existing)
          windowManager := analyzer.windowManager.removeObserver params.observerId } := by
      simp only [updateObserver, found, recreates, comes_back, if_true, if_false,
        Bool.false_eq_true]
    rw [Bool.not_eq_true] at comes_back
    have removed := tidy.windows.streamCount_removeObserver params.observerId
    rw [gone, lifecycleLaw_set_iff law rfl, found]
    simp only [removed, comes_back, listens_of_inactive comes_back, Option.any_some,
      Bool.false_eq_true, if_false, Nat.add_zero, implies_true, true_and]
    by_cases active : existing.active = true
    · simp only [active, if_true, listens_of_active active, decide_eq_true_eq]
      constructor
      · intro topics
        refine List.eq_nil_iff_forall_not_mem.mpr fun topic listed => ?_
        have kept := topics topic
        rw [if_pos listed] at kept
        exact absurd kept (Nat.succ_ne_self _)
      · intro no_topics topic
        rw [no_topics]
        rfl
    · rw [Bool.not_eq_true] at active
      simp only [active, listens_of_inactive active, Bool.false_eq_true, if_false, Nat.add_zero,
        false_implies, iff_true]
      exact fun topic => rfl

theorem lifecycleLaw_updateObserver_iff (law : LifecycleLaw analyzer)
    (tidy : ObserversTidy analyzer) (params : UpdateObserver) :
    LifecycleLaw (updateObserver subscribes params analyzer) ↔
      Balances analyzer (.update params subscribes) := by
  -- An update that changes neither window nor source writes the observer alone.
  cases found : analyzer.observers.get? params.observerId with
  | none =>
    -- Without the observer, the call fails at once.
    have same : updateObserver subscribes params analyzer = analyzer := by
      simp only [updateObserver, found]
    rw [same]
    exact iff_of_true law fun existing stored => by rw [found] at stored; cases stored
  | some existing =>
    have one := law.windows params.observerId
    rw [EventStreamAnalyzer.isActive, found, Option.any_some] at one
    simp only [Balances, found, Option.some.injEq, forall_eq']
    by_cases recreates : params.recreates existing = true
    · rw [if_pos recreates]
      exact lifecycleLaw_recreated_iff law tidy found recreates
    · -- The window and the references stay as they are.
      have stored : updateObserver subscribes params analyzer =
          { analyzer with observers :=
              analyzer.observers.set params.observerId (params.updated existing) } := by
        simp only [updateObserver, found, if_neg recreates]
      rw [if_neg recreates, stored, lifecycleLaw_set_iff law rfl, found]
      simp only [Option.any_some]
      constructor
      · rintro ⟨windows, -⟩
        have kept := windows params.observerId
        rw [if_pos rfl, one] at kept
        -- One stream is there exactly for an active observer.
        cases was : existing.active <;> cases is : (params.updated existing).active
        · rfl
        · rw [was, is] at kept
          cases kept
        · rw [was, is] at kept
          cases kept
        · rfl
      · intro same_active
        have same_listens (topic : String) :
            (params.updated existing).listens topic = existing.listens topic := by
          simp only [StreamObserver.listens, same_active, params.topics_eq]
        refine ⟨fun other => ?_, fun topic => by rw [same_listens]; rfl⟩
        rw [same_active]
        split
        · rename_i own
          rw [own]
          exact one
        · rfl

theorem lifecycleLaw_removed_iff (law : LifecycleLaw analyzer)
    (tidy : ObserversTidy analyzer) {observerId : String}
    (found : analyzer.observers.get? observerId = some observer) :
    LifecycleLaw (removeObserver observerId analyzer) ↔ ∀ topic,
      analyzer.refCount topic - observer.topics.count topic +
        (if observer.listens topic then 1 else 0) = analyzer.refCount topic := by
  -- The streams of the observer end, while its topics lose as many references as it lists.
  have named := (tidy.named observerId observer found).1
  have removed : removeObserver observerId analyzer =
      { removeTopics observer.topics { analyzer with
          windowManager := analyzer.windowManager.removeObserver observerId } with
        observers := analyzer.observers.erase observerId } := by
    simp only [removeObserver, found, named, Option.getD_some, observers_removeTopics]
  have streams (other : String) :
      (removeObserver observerId analyzer).windowManager.streamCount other =
        if other = observerId then 0 else analyzer.windowManager.streamCount other := by
    rw [removed]
    simp only [windowManager_removeTopics]
    exact tidy.windows.streamCount_removeObserver observerId other
  have active (other : String) : (removeObserver observerId analyzer).isActive other =
      if other = observerId then false else analyzer.isActive other := by
    rw [removed]
    simp only [EventStreamAnalyzer.isActive, OrderedMap.get?_erase]
    split <;> rfl
  have references (topic : String) : (removeObserver observerId analyzer).refCount topic =
      analyzer.refCount topic - observer.topics.count topic := by
    rw [removed]
    exact refCount_removeTopics observer.topics _ topic
  have listeners (topic : String) : (removeObserver observerId analyzer).listenerCount topic +
      (if observer.listens topic then 1 else 0) = analyzer.listenerCount topic := by
    have counted := analyzer.observers.countP_erase observerId (·.listens topic)
    rw [found, Option.any_some] at counted
    rw [removed]
    exact counted
  constructor
  · intro after topic
    rw [← references, after.topics, listeners, law.topics]
  · intro topics
    constructor
    · intro other
      rw [streams, active]
      split
      · rfl
      · exact law.windows other
    · intro topic
      -- The observer that is gone counts on both sides.
      have counted := topics topic
      rw [law.topics topic, ← listeners topic] at counted
      rw [references, law.topics topic, ← listeners topic]
      exact Nat.add_right_cancel counted

theorem lifecycleLaw_removeObserver_iff (law : LifecycleLaw analyzer)
    (tidy : ObserversTidy analyzer) (observerId : String) :
    LifecycleLaw (removeObserver observerId analyzer) ↔ Balances analyzer (.remove observerId) := by
  -- What is released has to be what the observer has held.
  cases found : analyzer.observers.get? observerId with
  | none =>
    -- Without the observer, the call fails at once.
    have same : removeObserver observerId analyzer = analyzer := by
      simp only [removeObserver, found]
    rw [same]
    exact iff_of_true law fun observer stored => by rw [found] at stored; cases stored
  | some observer =>
    have distinct := (tidy.named observerId observer found).2
    simp only [lifecycleLaw_removed_iff law tidy found, Balances, found, Option.some.injEq,
      forall_eq']
    by_cases is_active : observer.active = true
    · -- An active observer releases one reference to each of its topics.
      refine iff_of_true (fun topic => ?_) fun inactive => by
        rw [is_active] at inactive
        cases inactive
      rw [(distinct is_active).count]
      simp only [listens_of_active is_active, decide_eq_true_eq]
      split
      · rename_i listed
        have referenced : 0 < analyzer.refCount topic :=
          refCount_pos law found (by simp [listens_of_active is_active, listed])
        omega
      · rfl
    · -- An inactive one has none to release.
      rw [Bool.not_eq_true] at is_active
      simp only [listens_of_inactive is_active, Bool.false_eq_true, if_false, Nat.add_zero,
        is_active, forall_const]
      constructor
      · intro kept topic listed
        have positive := List.count_pos_iff.mpr listed
        have same := kept topic
        omega
      · intro unreferenced topic
        by_cases listed : topic ∈ observer.topics
        · rw [unreferenced topic listed, Nat.zero_sub]
        · rw [List.count_eq_zero.mpr listed, Nat.sub_zero]

theorem ObserversTidy.create (law : LifecycleLaw analyzer) (tidy : ObserversTidy analyzer)
    {params : CreateObserver} (balances : Balances analyzer (.create params subscribes)) :
    ObserversTidy (createObserver subscribes params analyzer) := by
  obtain ⟨inactive, distinct, -⟩ := balances
  simp only [createObserver, createObserverWindow]
  constructor
  · -- There is no window that the new one would take the place of.
    rw [windowManager_addTopics]
    apply tidy.windows.createWindow
    have none := law.windows params.id
    rw [inactive] at none
    exact none
  · intro id observer stored
    simp only [observers_addTopics, OrderedMap.get?_set] at stored
    split at stored
    · cases stored
      exact ⟨rfl, fun _ => distinct⟩
    · exact tidy.named id observer stored

private theorem ObserversTidy.named_updated (tidy : ObserversTidy analyzer)
    (balances : Balances analyzer (.update params subscribes))
    (found : analyzer.observers.get? params.observerId = some existing) (id : String)
    (observer : StreamObserver)
    (stored : (analyzer.observers.set params.observerId (params.updated existing)).get? id =
      some observer) : observer.source.bind (·.topics) = some observer.topics ∧
      (observer.active = true → observer.topics.Nodup) := by
  obtain ⟨named, distinct⟩ := tidy.named params.observerId existing found
  have condition := balances existing found
  rw [OrderedMap.get?_set] at stored
  split at stored
  · cases stored
    rw [params.topics_updated, params.topics_eq]
    refine ⟨named, fun is_active => ?_⟩
    -- Whoever is active afterwards was active before, or has had its topics added.
    split at condition
    · split at condition
      · rw [condition]
        exact List.nodup_nil
      · exact (condition is_active).1
    · exact distinct (condition ▸ is_active)
  · exact tidy.named id observer stored

theorem ObserversTidy.update (tidy : ObserversTidy analyzer)
    (balances : Balances analyzer (.update params subscribes)) :
    ObserversTidy (updateObserver subscribes params analyzer) := by
  simp only [updateObserver]
  split
  · exact tidy
  · rename_i existing found
    have named := tidy.named_updated balances found
    have removed := tidy.windows.removeObserver params.observerId
    split
    · split
      · -- The removed window leaves room for the new one.
        constructor
        · rw [createObserverWindow, windowManager_addTopics]
          apply removed.createWindow
          have free := tidy.windows.streamCount_removeObserver params.observerId params.observerId
          rw [if_pos rfl] at free
          exact free
        · rw [createObserverWindow, observers_addTopics]
          exact named
      · exact ⟨removed, named⟩
    · exact ⟨tidy.windows, named⟩

theorem ObserversTidy.remove (tidy : ObserversTidy analyzer) (observerId : String) :
    ObserversTidy (removeObserver observerId analyzer) := by
  simp only [removeObserver]
  split
  · exact tidy
  · constructor
    · rw [windowManager_removeTopics]
      exact tidy.windows.removeObserver observerId
    · intro id observer stored
      simp only [observers_removeTopics, OrderedMap.get?_erase] at stored
      split at stored
      · cases stored
      · exact tidy.named id observer stored

theorem ObserversTidy.step (law : LifecycleLaw analyzer) (tidy : ObserversTidy analyzer)
    {call : ObserverCall} (balances : Balances analyzer call) :
    ObserversTidy (analyzer.step call) := by
  cases call with
  | create params subscribes => exact tidy.create law balances
  | update params subscribes => exact tidy.update balances
  | remove observerId => exact tidy.remove observerId

end Calls

theorem lifecycle_empty : LifecycleLaw .empty ∧ ObserversTidy .empty := by
  refine ⟨⟨fun _ => rfl, fun _ => rfl⟩, ⟨⟨?_, ?_, ?_⟩, ?_⟩⟩
  · intro stream is_stream
    cases is_stream
  · intro stream is_stream
    cases is_stream
  · intro id number registered
    cases registered
  · intro id observer stored
    cases stored

/-- The law holds after every call of exactly the runs in which every call balances. -/
theorem lifecycle_along_iff (calls : List ObserverCall) :
    Along EventStreamAnalyzer.step (fun analyzer call => LifecycleLaw (analyzer.step call))
        .empty calls ↔
      Along EventStreamAnalyzer.step Balances .empty calls := by
  -- Each of the three calls keeps the law exactly if it balances.
  have agree (analyzer : EventStreamAnalyzer) (call : ObserverCall) (law : LifecycleLaw analyzer)
      (tidy : ObserversTidy analyzer) : LifecycleLaw (analyzer.step call) ↔
        Balances analyzer call := by
    cases call with
    | create params subscribes => exact lifecycleLaw_createObserver_iff law params
    | update params subscribes => exact lifecycleLaw_updateObserver_iff law tidy params
    | remove observerId => exact lifecycleLaw_removeObserver_iff law tidy observerId
  -- The law and the tidiness together are the invariant.
  refine along_congr (fun analyzer => LifecycleLaw analyzer ∧ ObserversTidy analyzer) ?_ ?_
    lifecycle_empty calls
  · intro analyzer call holds balances
    exact ⟨(agree analyzer call holds.1 holds.2).mpr balances, holds.2.step holds.1 balances⟩
  · intro analyzer call holds
    exact agree analyzer call holds.1 holds.2

/-- An observer that is switched off keeps its window and its references. -/
theorem inactive_observer_keeps_window :
    ¬ ∀ calls : List ObserverCall,
      Along EventStreamAnalyzer.step (fun analyzer call => LifecycleLaw (analyzer.step call))
        .empty calls := by
  intro lawful
  have law := lawful [.create { id := "observer-1" } fun _ => true,
    .update { observerId := "observer-1", active := some false } fun _ => true]
  -- One stream still runs, and no observer is active.
  have one := law.2.1.windows "observer-1"
  revert one
  decide +kernel

end BitBrat
