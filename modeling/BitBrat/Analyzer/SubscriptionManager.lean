import BitBrat.Js.OrderedMap

/-! Topic subscriptions that are counted by reference, with one call for each callback. -/

namespace BitBrat

open Js

/-- The reference counts of the topics, and the unsubscribe function of each subscription. -/
structure SubscriptionManager where
  topicCounts : OrderedMap String Nat
  subscriptions : OrderedMap String Nat

namespace SubscriptionManager

def empty : SubscriptionManager where
  topicCounts := .empty
  subscriptions := .empty

/-- The references to a topic, where a topic that is not there has none. -/
def getTopicRefCount (manager : SubscriptionManager) (topic : String) : Nat :=
  (manager.topicCounts.get? topic).getD 0

/-- Take a reference, and tell whether a subscription has to be made for it. -/
def addTopic (manager : SubscriptionManager) (topic : String) : SubscriptionManager × Bool :=
  let currentCount := manager.getTopicRefCount topic
  -- The reference is counted before the subscription is there.
  ({ manager with topicCounts := manager.topicCounts.set topic (currentCount + 1) },
    currentCount = 0)

def subscriptionCreated (manager : SubscriptionManager) (topic : String) (subscription : Nat) :
    SubscriptionManager :=
  { manager with subscriptions := manager.subscriptions.set topic subscription }

/-- The subscription could not be made: the count goes back to what it was before the call. -/
def subscriptionFailed (manager : SubscriptionManager) (topic : String) : SubscriptionManager :=
  -- Only a first reference subscribes, so the count before the call was zero.
  { manager with topicCounts := manager.topicCounts.erase topic }

inductive ReleaseResult where
  | notFound
  | released
  | unsubscribe (subscription : Nat)
  deriving DecidableEq

/-- Release a reference, and tell which subscription is not needed any more. -/
def removeTopic (manager : SubscriptionManager) (topic : String) :
    SubscriptionManager × ReleaseResult :=
  let currentCount := manager.getTopicRefCount topic
  if currentCount = 0 then (manager, .notFound)
  else if currentCount = 1 then
    -- The last reference is gone before the subscription is.
    let released := { manager with topicCounts := manager.topicCounts.erase topic }
    match manager.subscriptions.get? topic with
    | some subscription => (released, .unsubscribe subscription)
    | none => (released, .released)
  else
    -- Other references are left.
    ({ manager with topicCounts := manager.topicCounts.set topic (currentCount - 1) }, .released)

/-- The subscription has been ended. After a failure, it stays in the map. -/
def subscriptionRemoved (manager : SubscriptionManager) (topic : String) : SubscriptionManager :=
  { manager with subscriptions := manager.subscriptions.erase topic }

theorem getTopicRefCount_set (counts : OrderedMap String Nat)
    (subscriptions : OrderedMap String Nat) (topic other : String) (count : Nat) :
    getTopicRefCount { topicCounts := counts.set topic count, subscriptions } other =
      if other = topic then count else getTopicRefCount { topicCounts := counts, subscriptions }
        other := by
  simp only [getTopicRefCount, OrderedMap.get?_set]
  split <;> rfl

theorem getTopicRefCount_erase (counts : OrderedMap String Nat)
    (subscriptions : OrderedMap String Nat) (topic other : String) :
    getTopicRefCount { topicCounts := counts.erase topic, subscriptions } other =
      if other = topic then 0 else getTopicRefCount { topicCounts := counts, subscriptions }
        other := by
  simp only [getTopicRefCount, OrderedMap.get?_erase]
  split <;> rfl

section

variable (manager : SubscriptionManager) (topic other : String)

theorem getTopicRefCount_addTopic : (manager.addTopic topic).1.getTopicRefCount other =
    manager.getTopicRefCount other + if topic = other then 1 else 0 := by
  simp only [addTopic, getTopicRefCount_set]
  by_cases same : topic = other
  · simp [same]
  · simp [same, Ne.symm same]

@[simp] theorem getTopicRefCount_subscriptionCreated (subscription : Nat) :
    (manager.subscriptionCreated topic subscription).getTopicRefCount other =
      manager.getTopicRefCount other := rfl

theorem getTopicRefCount_subscriptionFailed :
    (manager.subscriptionFailed topic).getTopicRefCount other =
      if other = topic then 0 else manager.getTopicRefCount other :=
  getTopicRefCount_erase manager.topicCounts manager.subscriptions topic other

theorem getTopicRefCount_removeTopic : (manager.removeTopic topic).1.getTopicRefCount other =
    manager.getTopicRefCount other - if topic = other then 1 else 0 := by
  -- The three branches release nothing, the last reference, or one of several.
  simp only [removeTopic]
  by_cases absent : manager.getTopicRefCount topic = 0
  · -- Without a reference there is nothing to release.
    by_cases same : topic = other
    · simp [absent, ← same]
    · simp [absent, same]
  · by_cases last : manager.getTopicRefCount topic = 1
    · have erased := getTopicRefCount_erase manager.topicCounts manager.subscriptions topic other
      by_cases same : topic = other
      · cases manager.subscriptions.get? topic <;> simp_all
      · cases manager.subscriptions.get? topic <;> simp_all [Ne.symm same]
    · by_cases same : topic = other
      · simp [absent, last, getTopicRefCount_set, ← same]
      · simp [absent, last, getTopicRefCount_set, same, Ne.symm same]

@[simp] theorem getTopicRefCount_subscriptionRemoved :
    (manager.subscriptionRemoved topic).getTopicRefCount other = manager.getTopicRefCount other :=
  rfl

end

end SubscriptionManager

/-- A subscription on the bus, which a failed unsubscribe call leaves behind. -/
structure LiveSubscription where
  number : Nat
  topic : String
  leaked : Bool := false
  deriving DecidableEq

/-- The manager with the calls that are under way, and the subscriptions on the bus. -/
structure SubscriptionSystem where
  manager : SubscriptionManager
  live : List LiveSubscription
  nextSubscription : Nat
  subscribing : List String
  unsubscribing : List (String × Nat)
  added : List String
  released : List String

def SubscriptionSystem.empty : SubscriptionSystem where
  manager := .empty
  live := []
  nextSubscription := 0
  subscribing := []
  unsubscribing := []
  added := []
  released := []

inductive SubscriptionInput where
  | addTopic (topic : String)
  | subscribed (topic : String) (succeeds : Bool)
  | removeTopic (topic : String)
  | unsubscribed (topic : String) (subscription : Nat) (succeeds : Bool)

namespace SubscriptionSystem

def addTopic (system : SubscriptionSystem) (topic : String) : SubscriptionSystem :=
  let (manager, subscribes) := system.manager.addTopic topic
  -- Without a subscription to make, the call is over.
  if subscribes then { system with manager, subscribing := system.subscribing ++ [topic] }
  else { system with manager, added := system.added ++ [topic] }

def subscribed (system : SubscriptionSystem) (topic : String) (succeeds : Bool) :
    SubscriptionSystem :=
  if topic ∉ system.subscribing then system
  else if succeeds then
    { system with
      manager := system.manager.subscriptionCreated topic system.nextSubscription
      live := system.live ++ [{ number := system.nextSubscription, topic }]
      nextSubscription := system.nextSubscription + 1
      subscribing := system.subscribing.erase topic
      added := system.added ++ [topic] }
  else
    { system with
      -- The call fails, and its reference is given back with it.
      manager := system.manager.subscriptionFailed topic
      subscribing := system.subscribing.erase topic }

def removeTopic (system : SubscriptionSystem) (topic : String) : SubscriptionSystem :=
  let (manager, result) := system.manager.removeTopic topic
  match result with
  | .notFound => system
  | .released => { system with manager, released := system.released ++ [topic] }
  | .unsubscribe subscription =>
    { system with
      manager
      -- The reference is gone before the unsubscribe function is called.
      unsubscribing := system.unsubscribing ++ [(topic, subscription)]
      released := system.released ++ [topic] }

def unsubscribed (system : SubscriptionSystem) (topic : String) (subscription : Nat)
    (succeeds : Bool) : SubscriptionSystem :=
  if (topic, subscription) ∉ system.unsubscribing then system
  else if succeeds then
    { system with
      manager := system.manager.subscriptionRemoved topic
      live := system.live.filter fun live => ¬(live.topic = topic ∧ live.number = subscription)
      unsubscribing := system.unsubscribing.erase (topic, subscription) }
  else
    { system with
      -- The bus goes on delivering to a subscription whose unsubscribe call has failed.
      live := system.live.map fun live =>
        if live.topic = topic ∧ live.number = subscription then { live with leaked := true }
        else live
      unsubscribing := system.unsubscribing.erase (topic, subscription) }

def step (system : SubscriptionSystem) : SubscriptionInput → SubscriptionSystem
  | .addTopic topic => system.addTopic topic
  | .subscribed topic succeeds => system.subscribed topic succeeds
  | .removeTopic topic => system.removeTopic topic
  | .unsubscribed topic subscription succeeds => system.unsubscribed topic subscription succeeds

end SubscriptionSystem

end BitBrat
