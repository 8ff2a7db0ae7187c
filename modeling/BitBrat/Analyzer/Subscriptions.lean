import BitBrat.Analyzer.SubscriptionManager
import BitBrat.Machine.Run

/-! Overlapping calls to the subscriptions: what is left when all of them have settled. -/

namespace BitBrat

open Js Machine

def SubscriptionSystem.Settled (system : SubscriptionSystem) : Prop :=
  system.subscribing = [] ∧ system.unsubscribing = []

/-- The references count the calls, and a referenced topic has one of the given subscriptions. -/
structure SubscriptionLaw (system : SubscriptionSystem) (live : List LiveSubscription) : Prop where
  counted : ∀ topic, system.manager.getTopicRefCount topic + system.released.count topic =
    system.added.count topic
  single : ∀ topic, (live.filter (·.topic = topic)).length =
    if 0 < system.manager.getTopicRefCount topic then 1 else 0

def CallInOrder (system : SubscriptionSystem) : SubscriptionInput → Prop
  | .addTopic _ => True
  -- Only the reference of the call itself is there to be rolled back.
  | .subscribed topic succeeds => topic ∈ system.subscribing → succeeds = false →
      system.manager.getTopicRefCount topic = 1
  -- The last reference is released when there is a subscription to end.
  | .removeTopic topic => system.manager.getTopicRefCount topic = 1 → topic ∉ system.subscribing
  -- The subscription that ends is the one on record.
  | .unsubscribed topic subscription succeeds => (topic, subscription) ∈ system.unsubscribing →
      succeeds = true → system.manager.subscriptions.get? topic = some subscription

instance : ∀ system input, Decidable (CallInOrder system input)
  | _, .addTopic _ => inferInstanceAs (Decidable True)
  | system, .subscribed topic succeeds => inferInstanceAs (Decidable
      (topic ∈ system.subscribing → succeeds = false →
        system.manager.getTopicRefCount topic = 1))
  | system, .removeTopic topic => inferInstanceAs (Decidable
      (system.manager.getTopicRefCount topic = 1 → topic ∉ system.subscribing))
  | system, .unsubscribed topic subscription succeeds => inferInstanceAs (Decidable
      ((topic, subscription) ∈ system.unsubscribing → succeeds = true →
        system.manager.subscriptions.get? topic = some subscription))

def heldBy (topic : String) (live : List LiveSubscription) : List Nat :=
  (live.filter fun live => live.topic = topic ∧ live.leaked = false).map (·.number)

structure TopicView where
  count : Nat
  subscription : Option Nat
  held : List Nat
  leaving : List Nat
  subscribing : Nat
  added : Nat
  released : Nat

def SubscriptionSystem.view (system : SubscriptionSystem) (topic : String) : TopicView where
  count := system.manager.getTopicRefCount topic
  subscription := system.manager.subscriptions.get? topic
  held := heldBy topic system.live
  leaving := (system.unsubscribing.filter (·.1 = topic)).map Prod.snd
  subscribing := system.subscribing.count topic
  added := system.added.count topic
  released := system.released.count topic

inductive TopicInput where
  | add
  | subscribed (succeeds : Bool)
  | remove
  | unsubscribed (subscription : Nat) (succeeds : Bool)

/-- What one input does to a topic, with the number of the next subscription. -/
def TopicView.step (next : Nat) (view : TopicView) : TopicInput → TopicView
  | .add =>
    if view.count = 0 then
      { view with count := 1, subscribing := view.subscribing + 1 }
    else { view with count := view.count + 1, added := view.added + 1 }
  | .subscribed succeeds =>
    if view.subscribing = 0 then view
    else if succeeds then
      { view with
        subscription := some next
        held := view.held ++ [next]
        subscribing := view.subscribing - 1
        added := view.added + 1 }
    else { view with count := 0, subscribing := view.subscribing - 1 }
  | .remove =>
    if view.count = 0 then view
    else if view.count = 1 then
      { view with
        count := 0
        leaving := view.leaving ++ view.subscription.toList
        released := view.released + 1 }
    else { view with count := view.count - 1, released := view.released + 1 }
  | .unsubscribed subscription succeeds =>
    if subscription ∉ view.leaving then view
    else
      -- After a failure the subscription is still on record, but is held no longer.
      { view with
        subscription := if succeeds then none else view.subscription
        held := view.held.filter (· ≠ subscription)
        leaving := view.leaving.erase subscription }

def SubscriptionInput.topic : SubscriptionInput → String
  | .addTopic topic => topic
  | .subscribed topic _ => topic
  | .removeTopic topic => topic
  | .unsubscribed topic _ _ => topic

def SubscriptionInput.toTopic : SubscriptionInput → TopicInput
  | .addTopic _ => .add
  | .subscribed _ succeeds => .subscribed succeeds
  | .removeTopic _ => .remove
  | .unsubscribed _ subscription succeeds => .unsubscribed subscription succeeds

section

variable {system : SubscriptionSystem}

theorem leaving_erase (calls : List (String × Nat)) (topic : String) (subscription : Nat) :
    ((calls.erase (topic, subscription)).filter (·.1 = topic)).map Prod.snd =
      ((calls.filter (·.1 = topic)).map Prod.snd).erase subscription := by
  induction calls with
  | nil => rfl
  | cons call rest ih =>
    obtain ⟨name, number⟩ := call
    by_cases here : name = topic
    · subst here
      by_cases same : number = subscription
      · subst same
        simp
      · simp [same, ih]
    · have apart : (name, number) ≠ (topic, subscription) := by simp [here]
      simp [apart, here, ih]

theorem heldBy_append (topic other : String) (number : Nat) (live : List LiveSubscription) :
    heldBy other (live ++ [{ number := number, topic := topic }]) =
      if other = topic then heldBy other live ++ [number] else heldBy other live := by
  by_cases same : other = topic
  · simp [heldBy, List.filter_append, same]
  · simp [heldBy, List.filter_append, same, Ne.symm same]

theorem heldBy_ended (topic other : String) (subscription : Nat)
    (live : List LiveSubscription) :
    heldBy other (live.filter fun live => ¬(live.topic = topic ∧ live.number = subscription)) =
      if other = topic then (heldBy topic live).filter (· ≠ subscription)
      else heldBy other live := by
  -- Taking a subscription off the bus takes its number out of those held for its topic.
  simp only [heldBy, List.filter_filter]
  split
  · -- Of its own topic, exactly the one with its number goes.
    rename_i same
    subst same
    rw [List.filter_map, List.filter_filter]
    congr 1
    refine List.filter_congr fun live _ => ?_
    by_cases here : live.topic = other <;> simp [here, Bool.and_comm]
  · rename_i apart
    congr 1
    refine List.filter_congr fun live _ => ?_
    by_cases here : live.topic = other
    · simp [here, apart]
    · simp [here]

theorem heldBy_leaked (topic other : String) (subscription : Nat)
    (live : List LiveSubscription) : heldBy other (live.map fun live =>
        if live.topic = topic ∧ live.number = subscription then { live with leaked := true }
        else live) =
      if other = topic then (heldBy topic live).filter (· ≠ subscription)
      else heldBy other live := by
  -- A mark has the same effect as an end, so that the lemma for the end is used.
  rw [← heldBy_ended]
  simp only [heldBy, List.filter_map, List.map_map, List.filter_filter]
  -- The mark changes no number, and it takes the subscription out of the test.
  have numbers : (fun live : LiveSubscription => live.number) ∘ (fun live =>
      if live.topic = topic ∧ live.number = subscription then { live with leaked := true }
      else live) = fun live => live.number := by
    funext live
    simp only [Function.comp_apply]
    split <;> rfl
  rw [numbers]
  congr 1
  refine List.filter_congr fun live _ => ?_
  by_cases ended : live.topic = topic ∧ live.number = subscription
  · simp [ended]
  · have stays : decide (¬(live.topic = topic ∧ live.number = subscription)) = true :=
      decide_eq_true ended
    rw [Function.comp_apply, if_neg ended, stays, Bool.and_true]

theorem mem_leaving {topic : String} {subscription : Nat} :
    subscription ∈ (system.view topic).leaving ↔ (topic, subscription) ∈ system.unsubscribing := by
  simp [SubscriptionSystem.view]

theorem view_step_self (system : SubscriptionSystem) (input : SubscriptionInput) :
    (system.step input).view input.topic =
      (system.view input.topic).step system.nextSubscription input.toTopic := by
  -- Each input writes the entries of its own topic just as the topic does on its own.
  cases input with
  | addTopic topic =>
    simp only [SubscriptionSystem.step, SubscriptionSystem.addTopic, SubscriptionManager.addTopic,
      SubscriptionInput.topic, SubscriptionInput.toTopic, TopicView.step]
    by_cases first : system.manager.getTopicRefCount topic = 0
    · simp [SubscriptionSystem.view, first, SubscriptionManager.getTopicRefCount_set]
    · simp [SubscriptionSystem.view, first, SubscriptionManager.getTopicRefCount_set]
  | subscribed topic succeeds =>
    simp only [SubscriptionSystem.step, SubscriptionSystem.subscribed, SubscriptionInput.topic,
      SubscriptionInput.toTopic, TopicView.step]
    -- A callback that is not under way cannot come back.
    by_cases under_way : topic ∈ system.subscribing
    · have counted : system.subscribing.count topic ≠ 0 :=
        Nat.pos_iff_ne_zero.mp (List.count_pos_iff.mpr under_way)
      cases succeeds with
      | true =>
        simp [SubscriptionSystem.view, under_way, counted,
          SubscriptionManager.subscriptionCreated, SubscriptionManager.getTopicRefCount,
          heldBy_append]
      | false =>
        simp [SubscriptionSystem.view, under_way, counted,
          SubscriptionManager.subscriptionFailed, SubscriptionManager.getTopicRefCount_erase]
    · have counted : system.subscribing.count topic = 0 := List.count_eq_zero.mpr under_way
      simp [SubscriptionSystem.view, under_way, counted]
  | removeTopic topic =>
    simp only [SubscriptionSystem.step, SubscriptionSystem.removeTopic,
      SubscriptionManager.removeTopic, SubscriptionInput.topic, SubscriptionInput.toTopic,
      TopicView.step]
    by_cases absent : system.manager.getTopicRefCount topic = 0
    · simp [SubscriptionSystem.view, absent]
    · by_cases last : system.manager.getTopicRefCount topic = 1
      · -- There may be no subscription to end.
        cases on_record : system.manager.subscriptions.get? topic with
        | none =>
          simp [SubscriptionSystem.view, last, on_record,
            SubscriptionManager.getTopicRefCount_erase]
        | some subscription =>
          simp [SubscriptionSystem.view, last, on_record,
            SubscriptionManager.getTopicRefCount_erase, List.filter_append]
      · simp [SubscriptionSystem.view, absent, last, SubscriptionManager.getTopicRefCount_set]
  | unsubscribed topic subscription succeeds =>
    simp only [SubscriptionSystem.step, SubscriptionSystem.unsubscribed, SubscriptionInput.topic,
      SubscriptionInput.toTopic, TopicView.step]
    by_cases under_way : (topic, subscription) ∈ system.unsubscribing
    · simp only [mem_leaving, under_way, not_true_eq_false, ↓reduceIte]
      -- After either answer, the subscription is not held any more.
      cases succeeds with
      | true =>
        simp only [SubscriptionSystem.view, leaving_erase, heldBy_ended, ↓reduceIte,
          SubscriptionManager.subscriptionRemoved, SubscriptionManager.getTopicRefCount,
          OrderedMap.get?_erase]
      | false =>
        simp only [SubscriptionSystem.view, leaving_erase, heldBy_leaked, ↓reduceIte,
          Bool.false_eq_true]
    · simp [mem_leaving, under_way]

theorem leaving_erase_of_ne (calls : List (String × Nat)) {topic other : String}
    (apart : other ≠ topic) (subscription : Nat) :
    (calls.erase (topic, subscription)).filter (·.1 = other) = calls.filter (·.1 = other) := by
  -- The call that came back is not among those that the filter keeps.
  rw [← List.erase_filter]
  refine List.erase_of_not_mem fun listed => ?_
  exact Ne.symm apart (by simpa using List.of_mem_filter listed)

theorem view_step_of_ne (input : SubscriptionInput) {topic : String}
    (apart : topic ≠ input.topic) : (system.step input).view topic = system.view topic := by
  -- Every write of an input is under its own topic.
  cases input with
  | addTopic added =>
    simp only [SubscriptionInput.topic] at apart
    simp only [SubscriptionSystem.step, SubscriptionSystem.addTopic, SubscriptionManager.addTopic]
    by_cases first : system.manager.getTopicRefCount added = 0
    · simp [SubscriptionSystem.view, SubscriptionManager.getTopicRefCount_set, first, apart,
        Ne.symm apart]
    · simp [SubscriptionSystem.view, SubscriptionManager.getTopicRefCount_set, first, apart,
        Ne.symm apart]
  | subscribed added succeeds =>
    simp only [SubscriptionInput.topic] at apart
    simp only [SubscriptionSystem.step, SubscriptionSystem.subscribed]
    by_cases under_way : added ∈ system.subscribing
    · cases succeeds with
      | true =>
        simp [SubscriptionSystem.view, under_way, SubscriptionManager.subscriptionCreated,
          SubscriptionManager.getTopicRefCount, heldBy_append, apart, Ne.symm apart,
          List.count_erase_of_ne]
      | false =>
        simp [SubscriptionSystem.view, under_way, SubscriptionManager.subscriptionFailed,
          SubscriptionManager.getTopicRefCount_erase, apart, List.count_erase_of_ne]
    · simp [under_way]
  | removeTopic removed =>
    simp only [SubscriptionInput.topic] at apart
    simp only [SubscriptionSystem.step, SubscriptionSystem.removeTopic,
      SubscriptionManager.removeTopic]
    by_cases absent : system.manager.getTopicRefCount removed = 0
    · simp [absent]
    · by_cases last : system.manager.getTopicRefCount removed = 1
      · cases on_record : system.manager.subscriptions.get? removed with
        | none =>
          simp [SubscriptionSystem.view, last, SubscriptionManager.getTopicRefCount_erase, apart,
            Ne.symm apart]
        | some subscription =>
          simp [SubscriptionSystem.view, last, SubscriptionManager.getTopicRefCount_erase, apart,
            Ne.symm apart, List.filter_append]
      · simp [SubscriptionSystem.view, absent, last, SubscriptionManager.getTopicRefCount_set,
          apart, Ne.symm apart]
  | unsubscribed ended subscription succeeds =>
    simp only [SubscriptionInput.topic] at apart
    simp only [SubscriptionSystem.step, SubscriptionSystem.unsubscribed]
    by_cases under_way : (ended, subscription) ∈ system.unsubscribing
    · cases succeeds with
      | true =>
        simp only [SubscriptionSystem.view, under_way, not_true_eq_false, ↓reduceIte,
          SubscriptionManager.subscriptionRemoved, SubscriptionManager.getTopicRefCount,
          OrderedMap.get?_erase, heldBy_ended, if_neg apart, leaving_erase_of_ne _ apart]
      | false =>
        simp only [SubscriptionSystem.view, under_way, not_true_eq_false, ↓reduceIte,
          Bool.false_eq_true, heldBy_leaked, if_neg apart, leaving_erase_of_ne _ apart]
    · simp [under_way]

def TopicView.InOrder (view : TopicView) : TopicInput → Prop
  | .add => True
  | .subscribed succeeds => view.subscribing ≠ 0 → succeeds = false → view.count = 1
  | .remove => view.count = 1 → view.subscribing = 0
  | .unsubscribed subscription succeeds => subscription ∈ view.leaving → succeeds = true →
      view.subscription = some subscription

private theorem CallInOrder.toTopic {input : SubscriptionInput}
    (ordered : CallInOrder system input) : (system.view input.topic).InOrder input.toTopic := by
  cases input with
  | addTopic topic => trivial
  | subscribed topic succeeds =>
    intro counted failed
    exact ordered (List.count_pos_iff.mp (Nat.pos_of_ne_zero counted)) failed
  | removeTopic topic => exact fun last => List.count_eq_zero.mpr (ordered last)
  | unsubscribed topic subscription succeeds =>
    exact fun leaves succeeded => ordered (mem_leaving.mp leaves) succeeded

/-- The references count the calls, and the topic holds what it needs and what it is leaving. -/
structure TopicSound (next : Nat) (view : TopicView) : Prop where
  counted : view.count + view.released = view.added + view.subscribing
  first : view.subscribing ≤ 1
  referenced : view.count = 0 → view.subscribing = 0
  fresh : ∀ subscription ∈ view.leaving, subscription < next
  distinct : view.leaving.Nodup
  /-- A topic whose subscription has been made holds it besides those that it is leaving. -/
  current : 0 < view.count → view.subscribing = 0 → ∃ subscription,
    view.subscription = some subscription ∧ subscription < next ∧
      subscription ∉ view.leaving ∧ view.held.Perm (subscription :: view.leaving)
  idle : (view.count = 0 ∨ view.subscribing = 1) → view.held.Perm view.leaving

theorem TopicSound.mono {next later : Nat} {view : TopicView} (sound : TopicSound next view)
    (order : next ≤ later) : TopicSound later view where
  counted := sound.counted
  first := sound.first
  referenced := sound.referenced
  fresh subscription leaves := Nat.lt_of_lt_of_le (sound.fresh subscription leaves) order
  distinct := sound.distinct
  current positive made := by
    obtain ⟨subscription, on_record, given, stays, held⟩ := sound.current positive made
    exact ⟨subscription, on_record, Nat.lt_of_lt_of_le given order, stays, held⟩
  idle := sound.idle

theorem perm_filter_erase {held leaving : List Nat} (held_all : held.Perm leaving)
    (distinct : leaving.Nodup) (subscription : Nat) :
    (held.filter (· ≠ subscription)).Perm (leaving.erase subscription) := by
  rw [distinct.erase_eq_filter]
  refine (held_all.filter _).trans (.of_eq (List.filter_congr fun other _ => ?_))
  exact (decide_not).trans rfl

variable {next after : Nat} {view : TopicView}

theorem TopicSound.add (sound : TopicSound after view) :
    TopicSound after (view.step next .add) := by
  have counted := sound.counted
  have first := sound.first
  simp only [TopicView.step]
  split
  · -- The first reference waits for its subscription.
    rename_i absent
    have made := sound.referenced absent
    refine ⟨?_, ?_, ?_, sound.fresh, sound.distinct, ?_, ?_⟩
    · simp only
      omega
    · simp only
      omega
    · intro impossible
      cases impossible
    · intro _ waits
      cases waits
    · exact fun _ => sound.idle (Or.inl absent)
  · -- Another reference shares what is there, or waits for it.
    rename_i present
    refine ⟨?_, sound.first, ?_, sound.fresh, sound.distinct, ?_, ?_⟩
    · simp only
      omega
    · intro impossible
      cases impossible
    · exact fun _ made => sound.current (Nat.pos_of_ne_zero present) made
    · rintro (impossible | waits)
      · cases impossible
      · exact sound.idle (Or.inr waits)

theorem TopicSound.subscribed (sound : TopicSound next view) (order : next ≤ after)
    {succeeds : Bool} (ordered : view.InOrder (.subscribed succeeds))
    (taken : succeeds = true → view.subscribing ≠ 0 → next < after) :
    TopicSound after (view.step next (.subscribed succeeds)) := by
  -- A callback that is under way is the only one, and its topic holds what it is leaving.
  have later := sound.mono order
  have counted := sound.counted
  have first := sound.first
  simp only [TopicView.step]
  split
  · exact later
  · rename_i waits
    have one : view.subscribing = 1 := by omega
    have needed : view.count ≠ 0 := fun absent => waits (sound.referenced absent)
    have leaving := sound.idle (Or.inr one)
    cases succeeds with
    | true =>
      -- The new subscription is on record, and is held besides those that are left.
      refine ⟨?_, ?_, ?_, later.fresh, later.distinct, ?_, ?_⟩
      · simp only [↓reduceIte]
        omega
      · simp only [↓reduceIte]
        omega
      · exact fun absent => absurd absent needed
      · intro _ _
        refine ⟨next, rfl, taken rfl waits, ?_, ?_⟩
        · exact fun leaves => Nat.lt_irrefl next (sound.fresh next leaves)
        · exact (List.perm_append_singleton next view.held).trans (leaving.cons next)
      · rintro (absent | still_waits)
        · exact absurd absent needed
        · simp only [↓reduceIte] at still_waits
          omega
    | false =>
      -- Only the reference of the call itself goes.
      have only := ordered waits rfl
      refine ⟨?_, ?_, ?_, later.fresh, later.distinct, ?_, fun _ => leaving⟩
      · simp only [Bool.false_eq_true, ↓reduceIte]
        omega
      · simp only [Bool.false_eq_true, ↓reduceIte]
        omega
      · intro _
        simp only [Bool.false_eq_true, ↓reduceIte]
        omega
      · intro impossible
        cases impossible

/-- A call that removes a topic releases a reference, and the last one leaves the subscription. -/
theorem TopicSound.remove (sound : TopicSound after view) (ordered : view.InOrder .remove) :
    TopicSound after (view.step next .remove) := by
  have counted := sound.counted
  simp only [TopicView.step]
  split
  · exact sound
  · rename_i present
    split
    · -- The subscription of the last reference is left.
      rename_i last
      have made := ordered last
      obtain ⟨subscription, on_record, given, stays, held⟩ :=
        sound.current (Nat.pos_of_ne_zero present) made
      simp only [on_record, Option.toList_some]
      have moved : (subscription :: view.leaving).Perm (view.leaving ++ [subscription]) :=
        (List.perm_append_singleton subscription view.leaving).symm
      refine ⟨?_, sound.first, fun _ => made, ?_, ?_, ?_, ?_⟩
      · simp only
        omega
      · intro other leaves
        rcases List.mem_append.mp leaves with earlier | same
        · exact sound.fresh other earlier
        · rw [List.mem_singleton.mp same]
          exact given
      · exact moved.nodup_iff.mp (List.nodup_cons.mpr ⟨stays, sound.distinct⟩)
      · intro impossible
        cases impossible
      · exact fun _ => held.trans moved
    · -- The references that are left keep the subscription.
      rename_i others
      refine ⟨?_, sound.first, ?_, sound.fresh, sound.distinct, ?_, ?_⟩
      · simp only
        omega
      · intro absent
        simp only at absent
        omega
      · exact fun _ made => sound.current (Nat.pos_of_ne_zero present) made
      · rintro (absent | waits)
        · simp only at absent
          omega
        · exact sound.idle (Or.inr waits)

theorem TopicSound.unsubscribed (sound : TopicSound after view) {subscription : Nat}
    {succeeds : Bool} (ordered : view.InOrder (.unsubscribed subscription succeeds)) :
    TopicSound after (view.step next (.unsubscribed subscription succeeds)) := by
  simp only [TopicView.step]
  split
  · exact sound
  · rename_i leaves
    rw [not_not] at leaves
    refine ⟨sound.counted, sound.first, sound.referenced, ?_, sound.distinct.erase _, ?_, ?_⟩
    · exact fun other still_leaves => sound.fresh other (List.mem_of_mem_erase still_leaves)
    · intro positive made
      obtain ⟨current, on_record, given, stays, held⟩ := sound.current positive made
      -- The subscription on record stays, so another one was left.
      have apart : current ≠ subscription := by
        rintro rfl
        exact stays leaves
      have failed : succeeds = false := by
        refine Bool.eq_false_iff.mpr fun succeeded => apart ?_
        exact Option.some.inj (on_record.symm.trans (ordered leaves succeeded))
      refine ⟨current, by simpa [failed] using on_record, given, ?_, ?_⟩
      · exact fun still_leaves => stays (List.mem_of_mem_erase still_leaves)
      · have kept := perm_filter_erase held (List.nodup_cons.mpr ⟨stays, sound.distinct⟩)
          subscription
        rwa [List.erase_cons_tail (by simpa using apart)] at kept
    · intro unneeded
      exact perm_filter_erase (sound.idle unneeded) sound.distinct subscription

theorem TopicSound.step (sound : TopicSound next view) {input : TopicInput}
    (ordered : view.InOrder input) (order : next ≤ after)
    (taken : input = .subscribed true → view.subscribing ≠ 0 → next < after) :
    TopicSound after (view.step next input) := by
  have later := sound.mono order
  cases input with
  | add => exact later.add
  | subscribed succeeds =>
    exact sound.subscribed order ordered fun succeeded => taken (succeeded ▸ rfl)
  | remove => exact later.remove ordered
  | unsubscribed subscription succeeds => exact later.unsubscribed ordered

end

def SubscriptionSystem.Sound (system : SubscriptionSystem) : Prop :=
  ∀ topic, TopicSound system.nextSubscription (system.view topic)

theorem sound_empty : SubscriptionSystem.empty.Sound := fun _ =>
  { counted := rfl
    first := Nat.zero_le 1
    referenced := fun _ => rfl
    fresh := fun _ leaves => by cases leaves
    distinct := List.nodup_nil
    current := fun positive _ => by cases positive
    idle := fun _ => .nil }

theorem nextSubscription_step (system : SubscriptionSystem) (input : SubscriptionInput) :
    system.nextSubscription ≤ (system.step input).nextSubscription ∧
      (input.toTopic = .subscribed true → (system.view input.topic).subscribing ≠ 0 →
        system.nextSubscription < (system.step input).nextSubscription) := by
  -- Only a subscribe callback that succeeds takes a number.
  cases input with
  | addTopic topic =>
    simp only [SubscriptionSystem.step, SubscriptionSystem.addTopic]
    refine ⟨?_, fun other => by cases other⟩
    split <;> exact Nat.le_refl _
  | subscribed topic succeeds =>
    simp only [SubscriptionSystem.step, SubscriptionSystem.subscribed]
    constructor
    · split
      · exact Nat.le_refl _
      · split
        · exact Nat.le_succ _
        · exact Nat.le_refl _
    · intro succeeded waits
      -- A callback that is under way has made a subscription.
      cases succeeded
      have under_way : topic ∈ system.subscribing :=
        List.count_pos_iff.mp (Nat.pos_of_ne_zero waits)
      simp [under_way]
  | removeTopic topic =>
    simp only [SubscriptionSystem.step, SubscriptionSystem.removeTopic]
    refine ⟨?_, fun other => by cases other⟩
    split <;> exact Nat.le_refl _
  | unsubscribed topic subscription succeeds =>
    simp only [SubscriptionSystem.step, SubscriptionSystem.unsubscribed]
    refine ⟨?_, fun other => by cases other⟩
    split_ifs <;> exact Nat.le_refl _

theorem SubscriptionSystem.Sound.step {system : SubscriptionSystem} (sound : system.Sound)
    {input : SubscriptionInput} (ordered : CallInOrder system input) :
    (system.step input).Sound := by
  intro topic
  obtain ⟨order, taken⟩ := nextSubscription_step system input
  by_cases own : topic = input.topic
  · subst own
    rw [view_step_self]
    exact (sound input.topic).step ordered.toTopic order taken
  · rw [view_step_of_ne input own]
    exact (sound topic).mono order

/--
Calls that overlap in order leave as many references as they have added and not released. -/
theorem subscriptions_settle (inputs : List SubscriptionInput)
    (ordered : Along SubscriptionSystem.step CallInOrder .empty inputs)
    (settled : (run SubscriptionSystem.step .empty inputs).Settled) :
    let system := run SubscriptionSystem.step .empty inputs
    SubscriptionLaw system (system.live.filter (!·.leaked)) := by
  intro system
  have sound : system.Sound := run_invariant SubscriptionSystem.Sound
    (fun _ _ sound in_order => sound.step in_order) sound_empty ordered
  -- No call is waited for, and no subscription is being left.
  have made (topic : String) : (system.view topic).subscribing = 0 := by
    simp [SubscriptionSystem.view, system, settled.1]
  have none_leaves (topic : String) : (system.view topic).leaving = [] := by
    simp [SubscriptionSystem.view, system, settled.2]
  constructor
  · intro topic
    have counted := (sound topic).counted
    rw [made topic] at counted
    exact counted
  · intro topic
    have held : ((system.live.filter (!·.leaked)).filter (·.topic = topic)).length =
        (system.view topic).held.length := by
      simp only [SubscriptionSystem.view, heldBy, List.filter_filter, List.length_map]
      congr 1
      refine List.filter_congr fun live _ => ?_
      cases live.leaked <;> simp
    rw [held]
    split
    · rename_i referenced
      obtain ⟨subscription, -, -, -, alone⟩ := (sound topic).current referenced (made topic)
      rw [alone.length_eq, none_leaves]
      rfl
    · rename_i unreferenced
      rw [((sound topic).idle (Or.inl (Nat.eq_zero_of_not_pos unreferenced))).length_eq,
        none_leaves]
      rfl

/-- The topic comes back while its subscription is being ended. -/
theorem subscriptions_settle_topic :
    let system := run SubscriptionSystem.step .empty
      [.addTopic "internal.contextualization.v1", .addTopic "internal.contextualization.v1",
        .subscribed "internal.contextualization.v1" true,
        .removeTopic "internal.contextualization.v1", .removeTopic "internal.contextualization.v1",
        .addTopic "internal.contextualization.v1",
        .unsubscribed "internal.contextualization.v1" 0 true,
        .subscribed "internal.contextualization.v1" true]
    SubscriptionLaw system (system.live.filter (!·.leaked)) :=
  subscriptions_settle _ (by decide +kernel) ⟨by decide +kernel, by decide +kernel⟩

/-- A failed unsubscribe call leaves a subscription behind, although nobody refers to its topic. -/
theorem failed_unsubscribe_leaves_subscription :
    ¬ ∀ inputs : List SubscriptionInput,
      (run SubscriptionSystem.step .empty inputs).Settled →
        SubscriptionLaw (run SubscriptionSystem.step .empty inputs)
          (run SubscriptionSystem.step .empty inputs).live := by
  intro settles
  have law := settles [.addTopic "internal.contextualization.v1",
    .subscribed "internal.contextualization.v1" true,
    .removeTopic "internal.contextualization.v1",
    .unsubscribed "internal.contextualization.v1" 0 false] ⟨by decide +kernel, by decide +kernel⟩
  -- One subscription is live for a topic with no references.
  have single := law.single "internal.contextualization.v1"
  revert single
  decide +kernel

end BitBrat
