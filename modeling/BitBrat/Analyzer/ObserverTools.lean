import BitBrat.Analyzer.SubscriptionManager
import BitBrat.Analyzer.WindowManager

/-! The tools that create, update and remove observers, and the stream analyzer they act on. -/

namespace BitBrat

open Js

/-- The stored observers, their windows, and the topics that these are fed from. -/
structure EventStreamAnalyzer where
  observers : OrderedMap String StreamObserver
  windowManager : RxJSWindowManager
  subscriptionManager : SubscriptionManager
  nextSubscription : Nat

def EventStreamAnalyzer.empty : EventStreamAnalyzer where
  observers := .empty
  windowManager := .empty
  subscriptionManager := .empty
  nextSubscription := 0

def defaultTopics : List String := ["internal.contextualization.v1"]

def isSet (duration : Option ℚ≥0) : Bool := duration.any (· ≠ 0)

structure CreateObserver where
  id : String
  windowType : Option WindowType := none
  windowSizeMs : Option ℚ≥0 := none
  slideMs : Option ℚ≥0 := none
  sessionGapMs : Option ℚ≥0 := none
  platforms : Option (List String) := none
  eventTypes : Option (List String) := none
  topics : Option (List String) := none

structure UpdateObserver where
  observerId : String
  active : Option Bool := none
  windowType : Option WindowType := none
  windowSizeMs : Option ℚ≥0 := none
  slideMs : Option ℚ≥0 := none
  sessionGapMs : Option ℚ≥0 := none
  platforms : Option (List String) := none
  eventTypes : Option (List String) := none

def CreateObserver.observer (params : CreateObserver) : StreamObserver :=
  let windowType := params.windowType.getD .sliding
  { id := params.id
    active := true
    source := some {
      -- An empty list of topics stays empty.
      topics := some (params.topics.getD defaultTopics)
      filters := some { platforms := params.platforms, eventTypes := params.eventTypes } }
    window := some {
      type := windowType
      sizeMs := durationOr params.windowSizeMs (300000 : ℕ)
      slideMs :=
        if windowType = .sliding then some (durationOr params.slideMs (60000 : ℕ)) else none
      sessionGapMs :=
        if windowType = .session then
          some (durationOr params.sessionGapMs (60000 : ℕ))
        else none } }

def UpdateObserver.windowChange (params : UpdateObserver) (existing : StreamObserver) :
    Option StreamWindowConfig :=
  if params.windowType.isSome || isSet params.windowSizeMs || isSet params.slideMs ||
      isSet params.sessionGapMs then
    -- What is not given is taken from the stored window, and then from the defaults.
    let windowType := (params.windowType.or (existing.window.map (·.type))).getD .sliding
    some {
      type := windowType
      sizeMs := durationOr params.windowSizeMs
        (durationOr (existing.window.map (·.sizeMs)) (300000 : ℕ))
      slideMs :=
        if windowType = .sliding then
          some (durationOr params.slideMs
            (durationOr (existing.window.bind (·.slideMs)) (60000 : ℕ)))
        else none
      sessionGapMs :=
        if windowType = .session then
          some (durationOr params.sessionGapMs
            (durationOr (existing.window.bind (·.sessionGapMs)) (60000 : ℕ)))
        else none }
  else none

/-- The source that an update asks for, which keeps the topics, if it asks for one. -/
def UpdateObserver.sourceChange (params : UpdateObserver) (existing : StreamObserver) :
    Option StreamSource :=
  if params.platforms.isSome || params.eventTypes.isSome then
    -- Channels and topics come from the stored source, for the tool cannot change them.
    let source := existing.source.getD {}
    let filters := source.filters.getD {}
    some { source with
      filters := some { filters with
        platforms := params.platforms.or filters.platforms
        eventTypes := params.eventTypes.or filters.eventTypes } }
  else none

def UpdateObserver.updated (params : UpdateObserver) (existing : StreamObserver) :
    StreamObserver where
  id := params.observerId
  active := params.active.getD existing.active
  source := (params.sourceChange existing).or existing.source
  window := (params.windowChange existing).or existing.window

def UpdateObserver.recreates (params : UpdateObserver) (existing : StreamObserver) : Bool :=
  (params.windowChange existing).isSome || (params.sourceChange existing).isSome

def StreamObserver.topics (observer : StreamObserver) : List String :=
  (observer.source.bind (·.topics)).getD defaultTopics

/-- Take a reference to a topic, and tell whether that went well. -/
def addTopic (subscribes : String → Bool) (topic : String) (analyzer : EventStreamAnalyzer) :
    EventStreamAnalyzer × Bool :=
  let (manager, needed) := analyzer.subscriptionManager.addTopic topic
  -- Only the first reference to a topic subscribes to it.
  if !needed then ({ analyzer with subscriptionManager := manager }, true)
  else if subscribes topic then
    ({ analyzer with
      subscriptionManager := manager.subscriptionCreated topic analyzer.nextSubscription
      nextSubscription := analyzer.nextSubscription + 1 }, true)
  else ({ analyzer with subscriptionManager := manager.subscriptionFailed topic }, false)

/-- Take a reference to each topic in turn, where a failure ends the whole call. -/
def addTopics (subscribes : String → Bool) :
    List String → EventStreamAnalyzer → EventStreamAnalyzer
  | [], analyzer => analyzer
  | topic :: rest, analyzer =>
    let (added, succeeded) := addTopic subscribes topic analyzer
    -- The topics behind a failed one are not reached, and those before it stay added.
    if succeeded then addTopics subscribes rest added else added

/-- Release a reference to each topic, where nothing has to be done to unsubscribe. -/
def removeTopics : List String → EventStreamAnalyzer → EventStreamAnalyzer
  | [], analyzer => analyzer
  | topic :: rest, analyzer =>
    let (manager, result) := analyzer.subscriptionManager.removeTopic topic
    removeTopics rest { analyzer with
      subscriptionManager :=
        match result with
        | .unsubscribe _ => manager.subscriptionRemoved topic
        | _ => manager }

/-- Create the window of an observer, and subscribe to its topics. -/
def createObserverWindow (subscribes : String → Bool) (observer : StreamObserver)
    (analyzer : EventStreamAnalyzer) : EventStreamAnalyzer :=
  addTopics subscribes observer.topics
    { analyzer with windowManager := analyzer.windowManager.createWindow observer }

/-- Create an observer, also when there is one with its identifier. -/
def createObserver (subscribes : String → Bool) (params : CreateObserver)
    (analyzer : EventStreamAnalyzer) : EventStreamAnalyzer :=
  createObserverWindow subscribes params.observer
    { analyzer with observers := analyzer.observers.set params.id params.observer }

/-- Update an observer, and make its window anew where the window or the source has changed. -/
def updateObserver (subscribes : String → Bool) (params : UpdateObserver)
    (analyzer : EventStreamAnalyzer) : EventStreamAnalyzer :=
  match analyzer.observers.get? params.observerId with
  | none => analyzer
  | some existing =>
    let updated := params.updated existing
    let stored :=
      { analyzer with observers := analyzer.observers.set params.observerId updated }
    -- Only a change of the window or of the source counts, and not one of the activity.
    if params.recreates existing then
      -- The old window goes, while the references to its topics stay.
      let removed := { stored with
        windowManager := stored.windowManager.removeObserver params.observerId }
      if updated.active then createObserverWindow subscribes updated removed else removed
    else stored

/-- Remove an observer with its window, and release the topics that it names. -/
def removeObserver (observerId : String) (analyzer : EventStreamAnalyzer) : EventStreamAnalyzer :=
  match analyzer.observers.get? observerId with
  | none => analyzer
  | some observer =>
    -- Where no topics are stored, none are released, not even the default ones.
    let released := removeTopics ((observer.source.bind (·.topics)).getD [])
      { analyzer with windowManager := analyzer.windowManager.removeObserver observerId }
    { released with observers := released.observers.erase observerId }

/-- A call of one of the tools, with the topics that can be subscribed to while it runs. -/
inductive ObserverCall where
  | create (params : CreateObserver) (subscribes : String → Bool)
  | update (params : UpdateObserver) (subscribes : String → Bool)
  | remove (observerId : String)

def EventStreamAnalyzer.step (analyzer : EventStreamAnalyzer) : ObserverCall → EventStreamAnalyzer
  | .create params subscribes => createObserver subscribes params analyzer
  | .update params subscribes => updateObserver subscribes params analyzer
  | .remove observerId => removeObserver observerId analyzer

end BitBrat
