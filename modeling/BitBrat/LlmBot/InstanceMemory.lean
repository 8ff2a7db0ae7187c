import BitBrat.Disposition.Context
import Mathlib.Data.NNRat.Floor
import Mathlib.Algebra.Order.Floor.Semiring
import Mathlib.Data.Rat.Floor

/-! The short-term memory of the bot: turns by conversation, with limits, in one process. -/

namespace BitBrat

open Js

inductive ChatRole where
  | system
  | user
  | assistant
  deriving DecidableEq

structure ChatMessage where
  role : ChatRole
  content : String
  createdAt : String
  deriving DecidableEq

structure MemoryEntry where
  turns : List ChatMessage
  updatedAt : Int
  deriving DecidableEq

structure MemoryLimits where
  maxKeys : ℚ≥0
  maxMessagesPerKey : ℚ≥0
  maxCharsPerKey : ℚ≥0
  ttlMs : ℚ≥0

abbrev MemoryMap := OrderedMap String MemoryEntry

section

variable (limits : MemoryLimits)

def approxChars (msgs : List ChatMessage) : Nat :=
  (msgs.map fun turn => (codeUnits turn.content).length).sum

/-- Drop the oldest turns while there are too many characters. -/
def trimChars : List ChatMessage → List ChatMessage
  | [] => []
  | turn :: rest =>
    if limits.maxCharsPerKey < approxChars (turn :: rest) then trimChars rest else turn :: rest

/-- A slice with a negative start: the last items, but all items when the start is zero. -/
def sliceFromEnd {α : Type} (count : ℚ≥0) (items : List α) : List α :=
  if ⌊count⌋₊ = 0 then items else items.drop (items.length - ⌊count⌋₊)

/-- Trim by characters first, and then by the number of turns. -/
def trimTurns (turns : List ChatMessage) : List ChatMessage :=
  let out := trimChars limits turns
  if limits.maxMessagesPerKey < out.length then sliceFromEnd limits.maxMessagesPerKey out else out

def MemoryEntry.expired (entry : MemoryEntry) (now : Int) : Bool :=
  (limits.ttlMs : ℚ) < ((now - entry.updatedAt : Int) : ℚ)

/-- Evict what has expired, and then what was updated least recently if there is too much. -/
def evictExpiredAndExcess (now : Int) (map : MemoryMap) : MemoryMap :=
  let map := map.filter fun entry => !entry.2.expired limits now
  if limits.maxKeys < map.size then
    let entries := map.entries.mergeSort fun left right => left.2.updatedAt ≤ right.2.updatedAt
    let toDrop := ⌈(map.size : ℚ) - limits.maxKeys⌉₊
    map.filter fun entry => entry.1 ∉ (entries.take toDrop).map Prod.fst
  else map

def InstanceMemoryStore.read (now : Int) (key : String) (map : MemoryMap) :
    MemoryMap × List ChatMessage :=
  let map := evictExpiredAndExcess limits now map
  match map.get? key with
  | none => (map, [])
  | some entry => if entry.expired limits now then (map.erase key, []) else (map, entry.turns)

/-- Append turns to a conversation, once the lock of its key is free. -/
def InstanceMemoryStore.append (now : Int) (key : String) (newTurns : List ChatMessage)
    (map : MemoryMap) : MemoryMap :=
  let prior := ((map.get? key).map (·.turns)).getD []
  let merged := trimTurns limits (prior ++ newTurns)
  evictExpiredAndExcess limits now (map.set key { turns := merged, updatedAt := now })

end

/-- A call that waits for its turn, or has had it and not released its lock. -/
structure PendingAppend where
  call : Nat
  key : String
  newTurns : List ChatMessage
  prev : Option Nat
  ran : Bool := false

structure MemoryState where
  map : MemoryMap := .empty
  locks : OrderedMap String Nat := .empty
  pending : List PendingAppend := []
  calls : Nat := 0
  now : Int
  /-- The turns of the calls that ran since the key was last reset, evicted or expired. -/
  history : String → List (Nat × List ChatMessage) := fun _ => []

inductive MemoryInput where
  | append (key : String) (newTurns : List ChatMessage)
  | runAppend (index : Nat)
  | releaseAppend (index : Nat)
  | read (key : String)
  | reset (key : String)
  | advance (ms : Nat)

def keepHistory (map : MemoryMap) (history : String → List (Nat × List ChatMessage)) :
    String → List (Nat × List ChatMessage) :=
  fun key => if (map.get? key).isSome then history key else []

/-- A call among others, in the order of the calls. -/
def insertCall (call : Nat × List ChatMessage) :
    List (Nat × List ChatMessage) → List (Nat × List ChatMessage)
  | [] => [call]
  | other :: rest =>
    if call.1 < other.1 then call :: other :: rest else other :: insertCall call rest

def recordCall (pending : PendingAppend) (history : String → List (Nat × List ChatMessage)) :
    String → List (Nat × List ChatMessage) :=
  fun key =>
    if key = pending.key then insertCall (pending.call, pending.newTurns) (history key)
    else history key

/-- A call may run when the one that it waits for, if there is one, has released its lock. -/
def MemoryState.ready (state : MemoryState) (pending : PendingAppend) : Bool :=
  !pending.ran && pending.prev.all fun prev => state.pending.all fun other => other.call ≠ prev

section

variable (limits : MemoryLimits) (state : MemoryState)

/-- The memory with a new map, from which keys may have gone. -/
def MemoryState.evicted (map : MemoryMap) : MemoryState :=
  { state with map, history := keepHistory map state.history }

def MemoryState.runAppend (index : Nat) (pending : PendingAppend) : MemoryState :=
  let map := InstanceMemoryStore.append limits state.now pending.key pending.newTurns state.map
  { state with
    map
    pending := state.pending.set index { pending with ran := true }
    history := keepHistory map (recordCall pending state.history) }

def memoryStep : MemoryInput → MemoryState
  | .append key newTurns =>
    { state with
      locks := state.locks.set key state.calls
      pending := state.pending ++
        [{ call := state.calls, key, newTurns, prev := state.locks.get? key }]
      calls := state.calls + 1 }
  | .runAppend index =>
    match state.pending[index]? with
    | some pending =>
      if state.ready pending then state.runAppend limits index pending else state
    | none => state
  | .releaseAppend index =>
    match state.pending[index]? with
    | some pending =>
      if pending.ran then
        { state with
          pending := state.pending.eraseIdx index
          -- The lock goes, whoever waits for it.
          locks := state.locks.erase pending.key }
      else state
    | none => state
  | .read key => state.evicted (InstanceMemoryStore.read limits state.now key state.map).1
  | .reset key => state.evicted (state.map.erase key)
  | .advance ms =>
    let now := state.now + ms
    { state with
      now
      -- A key has expired as soon as its time is over.
      history := fun key =>
        if (state.map.get? key).any (·.expired limits now) then [] else state.history key }

end

structure ConversationEvent where
  channel : Option String := none
  identity : EventIdentity

def memoryKeyFor (event : ConversationEvent) : String :=
  let channel := textOr event.channel "default"
  let userId := textOr event.identity.userId (textOr event.identity.externalId "anon")
  channel ++ ":" ++ userId

end BitBrat
