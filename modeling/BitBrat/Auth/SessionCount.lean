import BitBrat.Auth.UserRepo
import BitBrat.Js.Spread
import BitBrat.Machine.Groups
import BitBrat.Persistence.Merge

/-! Counting messages and sessions: what a user document says after any number of messages. -/

namespace BitBrat

open Js Machine

structure UserCall (env : UserRepoEnv) where
  data : UserData
  nowIso : String
  suffix : String
  time : Int
  parsed : env.parseDate nowIso = some time

def ensureStep (backend : Backend) (env : UserRepoEnv) (id : String)
    (state : UserTable × List EnsureResult) (call : UserCall env) :
    UserTable × List EnsureResult :=
  let answered := ensureUserOnMessage backend env state.1 id call.data call.nowIso call.suffix
  (answered.2, state.2 ++ [answered.1])

/-- The users and the answers after the messages of a user, taken one at a time. -/
def ensureRun (backend : Backend) (env : UserRepoEnv) (id : String) (users : UserTable)
    (calls : List (UserCall env)) : UserTable × List EnsureResult :=
  run (ensureStep backend env id) (users, []) calls

def sameSession (earlier later : Int) : Bool := later - earlier < INACTIVITY_MS_24H

def callTimes {env : UserRepoEnv} (calls : List (UserCall env)) : List Int :=
  calls.map UserCall.time

@[simp] theorem callTimes_append {env : UserRepoEnv} (calls : List (UserCall env))
    (call : UserCall env) : callTimes (calls ++ [call]) = callTimes calls ++ [call.time] := by
  simp [callTimes]

structure SessionsCounted {env : UserRepoEnv} (calls : List (UserCall env))
    (results : List EnsureResult) (document : Value) : Prop where
  messages : document.get "messageCountAllTime" = .num (.finite (calls.length : ℚ))
  sessions : document.get "sessionCount" =
    .num (.finite (((callTimes calls).splitBy sameSession).length : ℚ))
  firstSeen : ∀ first ∈ calls.head?, document.get "firstSeenAt" = .str first.nowIso
  lastSeen : ∀ last ∈ calls.getLast?, document.get "lastSeenAt" = .str last.nowIso
  lastActivity : ∀ last ∈ calls.getLast?,
    document.get "lastSessionActivityAt" = .str last.nowIso
  firstFlags : results.map EnsureResult.isFirstMessage =
    (List.range calls.length).map fun index => index == 0
  sessionFlags : results.map EnsureResult.isNewSession =
    groupStarts sameSession (callTimes calls)
  roles : ∃ roles, document.get "roles" = textList roles

@[simp] theorem strip_textList (texts : List String) :
    stripUndefinedDeep (textList texts) = textList texts := by
  have items (rest : List String) :
      stripUndefinedDeep.stripItems (rest.map Value.str) = rest.map Value.str := by
    induction rest with
    | nil => rfl
    | cons text rest ih => simp [stripUndefinedDeep.stripItems, ih]
  simp [textList, stripUndefinedDeep, items]

structure Plain (value : Value) : Prop where
  present : value ≠ .undefined
  bare : value.fields = []
  stripped : stripUndefinedDeep value = value

theorem Plain.str (text : String) : Plain (.str text) := ⟨by simp, rfl, strip_str text⟩

theorem Plain.num (number : Number) : Plain (.num number) := ⟨by simp, rfl, strip_num number⟩

theorem Plain.texts (texts : List String) : Plain (textList texts) :=
  ⟨by simp [textList], rfl, strip_textList texts⟩

theorem exists_texts {items : List Value}
    (each : ∀ item ∈ items, ∃ text, item = .str text) :
    ∃ texts : List String, items = texts.map Value.str := by
  induction items with
  | nil => exact ⟨[], rfl⟩
  -- Text by text, the list of values is the list of its texts.
  | cons item rest ih =>
    obtain ⟨text, rfl⟩ := each item List.mem_cons_self
    obtain ⟨texts, rfl⟩ := ih fun other member => each other (List.mem_cons_of_mem _ member)
    exact ⟨text :: texts, rfl⟩

theorem storedRoles_of_texts {document : Value} {roles : List String}
    (holds : document.get "roles" = textList roles) :
    storedRoles document = roles.map .str := by
  simp [storedRoles, holds, textList]

theorem mergedRoles_spec {existing : Value} {roles : List String}
    (holds : existing.get "roles" = textList roles) (data : UserData) :
    ∃ merged, mergedRoles existing data = textList merged ∧ roles ⊆ merged := by
  have texts : ∀ item ∈ (roles.map Value.str ++ (data.roles.getD []).map Value.str).eraseDups,
      ∃ text, item = .str text := by
    intro item member
    rw [List.mem_eraseDups, List.mem_append, List.mem_map, List.mem_map] at member
    -- Stored roles and given ones are both texts.
    rcases member with ⟨text, _, rfl⟩ | ⟨text, _, rfl⟩ <;> exact ⟨text, rfl⟩
  obtain ⟨merged, listed⟩ := exists_texts texts
  refine ⟨merged, by rw [mergedRoles, storedRoles_of_texts holds, listed, textList], ?_⟩
  intro role member
  -- A stored role is one of the values that the duplicates are dropped from.
  have kept : Value.str role ∈ merged.map Value.str := by
    rw [← listed, List.mem_eraseDups, List.mem_append]
    exact .inl (List.mem_map_of_mem member)
  obtain ⟨other, other_member, same⟩ := List.mem_map.mp kept
  cases same
  exact other_member

section Written

variable (backend : Backend) (env : UserRepoEnv) {users : UserTable} {id : String}
  (data : UserData) (nowIso suffix : String)

theorem ensure_created (absent : users.get? id = none) :
    let initial := initialUser backend env id data nowIso suffix
    let answered := ensureUserOnMessage backend env users id data nowIso suffix
    answered.1.isFirstMessage = true ∧ answered.1.isNewSession = true ∧
      answered.2.get? id = some (stored (removeUndefined initial)) := by
  -- Both repositories store the first document as it was built.
  cases backend with
  | firestore =>
    simp [ensureUserOnMessage, FirestoreUserRepo.ensureUserOnMessage, absent, Backend.setMerged]
  | documentStore =>
    simp [ensureUserOnMessage, DocumentStoreUserRepo.ensureUserOnMessage, absent]

theorem ensure_updated {existing : Value} (found : users.get? id = some existing) :
    let update := userUpdate backend env id existing data nowIso suffix
    let answered := ensureUserOnMessage backend env users id data nowIso suffix
    answered.1.isFirstMessage = decide (counter existing "messageCountAllTime" = .finite 0) ∧
      answered.1.isNewSession = startsSession env existing nowIso ∧
      ∃ document, answered.2.get? id = some document ∧
        (∀ key text, key ≠ "id" → update.get key = .undefined → existing.get key = .str text →
          document.get key = .str text) ∧
        ∀ key value, key ≠ "id" → update.get key = value → Plain value →
          document.get key = value := by
  cases backend with
  -- One repository merges the update into the document, the other writes it over.
  | firestore =>
    simp only [ensureUserOnMessage, FirestoreUserRepo.ensureUserOnMessage, found,
      Backend.setMerged, OrderedMap.get?_set_self, true_and, Option.some.injEq]
    refine ⟨_, rfl, ?_, ?_⟩
    · -- What the update does not name is kept.
      intro key text _ silent held
      simp [stored, get_merge, silent, held]
    · intro key value _ written plain
      -- A value that is no map replaces what it meets.
      simp only [stored, get_merge, get_removeUndefined, written, if_neg plain.present,
        plain.stripped]
      exact Value.deepMerge_of_no_fields plain.bare _
  | documentStore =>
    simp only [ensureUserOnMessage, DocumentStoreUserRepo.ensureUserOnMessage, found,
      OrderedMap.get?_set_self, true_and, Option.some.injEq]
    refine ⟨_, rfl, ?_, ?_⟩
    · -- A flat write starts from the whole document.
      intro key text apart silent held
      rw [stored, get_stored_identified _ _ apart, if_pos silent, held, strip_str]
    · intro key value apart written plain
      rw [stored, get_stored_identified _ _ apart, written, if_neg plain.present, plain.stripped]

end Written

theorem counter_of_num {document : Value} {key : String} {count : ℚ}
    (holds : document.get key = .num (.finite count)) : counter document key = .finite count := by
  unfold counter
  rw [holds]
  -- A zero is falsy, and stands for itself.
  by_cases zero : count = 0
  · subst zero
    rfl
  · rw [Value.or_of_truthy (by simpa [Value.truthy, Number.truthy] using zero)]

private theorem UserCall.nowIso_ne_empty {env : UserRepoEnv} (call : UserCall env) :
    call.nowIso ≠ "" := by
  intro empty
  have parsed := call.parsed
  rw [empty, env.parseDate_empty] at parsed
  cases parsed

theorem startsSession_eq {env : UserRepoEnv} {existing : Value} (last call : UserCall env)
    (active : existing.get "lastSessionActivityAt" = .str last.nowIso) :
    startsSession env existing call.nowIso = !sameSession last.time call.time := by
  -- The last activity is recorded, and no default takes its place.
  have holds : (Value.str last.nowIso).truthy = true := by simpa using last.nowIso_ne_empty
  simp only [startsSession, active, Value.or_of_truthy holds, UserRepoEnv.parse, call.parsed,
    last.parsed, sameSession]
  rw [← decide_not, decide_eq_decide]
  omega

theorem get_userUpdate (backend : Backend) (env : UserRepoEnv) (id : String)
    (existing : Value) (data : UserData) (nowIso suffix : String) :
    let update := userUpdate backend env id existing data nowIso suffix
    let session := if startsSession env existing nowIso then Number.finite 1 else .finite 0
    update.get "lastSeenAt" = .str nowIso ∧
      update.get "lastSessionActivityAt" = .str nowIso ∧
      update.get "messageCountAllTime" =
        .num ((counter existing "messageCountAllTime").add (.finite 1)) ∧
      update.get "sessionCount" = .num ((counter existing "sessionCount").add session) ∧
      update.get "roles" = mergedRoles existing data ∧
      update.get "firstSeenAt" = .undefined := by
  refine ⟨?_, ?_, ?_, ?_, ?_, ?_⟩ <;>
    simp only [userUpdate, List.append_assoc, List.cons_append, Value.get_obj_cons] <;>
    simp
  -- No optional property is the time of the first message.
  cases backend <;> by_cases starts : startsSession env existing nowIso <;>
    simp [starts, Value.get_obj_cons]

theorem get_initialUser (backend : Backend) (env : UserRepoEnv) (id : String)
    (data : UserData) (nowIso suffix : String) :
    let initial := stored (removeUndefined (initialUser backend env id data nowIso suffix))
    initial.get "messageCountAllTime" = .num (.finite 1) ∧
      initial.get "sessionCount" = .num (.finite 1) ∧
      initial.get "firstSeenAt" = .str nowIso ∧ initial.get "lastSeenAt" = .str nowIso ∧
      initial.get "lastSessionActivityAt" = .str nowIso ∧
      initial.get "roles" = textList (data.roles.getD []) := by
  -- None of these fields is undefined, so storing leaves them.
  refine ⟨?_, ?_, ?_, ?_, ?_, ?_⟩ <;>
    rw [stored, get_strip, get_removeUndefined] <;> cases backend <;>
    simp [initialUser, initialFields, Value.get_obj_cons]

theorem SessionsCounted.create (backend : Backend) {env : UserRepoEnv} {users : UserTable}
    {id : String} (absent : users.get? id = none) (call : UserCall env) :
    let answered := ensureUserOnMessage backend env users id call.data call.nowIso call.suffix
    ∃ document, answered.2.get? id = some document ∧
      SessionsCounted [call] [answered.1] document := by
  obtain ⟨first, starts, found⟩ := ensure_created backend env call.data call.nowIso
    call.suffix absent
  obtain ⟨messages, sessions, firstSeen, lastSeen, active, roles⟩ :=
    get_initialUser backend env id call.data call.nowIso call.suffix
  refine ⟨_, found, ?_⟩
  exact
    { messages := by simp [messages]
      sessions := by
        rw [sessions]
        -- One message is one group.
        rfl
      firstSeen := by simp [firstSeen]
      lastSeen := by simp [lastSeen]
      lastActivity := by simp [active]
      firstFlags := by simp [first]
      sessionFlags := by simp [starts, callTimes]
      roles := ⟨_, roles⟩ }

theorem SessionsCounted.update (backend : Backend) {env : UserRepoEnv} {users : UserTable}
    {id : String} {existing : Value} (found : users.get? id = some existing)
    {calls : List (UserCall env)} {results : List EnsureResult} (some_calls : calls ≠ [])
    (counted : SessionsCounted calls results existing) (call : UserCall env) :
    let answered := ensureUserOnMessage backend env users id call.data call.nowIso call.suffix
    ∃ document, answered.2.get? id = some document ∧
      SessionsCounted (calls ++ [call]) (results ++ [answered.1]) document ∧
      storedRoles existing ⊆ storedRoles document := by
  intro answered
  -- The message before this one decides whether a session starts.
  obtain ⟨last, ends⟩ : ∃ last, calls.getLast? = some last :=
    ⟨_, List.getLast?_eq_some_getLast some_calls⟩
  obtain ⟨opening, opens⟩ : ∃ opening, calls.head? = some opening :=
    ⟨_, List.head?_eq_some_head some_calls⟩
  have time_ends : (callTimes calls).getLast? = some last.time := by
    simp [callTimes, List.getLast?_map, ends]
  have starts := startsSession_eq last call (counted.lastActivity last (by simp [ends]))
  obtain ⟨first, fresh, document, stays, kept, written⟩ := ensure_updated backend env call.data
    call.nowIso call.suffix found
  obtain ⟨lastSeen, active, messages, sessions, roles, firstSeen⟩ :=
    get_userUpdate backend env id existing call.data call.nowIso call.suffix
  obtain ⟨earlier, held⟩ := counted.roles
  obtain ⟨merged, merges, grows⟩ := mergedRoles_spec held call.data
  have newRoles : document.get "roles" = textList merged :=
    written "roles" _ (by decide) (roles.trans merges) (.texts merged)
  rw [counter_of_num counted.messages] at messages first
  rw [counter_of_num counted.sessions, starts] at sessions
  refine ⟨document, stays, ?_, ?_⟩
  · exact
      { messages := by
          rw [written _ _ (by decide) messages (.num _)]
          simp [Number.add]
        sessions := by
          rw [written _ _ (by decide) sessions (.num _), callTimes_append,
            length_splitBy_append time_ends]
          cases sameSession last.time call.time <;> simp [Number.add]
        firstSeen := by
          intro head is_head
          have same : head = opening := by
            simpa [List.head?_append, opens, eq_comm] using is_head
          subst same
          -- The update does not write the first time, so the document keeps it.
          exact kept "firstSeenAt" _ (by decide) firstSeen
            (counted.firstSeen head (by simp [opens]))
        lastSeen := by
          intro final is_final
          have same : call = final := by simpa using is_final
          subst same
          exact written _ _ (by decide) lastSeen (.str _)
        lastActivity := by
          intro final is_final
          have same : call = final := by simpa using is_final
          subst same
          exact written _ _ (by decide) active (.str _)
        firstFlags := by
          -- A user who has written before is no first writer.
          have many : calls.length ≠ 0 := by simpa using some_calls
          rw [List.map_append, counted.firstFlags, List.length_append, List.length_singleton,
            List.range_succ, List.map_append, List.map_singleton, List.map_singleton, first]
          simp [many]
        sessionFlags := by
          -- The new flag tells whether the last gap ends a group.
          rw [List.map_append, counted.sessionFlags, callTimes_append, List.map_singleton, fresh,
            starts, groupStarts_append time_ends]
        roles := ⟨merged, newRoles⟩ }
  · rw [storedRoles_of_texts held, storedRoles_of_texts newRoles]
    exact List.map_subset _ grows

theorem ensureRun_append {backend : Backend} {env : UserRepoEnv} {id : String}
    {users : UserTable} (calls : List (UserCall env)) (call : UserCall env) :
    ensureRun backend env id users (calls ++ [call]) =
      ensureStep backend env id (ensureRun backend env id users calls) call := by
  simp [ensureRun, run_append]

section NewUser

variable (backend : Backend) {env : UserRepoEnv} {id : String} {users : UserTable}
  (absent : users.get? id = none)

include absent

theorem counted_run {calls : List (UserCall env)} (some_calls : calls ≠ []) :
    ∃ document, (ensureRun backend env id users calls).1.get? id = some document ∧
      SessionsCounted calls (ensureRun backend env id users calls).2 document := by
  -- The induction takes the messages from the last one back.
  induction calls using List.reverseRecOn with
  | nil => exact absurd rfl some_calls
  | append_singleton calls call ih =>
    rw [ensureRun_append]
    by_cases only : calls = []
    · -- The first message creates the document.
      subst only
      exact SessionsCounted.create backend absent call
    · obtain ⟨existing, found, counted⟩ := ih only
      obtain ⟨document, stays, more, -⟩ := counted.update backend found only call
      exact ⟨document, stays, more⟩

theorem roles_kept {before : List (UserCall env)} (some_before : before ≠ [])
    (after : List (UserCall env)) {earlier later : Value}
    (was : (ensureRun backend env id users before).1.get? id = some earlier)
    (is : (ensureRun backend env id users (before ++ after)).1.get? id = some later) :
    storedRoles earlier ⊆ storedRoles later := by
  -- The induction takes the later messages from the last one back.
  induction after using List.reverseRecOn generalizing later with
  | nil =>
    rw [List.append_nil, was] at is
    rw [Option.some.inj is]
    exact List.Subset.refl _
  | append_singleton after call ih =>
    have some_calls : before ++ after ≠ [] := by simp [some_before]
    obtain ⟨existing, found, counted⟩ := counted_run backend absent some_calls
    obtain ⟨document, stays, -, grows⟩ := counted.update backend found some_calls call
    rw [← List.append_assoc, ensureRun_append] at is
    -- The last message writes one document.
    have same : document = later := Option.some.inj (stays.symm.trans is)
    subst same
    exact List.Subset.trans (ih found) grows

end NewUser

/-- After the messages of a new user, the document counts them, and no role has disappeared. -/
theorem sessions_counted (backend : Backend) (env : UserRepoEnv) (id : String)
    (users : UserTable) (absent : users.get? id = none) (calls : List (UserCall env))
    (some_calls : calls ≠ []) :
    ∃ document, (ensureRun backend env id users calls).1.get? id = some document ∧
      SessionsCounted calls (ensureRun backend env id users calls).2 document ∧
      ∀ before after, calls = before ++ after → ∀ earlier,
        (ensureRun backend env id users before).1.get? id = some earlier →
        storedRoles earlier ⊆ storedRoles document := by
  obtain ⟨document, found, counted⟩ := counted_run backend absent some_calls
  refine ⟨document, found, counted, ?_⟩
  rintro before after rfl earlier was
  have some_before : before ≠ [] := by
    -- Before the first message there is no document.
    rintro rfl
    cases absent.symm.trans was
  exact roles_kept backend absent some_before after was found

/-- Three messages: the second just inside a day, the third a whole day later. -/
def dayCalls : List (UserCall dayEnv) :=
  [{ data := { provider := some "twitch", roles := some ["viewer"] }
     nowIso := "2024-01-01T00:00:00.000Z", suffix := "aaaaaa", time := 1704067200000
     parsed := by decide },
   { data := { roles := some ["moderator"] }
     nowIso := "2024-01-01T23:59:59.999Z", suffix := "bbbbbb", time := 1704153599999
     parsed := by decide },
   { data := {}
     nowIso := "2024-01-02T23:59:59.999Z", suffix := "cccccc", time := 1704239999999
     parsed := by decide }]

/-- Three messages in two sessions are counted. -/
theorem sessions_counted_days :
    ∃ document,
      (ensureRun .firestore dayEnv "twitch:1" .empty dayCalls).1.get? "twitch:1" = some document ∧
      SessionsCounted dayCalls (ensureRun .firestore dayEnv "twitch:1" .empty dayCalls).2
        document ∧
      ∀ before after, dayCalls = before ++ after → ∀ earlier,
        (ensureRun .firestore dayEnv "twitch:1" .empty before).1.get? "twitch:1" = some earlier →
        storedRoles earlier ⊆ storedRoles document :=
  -- The first two messages are one millisecond within a day of each other.
  sessions_counted .firestore dayEnv "twitch:1" .empty rfl dayCalls (by decide)

/-- The roles that messages carry, in their order. -/
def givenRoles {env : UserRepoEnv} (calls : List (UserCall env)) : List Value :=
  calls.flatMap fun call => (call.data.roles.getD []).map Value.str

/-- After the messages of a new user, the document has just the roles that some message carried, in
the order in which they were first given, and from the second message on has each of them once. -/
theorem roles_gathered (backend : Backend) (env : UserRepoEnv) (id : String) (users : UserTable)
    (absent : users.get? id = none) (calls : List (UserCall env)) (some_calls : calls ≠ []) :
    ∃ document, (ensureRun backend env id users calls).1.get? id = some document ∧
      (storedRoles document).eraseDups = (givenRoles calls).eraseDups ∧
      (1 < calls.length → (storedRoles document).Nodup) := by
  induction calls using List.reverseRecOn with
  | nil => exact absurd rfl some_calls
  | append_singleton calls call ih =>
    rw [ensureRun_append]
    by_cases only : calls = []
    · -- The first document has the roles as they came.
      subst only
      have found := (ensure_created backend env call.data call.nowIso call.suffix absent).2.2
      have roles := (get_initialUser backend env id call.data call.nowIso call.suffix).2.2.2.2.2
      exact ⟨_, found, by simp [storedRoles_of_texts roles, givenRoles], by simp⟩
    · obtain ⟨existing, found, gathered, _⟩ := ih only
      obtain ⟨_, stays, counted⟩ := counted_run backend absent only
      obtain rfl := Option.some.inj (found.symm.trans stays)
      obtain ⟨texts, held⟩ := counted.roles
      obtain ⟨merged, merges, _⟩ := mergedRoles_spec held call.data
      obtain ⟨_, _, document, kept, _, written⟩ := ensure_updated backend env call.data
        call.nowIso call.suffix found
      have roles : document.get "roles" = mergedRoles existing call.data :=
        written "roles" _ (by decide)
          (get_userUpdate backend env id existing call.data call.nowIso call.suffix).2.2.2.2.1
          (merges ▸ .texts merged)
      have stored : storedRoles document = (storedRoles existing ++
          (call.data.roles.getD []).map Value.str).eraseDups := by
        rw [storedRoles, roles, mergedRoles]
      -- What is new is told by the roles that are there, however often they are.
      have same : ((call.data.roles.getD []).map Value.str).removeAll (storedRoles existing) =
          ((call.data.roles.getD []).map Value.str).removeAll (givenRoles calls) := by
        refine List.filter_congr fun role _ => ?_
        have there : role ∈ storedRoles existing ↔ role ∈ givenRoles calls := by
          rw [← List.mem_eraseDups, gathered, List.mem_eraseDups]
        simp [there]
      refine ⟨document, kept, ?_, fun _ => stored ▸ nodup_eraseDups _⟩
      rw [stored, eraseDups_of_nodup (nodup_eraseDups _), List.eraseDups_append, gathered, same,
        ← List.eraseDups_append, givenRoles, givenRoles, List.flatMap_append,
        List.flatMap_singleton]

theorem roles_gathered_days :
    ∃ document,
      (ensureRun .firestore dayEnv "twitch:1" .empty dayCalls).1.get? "twitch:1" = some document ∧
      (storedRoles document).eraseDups = (givenRoles dayCalls).eraseDups ∧
      (1 < dayCalls.length → (storedRoles document).Nodup) :=
  roles_gathered .firestore dayEnv "twitch:1" .empty rfl dayCalls (by decide)

end BitBrat
