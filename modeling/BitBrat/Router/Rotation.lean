import BitBrat.Router.FirstMatch
import BitBrat.Routing.Contenders

/-! The rotation of random candidates: that no candidate comes twice in a row for a user. -/

namespace BitBrat

open Js Machine

section Rotation

variable {World : Type}

/-- A store remembers what it was told last, and nothing else in the world changes it. -/
structure Remembers (env : RouterEnv World) (store : StateStore World)
    (remembered : World → String → String → Option String) : Prop where
  configured : env.stateStore = some store
  read : ∀ user ruleId world,
    (store.getLastCandidateId user ruleId world).1 = .ok (remembered world user ruleId)
  reading : ∀ user ruleId world,
    remembered (store.getLastCandidateId user ruleId world).2 = remembered world
  update : ∀ user ruleId id world,
    (store.updateLastCandidateId user ruleId (.str id) world).1 = .ok ()
  updated : ∀ user ruleId id world other otherRule,
    remembered (store.updateLastCandidateId user ruleId (.str id) world).2 other otherRule =
      if other = user ∧ otherRule = ruleId then some id else remembered world other otherRule
  now : ∀ world, remembered (env.now world).2 = remembered world
  random : ∀ world, remembered (env.random world).2 = remembered world

structure RoutedTurn where
  evt : Event
  rules : List RuleDoc

structure Rotation where
  user : String
  rule : RuleDoc
  enrich : RuleEnrichments Egress
  raw : List Value

/-- The draw that an event leads to, if its rule draws a candidate for a user who is known. -/
def rotation (env : RouterEnv World) (turn : RoutedTurn) : Option Rotation :=
  match turn.rules.find? (matchesRule env turn.evt) with
  | none => none
  | some rule =>
    match rule.enrichments with
    | none => none
    | some enrich =>
      match enrich.candidates, enrich.randomCandidate, turn.evt.externalId.bind nonEmpty with
      | some (first :: rest), true, some user => some { user, rule, enrich, raw := first :: rest }
      | _, _, _ => none

/-- The router, with the candidate that was drawn last for each user and rule. -/
structure RotationState (World : Type) where
  world : World
  last : String → String → Option Value := fun _ _ => none

def RotationState.appended (env : RouterEnv World) (state : RotationState World)
    (turn : RoutedTurn) : List Value :=
  ((route env turn.evt turn.rules state.world).evtOut.candidates.getD []).drop
    (turn.evt.candidates.getD []).length

def RotationState.step (env : RouterEnv World) (state : RotationState World)
    (turn : RoutedTurn) : RotationState World :=
  { world := (route env turn.evt turn.rules state.world).world
    last := match rotation env turn, state.appended env turn with
      | some drawn, [selected] => fun user ruleId =>
        if user = drawn.user ∧ ruleId = drawn.rule.id then some selected else state.last user ruleId
      | _, _ => state.last }

def MadeOf (env : RouterEnv World) (given made : Value) : Prop :=
  ∃ rule ctx interpCtx state,
    (exec (interpolateCandidate env rule ctx interpCtx given) state).1 = .ok made

/-- One candidate of two or more is appended, at no position of the one that was drawn last. -/
def RotationLaw (env : RouterEnv World) (state : RotationState World) (turn : RoutedTurn) : Prop :=
  ∀ drawn ∈ rotation env turn, 2 ≤ drawn.raw.length →
    ∃ selected, state.appended env turn = [selected] ∧
      (∃ given ∈ drawn.raw, MadeOf env given selected) ∧
      ∀ previous ∈ state.last drawn.user drawn.rule.id, ∀ given ∈ drawn.raw,
        MadeOf env given previous → ¬ MadeOf env given selected

def Renders (env : RouterEnv World) (interpCtx field : Value) : Prop :=
  field.truthy = true → ∃ text, env.render field.toText interpCtx = .ok text

/-- The candidates of a rule have identifiers that tell at least two of them apart, and what the
rule adds up to its candidates can be filled in. -/
structure Rotatable (env : RouterEnv World) (evt : Event) (drawn : Rotation) : Prop where
  named : ∀ given ∈ drawn.raw, ∃ id, id ≠ "" ∧ given.get "id" = .str id
  varied : 2 ≤ drawn.raw.length →
    ∃ first ∈ drawn.raw, ∃ second ∈ drawn.raw, first.get "id" ≠ second.get "id"
  message : ∀ template ∈ drawn.enrich.message.bind nonEmpty,
    ∃ text, env.render template
      (drawn.rule.metadata.extend (env.buildContext evt).fields) = .ok text
  annotations : ∀ given ∈ drawn.enrich.annotations.getD [], ∀ key ∈ ["label", "value"],
    Renders env (drawn.rule.metadata.extend (env.buildContext evt).fields) (given.get key)
  candidates : ∀ given ∈ drawn.raw, ∀ key ∈ ["text", "reason"],
    Renders env (drawn.rule.metadata.extend (env.buildContext evt).fields) (given.get key)

structure Draws (evt : Event) (drawn : Rotation) : Prop where
  enriched : drawn.rule.enrichments = some drawn.enrich
  there : drawn.enrich.candidates = some drawn.raw
  nonempty : drawn.raw ≠ []
  random : drawn.enrich.randomCandidate = true
  known : evt.externalId.bind nonEmpty = some drawn.user

/-- Whatever an event draws from, it can be drawn from. -/
def RotatableTurn (env : RouterEnv World) (_ : RotationState World) (turn : RoutedTurn) : Prop :=
  ∀ drawn ∈ rotation env turn, Rotatable env turn.evt drawn

/-- The store remembers the identifiers of the candidates that were drawn last. -/
def LastRemembered (remembered : World → String → String → Option String)
    (state : RotationState World) : Prop :=
  ∀ user ruleId, ∀ previous ∈ state.last user ruleId,
    ∃ id, previous.get "id" = .str id ∧ remembered state.world user ruleId = some id

variable {env : RouterEnv World} {remembered : World → String → String → Option String}

theorem id_of_madeOf {given made : Value} {id : String} (named : given.get "id" = .str id)
    (nonempty : id ≠ "") (from_given : MadeOf env given made) : made.get "id" = .str id := by
  obtain ⟨rule, ctx, interpCtx, state, ran⟩ := from_given
  have truthy : (given.get "id").truthy = true := by
    rw [named]
    simpa [Value.truthy] using nonempty
  unfold interpolateCandidate idOf at ran
  rw [if_pos truthy, exec_bind, exec_pure] at ran
  simp only [exec_bind] at ran
  -- Each of the two templates may throw.
  split at ran
  · split at ran
    · cases ran
      rw [Value.get_extend]
      simp [List.lookup_cons, named]
    · cases ran
  · cases ran

/-- What may change between the parts: neither the candidates, nor what is remembered. -/
structure Aside (remembered : World → String → String → Option String)
    (before after : RouteState World) : Prop where
  evt : after.evt = before.evt
  candidates : after.evtOut.candidates = before.evtOut.candidates
  memory : remembered after.world = remembered before.world

instance : Std.Refl (Aside remembered : RouteState World → RouteState World → Prop) where
  refl _ := ⟨rfl, rfl, rfl⟩

instance : IsTrans (RouteState World) (Aside remembered) where
  trans _ _ _ left right := ⟨right.evt.trans left.evt, right.candidates.trans left.candidates,
    right.memory.trans left.memory⟩

/-- A candidate is drawn, appended and remembered by its identifier, which is not the one that was
remembered before where there is another. -/
structure Drew (env : RouterEnv World) (remembered : World → String → String → Option String)
    (drawn : Rotation) (before after : RouteState World) (selected : Value) (id : String) :
    Prop where
  named : selected.get "id" = .str id
  listed : ∃ given ∈ drawn.raw, MadeOf env given selected
  appended : after.evtOut.candidates = some (before.evtOut.candidates.getD [] ++ [selected])
  noted : ∀ user ruleId, remembered after.world user ruleId =
    if user = drawn.user ∧ ruleId = drawn.rule.id then some id
    else remembered before.world user ruleId
  other : ∀ last, remembered before.world drawn.user drawn.rule.id = some last →
    (∃ given ∈ drawn.raw, given.get "id" ≠ .str last) → id ≠ last

variable {drawn : Rotation}

theorem Drew.between {first before after last : RouteState World} {selected : Value} {id : String}
    (drew : Drew env remembered drawn before after selected id)
    (earlier : Aside remembered first before) (later : Aside remembered after last) :
    Drew env remembered drawn first last selected id where
  named := drew.named
  listed := drew.listed
  appended := by rw [later.candidates, drew.appended, earlier.candidates]
  noted user ruleId := by rw [later.memory, drew.noted, earlier.memory]
  other := by
    rw [← earlier.memory]
    exact drew.other

section Parts

variable {store : StateStore World} {rule : RuleDoc} {ctx interpCtx : Value}

theorem aside_freshId (remembers : Remembers env store remembered) (sort : String) :
    Frames (Aside remembered) (freshId env rule sort) :=
  frames_bind (frames_ofState fun _ => ⟨rfl, rfl, remembers.now _⟩) fun _ =>
    frames_bind (frames_ofState fun _ => ⟨rfl, rfl, remembers.random _⟩) fun _ => frames_pure _

theorem aside_idOf (remembers : Remembers env store remembered) (given : Value) (sort : String) :
    Frames (Aside remembered) (idOf env rule given sort) := by
  unfold idOf
  split
  · exact frames_pure _
  · exact aside_freshId remembers sort

theorem aside_renderField (field : Value) :
    Frames (Aside remembered) (renderField env field interpCtx) := by
  unfold renderField
  split
  · exact frames_bind (frames_ofExcept _) fun _ => frames_pure _
  · exact frames_pure _

theorem aside_interpolateAnn (remembers : Remembers env store remembered) (given : Value) :
    Frames (Aside remembered) (interpolateAnn env rule ctx interpCtx given) :=
  frames_bind (aside_idOf remembers given "ann") fun _ =>
    frames_bind (aside_renderField _) fun _ =>
      frames_bind (aside_renderField _) fun _ => frames_pure _

theorem aside_interpolateCandidate (remembers : Remembers env store remembered) (given : Value) :
    Frames (Aside remembered) (interpolateCandidate env rule ctx interpCtx given) :=
  frames_bind (aside_idOf remembers given "cand") fun _ =>
    frames_bind (aside_renderField _) fun _ =>
      frames_bind (aside_renderField _) fun _ => frames_pure _

variable {enrich : RuleEnrichments Egress}

theorem aside_enrichMessage (remembers : Remembers env store remembered) :
    Frames (Aside remembered) (enrichMessage env rule interpCtx enrich) := by
  unfold enrichMessage
  split
  · refine frames_bind (frames_ofState fun _ => ⟨rfl, rfl, remembers.now _⟩) fun _ => ?_
    exact frames_bind (frames_ofExcept _) fun _ => frames_modify fun _ => ⟨rfl, rfl, rfl⟩
  · exact frames_pure _

theorem aside_enrichAnnotations (remembers : Remembers env store remembered) :
    Frames (Aside remembered) (enrichAnnotations env rule ctx interpCtx enrich) := by
  unfold enrichAnnotations
  split
  · exact frames_pure _
  · exact frames_pure _
  · exact frames_bind (frames_mapM (aside_interpolateAnn remembers) _) fun _ =>
      frames_modify fun _ => ⟨rfl, rfl, rfl⟩

theorem aside_enrichEgress : Frames (Aside remembered) (enrichEgress env interpCtx enrich) := by
  unfold enrichEgress
  split
  · exact frames_pure _
  · refine frames_get fun state => frames_bind ?_ fun _ => frames_modify fun _ => ⟨rfl, rfl, rfl⟩
    unfold egressDestination
    split
    · exact frames_ofExcept _
    · exact frames_pure _

theorem runs_idOf (given : Value) (sort : String) : Runs (idOf env rule given sort) := by
  unfold idOf
  split
  · exact runs_pure _
  · refine runs_bind (fun _ => returns_ofState rfl trivial) fun _ => ?_
    exact runs_bind (fun _ => returns_ofState rfl trivial) fun _ => runs_pure _

theorem runs_renderField {field : Value} (renders : Renders env interpCtx field) :
    Runs (renderField env field interpCtx) := by
  unfold renderField
  split
  case isTrue there =>
    obtain ⟨text, rendered⟩ := renders there
    exact runs_bind (runs_ofExcept rendered) fun _ => runs_pure _
  case isFalse => exact runs_pure _

theorem runs_interpolateAnn {given : Value}
    (renders : ∀ key ∈ ["label", "value"], Renders env interpCtx (given.get key)) :
    Runs (interpolateAnn env rule ctx interpCtx given) :=
  runs_bind (runs_idOf given "ann") fun _ =>
    runs_bind (runs_renderField (renders "label" (by simp))) fun _ =>
      runs_bind (runs_renderField (renders "value" (by simp))) fun _ => runs_pure _

theorem runs_interpolateCandidate {given : Value}
    (renders : ∀ key ∈ ["text", "reason"], Renders env interpCtx (given.get key)) :
    Runs (interpolateCandidate env rule ctx interpCtx given) :=
  runs_bind (runs_idOf given "cand") fun _ =>
    runs_bind (runs_renderField (renders "text" (by simp))) fun _ =>
      runs_bind (runs_renderField (renders "reason" (by simp))) fun _ => runs_pure _

theorem runs_enrichMessage
    (renders : ∀ template ∈ enrich.message.bind nonEmpty,
      ∃ text, env.render template interpCtx = .ok text) :
    Runs (enrichMessage env rule interpCtx enrich) := by
  unfold enrichMessage
  split
  case h_1 template there =>
    obtain ⟨text, rendered⟩ := renders template there
    refine runs_bind (fun _ => returns_ofState rfl trivial) fun _ => ?_
    exact runs_bind (runs_ofExcept rendered) fun _ => runs_modify _
  case h_2 => exact runs_pure _

theorem runs_enrichAnnotations
    (renders : ∀ given ∈ enrich.annotations.getD [], ∀ key ∈ ["label", "value"],
      Renders env interpCtx (given.get key)) :
    Runs (enrichAnnotations env rule ctx interpCtx enrich) := by
  unfold enrichAnnotations
  split
  · exact runs_pure _
  · exact runs_pure _
  case h_3 raw _ there =>
    refine runs_bind (runs_mapM fun given member => ?_) fun _ => runs_modify _
    exact runs_interpolateAnn (renders given (by rw [there]; exact member))

theorem pickCandidate_spec {candidates : List Value} (nonempty : candidates ≠ [])
    (lastId : Option String) (fraction : { fraction : ℚ // 0 ≤ fraction ∧ fraction < 1 }) :
    pickCandidate candidates lastId fraction.val ∈ candidates ∧
      ∀ id, lastId = some id → (∃ other ∈ candidates, other.get "id" ≠ .str id) →
        (pickCandidate candidates lastId fraction.val).get "id" ≠ .str id := by
  have drawn : ∀ pool : List Value, pool ≠ [] →
      (pool[(fraction.val * pool.length).floor.toNat]?).getD .undefined ∈ pool := by
    intro pool filled
    have inside : (fraction.val * pool.length).floor.toNat < pool.length :=
      drawnIndex_lt fraction.property (List.length_pos_iff.mpr filled)
    rw [List.getElem?_eq_getElem inside]
    exact List.getElem_mem inside
  -- The identifier that is avoided is the last one, or none at all.
  obtain ⟨last, settled, picked⟩ : ∃ last : Value, (∀ id, lastId = some id → last = .str id) ∧
      pickCandidate candidates lastId fraction.val =
        (let eligible := candidates.filter fun candidate => candidate.get "id" ≠ last
         let pool := if eligible.length > 0 then eligible else candidates
         (pool[(fraction.val * pool.length).floor.toNat]?).getD .undefined) := by
    cases lastId with
    | none => exact ⟨.undefined, by simp, rfl⟩
    | some id => exact ⟨.str id, by simp, rfl⟩
  rw [picked]
  dsimp only
  split
  case isTrue some_left =>
    have member := drawn _ (List.length_pos_iff.mp some_left)
    obtain ⟨listed, eligible⟩ := List.mem_filter.mp member
    refine ⟨listed, ?_⟩
    intro id stored _
    simpa [settled id stored] using eligible
  case isFalse none_left =>
    refine ⟨drawn candidates nonempty, ?_⟩
    rintro id stored ⟨other, listed, apart⟩
    -- The other candidate would have been eligible.
    refine absurd (List.length_pos_of_mem (List.mem_filter.mpr ⟨listed, ?_⟩)) none_left
    simpa [settled id stored] using apart

theorem exists_of_mem_right {α β : Type} {relation : α → β → Prop} {left : List α}
    {right : List β} (matched : List.Forall₂ relation left right) {second : β}
    (member : second ∈ right) : ∃ first ∈ left, relation first second := by
  induction matched with
  | nil => cases member
  | cons related _ ih =>
    rcases List.mem_cons.mp member with rfl | later
    · exact ⟨_, List.mem_cons_self, related⟩
    · obtain ⟨first, inside, found⟩ := ih later
      exact ⟨first, List.mem_cons_of_mem _ inside, found⟩

theorem exists_of_mem_left {α β : Type} {relation : α → β → Prop} {left : List α}
    {right : List β} (matched : List.Forall₂ relation left right) {first : α}
    (member : first ∈ left) : ∃ second ∈ right, relation first second :=
  exists_of_mem_right matched.flip member

variable {evt : Event} {state : RouteState World}

theorem returns_enrichCandidates (remembers : Remembers env store remembered)
    {drawn : Rotation} (rotatable : Rotatable env evt drawn) (draws : Draws evt drawn)
    (handed : state.evt = evt) : Returns (enrichCandidates env drawn.rule (env.buildContext evt)
      (drawn.rule.metadata.extend (env.buildContext evt).fields) drawn.enrich) state
      fun _ last => ∃ selected id, Drew env remembered drawn state last selected id := by
  obtain ⟨user, rule, enrich, raw⟩ := drawn
  obtain ⟨enriched, there, nonempty, random, known⟩ := draws
  dsimp only at enriched there nonempty random known
  unfold enrichCandidates
  dsimp only
  rw [there, random, remembers.configured]
  obtain ⟨first, rest, rfl⟩ := List.exists_cons_of_ne_nil nonempty
  have runs : Runs ((first :: rest).mapM (interpolateCandidate env rule (env.buildContext evt)
      (rule.metadata.extend (env.buildContext evt).fields))) :=
    runs_mapM fun given member => runs_interpolateCandidate (rotatable.candidates given member)
  refine returns_bind ((runs.returns (frames_mapM (aside_interpolateCandidate remembers) _)
    state).mono fun candidates middle ran => ?_)
  have aside := ran.1
  have matched : List.Forall₂ (MadeOf env) (first :: rest) candidates :=
    (forall₂_of_mapM ran.2).imp fun given value worked => ⟨rule, _, _, worked⟩
  refine returns_get ?_
  have same : middle.evt.externalId.bind nonEmpty = some user := by
    rw [aside.evt, handed]
    exact known
  rw [same]
  dsimp only
  -- The candidate is drawn from those made, with what the store remembers in view.
  refine returns_bind (returns_ofState (remembers.read _ _ _) ?_)
  refine returns_bind (returns_ofState rfl ?_)
  have asked : remembered (env.random (store.getLastCandidateId user rule.id middle.world).2).2 =
      remembered state.world :=
    (remembers.random _).trans ((remembers.reading _ _ _).trans aside.memory)
  have filled : candidates ≠ [] := by
    rintro rfl
    cases matched
  obtain ⟨listed, apart⟩ := pickCandidate_spec filled (remembered middle.world user rule.id)
    (env.random (store.getLastCandidateId user rule.id middle.world).2).1
  generalize pickCandidate candidates (remembered middle.world user rule.id)
    (env.random (store.getLastCandidateId user rule.id middle.world).2).1.val = selected
    at listed apart ⊢
  obtain ⟨given, member, made⟩ := exists_of_mem_right matched listed
  obtain ⟨id, full, name⟩ := rotatable.named given member
  have selectedId : selected.get "id" = .str id := id_of_madeOf name full made
  refine returns_bind (returns_modify ?_)
  rw [selectedId]
  refine returns_ofState (remembers.update _ _ _ _)
    ⟨selected, id, selectedId, ⟨given, member, made⟩, ?_, ?_, ?_⟩
  · show some _ = some _
    rw [aside.candidates]
  · intro other otherRule
    refine (remembers.updated _ _ _ _ other otherRule).trans ?_
    dsimp only
    rw [asked]
  · rintro before stored ⟨other, inside, different⟩ rfl
    -- What is made of the other candidate has another identifier as well.
    obtain ⟨otherMade, otherListed, fromOther⟩ := exists_of_mem_left matched inside
    obtain ⟨otherId, otherFull, otherName⟩ := rotatable.named other inside
    rw [aside.memory] at apart
    refine apart id stored ⟨otherMade, otherListed, ?_⟩ selectedId
    rw [id_of_madeOf otherName otherFull fromOther, ← otherName]
    exact different

theorem memory_enrichCandidates (remembers : Remembers env store remembered)
    (undrawn : (enrich.candidates.getD [] = []) ∨ enrich.randomCandidate = false ∨
      state.evt.externalId.bind nonEmpty = none) :
    remembered (after (enrichCandidates env rule ctx interpCtx enrich) state).world =
      remembered state.world := by
  unfold enrichCandidates
  split
  · rfl
  · rfl
  case h_3 raw filled there =>
    have interpolated := frames_mapM
      (@aside_interpolateCandidate World env remembered store rule ctx interpCtx remembers)
      raw state
    rw [after_bind]
    split
    case h_2 => exact interpolated.memory
    case h_1 candidates _ =>
      rw [after_get_bind]
      split
      case h_2 => exact interpolated.memory
      case h_1 random _ known =>
        -- Here one would be drawn.
        rw [interpolated.evt] at known
        rcases undrawn with bare | fixed | unknown
        · rw [there] at bare
          exact absurd bare filled
        · rw [random] at fixed
          cases fixed
        · rw [unknown] at known
          cases known

theorem memory_enrichFrom (remembers : Remembers env store remembered)
    (undrawn : ∀ enrich ∈ rule.enrichments, enrich.candidates.getD [] = [] ∨
      enrich.randomCandidate = false ∨ evt.externalId.bind nonEmpty = none)
    (handed : state.evt = evt) :
    remembered (after (enrichFrom env rule ctx) state).world = remembered state.world := by
  unfold enrichFrom
  split
  · rfl
  case h_2 enrich there =>
    -- Each part ends the run, or hands on to the next with the memory as it was.
    obtain ⟨noted, first, stopped | ⟨_, ran⟩⟩ := after_bind_of_framed
      (aside_enrichMessage remembers) state
    · rw [stopped, first.memory]
    rw [ran]
    obtain ⟨annotated, second, stopped | ⟨_, ran⟩⟩ := after_bind_of_framed
      (aside_enrichAnnotations remembers) noted
    · rw [stopped, second.memory, first.memory]
    rw [ran, after_bind]
    have same : annotated.evt = evt := second.evt.trans (first.evt.trans handed)
    have kept : remembered (after (enrichCandidates env rule ctx
        (rule.metadata.extend ctx.fields) enrich) annotated).world = remembered state.world := by
      rw [memory_enrichCandidates remembers (by rw [same]; exact undrawn enrich there),
        second.memory, first.memory]
    split
    · exact (aside_enrichEgress _).memory.trans kept
    · exact kept

theorem drew_enrichFrom (remembers : Remembers env store remembered) {drawn : Rotation}
    (rotatable : Rotatable env evt drawn) (draws : Draws evt drawn) (handed : state.evt = evt) :
    ∃ selected id, Drew env remembered drawn state
      (after (enrichFrom env drawn.rule (env.buildContext evt)) state) selected id := by
  unfold enrichFrom
  rw [draws.enriched]
  dsimp only
  obtain ⟨_, noted, ⟨first, _⟩, ran⟩ := ((runs_enrichMessage rotatable.message).returns
    (aside_enrichMessage remembers) state).after_bind
  rw [ran]
  obtain ⟨_, annotated, ⟨second, _⟩, ran⟩ :=
    ((runs_enrichAnnotations rotatable.annotations).returns
      (aside_enrichAnnotations remembers) noted).after_bind
  rw [ran]
  have same : annotated.evt = evt := second.evt.trans (first.evt.trans handed)
  obtain ⟨_, selecting, ⟨selected, id, drew⟩, ran⟩ :=
    (returns_enrichCandidates remembers rotatable draws same).after_bind
  rw [ran]
  -- The egress may throw, and leaves the candidates and the memory alone.
  exact ⟨selected, id, drew.between (trans_of (Aside remembered) first second)
    (aside_enrichEgress selecting)⟩

end Parts

variable {turn : RoutedTurn}

theorem route_world {rule : RuleDoc} (world : World)
    (first : turn.rules.find? (matchesRule env turn.evt) = some rule) : ∃ chosen : RouteState World,
      chosen.evt = turn.evt ∧ chosen.evtOut.candidates = turn.evt.candidates ∧
      chosen.world = world ∧
      (route env turn.evt turn.rules world).evtOut.candidates =
        (after (enrichFrom env rule (env.buildContext turn.evt)) chosen).evtOut.candidates ∧
      (route env turn.evt turn.rules world).world =
        (after (enrichFrom env rule (env.buildContext turn.evt)) chosen).world := by
  obtain ⟨matching, before, behind, split, unmatched⟩ := List.find?_eq_some_iff_append.mp first
  have passed : ∀ other ∈ before, matchesRule env turn.evt other = false :=
    fun other member => by simpa using unmatched other member
  refine ⟨selectRule rule { RouteState.begin turn.evt world with matchedRuleIds := [rule.id] },
    rfl, rfl, rfl, ?_⟩
  rw [split, route_eq world passed matching]
  rw [step_of_matching (RouteState.begin turn.evt world) matching rfl]
  exact ⟨rfl, rfl⟩

theorem draws_of_rotation (found : rotation env turn = some drawn) :
    turn.rules.find? (matchesRule env turn.evt) = some drawn.rule ∧ Draws turn.evt drawn := by
  unfold rotation at found
  split at found
  · cases found
  case h_2 rule first =>
    split at found
    · cases found
    case h_2 enrich enriched =>
      split at found
      case h_1 there random known =>
        cases found
        exact ⟨first, enriched, there, List.cons_ne_nil _ _, random, known⟩
      case h_2 => cases found

theorem undrawn_of_rotation (nothing : rotation env turn = none) {rule : RuleDoc}
    (first : turn.rules.find? (matchesRule env turn.evt) = some rule) :
    ∀ enrich ∈ rule.enrichments, enrich.candidates.getD [] = [] ∨
      enrich.randomCandidate = false ∨ turn.evt.externalId.bind nonEmpty = none := by
  intro enrich enriched
  unfold rotation at nothing
  rw [first] at nothing
  dsimp only at nothing
  rw [Option.mem_def.mp enriched] at nothing
  dsimp only at nothing
  cases there : enrich.candidates with
  | none => exact .inl rfl
  | some raw =>
    cases raw with
    | nil => exact .inl rfl
    | cons given rest =>
      cases random : enrich.randomCandidate with
      | false => exact .inr (.inl rfl)
      | true =>
        cases known : turn.evt.externalId.bind nonEmpty with
        | none => exact .inr (.inr rfl)
        | some user =>
          rw [there, random, known] at nothing
          cases nothing

variable {store : StateStore World} {state : RotationState World} {turn : RoutedTurn}

theorem appended_of_rotation (remembers : Remembers env store remembered)
    (found : rotation env turn = some drawn) (rotatable : Rotatable env turn.evt drawn)
    (state : RotationState World) :
    ∃ selected id before after, Drew env remembered drawn before after selected id ∧
      before.world = state.world ∧ after.world = (state.step env turn).world ∧
      state.appended env turn = [selected] := by
  obtain ⟨first, draws⟩ := draws_of_rotation found
  obtain ⟨chosen, handed, candidates, world, routed, left⟩ := route_world state.world first
  obtain ⟨selected, id, drew⟩ := drew_enrichFrom remembers rotatable draws handed
  refine ⟨selected, id, chosen, _, drew, world, left.symm, ?_⟩
  unfold RotationState.appended
  rw [routed, drew.appended, candidates, Option.getD_some, List.drop_left]

theorem memory_of_no_rotation (remembers : Remembers env store remembered)
    (nothing : rotation env turn = none) :
    remembered (state.step env turn).world = remembered state.world := by
  cases first : turn.rules.find? (matchesRule env turn.evt) with
  | none =>
    have unmatched : ∀ rule ∈ turn.rules, matchesRule env turn.evt rule = false :=
      fun rule member => by simpa using List.find?_eq_none.mp first rule member
    have left : (route env turn.evt turn.rules state.world).world = state.world := by
      rw [route, run_of_unmatched unmatched]
      rfl
    exact congrArg remembered left
  | some rule =>
    obtain ⟨chosen, handed, _, world, _, left⟩ := route_world state.world first
    refine (congrArg remembered left).trans ?_
    rw [memory_enrichFrom remembers (undrawn_of_rotation nothing first) handed, world]

theorem LastRemembered.step (remembers : Remembers env store remembered)
    (kept : LastRemembered remembered state) (ready : RotatableTurn env state turn) :
    LastRemembered remembered (state.step env turn) := by
  intro user ruleId previous last
  cases found : rotation env turn with
  | none =>
    have same : (state.step env turn).last = state.last := by
      simp [RotationState.step, found]
    rw [same] at last
    rw [memory_of_no_rotation remembers found]
    exact kept user ruleId previous last
  | some drawn =>
    obtain ⟨selected, id, before, after, drew, start, left, appended⟩ :=
      appended_of_rotation remembers found (ready drawn found) state
    have noted : (state.step env turn).last user ruleId =
        if user = drawn.user ∧ ruleId = drawn.rule.id then some selected
        else state.last user ruleId := by
      simp [RotationState.step, found, appended]
    rw [noted] at last
    rw [← left, drew.noted, start]
    split at last
    case isTrue here =>
      cases last
      exact ⟨id, drew.named, if_pos here⟩
    case isFalse elsewhere =>
      rw [if_neg elsewhere]
      exact kept user ruleId previous last

theorem LastRemembered.lawful (remembers : Remembers env store remembered)
    (kept : LastRemembered remembered state) (ready : RotatableTurn env state turn) :
    RotationLaw env state turn := by
  intro drawn found several
  have rotatable := ready drawn found
  obtain ⟨selected, id, before, after, drew, start, _, appended⟩ :=
    appended_of_rotation remembers found rotatable state
  refine ⟨selected, appended, drew.listed, ?_⟩
  intro previous last given member fromGiven sameGiven
  obtain ⟨lastId, named, stored⟩ := kept _ _ previous last
  -- What is made of one candidate has one identifier.
  obtain ⟨givenId, full, givenNamed⟩ := rotatable.named given member
  have lastIs : Value.str lastId = .str givenId :=
    named.symm.trans (id_of_madeOf givenNamed full fromGiven)
  have selectedIs : Value.str id = .str givenId :=
    drew.named.symm.trans (id_of_madeOf givenNamed full sameGiven)
  refine drew.other lastId (by rw [start]; exact stored) ?_
    (Value.str.inj (selectedIs.trans lastIs.symm))
  obtain ⟨first, firstIn, second, secondIn, apart⟩ := rotatable.varied several
  by_cases same : first.get "id" = .str lastId
  · exact ⟨second, secondIn, fun also => apart (same.trans also.symm)⟩
  · exact ⟨first, firstIn, same⟩

/-- Along every run in which rules are drawn from that can be, candidates rotate. -/
theorem rotation_along {env : RouterEnv World} {store : StateStore World}
    {remembered : World → String → String → Option String}
    (remembers : Remembers env store remembered) (world : World) {turns : List RoutedTurn}
    (ready : Along (RotationState.step env) (RotatableTurn env) { world } turns) :
    Along (RotationState.step env) (RotationLaw env) { world } turns :=
  along_of_invariant (LastRemembered remembered)
    (fun _ _ kept ready => kept.step remembers ready)
    (fun _ _ kept ready => kept.lawful remembers ready)
    (fun _ _ _ last => by cases last) ready

end Rotation

structure RouterWorld where
  clock : Nat := 0
  memory : OrderedMap (String × String) String := .empty

def tableStore : StateStore RouterWorld where
  getLastCandidateId user ruleId world := (.ok (world.memory.get? (user, ruleId)), world)
  updateLastCandidateId user ruleId id world :=
    (.ok (), { world with memory := world.memory.set (user, ruleId) id.toText })

/-- An engine whose conditions hold, whose templates are plain texts, and that draws the first. -/
private theorem zero_drawn : (0 : ℚ) ≤ 0 ∧ (0 : ℚ) < 1 := ⟨le_refl 0, zero_lt_one⟩

def lurkEnv : RouterEnv RouterWorld where
  buildContext _ := .obj [("now", .str "t0")]
  evaluate _ _ := .ok true
  render template _ := .ok template
  now world := (world.clock, { world with clock := world.clock + 1 })
  random world := (⟨0, zero_drawn⟩, world)
  randomText _ := "00000"
  stateStore := some tableStore

def lurk (candidates : List Value) : RoutedTurn where
  evt := { correlationId := "c-1", type := "chat.command.v1", externalId := some "u1" }
  rules := [{
    id := "lurk"
    enabled := true
    priority := .finite 1
    logic := "true"
    routing := { stage := "analysis", slip := [{ id := "router", nextTopic := "t1" }] }
    enrichments := some { candidates := some candidates, randomCandidate := true } }]

theorem tableStore_remembers :
    Remembers lurkEnv tableStore fun world user ruleId => world.memory.get? (user, ruleId) where
  configured := rfl
  read _ _ _ := rfl
  reading _ _ _ := rfl
  update _ _ _ _ := rfl
  updated user ruleId id world other otherRule := by
    simp [tableStore, OrderedMap.get?_set, Value.toText]
  now _ := rfl
  random _ := rfl

/-- Two candidates with identifiers take turns. -/
theorem rotation_named :
    Along (RotationState.step lurkEnv) (RotationLaw lurkEnv) { world := {} }
      (List.replicate 3 (lurk [.obj [("id", .str "c1")], .obj [("id", .str "c2")]])) := by
  refine rotation_along tableStore_remembers {} ?_
  have rotatable : ∀ drawn ∈ rotation lurkEnv
      (lurk [.obj [("id", .str "c1")], .obj [("id", .str "c2")]]),
      Rotatable lurkEnv
        (lurk [.obj [("id", .str "c1")], .obj [("id", .str "c2")]]).evt drawn := by
    intro drawn found
    cases found
    refine ⟨?_, ?_, ?_, ?_, ?_⟩
    · intro given member
      rcases List.mem_pair.mp member with rfl | rfl
      · exact ⟨"c1", by decide, rfl⟩
      · exact ⟨"c2", by decide, rfl⟩
    · exact fun _ => ⟨_, List.mem_cons_self, _, .tail _ List.mem_cons_self, by decide⟩
    · exact fun template there => by cases there
    · exact fun given member => by cases member
    · exact fun given _ key _ _ => ⟨_, rfl⟩
  exact ⟨rotatable, rotatable, rotatable, trivial⟩

/-- What becomes of a candidate with the text "a" alone, with the identifier of the time. -/
def lurkCandidate (clock : Nat) : Value :=
  .obj [("text", .str "a"), ("id", .str ("rule-lurk-cand-" ++ toString clock ++ "-00000")),
    ("kind", .str "text"), ("source", .str "rule:lurk"), ("createdAt", .str "t0"),
    ("status", .str "proposed"), ("priority", .num (.finite 10)), ("reason", .undefined)]

/-- A candidate without an identifier of its own is given twice in a row. -/
theorem rotation_repeats :
    ¬ Along (RotationState.step lurkEnv) (RotationLaw lurkEnv) { world := {} }
      (List.replicate 2 (lurk [.obj [("text", .str "a")], .obj [("text", .str "b")]])) := by
  intro along
  have made : ∀ clock ∈ [0, 2],
      MadeOf lurkEnv (.obj [("text", .str "a")]) (lurkCandidate clock) := by
    intro clock member
    refine ⟨{ id := "lurk", enabled := true, priority := .finite 1, logic := "true",
              routing := { stage := "analysis", slip := [] } },
      .obj [("now", .str "t0")], .undefined,
      .begin { correlationId := "c-1", type := "chat.command.v1" } { clock }, ?_⟩
    rcases List.mem_pair.mp member with rfl | rfl <;> decide +kernel
  obtain ⟨selected, appended, _, apart⟩ := along.2.1 _ rfl (by decide)
  -- The clock has gone on by the two identifiers made the first time.
  have again : [selected] = [lurkCandidate 2] := appended.symm.trans (by decide +kernel)
  rw [List.singleton_inj.mp again] at apart
  exact apart (lurkCandidate 0) (by decide +kernel) _ List.mem_cons_self (made 0 (by simp))
    (made 2 (by simp))

end BitBrat
