import Mathlib.Data.List.Basic

/-! Runs of a deterministic machine: what every step preserves holds in every state reached. -/

namespace Machine

variable {σ τ ε : Type}

/-- The state after a list of events, taken one at a time. -/
def run (step : σ → ε → σ) (start : σ) (events : List ε) : σ := events.foldl step start

/-- A condition holds at every step of the run, in the state in which that step is taken. -/
def Along (step : σ → ε → σ) (ok : σ → ε → Prop) : σ → List ε → Prop
  | _, [] => True
  | state, event :: rest => ok state event ∧ Along step ok (step state event) rest

instance Along.decidable {step : σ → ε → σ} {ok : σ → ε → Prop}
    [∀ state event, Decidable (ok state event)] :
    ∀ state events, Decidable (Along step ok state events)
  | _, [] => inferInstanceAs (Decidable True)
  | state, event :: rest =>
    have : Decidable (Along step ok (step state event) rest) :=
      Along.decidable (step state event) rest
    inferInstanceAs (Decidable (ok state event ∧ Along step ok (step state event) rest))

theorem Along.and {step : σ → ε → σ} {ok good : σ → ε → Prop} {start : σ} {events : List ε}
    (first : Along step ok start events) (second : Along step good start events) :
    Along step (fun state event => ok state event ∧ good state event) start events := by
  induction events generalizing start with
  | nil => trivial
  | cons event rest ih => exact ⟨⟨first.1, second.1⟩, ih first.2 second.2⟩

theorem Along.of_append {step : σ → ε → σ} {ok : σ → ε → Prop} {start : σ} {early later : List ε}
    (along : Along step ok start (early ++ later)) : Along step ok start early := by
  induction early generalizing start with
  | nil => trivial
  | cons event rest ih => exact ⟨along.1, ih along.2⟩

@[simp] theorem run_nil (step : σ → ε → σ) (start : σ) : run step start [] = start := rfl

@[simp] theorem run_cons (step : σ → ε → σ) (start : σ) (event : ε) (rest : List ε) :
    run step start (event :: rest) = run step (step start event) rest := rfl

theorem run_append (step : σ → ε → σ) (start : σ) (before after : List ε) :
    run step start (before ++ after) = run step (run step start before) after :=
  List.foldl_append

theorem run_invariant (inv : σ → Prop) {step : σ → ε → σ} {ok : σ → ε → Prop}
    (preserved : ∀ state event, inv state → ok state event → inv (step state event))
    {start : σ} (initial : inv start) {events : List ε} (along : Along step ok start events) :
    inv (run step start events) := by
  -- The induction is on the events, for every state before them.
  induction events generalizing start with
  | nil => exact initial
  | cons event rest ih => exact ih (preserved start event initial along.1) along.2

theorem along_iff_forall {step : σ → ε → σ} {ok : ε → Prop} {start : σ} {events : List ε} :
    Along step (fun _ event => ok event) start events ↔ ∀ event ∈ events, ok event := by
  induction events generalizing start with
  | nil => simp [Along]
  | cons event rest ih => simp [Along, ih]

theorem run_reaches (inv goal : σ → Prop) (ok : ε → Prop) {step : σ → ε → σ} {event : ε}
    (preserved : ∀ state other, inv state → ok other → inv (step state other))
    (kept : ∀ state other, inv state → goal state → ok other → goal (step state other))
    (reached : ∀ state, inv state → goal (step state event))
    {start : σ} (initial : inv start) {events : List ε} (all : ∀ other ∈ events, ok other)
    (member : event ∈ events) : goal (run step start events) := by
  -- The event splits the run: the invariant holds before it, and the goal after it.
  obtain ⟨before, after, rfl⟩ := List.append_of_mem member
  have first : inv (run step start before) :=
    run_invariant inv preserved initial
      (along_iff_forall.mpr fun other earlier => all other (List.mem_append_left _ earlier))
  have arrived : inv (step (run step start before) event) ∧
      goal (step (run step start before) event) :=
    ⟨preserved _ _ first (all event member), reached _ first⟩
  rw [run_append, run_cons]
  refine (run_invariant (fun state => inv state ∧ goal state) ?_ arrived
    (along_iff_forall.mpr fun other later =>
      all other (List.mem_append_right _ (List.mem_cons_of_mem _ later)))).2
  intro state other holds allowed
  exact ⟨preserved _ _ holds.1 allowed, kept _ _ holds.1 holds.2 allowed⟩

theorem along_of_invariant (inv : σ → Prop) {step : σ → ε → σ} {ok good : σ → ε → Prop}
    (preserved : ∀ state event, inv state → ok state event → inv (step state event))
    (implied : ∀ state event, inv state → ok state event → good state event)
    {start : σ} (initial : inv start) {events : List ε} (along : Along step ok start events) :
    Along step good start events := by
  induction events generalizing start with
  | nil => trivial
  | cons event rest ih =>
    exact ⟨implied start event initial along.1,
      ih (preserved start event initial along.1) along.2⟩

theorem along_congr (inv : σ → Prop) {step : σ → ε → σ} {ok good : σ → ε → Prop}
    (preserved : ∀ state event, inv state → good state event → inv (step state event))
    (agree : ∀ state event, inv state → (ok state event ↔ good state event))
    {start : σ} (initial : inv start) (events : List ε) :
    Along step ok start events ↔ Along step good start events := by
  -- Where both conditions agree on the first event, the invariant goes on to the rest.
  induction events generalizing start with
  | nil => exact Iff.rfl
  | cons event rest ih =>
    simp only [Along]
    rw [agree start event initial]
    exact and_congr_right fun holds => ih (preserved start event initial holds)

theorem forall_prefix_iff_along {good : σ → Prop} {step : σ → ε → σ} {start : σ}
    {events : List ε} :
    (∀ early, early <+: events → good (run step start early)) ↔
      good start ∧ Along step (fun state event => good (step state event)) start events := by
  induction events generalizing start with
  | nil => simp [Along]
  | cons event rest ih =>
    simp only [Along]
    rw [← ih]
    constructor
    · intro all
      refine ⟨all [] List.nil_prefix, ?_⟩
      intro early is_early
      exact all (event :: early) (List.prefix_cons_inj event |>.mpr is_early)
    · rintro ⟨initial, later⟩ early is_early
      rcases List.prefix_cons_iff.mp is_early with rfl | ⟨others, rfl, is_others⟩
      · exact initial
      · exact later others is_others

theorem good_iff_along_of_allowed (inv doomed good : σ → Prop) {step : σ → ε → σ}
    {allowed ok : σ → ε → Prop}
    (preserved : ∀ state event, inv state → allowed state event → ok state event →
      inv (step state event))
    (lost : ∀ state event, inv state → allowed state event → ¬ ok state event →
      doomed (step state event))
    (stays : ∀ state event, doomed state → doomed (step state event))
    {start : σ} (initial : inv start) {events : List ε} (along : Along step allowed start events)
    (of_inv : inv (run step start events) → good (run step start events))
    (of_doomed : doomed (run step start events) → ¬ good (run step start events)) :
    good (run step start events) ↔ Along step ok start events := by
  constructor
  · -- The first step that is not permitted dooms the rest.
    intro well
    by_contra broken
    refine of_doomed ?_ well
    clear well of_inv of_doomed
    induction events generalizing start with
    | nil => exact absurd trivial broken
    | cons event rest ih =>
      by_cases permitted : ok start event
      · exact ih (preserved start event initial along.1 permitted) along.2
          fun others => broken ⟨permitted, others⟩
      · exact run_invariant doomed (fun state event doom _ => stays state event doom)
          (lost start event initial along.1 permitted) (along_iff_forall.mpr fun _ _ => trivial)
  · exact fun others => of_inv (run_invariant inv
      (fun state event holds both => preserved state event holds both.1 both.2) initial
      (along.and others))

theorem good_iff_along (inv doomed good : σ → Prop) {step : σ → ε → σ}
    {ok : σ → ε → Prop}
    (preserved : ∀ state event, inv state → ok state event → inv (step state event))
    (lost : ∀ state event, inv state → ¬ ok state event → doomed (step state event))
    (stays : ∀ state event, doomed state → doomed (step state event))
    {start : σ} (initial : inv start) {events : List ε}
    (of_inv : inv (run step start events) → good (run step start events))
    (of_doomed : doomed (run step start events) → ¬ good (run step start events)) :
    good (run step start events) ↔ Along step ok start events :=
  -- Every event is allowed.
  good_iff_along_of_allowed inv doomed good (fun state event holds _ => preserved state event holds)
    (fun state event holds _ => lost state event holds) stays initial
    (along_iff_forall.mpr fun _ _ => trivial) of_inv of_doomed

theorem run_simulation {step : σ → ε → σ} {other : τ → ε → τ} {ok : σ → ε → Prop}
    {related : σ → τ → Prop}
    (preserved : ∀ state shadow event, related state shadow → ok state event →
      related (step state event) (other shadow event))
    {start : σ} {shadow : τ} (initial : related start shadow) {events : List ε}
    (along : Along step ok start events) :
    related (run step start events) (run other shadow events) := by
  -- Both machines take the first event together, and stay related.
  induction events generalizing start shadow with
  | nil => exact initial
  | cons event rest ih => exact ih (preserved start shadow event initial along.1) along.2

end Machine
