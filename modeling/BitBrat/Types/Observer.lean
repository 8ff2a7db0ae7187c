import BitBrat.Types.Event
import Mathlib.Algebra.Field.Rat
import Mathlib.Algebra.Order.Ring.NNRat

/-! The observers of the event stream: what they listen to, and how they cut it into windows. -/

namespace BitBrat

structure StreamFilters where
  platforms : Option (List String) := none
  eventTypes : Option (List String) := none
  channels : Option (List String) := none
  deriving DecidableEq

structure StreamSource where
  topics : Option (List String) := none
  filters : Option StreamFilters := none
  deriving DecidableEq

inductive WindowType where
  | sliding
  | tumbling
  | session
  deriving DecidableEq

/-- The windows of an observer, with all durations in milliseconds. -/
structure StreamWindowConfig where
  type : WindowType
  sizeMs : ℚ≥0
  slideMs : Option ℚ≥0 := none
  sessionGapMs : Option ℚ≥0 := none
  deriving DecidableEq

structure StreamObserver where
  id : String
  active : Bool
  source : Option StreamSource := none
  window : Option StreamWindowConfig := none
  deriving DecidableEq

/-- The first duration, unless it is absent or zero. -/
def durationOr (duration : Option ℚ≥0) (fallback : ℚ≥0) : ℚ≥0 :=
  match duration with
  | some found => if found = 0 then fallback else found
  | none => fallback

theorem durationOr_pos (duration : Option ℚ≥0) {fallback : ℚ≥0} (positive : 0 < fallback) :
    0 < durationOr duration fallback := by
  cases duration with
  | none => exact positive
  | some found =>
    simp only [durationOr]
    split
    · exact positive
    · rename_i set
      exact pos_iff_ne_zero.mpr set

/-- Whether a list of admissible texts admits a text, where an empty list admits everything. -/
def admits : Option (List String) → Option String → Bool
  | none, _ => true
  | some [], _ => true
  | some listed, some text => listed.contains text
  | some _, none => false

def matchesObserver (event : Event) (observer : StreamObserver) : Bool :=
  match observer.source.bind (·.filters) with
  | none => true
  | some filters =>
    -- An empty platform or channel is none at all, but an empty type may be listed.
    admits filters.platforms ((event.ingress.map (·.source)).bind nonEmpty) &&
      admits filters.eventTypes (some event.type) &&
      admits filters.channels ((event.ingress.bind (·.channel)).bind nonEmpty)

end BitBrat
