/- GID: DroidOs/Lib/Restart
   generality: G
   digest: Runs of a process that may be stopped and started again between two requests. -/

import Mathlib.Data.List.Basic

set_option autoImplicit false
set_option relaxedAutoImplicit false

namespace DroidOs.Lib.Restart

variable {σ ω α : Type*}

/-- The process handles a request, or it is stopped and started again. -/
inductive Event (ω : Type*)
  | handle (op : ω)
  | restart

/-- Whether nothing is stopped here. -/
def Event.handles : Event ω → Bool
  | handle _ => true
  | restart => false

/-- The same requests in the same order, without the restarts. -/
def uninterrupted (events : List (Event ω)) : List (Event ω) := events.filter Event.handles

variable (step : ω → σ → α × σ) (restart : σ → σ)

/-- The answers of a run, in order. -/
def answers : List (Event ω) → σ → List α
  | [], _ => []
  | .handle op :: events, s => (step op s).1 :: answers events (step op s).2
  | .restart :: events, s => answers events (restart s)

variable {step restart} {I : σ → Prop}

/-- If a restart finds all of the state again wherever an invariant of the requests holds,
then no answer tells a run from the same run without its restarts. -/
theorem answers_uninterrupted (again : ∀ s, I s → restart s = s) (kept : ∀ op s, I s → I (step op s).2)
    (events : List (Event ω)) {s : σ} (holds : I s) :
    answers step restart events s = answers step restart (uninterrupted events) s := by
  induction events generalizing s with
  | nil => rfl
  | cons e events ih =>
    cases e with
    | handle op =>
      have rest := ih (kept op s holds)
      show (step op s).1 :: answers step restart events (step op s).2 = _
      rw [rest]
      rfl
    | restart =>
      show answers step restart events (restart s) = answers step restart (uninterrupted events) s
      rw [again s holds]
      exact ih holds

end DroidOs.Lib.Restart
