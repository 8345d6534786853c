/- GID: DroidOs/Lib/Rely
   generality: G
   digest: Runs of a coroutine beside other changes of the state, and Hoare rules for them. -/

import DroidOs.Lib.Interleaving
import Mathlib.Logic.Relation

set_option autoImplicit false
set_option relaxedAutoImplicit false

namespace DroidOs.Lib.Rely

open Relation
open DroidOs.Lib.Procedure DroidOs.Lib.Interleaving
open DroidOs.Lib.Interleaving.Coroutine (Guard atomically attempt free)

variable {σ ε α β : Type}

/-- A run goes on by an atom that the guard allows, or by a change that other code makes. -/
inductive Advance (rely : σ → σ → Prop) (guard : Guard σ) :
    Coroutine σ ε α × σ → Coroutine σ ε α × σ → Prop
  | atom {step : σ → σ} {next : σ → Coroutine σ ε α} {s : σ} : guard s step →
      Advance rely guard (.atom step next, s) (next s, step s)
  | beside {c : Coroutine σ ε α} {s t : σ} : rely s t → Advance rely guard (c, s) (c, t)

/-- Run without any other change, a coroutine gets to its end. -/
theorem reaches_run (rely : σ → σ → Prop) (c : Coroutine σ ε α) (s : σ) :
    ReflTransGen (Advance rely free) (c, s) (.done (c.run s).1, (c.run s).2) := by
  induction c generalizing s with
  | done r => exact .refl
  | atom step next ih => exact .head (.atom trivial) (ih s (step s))

/-- What such runs are judged by: the changes that other code may make, the atoms that are
run, what holds of every state, and what every atom does. -/
structure Terms (σ : Type) where
  rely : σ → σ → Prop
  guard : Guard σ
  inv : σ → Prop
  promise : σ → σ → Prop
  stable : ∀ {s t}, inv s → rely s t → inv t

namespace Terms

variable (terms : Terms σ)

/-- Other code does not make the assertion false. -/
def Stable (P : σ → Prop) : Prop := ∀ s t, P s → terms.rely s t → P t

/-- Wherever a run from the state leads, the terms are met, and if it returns the assertion
about the value holds, whatever other code does in between and afterwards. -/
def Upholds (post : α → σ → Prop) : Coroutine σ ε α → σ → Prop
  | .done r, s => terms.inv s ∧ ∀ a t, r = .ok a → ReflTransGen terms.rely s t → post a t
  | .atom step next, s => terms.inv s ∧ ∀ t, ReflTransGen terms.rely s t → terms.guard t step →
      terms.promise t (step t) ∧ Upholds post (next t) (step t)

/-- From a state of the precondition the coroutine upholds the terms. -/
def Triple (pre : σ → Prop) (c : Coroutine σ ε α) (post : α → σ → Prop) : Prop :=
  ∀ s, terms.inv s → pre s → terms.Upholds post c s

variable {terms} {P Q : σ → Prop} {post post' : α → σ → Prop} {c : Coroutine σ ε α}

theorem stable_true : terms.Stable fun _ => True := fun _ _ _ _ => trivial

/-! Runs. -/

theorem inv_later {s t : σ} (holds : terms.inv s) (later : ReflTransGen terms.rely s t) :
    terms.inv t := by
  induction later with
  | refl => exact holds
  | tail _ last ih => exact terms.stable ih last

theorem Stable.later (stable : terms.Stable P) {s t : σ} (holds : P s)
    (later : ReflTransGen terms.rely s t) : P t := by
  induction later with
  | refl => exact holds
  | tail _ last ih => exact stable _ _ ih last

theorem Upholds.inv {s : σ} (upholds : terms.Upholds post c s) : terms.inv s := by
  cases c with
  | done r => exact upholds.1
  | atom step next => exact upholds.1

theorem Upholds.later {s t : σ} (upholds : terms.Upholds post c s)
    (later : ReflTransGen terms.rely s t) : terms.Upholds post c t := by
  have holds := inv_later upholds.inv later
  cases c with
  | done r => exact ⟨holds, fun a u value after => upholds.2 a u value (later.trans after)⟩
  | atom step next => exact ⟨holds, fun u after => upholds.2 u (later.trans after)⟩

theorem Upholds.promise {step : σ → σ} {next : σ → Coroutine σ ε α} {s : σ}
    (upholds : terms.Upholds post (.atom step next) s) (allowed : terms.guard s step) :
    terms.promise s (step s) := (upholds.2 s .refl allowed).1

/-- What a run upholds, it still upholds after its next step. -/
theorem Upholds.advance {r r' : Coroutine σ ε α × σ} (upholds : terms.Upholds post r.1 r.2)
    (step : Advance terms.rely terms.guard r r') : terms.Upholds post r'.1 r'.2 := by
  cases step with
  | atom allowed => exact (upholds.2 _ .refl allowed).2
  | beside other => exact upholds.later (.single other)

theorem Upholds.reaches {r r' : Coroutine σ ε α × σ} (upholds : terms.Upholds post r.1 r.2)
    (run : ReflTransGen (Advance terms.rely terms.guard) r r') : terms.Upholds post r'.1 r'.2 := by
  induction run with
  | refl => exact upholds
  | tail _ last ih => exact ih.advance last

theorem Upholds.weaken {s : σ} (upholds : terms.Upholds post c s)
    (weaker : ∀ a s, terms.inv s → post a s → post' a s) : terms.Upholds post' c s := by
  induction c generalizing s with
  | done r =>
    refine ⟨upholds.1, fun a t value later => ?_⟩
    exact weaker a t (inv_later upholds.1 later) (upholds.2 a t value later)
  | atom step next ih =>
    refine ⟨upholds.1, fun t later allowed => ?_⟩
    obtain ⟨kept, rest⟩ := upholds.2 t later allowed
    exact ⟨kept, ih t rest⟩

/-! Hoare rules. -/

theorem Triple.weaken {P' : σ → Prop} (triple : terms.Triple P c post) (stronger : ∀ s, P' s → P s)
    (weaker : ∀ a s, terms.inv s → post a s → post' a s) : terms.Triple P' c post' :=
  fun s inv pre => (triple s inv (stronger s pre)).weaken weaker

/-- What is said of the value need not be said. -/
theorem Triple.forget (triple : terms.Triple P c post) : terms.Triple P c fun _ _ => True :=
  triple.weaken (fun _ => id) fun _ _ _ _ => trivial

/-- Nothing need hold at first. -/
theorem Triple.anywhere (triple : terms.Triple (fun _ => True) c post) : terms.Triple P c post :=
  triple.weaken (fun _ _ => trivial) fun _ _ _ => id

theorem triple_pure {a : α} (stable : terms.Stable P) (holds : ∀ s, P s → post a s) :
    terms.Triple P (pure a : Coroutine σ ε α) post := by
  intro s inv pre
  refine ⟨inv, fun b t value later => ?_⟩
  cases value
  exact holds t (stable.later pre later)

/-- An atom, as a procedure that is run in some state that other code has left. -/
theorem triple_atomically {p : Proc σ ε α} (stable : terms.Stable P) (after : ∀ a, terms.Stable (post a))
    (runs : ∀ s, terms.inv s → P s → terms.guard s p.after →
      terms.promise s (p s).2 ∧ terms.inv (p s).2 ∧ ∀ a, (p s).1 = .ok a → post a (p s).2) :
    terms.Triple P (atomically p) post := by
  intro s inv pre
  refine ⟨inv, fun t later allowed => ?_⟩
  obtain ⟨kept, inv', returns⟩ := runs t (inv_later inv later) (stable.later pre later) allowed
  exact ⟨kept, inv', fun a u value after' => (after a).later (returns a value) after'⟩

theorem triple_value (a : α) : terms.Triple P (pure a : Coroutine σ ε α) fun _ _ => True :=
  (triple_pure stable_true fun _ _ => trivial).anywhere

theorem triple_bind {f : α → Coroutine σ ε β} {last : β → σ → Prop} (first : terms.Triple P c post)
    (second : ∀ a, terms.Triple (post a) (f a) last) : terms.Triple P (c >>= f) last := by
  have upholds (s : σ) (holds : terms.Upholds post c s) : terms.Upholds last (Coroutine.bind c f) s := by
    clear first
    induction c generalizing s with
    | done r =>
      cases r with
      | ok a => exact second a s holds.1 (holds.2 a s rfl .refl)
      | error e =>
        refine ⟨holds.1, fun b t value _ => ?_⟩
        cases value
    | atom step next ih =>
      refine ⟨holds.1, fun t later allowed => ?_⟩
      obtain ⟨kept, rest⟩ := holds.2 t later allowed
      exact ⟨kept, ih t (step t) rest⟩
  exact fun s inv pre => upholds s (first s inv pre)

/-- What is said of a returned value is not said of a caught exception. -/
theorem triple_attempt (triple : terms.Triple P c post) :
    terms.Triple P (attempt c) fun r s => ∀ a, r = .ok a → post a s := by
  have upholds (s : σ) (holds : terms.Upholds post c s) :
      terms.Upholds (fun r s => ∀ a, r = Except.ok a → post a s) (attempt c) s := by
    clear triple
    induction c generalizing s with
    | done r =>
      refine ⟨holds.1, fun b t value later a caught => ?_⟩
      cases value
      exact holds.2 a t caught later
    | atom step next ih =>
      refine ⟨holds.1, fun t later allowed => ?_⟩
      obtain ⟨kept, rest⟩ := holds.2 t later allowed
      exact ⟨kept, ih t (step t) rest⟩
  exact fun s inv pre => upholds s (triple s inv pre)

theorem triple_ite {b : Prop} [Decidable b] {c' : Coroutine σ ε α} (yes : b → terms.Triple P c post)
    (no : ¬ b → terms.Triple P c' post) : terms.Triple P (if b then c else c') post := by
  split
  · exact yes ‹_›
  · exact no ‹_›

end Terms

end DroidOs.Lib.Rely
