/- GID: DroidOs/Executive/BehaviourTree
   generality: G
   source: src/droidos/executive/behaviour_tree.py
   digest: Sequences of actions over a local state, ticked until they settle. -/

import DroidOs.Lib.Rely

set_option autoImplicit false
set_option relaxedAutoImplicit false

namespace DroidOs.Executive.BehaviourTree

open DroidOs.Lib.Interleaving DroidOs.Lib.Rely
open DroidOs.Lib.Rely.Terms (triple_pure triple_bind triple_ite)

inductive Status
  | success | failure | running
  deriving DecidableEq

/-- An action over `δ`, the variables its closure shares with the other actions. -/
structure Action (σ ε δ : Type) where
  name : String
  body : δ → Coroutine σ ε (Status × δ)

variable {σ ε δ : Type}

/-- A result that is a truth value rather than a status. -/
def Status.ofBool (ok : Bool) : Status := if ok then .success else .failure

/-- `Sequence.tick`: the status, `last_failed` and the shared variables. -/
def tick : List (Action σ ε δ) → δ → Coroutine σ ε (Status × String × δ)
  | [], d => pure (.success, "", d)
  | action :: rest, d => do
    let (status, d) ← action.body d
    match status with
    | .running => return (.running, "", d)
    | .failure => return (.failure, action.name, d)
    | .success => tick rest d

/-- `run`: tick the tree until it settles or the budget is spent. -/
def runTree (actions : List (Action σ ε δ)) : Nat → δ → Coroutine σ ε (Status × String × δ)
  | 0, d => pure (.failure, "", d)
  | budget + 1, d => do
    let (status, failed, d) ← tick actions d
    if status = .running then runTree actions budget d else return (status, failed, d)

variable {A : (σ → σ) → Prop}

theorem atoms_tick {actions : List (Action σ ε δ)}
    (each : ∀ a ∈ actions, ∀ d, (a.body d).Atoms A) (d : δ) : (tick actions d).Atoms A := by
  induction actions generalizing d with
  | nil => exact Coroutine.atoms_pure _
  | cons action rest ih =>
    refine Coroutine.atoms_bind (each action (by simp) d) fun ⟨status, d'⟩ => ?_
    cases status with
    | running => exact Coroutine.atoms_pure _
    | failure => exact Coroutine.atoms_pure _
    | success => exact ih (fun a member => each a (List.mem_cons_of_mem _ member)) d'

/-- Running a tree runs its actions' atoms only. -/
theorem atoms_runTree {actions : List (Action σ ε δ)}
    (each : ∀ a ∈ actions, ∀ d, (a.body d).Atoms A) (budget : Nat) (d : δ) :
    (runTree actions budget d).Atoms A := by
  induction budget generalizing d with
  | zero => exact Coroutine.atoms_pure _
  | succ budget ih =>
    refine Coroutine.atoms_bind (atoms_tick each d) fun ⟨status, failed, d'⟩ => ?_
    exact Coroutine.atoms_ite (fun _ => ih d') fun _ => Coroutine.atoms_pure _

/-! A sequence ends well only where its last action does. -/

variable {terms : Terms σ} {P Q : σ → Prop} {front : List (Action σ ε δ)} {last : Action σ ε δ}

theorem triple_tick (before : terms.Stable P) (after : terms.Stable Q)
    (each : ∀ a ∈ front, ∀ d, terms.Triple P (a.body d) fun _ => P)
    (ends : ∀ d, terms.Triple P (last.body d) fun r s => P s ∧ (r.1 = .success → Q s)) (d : δ) :
    terms.Triple P (tick (front ++ [last]) d) fun r s => P s ∧ (r.1 = .success → Q s) := by
  have unsettled {status : Status} {name : String} {d : δ} (other : status ≠ .success) :
      terms.Triple P (pure (status, name, d) : Coroutine σ ε (Status × String × δ))
        fun r s => P s ∧ (r.1 = .success → Q s) :=
    triple_pure before fun s holds => ⟨holds, fun well => absurd well other⟩
  induction front generalizing d with
  | nil =>
    refine triple_bind (ends d) fun ⟨status, d'⟩ => ?_
    cases status with
    | running => exact (unsettled (by decide)).weaken (fun _ => And.left) fun _ _ _ => id
    | failure => exact (unsettled (by decide)).weaken (fun _ => And.left) fun _ _ _ => id
    | success =>
      have both : terms.Stable fun s => P s ∧ Q s := fun s t holds other =>
        ⟨before s t holds.1 other, after s t holds.2 other⟩
      exact (triple_pure both fun s holds => ⟨holds.1, fun _ => holds.2⟩).weaken
        (fun _ holds => ⟨holds.1, holds.2 rfl⟩) fun _ _ _ => id
  | cons action front ih =>
    refine triple_bind (each action List.mem_cons_self d) fun ⟨status, d'⟩ => ?_
    cases status with
    | running => exact unsettled (by decide)
    | failure => exact unsettled (by decide)
    | success => exact ih (fun a member => each a (List.mem_cons_of_mem _ member)) d'

theorem triple_runTree (before : terms.Stable P) (after : terms.Stable Q)
    (each : ∀ a ∈ front, ∀ d, terms.Triple P (a.body d) fun _ => P)
    (ends : ∀ d, terms.Triple P (last.body d) fun r s => P s ∧ (r.1 = .success → Q s)) (budget : Nat)
    (d : δ) :
    terms.Triple P (runTree (front ++ [last]) budget d) fun r s => P s ∧ (r.1 = .success → Q s) := by
  induction budget generalizing d with
  | zero => exact triple_pure before fun s holds => ⟨holds, fun well => by cases well⟩
  | succ budget ih =>
    refine triple_bind (triple_tick before after each ends d) fun ⟨status, failed, d'⟩ => ?_
    refine triple_ite (fun _ => (ih d').weaken (fun _ => And.left) fun _ _ _ => id) fun _ => ?_
    have settled : terms.Stable fun s => P s ∧ (status = .success → Q s) := fun s t holds other =>
      ⟨before s t holds.1 other, fun well => after s t (holds.2 well) other⟩
    exact triple_pure settled fun s holds => holds

end DroidOs.Executive.BehaviourTree
