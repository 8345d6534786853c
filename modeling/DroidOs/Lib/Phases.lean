/- GID: DroidOs/Lib/Phases
   generality: G
   digest: Coroutines that pass through the phases of a protocol, and what holds of a pool of them. -/

import DroidOs.Lib.Interleaving

set_option autoImplicit false
set_option relaxedAutoImplicit false

namespace DroidOs.Lib.Phases

open DroidOs.Lib.Procedure DroidOs.Lib.Interleaving
open DroidOs.Lib.Interleaving.Coroutine (atomically)

variable {σ ε α β φ ι : Type}

/-- Which phases a step from one state to another may lead between. -/
abbrev Protocol (σ φ : Type) : Type := φ → σ → φ → σ → Prop

/-- Every atom takes the coroutine from its phase to another as the protocol allows, whatever
state it finds, and the coroutine ends in a phase that suits its result. -/
def Follows (allows : Protocol σ φ) (ends : Except ε α → φ → Prop) : Coroutine σ ε α → φ → Prop
  | .done r, phase => ends r phase
  | .atom step next, phase => ∀ s, ∃ phase', allows phase s phase' (step s) ∧ Follows allows ends (next s) phase'

variable {allows : Protocol σ φ} {ends : Except ε α → φ → Prop}

theorem follows_done {r : Except ε α} {phase : φ} (suits : ends r phase) :
    Follows allows ends (.done r : Coroutine σ ε α) phase := suits

theorem follows_pure {a : α} {phase : φ} (suits : ends (.ok a) phase) :
    Follows allows ends (pure a : Coroutine σ ε α) phase := suits

/-- An atom in front of a coroutine that goes on from the phase it leads to. -/
theorem follows_atomically_bind {ends' : Except ε β → φ → Prop} {p : Proc σ ε α} {f : α → Coroutine σ ε β}
    {phase : φ} (step : ∀ s, ∃ phase' a, allows phase s phase' (p s).2 ∧ (p s).1 = .ok a ∧
      Follows allows ends' (f a) phase') : Follows allows ends' (atomically p >>= f) phase := by
  intro s
  obtain ⟨phase', a, allowed, value, rest⟩ := step s
  refine ⟨phase', allowed, ?_⟩
  change Follows allows ends' (Coroutine.bind (.done (p s).1) f) phase'
  rw [value]
  exact rest

theorem follows_void {c : Coroutine σ ε α} {last : Except ε Unit → φ → Prop} {phase : φ}
    (follows : Follows allows ends c phase) (ended : ∀ a phase', ends (.ok a) phase' → last (.ok ()) phase')
    (raised : ∀ e phase', ends (.error e) phase' → last (.error e) phase') : Follows allows last c.void phase := by
  change Follows allows last (Coroutine.bind c fun _ => .done (.ok ())) phase
  induction c generalizing phase with
  | done r =>
    cases r with
    | ok a => exact ended a phase follows
    | error e => exact raised e phase follows
  | atom step next ih =>
    intro s
    obtain ⟨phase', allowed, rest⟩ := follows s
    exact ⟨phase', allowed, ih s rest⟩

/-! A pool of such coroutines. -/

/-- Each thread of the pool is in its phase. -/
structure Phased (allows : Protocol σ φ) (ends : Except ε Unit → φ → Prop) (p : Pool σ ε) (phases : List φ) :
    Prop where
  length : phases.length = p.threads.length
  each : ∀ (i : ℕ) (c : Coroutine σ ε Unit) (phase : φ), p.threads[i]? = some c → phases[i]? = some phase →
    Follows allows ends c phase

variable {last : Except ε Unit → φ → Prop} {p : Pool σ ε} {phases : List φ}

theorem phased_nil (s : σ) : Phased allows last (⟨s, []⟩ : Pool σ ε) [] :=
  ⟨rfl, fun i c phase found => by simp at found⟩

/-- A thread that has a phase. -/
theorem Phased.phase (phased : Phased allows last p phases) {i : ℕ} {c : Coroutine σ ε Unit}
    (found : p.threads[i]? = some c) : ∃ phase, phases[i]? = some phase ∧ Follows allows last c phase := by
  obtain ⟨inside, -⟩ := List.getElem?_eq_some_iff.mp found
  have inside' : i < phases.length := by
    rw [phased.length]
    exact inside
  exact ⟨phases[i], List.getElem?_eq_getElem inside', phased.each i c _ found (List.getElem?_eq_getElem inside')⟩

/-- A thread that has ended is in a phase that suits its result. -/
theorem Phased.ended (phased : Phased allows last p phases) {i : ℕ} {phase : φ} (here : phases[i]? = some phase)
    (finished : ∀ c ∈ p.threads, ∃ r, c = .done r) : ∃ r, last r phase := by
  obtain ⟨inside, -⟩ := List.getElem?_eq_some_iff.mp here
  have inside' : i < p.threads.length := by
    rw [← phased.length]
    exact inside
  obtain ⟨r, ended⟩ := finished _ (List.getElem_mem inside')
  have follows := phased.each i _ phase (List.getElem?_eq_getElem inside') here
  rw [ended] at follows
  exact ⟨r, follows⟩

private theorem phased_start (phased : Phased allows last p phases) {c : Coroutine σ ε Unit} {phase : φ}
    (follows : Follows allows last c phase) :
    Phased allows last { p with threads := p.threads ++ [c] } (phases ++ [phase]) := by
  refine ⟨by simp [phased.length], fun i c' phase' found here => ?_⟩
  rcases Nat.lt_trichotomy i p.threads.length with old | rfl | beyond
  · rw [List.getElem?_append_left old] at found
    rw [List.getElem?_append_left (by rw [phased.length]; exact old)] at here
    exact phased.each i c' phase' found here
  · rw [List.getElem?_concat_length] at found
    rw [← phased.length, List.getElem?_concat_length] at here
    cases found
    cases here
    exact follows
  · have none := List.getElem?_eq_none (l := p.threads ++ [c]) (i := i) (by simp; omega)
    rw [none] at found
    cases found

private theorem phased_resume (phased : Phased allows last p phases) {i : ℕ} {step : σ → σ}
    {next : σ → Coroutine σ ε Unit} {phase' : φ} (follows : Follows allows last (next p.state) phase') :
    Phased allows last ⟨step p.state, p.threads.set i (next p.state)⟩ (phases.set i phase') := by
  refine ⟨by simp [phased.length], fun j c phase found here => ?_⟩
  by_cases same : i = j
  · subst same
    rw [List.getElem?_set_self'] at found here
    rcases Option.map_eq_some_iff.mp found with ⟨_, _, rfl⟩
    rcases Option.map_eq_some_iff.mp here with ⟨_, _, rfl⟩
    exact follows
  · rw [List.getElem?_set_ne same] at found here
    exact phased.each j c phase found here

/-- What every step that the protocol allows to a thread in its phase keeps, and every new
thread of the run, holds of the state and the phases after the run. -/
theorem phased_runMoves {code : ι → Coroutine σ ε Unit} {first : ι → φ} {J : σ → List φ → Prop}
    {moves : List (Move ι)} (follows : ∀ op, Follows allows last (code op) (first op))
    (starts : ∀ op, .start op ∈ moves → ∀ s phases, J s phases → J s (phases ++ [first op]))
    (steps : ∀ s s' phases i phase phase', J s phases → phases[i]? = some phase → allows phase s phase' s' →
      J s' (phases.set i phase'))
    (phased : Phased allows last p phases) (holds : J p.state phases) :
    ∃ phases', Phased allows last (runMoves code p moves) phases' ∧ J (runMoves code p moves).state phases' := by
  induction moves generalizing p phases with
  | nil => exact ⟨phases, phased, holds⟩
  | cons m moves ih =>
    have later (op : ι) (member : .start op ∈ moves) := starts op (List.mem_cons_of_mem m member)
    cases m with
    | start op => exact ih later (phased_start phased (follows op)) (starts op (by simp) p.state phases holds)
    | resume thread =>
      cases found : p.threads[thread]? with
      | none =>
        have still : move code p (.resume thread) = p := by simp [move, advance, found]
        have rest := ih later phased holds
        rw [← still] at rest
        exact rest
      | some c =>
        cases c with
        | done r =>
          have still : move code p (.resume thread) = p := by simp [move, advance, found]
          have rest := ih later phased holds
          rw [← still] at rest
          exact rest
        | atom step next =>
          obtain ⟨phase, here, goes⟩ := phased.phase found
          obtain ⟨phase', allowed, rest⟩ := goes p.state
          have moved : move code p (.resume thread) = ⟨step p.state, p.threads.set thread (next p.state)⟩ := by
            simp [move, advance, found]
          have ends := ih later (phased_resume phased rest) (steps _ _ _ _ _ _ holds here allowed)
          rw [← moved] at ends
          exact ends

end DroidOs.Lib.Phases
