/- GID: DroidOs/Lib/Interleaving
   generality: G
   digest: Procedures that other code may run between the atomic steps of. -/

import DroidOs.Lib.Procedure

set_option autoImplicit false
set_option relaxedAutoImplicit false

namespace DroidOs.Lib.Interleaving

open DroidOs.Lib.Procedure

/-- A procedure cut into atomic steps. What an atom leaves and how the procedure
goes on are both read off the state the atom starts in. -/
inductive Coroutine (σ ε α : Type) : Type
  | done (result : Except ε α)
  | atom (step : σ → σ) (next : σ → Coroutine σ ε α)

variable {σ ε α β : Type}

namespace Coroutine

def atomically (p : Proc σ ε α) : Coroutine σ ε α :=
  .atom p.after fun s => .done (p s).1

def bind : Coroutine σ ε α → (α → Coroutine σ ε β) → Coroutine σ ε β
  | .done (.ok a), f => f a
  | .done (.error e), _ => .done (.error e)
  | .atom step next, f => .atom step fun s => bind (next s) f

instance : Monad (Coroutine σ ε) where
  pure a := .done (.ok a)
  bind := bind

/-- The outcome of a `try` block, reified. -/
def attempt : Coroutine σ ε α → Coroutine σ ε (Except ε α)
  | .done r => .done (.ok r)
  | .atom step next => .atom step fun s => attempt (next s)

/-- A coroutine whose value is not looked at. -/
def void (c : Coroutine σ ε α) : Coroutine σ ε Unit := c >>= fun _ => pure ()

/-- Run every atom with nothing in between. -/
def run : Coroutine σ ε α → Proc σ ε α
  | .done r => fun s => (r, s)
  | .atom step next => fun s => run (next s) (step s)

/-- What running an atom in a state takes for granted. -/
abbrev Guard (σ : Type) : Type := σ → (σ → σ) → Prop

/-- Nothing is taken for granted. -/
def free : Guard σ := fun _ _ => True

/-- Every atom, run as the guard allows in a state of the invariant, ends in one.
The atoms that follow do so too, wherever the earlier ones have led. -/
def Keeps (G : Guard σ) (I : σ → Prop) : Coroutine σ ε α → Prop
  | .done _ => True
  | .atom step next => (∀ s, I s → G s step → I (step s)) ∧ ∀ s, Keeps G I (next s)

@[simp] theorem run_pure (a : α) : (pure a : Coroutine σ ε α).run = (pure a : Proc σ ε α) := rfl

@[simp] theorem run_atomically (p : Proc σ ε α) : (atomically p).run = p := rfl

@[simp] theorem run_bind (c : Coroutine σ ε α) (f : α → Coroutine σ ε β) :
    (c >>= f).run = c.run >>= fun a => (f a).run := by
  change (bind c f).run = _
  induction c with
  | done r => cases r <;> rfl
  | atom step next ih =>
    funext s
    exact congrFun (ih s) (step s)

@[simp] theorem run_attempt (c : Coroutine σ ε α) :
    (attempt c).run = Procedure.attempt c.run := by
  induction c with
  | done r => rfl
  | atom step next ih =>
    funext s
    exact congrFun (ih s) (step s)

/-- Every atom that may come to be run is one of the given steps. -/
def Atoms (A : (σ → σ) → Prop) : Coroutine σ ε α → Prop
  | .done _ => True
  | .atom step next => A step ∧ ∀ s, Atoms A (next s)

section

variable {A : (σ → σ) → Prop}

theorem atoms_pure (a : α) : Atoms A (pure a : Coroutine σ ε α) := trivial

theorem atoms_atomically {p : Proc σ ε α} (step : A p.after) : Atoms A (atomically p) :=
  ⟨step, fun _ => trivial⟩

theorem atoms_bind {c : Coroutine σ ε α} {f : α → Coroutine σ ε β} (first : Atoms A c)
    (second : ∀ a, Atoms A (f a)) : Atoms A (c >>= f) := by
  change Atoms A (bind c f)
  induction c with
  | done r =>
    cases r with
    | ok a => exact second a
    | error e => trivial
  | atom step next ih => exact ⟨first.1, fun s => ih s (first.2 s)⟩

theorem atoms_void {c : Coroutine σ ε α} (atoms : Atoms A c) : Atoms A c.void :=
  atoms_bind atoms fun _ => atoms_pure ()

theorem atoms_attempt {c : Coroutine σ ε α} (atoms : Atoms A c) : Atoms A (attempt c) := by
  induction c with
  | done r => trivial
  | atom step next ih => exact ⟨atoms.1, fun s => ih s (atoms.2 s)⟩

/-- A first atom whose result matters to what follows. -/
theorem atoms_atomically_bind {p : Proc σ ε α} {f : α → Coroutine σ ε β} (first : A p.after)
    (second : ∀ s a, (p s).1 = .ok a → Atoms A (f a)) : Atoms A (atomically p >>= f) := by
  refine ⟨first, fun s => ?_⟩
  change Atoms A (bind (.done (p s).1) f)
  rcases value : (p s).1 with e | a
  · trivial
  · exact second s a value

theorem atoms_mono {B : (σ → σ) → Prop} {c : Coroutine σ ε α} (atoms : Atoms A c)
    (each : ∀ step, A step → B step) : Atoms B c := by
  induction c with
  | done r => trivial
  | atom step next ih => exact ⟨each step atoms.1, fun s => ih s (atoms.2 s)⟩

theorem atoms_ite {c : Prop} [Decidable c] {p q : Coroutine σ ε α} (yes : c → Atoms A p)
    (no : ¬ c → Atoms A q) : Atoms A (if c then p else q) := by
  split
  · exact yes ‹_›
  · exact no ‹_›

end

variable {G : Guard σ} {I : σ → Prop}

/-- What every possible atom keeps, the coroutine keeps. -/
theorem keeps_of_atoms {A : (σ → σ) → Prop} {c : Coroutine σ ε α} (atoms : Atoms A c)
    (each : ∀ step, A step → ∀ s, I s → G s step → I (step s)) : Keeps G I c := by
  induction c with
  | done r => trivial
  | atom step next ih => exact ⟨each step atoms.1, fun s => ih s (atoms.2 s)⟩

theorem keeps_pure (a : α) : Keeps G I (pure a : Coroutine σ ε α) := trivial

/-- An atom may use what the guard says about it. -/
theorem keeps_atomically_of {p : Proc σ ε α} (keeps : ∀ s, I s → G s p.after → I (p s).2) :
    Keeps G I (atomically p) :=
  ⟨keeps, fun _ => trivial⟩

theorem keeps_atomically {p : Proc σ ε α} (keeps : Procedure.Keeps I p) :
    Keeps G I (atomically p) :=
  keeps_atomically_of fun _ holds _ => Procedure.Keeps.after keeps holds

theorem keeps_bind {c : Coroutine σ ε α} {f : α → Coroutine σ ε β} (first : Keeps G I c)
    (second : ∀ a, Keeps G I (f a)) : Keeps G I (c >>= f) := by
  change Keeps G I (bind c f)
  induction c with
  | done r =>
    cases r with
    | ok a => exact second a
    | error e => trivial
  | atom step next ih => exact ⟨first.1, fun s => ih s (first.2 s)⟩

theorem keeps_void {c : Coroutine σ ε α} (keeps : Keeps G I c) : Keeps G I c.void :=
  keeps_bind keeps fun _ => keeps_pure ()

/-- Run without interruption, a coroutine that keeps an invariant keeps it as a procedure. -/
theorem keeps_run {c : Coroutine σ ε α} (keeps : Keeps free I c) : Procedure.Keeps I c.run := by
  rw [Procedure.keeps_iff]
  induction c with
  | done r => exact fun s holds => holds
  | atom step next ih =>
    intro s holds
    exact ih s (keeps.2 s) (step s) (keeps.1 s holds trivial)

/-! A coroutine on its own. -/

/-- The states before and after each atom of a coroutine that nothing interrupts. -/
def trace : Coroutine σ ε α → σ → List (σ × σ)
  | .done _, _ => []
  | .atom step next, s => (s, step s) :: trace (next s) (step s)

@[simp] theorem trace_pure (a : α) (s : σ) : trace (pure a : Coroutine σ ε α) s = [] := rfl

@[simp] theorem trace_atomically (p : Proc σ ε α) (s : σ) : trace (atomically p) s = [(s, p.after s)] := rfl

theorem trace_bind (c : Coroutine σ ε α) (f : α → Coroutine σ ε β) (s : σ) :
    trace (c >>= f) s = trace c s ++ match c.run s with
      | (.ok a, t) => trace (f a) t
      | (.error _, _) => [] := by
  change trace (bind c f) s = _
  induction c generalizing s with
  | done r => cases r <;> simp [bind, trace, run]
  | atom step next ih => simp [bind, trace, run, ih]

/-- A step of a sequence is one of the first coroutine, or one of what its value leads to. -/
theorem mem_trace_bind {c : Coroutine σ ε α} {f : α → Coroutine σ ε β} {s : σ} {t : σ × σ}
    (member : t ∈ trace (c >>= f) s) :
    t ∈ trace c s ∨ ∃ a, (c.run s).1 = .ok a ∧ t ∈ trace (f a) (c.run s).2 := by
  rw [trace_bind] at member
  rcases List.mem_append.mp member with first | second
  · exact .inl first
  · rcases run : c.run s with ⟨e | a, s'⟩ <;> rw [run] at second
    · cases second
    · exact .inr ⟨a, rfl, second⟩

@[simp] theorem trace_attempt (c : Coroutine σ ε α) (s : σ) : trace (attempt c) s = trace c s := by
  induction c generalizing s with
  | done r => rfl
  | atom step next ih => simp [attempt, trace, ih]

/-- Every step of the trace is one of the atoms. -/
theorem mem_trace {A : (σ → σ) → Prop} {c : Coroutine σ ε α} (atoms : Atoms A c) {s : σ} {t : σ × σ}
    (member : t ∈ trace c s) : ∃ step, A step ∧ t.2 = step t.1 := by
  induction c generalizing s with
  | done r => simp [trace] at member
  | atom step next ih =>
    rcases List.mem_cons.mp member with rfl | later
    · exact ⟨step, atoms.1, rfl⟩
    · exact ih s (atoms.2 s) later

/-- An invariant that every atom keeps holds all along the trace. -/
theorem keeps_trace {c : Coroutine σ ε α} (keeps : Keeps free I c) {s : σ} (holds : I s) {t : σ × σ}
    (member : t ∈ trace c s) : I t.1 ∧ I t.2 := by
  induction c generalizing s with
  | done r => simp [trace] at member
  | atom step next ih =>
    have after : I (step s) := keeps.1 s holds trivial
    rcases List.mem_cons.mp member with rfl | later
    · exact ⟨holds, after⟩
    · exact ih s (keeps.2 s) after later

/-- Every atom that is run is one that the guard allows where it is run. -/
def Allowed (G : Guard σ) : Coroutine σ ε α → σ → Prop
  | .done _, _ => True
  | .atom step next, s => G s step ∧ Allowed G (next s) (step s)

section

variable {H : Guard σ} {c : Coroutine σ ε α} {s : σ} {t : σ × σ}

theorem allowed_atomically {p : Proc σ ε α} (allowed : H s p.after) : Allowed H (atomically p) s :=
  ⟨allowed, trivial⟩

theorem allowed_void (allowed : Allowed H c s) : Allowed H c.void s := by
  change Allowed H (bind c fun _ => .done (.ok ())) s
  induction c generalizing s with
  | done r => cases r <;> trivial
  | atom step next ih => exact ⟨allowed.1, ih s allowed.2⟩

/-- An invariant that the allowed atoms keep holds all along an allowed trace. -/
theorem keeps_allowed (keeps : Keeps G I c) (allowed : Allowed G c s) (holds : I s)
    (member : t ∈ trace c s) : I t.1 ∧ I t.2 := by
  induction c generalizing s with
  | done r => simp [trace] at member
  | atom step next ih =>
    have after : I (step s) := keeps.1 s holds allowed.1
    rcases List.mem_cons.mp member with rfl | later
    · exact ⟨holds, after⟩
    · exact ih s (keeps.2 s) allowed.2 after later

theorem keeps_allowed_run (keeps : Keeps G I c) (allowed : Allowed G c s) (holds : I s) :
    I (c.run s).2 := by
  induction c generalizing s with
  | done r => exact holds
  | atom step next ih => exact ih s (keeps.2 s) allowed.2 (keeps.1 s holds allowed.1)

/-- What is kept under a guard that holds at one moment of the trace, is kept there. -/
theorem keeps_moment (keeps : Keeps G I c) (allowed : Allowed H c s) (member : t ∈ trace c s)
    (implies : ∀ step, H t.1 step → G t.1 step) (holds : I t.1) : I t.2 := by
  induction c generalizing s with
  | done r => simp [trace] at member
  | atom step next ih =>
    rcases List.mem_cons.mp member with rfl | later
    · exact keeps.1 s holds (implies step allowed.1)
    · exact ih s (keeps.2 s) allowed.2 later

end

/-- What a guard suffices for, a stronger one does too. -/
theorem keeps_mono {H : Guard σ} {c : Coroutine σ ε α} (keeps : Keeps G I c)
    (implies : ∀ s step, H s step → G s step) : Keeps H I c := by
  induction c with
  | done r => trivial
  | atom step next ih =>
    exact ⟨fun s holds allowed => keeps.1 s holds (implies s step allowed), fun s => ih s (keeps.2 s)⟩

/-- An invariant that a coroutine keeps and one that the guard itself looks after. -/
theorem keeps_and {J : σ → Prop} {c : Coroutine σ ε α} (keeps : Keeps G I c)
    (guarded : ∀ s step, J s → G s step → J (step s)) : Keeps G (fun s => I s ∧ J s) c := by
  induction c with
  | done r => trivial
  | atom step next ih =>
    refine ⟨fun s holds allowed => ?_, fun s => ih s (keeps.2 s)⟩
    exact ⟨keeps.1 s holds.1 allowed, guarded s step holds.2 allowed⟩

/-! One coroutine among other changes of the state. -/

/-- The moments at which the atoms of a coroutine are run, `e k` happening before the
`k`-th: the state before that happens and the state that the atom finds. -/
def moments : (ℕ → σ → σ) → Coroutine σ ε α → σ → List (σ × σ)
  | _, .done _, _ => []
  | e, .atom step next, s =>
    (s, e 0 s) :: moments (fun k => e (k + 1)) (next (e 0 s)) (step (e 0 s))

@[simp] theorem moments_pure (e : ℕ → σ → σ) (a : α) (s : σ) :
    moments e (pure a : Coroutine σ ε α) s = [] := rfl

theorem moments_atomically_bind {e : ℕ → σ → σ} {p : Proc σ ε α} {f : α → Coroutine σ ε β} {s : σ} :
    moments e (atomically p >>= f) s = (s, e 0 s) :: match p (e 0 s) with
      | (.ok a, t) => moments (fun k => e (k + 1)) (f a) t
      | (.error _, _) => [] := by
  change (s, e 0 s) :: moments _ (bind (.done (p (e 0 s)).1) f) (p (e 0 s)).2 = _
  rcases p (e 0 s) with ⟨err | a, t⟩ <;> rfl

/-- At every moment what happens has happened to the state before it. -/
theorem moments_happened {e : ℕ → σ → σ} {c : Coroutine σ ε α} {s : σ} {k : ℕ} {v : σ × σ}
    (found : (moments e c s)[k]? = some v) : v.2 = e k v.1 := by
  induction c generalizing e s k with
  | done r => simp [moments] at found
  | atom step next ih =>
    cases k with
    | zero =>
      obtain rfl : (s, e 0 s) = v := by simpa [moments] using found
      rfl
    | succ k =>
      have later : (moments (fun k => e (k + 1)) (next (e 0 s)) (step (e 0 s)))[k]? = some v := by
        simpa [moments] using found
      have happened := ih (e 0 s) later
      exact happened

/-- Run a coroutine among other changes of the state, `e k` happening before its `k`-th
atom. The changes still to come are kept beside the state. -/
def amid : Coroutine σ ε α → Proc (σ × (ℕ → σ → σ)) ε α
  | .done r => fun s => (r, s)
  | .atom step next => fun s =>
    amid (next (s.2 0 s.1)) (step (s.2 0 s.1), fun k => s.2 (k + 1))

@[simp] theorem amid_pure (a : α) : amid (pure a : Coroutine σ ε α) = pure a := rfl

theorem amid_atomically (p : Proc σ ε α) (s : σ × (ℕ → σ → σ)) :
    amid (atomically p) s = ((p (s.2 0 s.1)).1, (p (s.2 0 s.1)).2, fun k => s.2 (k + 1)) := rfl

@[simp] theorem amid_bind (c : Coroutine σ ε α) (f : α → Coroutine σ ε β) :
    amid (c >>= f) = amid c >>= fun a => amid (f a) := by
  change amid (bind c f) = _
  induction c with
  | done r => cases r <;> rfl
  | atom step next ih =>
    funext s
    exact congrFun (ih (s.2 0 s.1)) _

@[simp] theorem amid_attempt (c : Coroutine σ ε α) :
    amid (attempt c) = Procedure.attempt (amid c) := by
  induction c with
  | done r => rfl
  | atom step next ih =>
    funext s
    exact congrFun (ih (s.2 0 s.1)) _

/-- What a coroutine and all that happens beside it keep, its run among them keeps. -/
theorem keeps_amid {c : Coroutine σ ε α} (keeps : Keeps free I c) :
    Procedure.Keeps (fun s : σ × (ℕ → σ → σ) => I s.1 ∧ ∀ k t, I t → I (s.2 k t)) (amid c) := by
  rw [Procedure.keeps_iff]
  induction c with
  | done r => exact fun s holds => holds
  | atom step next ih =>
    rintro s ⟨holds, beside⟩
    have found := beside 0 s.1 holds
    exact ih (s.2 0 s.1) (keeps.2 _) _ ⟨keeps.1 _ found trivial, fun k => beside (k + 1)⟩

end Coroutine

/-! Several coroutines over one state, advanced in any order. -/

structure Pool (σ ε : Type) where
  state : σ
  threads : List (Coroutine σ ε Unit)

/-- `start` adds a thread; `resume` runs one atom of one thread. -/
inductive Move (ι : Type)
  | start (op : ι)
  | resume (thread : Nat)

variable {ι : Type}

/-- A thread that has ended, or an index that names none, has no atom to run. -/
def advance (p : Pool σ ε) (thread : Nat) : Pool σ ε :=
  match p.threads[thread]? with
  | some (.atom step next) =>
    { state := step p.state, threads := p.threads.set thread (next p.state) }
  | _ => p

def move (code : ι → Coroutine σ ε Unit) (p : Pool σ ε) : Move ι → Pool σ ε
  | .start op => { p with threads := p.threads ++ [code op] }
  | .resume thread => advance p thread

theorem state_start {code : ι → Coroutine σ ε Unit} (p : Pool σ ε) (op : ι) :
    (move code p (.start op)).state = p.state := rfl

theorem state_resume {code : ι → Coroutine σ ε Unit} {p : Pool σ ε} {thread : Nat} {step : σ → σ}
    {next : σ → Coroutine σ ε Unit} (found : p.threads[thread]? = some (.atom step next)) :
    (move code p (.resume thread)).state = step p.state := by
  simp [move, advance, found]

open Coroutine (Guard free)

/-- The guard allows the atom that the move runs, if it runs one. -/
def Allows (G : Guard σ) (p : Pool σ ε) : Move ι → Prop
  | .start _ => True
  | .resume thread => ∀ step next, p.threads[thread]? = some (.atom step next) → G p.state step

theorem allows_resume {G : Guard σ} {p : Pool σ ε} {thread : Nat} {step : σ → σ}
    {next : σ → Coroutine σ ε Unit} (found : p.threads[thread]? = some (.atom step next)) :
    Allows G p (.resume thread : Move ι) ↔ G p.state step := by
  constructor
  · exact fun allows => allows step next found
  · intro allowed step' next' found'
    cases found.symm.trans found'
    exact allowed

def Pool.Keeps (G : Guard σ) (I : σ → Prop) (p : Pool σ ε) : Prop :=
  ∀ c ∈ p.threads, c.Keeps G I

variable {G : Guard σ} {I : σ → Prop} {code : ι → Coroutine σ ε Unit} {p : Pool σ ε}

/-- The threads of a pool go on keeping what they keep. -/
theorem keeps_move (threads : p.Keeps G I) (keeps : ∀ op, (code op).Keeps G I) (m : Move ι) :
    (move code p m).Keeps G I := by
  cases m with
  | start op =>
    intro c member
    rcases List.mem_append.mp member with old | new
    · exact threads c old
    · obtain rfl := List.mem_singleton.mp new
      exact keeps op
  | resume thread =>
    change (advance p thread).Keeps G I
    unfold advance
    split
    · rename_i step next found
      intro c member
      rcases List.mem_or_eq_of_mem_set member with old | rfl
      · exact threads c old
      · exact (threads _ (List.mem_of_getElem? found)).2 p.state
    · exact threads

theorem state_move (threads : p.Keeps G I) (holds : I p.state) {m : Move ι}
    (allowed : Allows G p m) : I (move code p m).state := by
  cases m with
  | start op => exact holds
  | resume thread =>
    change I (advance p thread).state
    unfold advance
    split
    · rename_i step next found
      exact (threads _ (List.mem_of_getElem? found)).1 p.state holds (allowed step next found)
    · exact holds

/-! Runs. -/

def runMoves (code : ι → Coroutine σ ε Unit) (p : Pool σ ε) (moves : List (Move ι)) : Pool σ ε :=
  moves.foldl (move code) p

/-- Every move of the run is one that the guard allows where it is made. -/
def AllowedRun (G : Guard σ) (code : ι → Coroutine σ ε Unit) : Pool σ ε → List (Move ι) → Prop
  | _, [] => True
  | p, m :: moves => Allows G p m ∧ AllowedRun G code (move code p m) moves

theorem allowedRun_free (moves : List (Move ι)) : AllowedRun free code p moves := by
  induction moves generalizing p with
  | nil => trivial
  | cons m moves ih =>
    refine ⟨?_, ih⟩
    cases m with
    | start op => trivial
    | resume thread => exact fun _ _ _ => trivial

theorem keeps_runMoves (threads : p.Keeps G I) (keeps : ∀ op, (code op).Keeps G I)
    (moves : List (Move ι)) : (runMoves code p moves).Keeps G I := by
  induction moves generalizing p with
  | nil => exact threads
  | cons m moves ih => exact ih (keeps_move threads keeps m)

/-- An invariant that every operation keeps holds in every state of an allowed run. -/
theorem state_runMoves (threads : p.Keeps G I) (holds : I p.state)
    (keeps : ∀ op, (code op).Keeps G I) {moves : List (Move ι)}
    (allowed : AllowedRun G code p moves) : I (runMoves code p moves).state := by
  induction moves generalizing p with
  | nil => exact holds
  | cons m moves ih =>
    exact ih (keeps_move threads keeps m) (state_move threads holds allowed.1) allowed.2

end DroidOs.Lib.Interleaving
