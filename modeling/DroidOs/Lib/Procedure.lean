/- GID: DroidOs/Lib/Procedure
   generality: G
   digest: Procedures with exceptions over a state that survives a raise, and their Hoare rules. -/

import Mathlib.Data.List.Basic

set_option autoImplicit false
set_option relaxedAutoImplicit false

namespace DroidOs.Lib.Procedure

/-- A procedure of a language with exceptions. It returns a value or raises, and
what it did to the state before a raise stays done. -/
def Proc (σ ε α : Type) : Type := σ → Except ε α × σ

variable {σ τ ε α β : Type}

/-- The state a procedure leaves, however it ends. -/
def Proc.after (p : Proc σ ε α) (s : σ) : σ := (p s).2

instance : Monad (Proc σ ε) where
  pure a := fun s => (.ok a, s)
  bind p f := fun s => match p s with
    | (.ok a, t) => f a t
    | (.error e, t) => (.error e, t)

def raise (e : ε) : Proc σ ε α := fun s => (.error e, s)

/-- Read the state. -/
def reads (f : σ → α) : Proc σ ε α := fun s => (.ok (f s), s)

def modify (f : σ → σ) : Proc σ ε Unit := fun s => (.ok (), f s)

/-- The outcome of a `try` block, reified. -/
def attempt (p : Proc σ ε α) : Proc σ ε (Except ε α) := fun s => (.ok (p s).1, (p s).2)

/-- Run a procedure on one component of the state. -/
def zoom (get : σ → τ) (put : τ → σ → σ) (p : Proc τ ε α) : Proc σ ε α :=
  fun s => ((p (get s)).1, put (p (get s)).2 s)

/-- A `for` loop whose body has no early exit. -/
def forEach : List β → (β → Proc σ ε Unit) → Proc σ ε Unit
  | [], _ => pure ()
  | b :: bs, f => do
      f b
      forEach bs f

/-- The list of what `f` returns for each element. -/
def gather (f : β → Proc σ ε α) : List β → Proc σ ε (List α)
  | [] => pure []
  | b :: bs => do
      let a ← f b
      let rest ← gather f bs
      return a :: rest

/-! Symbolic execution. -/

@[simp] theorem pure_run (a : α) (s : σ) : (pure a : Proc σ ε α) s = (.ok a, s) := rfl
@[simp] theorem raise_run (e : ε) (s : σ) : (raise e : Proc σ ε α) s = (.error e, s) := rfl
@[simp] theorem reads_run (f : σ → α) (s : σ) : (reads f : Proc σ ε α) s = (.ok (f s), s) := rfl
@[simp] theorem modify_run (f : σ → σ) (s : σ) :
    (modify f : Proc σ ε Unit) s = (.ok (), f s) := rfl
@[simp] theorem attempt_run (p : Proc σ ε α) (s : σ) :
    attempt p s = (.ok (p s).1, (p s).2) := rfl
@[simp] theorem zoom_run (get : σ → τ) (put : τ → σ → σ) (p : Proc τ ε α) (s : σ) :
    zoom get put p s = ((p (get s)).1, put (p (get s)).2 s) := rfl

theorem bind_run (p : Proc σ ε α) (f : α → Proc σ ε β) (s : σ) :
    (p >>= f) s = match p s with
      | (.ok a, t) => f a t
      | (.error e, t) => (.error e, t) := rfl

theorem bind_ok {p : Proc σ ε α} {f : α → Proc σ ε β} {s t : σ} {a : α}
    (returns : p s = (.ok a, t)) : (p >>= f) s = f a t := by
  rw [bind_run, returns]

theorem bind_error {p : Proc σ ε α} {f : α → Proc σ ε β} {s t : σ} {e : ε}
    (raises : p s = (.error e, t)) : (p >>= f) s = (.error e, t) := by
  rw [bind_run, raises]

/-- A sequence returns exactly when its parts do, one from what the other leaves. -/
theorem bind_returns_iff {p : Proc σ ε α} {f : α → Proc σ ε β} {s : σ} {b : β} :
    ((p >>= f) s).1 = .ok b ↔ ∃ a, (p s).1 = .ok a ∧ (f a (p s).2).1 = .ok b := by
  rw [bind_run]
  rcases p s with ⟨e | a, t⟩
  · simp
  · simp

@[simp] theorem reads_bind (g : σ → α) (f : α → Proc σ ε β) (s : σ) :
    (reads g >>= f) s = f (g s) s := rfl
@[simp] theorem modify_bind (g : σ → σ) (f : Unit → Proc σ ε β) (s : σ) :
    (modify g >>= f) s = f () (g s) := rfl
@[simp] theorem pure_bind_run (a : α) (f : α → Proc σ ε β) (s : σ) :
    ((pure a : Proc σ ε α) >>= f) s = f a s := rfl
@[simp] theorem raise_bind (e : ε) (f : α → Proc σ ε β) (s : σ) :
    ((raise e : Proc σ ε α) >>= f) s = (.error e, s) := rfl
@[simp] theorem attempt_bind (p : Proc σ ε α) (f : Except ε α → Proc σ ε β) (s : σ) :
    (attempt p >>= f) s = f (p s).1 (p s).2 := rfl

/-- Sequencing is associative. -/
theorem bind_bind {γ : Type} (p : Proc σ ε α) (f : α → Proc σ ε β) (g : β → Proc σ ε γ) :
    p >>= f >>= g = p >>= fun a => f a >>= g := by
  funext s
  simp only [bind_run]
  rcases p s with ⟨_ | _, _⟩ <;> rfl

/-! Hoare rules. `Triple P p Q E`: from a `P` state a return ends in `Q` and a
raise ends in `E`. -/

def Triple (P : σ → Prop) (p : Proc σ ε α) (Q : α → σ → Prop) (E : ε → σ → Prop) : Prop :=
  ∀ s, P s → match p s with
    | (.ok a, t) => Q a t
    | (.error e, t) => E e t

/-- However the procedure ends, the invariant still holds. -/
def Keeps (I : σ → Prop) (p : Proc σ ε α) : Prop := Triple I p (fun _ => I) (fun _ => I)

variable {P : σ → Prop} {Q : α → σ → Prop} {E : ε → σ → Prop} {I : σ → Prop}

theorem keeps_iff {p : Proc σ ε α} : Keeps I p ↔ ∀ s, I s → I (p s).2 := by
  refine forall_congr' fun s => forall_congr' fun _ => ?_
  rcases p s with ⟨_ | _, t⟩ <;> rfl

theorem Keeps.after {p : Proc σ ε α} (keeps : Keeps I p) {s : σ} (holds : I s) : I (p s).2 :=
  keeps_iff.mp keeps s holds

theorem Triple.weaken {Q' : α → σ → Prop} {E' : ε → σ → Prop} {P' : σ → Prop}
    {p : Proc σ ε α} (triple : Triple P p Q E) (pre : ∀ s, P' s → P s)
    (post : ∀ a s, Q a s → Q' a s) (exn : ∀ e s, E e s → E' e s) : Triple P' p Q' E' := by
  intro s holds
  have ends := triple s (pre s holds)
  rcases run : p s with ⟨e | a, t⟩ <;> rw [run] at ends
  · exact exn e t ends
  · exact post a t ends

theorem Triple.bind {p : Proc σ ε α} {f : α → Proc σ ε β} {R : β → σ → Prop}
    (first : Triple P p Q E) (second : ∀ a, Triple (Q a) (f a) R E) :
    Triple P (p >>= f) R E := by
  intro s holds
  have ends := first s holds
  rcases run : p s with ⟨e | a, t⟩ <;> rw [run] at ends
  · rw [bind_error run]
    exact ends
  · rw [bind_ok run]
    exact second a t ends

/-- A procedure that is known to return this value goes on with it. -/
theorem Triple.bind_known {p : Proc σ ε α} {f : α → Proc σ ε β} {R : σ → Prop} {S : β → σ → Prop} {a : α}
    (first : ∀ s, P s → (p s).1 = .ok a ∧ R (p s).2) (second : Triple R (f a) S E) :
    Triple P (p >>= f) S E := by
  intro s holds
  obtain ⟨returns, next⟩ := first s holds
  rcases run : p s with ⟨e | b, t⟩ <;> rw [run] at returns next
  · cases returns
  · cases returns
    rw [bind_ok run]
    exact second t next

/-- A triple whose ends agree tells what the procedure leaves. -/
theorem Triple.after {p : Proc σ ε α} (triple : Triple P p (fun _ => I) (fun _ => I)) {s : σ}
    (pre : P s) : I (p s).2 := by
  have ends := triple s pre
  rcases run : p s with ⟨e | a, t⟩ <;> rw [run] at ends <;> exact ends

theorem triple_of_after {p : Proc σ ε α} (after : ∀ s, P s → I (p s).2) :
    Triple P p (fun _ => I) (fun _ => I) := by
  intro s pre
  have ends := after s pre
  rcases run : p s with ⟨e | a, t⟩ <;> rw [run] at ends <;> exact ends

theorem Triple.pure {a : α} (holds : ∀ s, P s → Q a s) :
    Triple P (Pure.pure a : Proc σ ε α) Q E := fun s pre => holds s pre

theorem Triple.reads_bind {g : σ → α} {f : α → Proc σ ε β} {R : β → σ → Prop}
    (next : ∀ a, Triple P (f a) R E) : Triple P (reads g >>= f) R E :=
  fun s holds => next (g s) s holds

/-- Before an invariant that only a return needs, a raise may end in less. -/
theorem Keeps.triple {p : Proc σ ε α} (keeps : Keeps I p) (less : ∀ e s, I s → E e s) :
    Triple I p (fun _ => I) E :=
  Triple.weaken keeps (fun _ holds => holds) (fun _ _ holds => holds) less

theorem keeps_pure (a : α) : Keeps I (pure a : Proc σ ε α) := fun _ holds => holds

theorem keeps_raise (e : ε) : Keeps I (raise e : Proc σ ε α) := fun _ holds => holds

theorem keeps_reads (f : σ → α) : Keeps I (reads f : Proc σ ε α) := fun _ holds => holds

theorem keeps_modify {f : σ → σ} (step : ∀ s, I s → I (f s)) :
    Keeps I (modify f : Proc σ ε Unit) := step

theorem keeps_bind {p : Proc σ ε α} {f : α → Proc σ ε β} (first : Keeps I p)
    (second : ∀ a, Keeps I (f a)) : Keeps I (p >>= f) := Triple.bind first second

/-- Reading gives the continuation the state itself to reason with. -/
theorem keeps_reads_bind {g : σ → α} {f : α → Proc σ ε β}
    (next : ∀ s, I s → I (f (g s) s).2) : Keeps I (reads g >>= f) := keeps_iff.mpr next

/-- What a first part ends in however it ends, a second part that keeps it ends in. -/
theorem after_bind {p : Proc σ ε α} {f : α → Proc σ ε β} {s : σ} (first : I (p s).2)
    (second : ∀ a, Keeps I (f a)) : I ((p >>= f) s).2 := by
  rcases run : p s with ⟨e | a, t⟩ <;> rw [run] at first
  · rw [bind_error run]
    exact first
  · rw [bind_ok run]
    exact Keeps.after (second a) first

theorem keeps_attempt {p : Proc σ ε α} (keeps : Keeps I p) : Keeps I (attempt p) :=
  fun _ holds => keeps.after holds

theorem keeps_zoom {get : σ → τ} {put : τ → σ → σ} {p : Proc τ ε α}
    (step : ∀ s, I s → I (put (p (get s)).2 s)) : Keeps I (zoom get put p) :=
  keeps_iff.mpr step

theorem keeps_ite {c : Prop} [Decidable c] {p q : Proc σ ε α} (yes : c → Keeps I p)
    (no : ¬ c → Keeps I q) : Keeps I (if c then p else q) := by
  split
  · exact yes ‹_›
  · exact no ‹_›

theorem keeps_forEach {f : β → Proc σ ε Unit} {bs : List β} (body : ∀ b ∈ bs, Keeps I (f b)) :
    Keeps I (forEach bs f) := by
  induction bs with
  | nil => exact keeps_pure ()
  | cons b bs ih =>
    refine keeps_bind (body b (by simp)) fun _ => ih fun c member => ?_
    exact body c (List.mem_cons_of_mem b member)

/-- A loop whose rounds all return returns. -/
theorem forEach_returns {f : β → Proc σ ε Unit} {bs : List β}
    (body : ∀ b ∈ bs, ∀ s, (f b s).1 = .ok ()) (s : σ) : (forEach bs f s).1 = .ok () := by
  induction bs generalizing s with
  | nil => rfl
  | cons b bs ih =>
    have first := body b (by simp) s
    rcases run : f b s with ⟨e | _, t⟩ <;> rw [run] at first
    · cases first
    · rw [forEach, bind_ok run]
      exact ih (fun c member => body c (List.mem_cons_of_mem b member)) t

/-! What a procedure returns. -/

/-- Whatever the procedure returns is as stated. -/
def Yields (R : α → Prop) (p : Proc σ ε α) : Prop := ∀ s a, (p s).1 = .ok a → R a

section

variable {R : α → Prop} {S : β → Prop}

theorem yields_pure {a : α} (holds : R a) : Yields R (pure a : Proc σ ε α) := by
  intro s b returned
  cases returned
  exact holds

theorem yields_bind {p : Proc σ ε β} {f : β → Proc σ ε α} (first : Yields S p) (second : ∀ b, S b → Yields R (f b)) :
    Yields R (p >>= f) := by
  intro s a returned
  obtain ⟨b, ran, returned⟩ := bind_returns_iff.mp returned
  exact second b (first s b ran) _ a returned

/-- What comes first need not be looked at. -/
theorem yields_then {p : Proc σ ε β} {f : β → Proc σ ε α} (second : ∀ b, Yields R (f b)) : Yields R (p >>= f) :=
  yields_bind (S := fun _ => True) (fun _ _ _ => trivial) fun b _ => second b

theorem yields_ite {c : Prop} [Decidable c] {p q : Proc σ ε α} (yes : c → Yields R p) (no : ¬ c → Yields R q) :
    Yields R (if c then p else q) := by
  split
  · exact yes ‹_›
  · exact no ‹_›

end

/-! Reading. -/

/-- A sequence of two readings leaves the state as it is. -/
theorem bind_same {p : Proc σ ε α} {f : α → Proc σ ε β} {s : σ} (first : (p s).2 = s)
    (second : ∀ a, (f a s).2 = s) : ((p >>= f) s).2 = s := by
  rcases run : p s with ⟨e | a, t⟩ <;> rw [run] at first <;> cases first
  · rw [bind_error run]
  · rw [bind_ok run]
    exact second a

/-- The second of two readings returns from the same state. -/
theorem bind_same_iff {p : Proc σ ε α} {f : α → Proc σ ε β} {s : σ} {b : β} (same : (p s).2 = s) :
    ((p >>= f) s).1 = .ok b ↔ ∃ a, (p s).1 = .ok a ∧ (f a s).1 = .ok b := by
  rw [bind_returns_iff, same]

theorem gather_same {f : β → Proc σ ε α} {s : σ} {bs : List β} (each : ∀ b ∈ bs, (f b s).2 = s) :
    (gather f bs s).2 = s := by
  induction bs with
  | nil => rfl
  | cons b bs ih =>
    refine bind_same (each b (by simp)) fun _ => bind_same ?_ fun _ => rfl
    exact ih fun c member => each c (List.mem_cons_of_mem b member)

/-- Readings are gathered exactly when each of them returns. -/
theorem gather_returns_iff {f : β → Proc σ ε α} {s : σ} {bs : List β} (each : ∀ b ∈ bs, (f b s).2 = s) :
    (∃ found, (gather f bs s).1 = .ok found) ↔ ∀ b ∈ bs, ∃ a, (f b s).1 = .ok a := by
  induction bs with
  | nil => exact iff_of_true ⟨[], rfl⟩ (by simp)
  | cons b bs ih =>
    have rest : ∀ c ∈ bs, (f c s).2 = s := fun c member => each c (List.mem_cons_of_mem b member)
    rw [List.forall_mem_cons, ← ih rest]
    constructor
    · rintro ⟨found, ran⟩
      obtain ⟨a, first, ran⟩ := (bind_same_iff (each b (by simp))).mp ran
      obtain ⟨others, later, _⟩ := (bind_same_iff (gather_same rest)).mp ran
      exact ⟨⟨a, first⟩, others, later⟩
    · rintro ⟨⟨a, first⟩, others, later⟩
      exact ⟨a :: others, (bind_same_iff (each b (by simp))).mpr ⟨a, first,
        (bind_same_iff (gather_same rest)).mpr ⟨others, later, rfl⟩⟩⟩

/-- Something among them is as wanted exactly when one of the readings returns it. -/
theorem gather_exists_iff {f : β → Proc σ ε α} {s : σ} {bs : List β} {found : List α}
    (each : ∀ b ∈ bs, (f b s).2 = s) (ran : (gather f bs s).1 = .ok found) (p : α → Prop) :
    (∃ a ∈ found, p a) ↔ ∃ b ∈ bs, ∃ a, (f b s).1 = .ok a ∧ p a := by
  induction bs generalizing found with
  | nil =>
    cases ran
    simp
  | cons b bs ih =>
    have rest : ∀ c ∈ bs, (f c s).2 = s := fun c member => each c (List.mem_cons_of_mem b member)
    obtain ⟨a, first, ran⟩ := (bind_same_iff (each b (by simp))).mp ran
    obtain ⟨others, later, ran⟩ := (bind_same_iff (gather_same rest)).mp ran
    cases ran
    have head : p a ↔ ∃ a, (f b s).1 = .ok a ∧ p a := by
      rw [first]
      simp
    rw [List.exists_mem_cons_iff, List.exists_mem_cons_iff, ih rest later, head]

end DroidOs.Lib.Procedure
