/- GID: DroidOs/System/TaskIds
   generality: I
   source: src/droidos/executive/tasks.py, src/droidos/core/logging.py, src/droidos/cli/droid.py
   digest: The task identifiers in an audit file that several processes append to. -/

import DroidOs.System.TaskRecords

set_option autoImplicit false
set_option relaxedAutoImplicit false

namespace DroidOs.System.TaskIds

open DroidOs.Core.Values DroidOs.Core.Context
open DroidOs.Services.Supervisor DroidOs.Executive.RunIntent
open DroidOs.Language.Intent
open Simulated TaskFrame TaskRecords

variable {ε : Type}

/-! Identifiers. -/

theorem taskIdOf_injective : Function.Injective taskIdOf := by
  intro n k same
  have number (n : ℕ) : Nat.ofDigitChars 10 ((taskIdOf n).toList.drop 5) 0 = n := by
    have digits : (taskIdOf n).toList.drop 5 =
        List.replicate (4 - (toString n).length) '0' ++ Nat.toDigits 10 n := by
      simp [taskIdOf]
    rw [digits, Nat.ofDigitChars_append, Nat.ofDigitChars_replicate_zero, Nat.mul_zero,
      Nat.ofDigitChars_ten_toDigits]
  rw [← number n, same, number k]

/-! Processes. -/

/-- A process that has booted, with the intents it runs from then on. The counter of the
tasks is one of the process. -/
structure Process (ε : Type) where
  svc : Services ε
  start : Brain (Recorded ε)
  jobs : List (Job ε)
  fresh : start.rt.nextTask = 1

/-- A line of the audit file that records a task, with the process and the call of
`run_intent` that wrote it. -/
structure Line where
  process : ℕ
  call : ℕ
  record : AuditRecord

/-- The task records that one call appends. -/
def callRecords (svc : Services ε) (m : Brain (Recorded ε)) (j : Job ε) : List AuditRecord :=
  (taskRecords (perform svc m j).2.rt).drop (taskRecords m.rt).length

def linesFrom (svc : Services ε) (process : ℕ) : ℕ → Brain (Recorded ε) → List (Job ε) → List Line
  | _, _, [] => []
  | call, m, j :: jobs =>
    (callRecords svc m j).map (fun r => ⟨process, call, r⟩) ++
      linesFrom svc process (call + 1) (perform svc m j).2 jobs

def Process.lines (p : Process ε) (process : ℕ) : List Line :=
  linesFrom p.svc process 0 p.start p.jobs

/-- Processes that append to one audit file, each line after the earlier ones of its process. -/
structure History (ε : Type) where
  processes : ℕ → Process ε
  file : List Line
  merged : ∀ p, file.filter (fun l => l.process = p) = (processes p).lines p

/-- A task can be made of one of the intents. -/
def Process.RunsTask (p : Process ε) : Prop :=
  ∃ j ∈ p.jobs, ∃ items, j.intent.arguments.toDict = .ok items

/-- Task records with one identifier come from one call, which recorded one start and one end. -/
def Identified (file : List Line) : Prop :=
  (∀ a ∈ file, ∀ b ∈ file, a.record.taskId = b.record.taskId →
    a.process = b.process ∧ a.call = b.call) ∧
  ∀ a ∈ file, ∃ started ended, file.filter (fun l => l.record.taskId = a.record.taskId) = [started, ended] ∧
    started.record.outcome = some "started" ∧ ended.record.outcome ≠ some "started"

/-! The lines of one process. -/

variable {svc : Services ε}

variable (svc) in
/-- A call of which no task can be made appends nothing; any other appends the start and
the end of the next task. -/
private theorem linesFrom_cons (p call : ℕ) (m : Brain (Recorded ε)) (j : Job ε) (jobs : List (Job ε)) :
    let m' := (perform svc m j).2
    let rest := linesFrom svc p (call + 1) m' jobs
    ((∀ items, j.intent.arguments.toDict ≠ .ok items) ∧ m'.rt.nextTask = m.rt.nextTask ∧
      linesFrom svc p call m (j :: jobs) = rest) ∨
    ((∃ items, j.intent.arguments.toDict = .ok items) ∧ m'.rt.nextTask = m.rt.nextTask + 1 ∧
      ∃ started ended : AuditRecord,
        linesFrom svc p call m (j :: jobs) = ⟨p, call, started⟩ :: ⟨p, call, ended⟩ :: rest ∧
        started.taskId = some (taskIdOf m.rt.nextTask) ∧
        ended.taskId = some (taskIdOf m.rt.nextTask) ∧
        started.outcome = some "started" ∧ ended.outcome ≠ some "started") := by
  intro m' rest
  rcases arguments : j.intent.arguments.toDict with e | items
  · obtain ⟨-, same⟩ := perform_unstarted svc arguments m
    refine .inl ⟨by simp, same.next, ?_⟩
    rw [linesFrom, callRecords, same.records, List.drop_length]
    rfl
  · obtain ⟨task, _, result, state, _, numbered, _, records, _, _, next⟩ :=
      perform_task svc arguments m
    refine .inr ⟨⟨items, rfl⟩, next, startRecord j.intent j.user task.taskId,
      endRecord task j.user result state, ?_, ?_, ?_, rfl, ?_⟩
    · rw [linesFrom, callRecords, records, List.drop_left]
      rfl
    · rw [← numbered]
      rfl
    · rw [← numbered]
      rfl
    · simpa [endRecord] using (finishState_value result).2.2.2

private theorem linesFrom_process {p call : ℕ} {m : Brain (Recorded ε)} {jobs : List (Job ε)} :
    ∀ l ∈ linesFrom svc p call m jobs, l.process = p := by
  induction jobs generalizing call m with
  | nil => simp [linesFrom]
  | cons j jobs ih =>
    intro l member
    rcases List.mem_append.mp member with here | later
    · obtain ⟨r, -, rfl⟩ := List.mem_map.mp here
      rfl
    · exact ih l later

/-- Identifiers only go up. -/
private theorem linesFrom_ids {p call : ℕ} {m : Brain (Recorded ε)} {jobs : List (Job ε)} :
    ∀ l ∈ linesFrom svc p call m jobs, ∃ n, m.rt.nextTask ≤ n ∧ l.record.taskId = some (taskIdOf n) := by
  induction jobs generalizing call m with
  | nil => simp [linesFrom]
  | cons j jobs ih =>
    intro l member
    rcases linesFrom_cons svc p call m j jobs with
      ⟨-, next, lines⟩ | ⟨-, next, started, ended, lines, id₁, id₂, -⟩
    · rw [lines] at member
      obtain ⟨n, above, id⟩ := ih l member
      exact ⟨n, next ▸ above, id⟩
    · rw [lines] at member
      rcases List.mem_cons.mp member with rfl | member
      · exact ⟨_, le_rfl, id₁⟩
      rcases List.mem_cons.mp member with rfl | member
      · exact ⟨_, le_rfl, id₂⟩
      obtain ⟨n, above, id⟩ := ih l member
      rw [next] at above
      exact ⟨n, by omega, id⟩

/-- Within a process an identifier has the two records of one call. -/
private theorem linesFrom_pairs {p call : ℕ} {m : Brain (Recorded ε)} {jobs : List (Job ε)} :
    ∀ l ∈ linesFrom svc p call m jobs, ∃ started ended : Line,
      (linesFrom svc p call m jobs).filter (fun l' => l'.record.taskId = l.record.taskId) =
        [started, ended] ∧ started.call = l.call ∧ ended.call = l.call ∧
      started.record.outcome = some "started" ∧ ended.record.outcome ≠ some "started" := by
  induction jobs generalizing call m with
  | nil => simp [linesFrom]
  | cons j jobs ih =>
    intro l member
    rcases linesFrom_cons svc p call m j jobs with
      ⟨-, -, lines⟩ | ⟨-, next, started, ended, lines, id₁, id₂, outcome₁, outcome₂⟩
    · rw [lines] at member ⊢
      exact ih l member
    rw [lines] at member ⊢
    -- the identifiers of later calls are all greater than the one of this call
    have fresh : ∀ l' ∈ linesFrom svc p (call + 1) (perform svc m j).2 jobs,
        l'.record.taskId ≠ some (taskIdOf m.rt.nextTask) := by
      intro l' later same
      obtain ⟨n, above, id⟩ := linesFrom_ids l' later
      rw [id] at same
      have equal := taskIdOf_injective (Option.some.inj same)
      rw [next] at above
      omega
    have here (l : Line) (id : l.record.taskId = some (taskIdOf m.rt.nextTask)) (c : l.call = call) :
        ∃ started' ended' : Line, (⟨p, call, started⟩ :: ⟨p, call, ended⟩ ::
          linesFrom svc p (call + 1) (perform svc m j).2 jobs).filter
            (fun l' => l'.record.taskId = l.record.taskId) = [started', ended'] ∧
          started'.call = l.call ∧ ended'.call = l.call ∧
          started'.record.outcome = some "started" ∧ ended'.record.outcome ≠ some "started" := by
      refine ⟨⟨p, call, started⟩, ⟨p, call, ended⟩, ?_, c.symm, c.symm, outcome₁, outcome₂⟩
      simpa [id, id₁, id₂] using fresh
    rcases List.mem_cons.mp member with rfl | member
    · exact here _ id₁ rfl
    rcases List.mem_cons.mp member with rfl | member
    · exact here _ id₂ rfl
    have other := fresh l member
    obtain ⟨s, e, pair, rest⟩ := ih l member
    refine ⟨s, e, ?_, rest⟩
    simp [id₁, id₂, Ne.symm other, pair]

variable (svc) in
private theorem linesFrom_first (p call : ℕ) (m : Brain (Recorded ε)) {jobs : List (Job ε)}
    (runs : ∃ j ∈ jobs, ∃ items, j.intent.arguments.toDict = .ok items) :
    ∃ l ∈ linesFrom svc p call m jobs, l.record.taskId = some (taskIdOf m.rt.nextTask) := by
  induction jobs generalizing call m with
  | nil => simp at runs
  | cons j jobs ih =>
    rcases linesFrom_cons svc p call m j jobs with
      ⟨none, next, lines⟩ | ⟨-, -, started, ended, lines, id₁, -⟩
    · have later : ∃ j ∈ jobs, ∃ items, j.intent.arguments.toDict = .ok items := by
        obtain ⟨j', member, items, ok⟩ := runs
        rcases List.mem_cons.mp member with rfl | member
        · exact absurd ok (none items)
        · exact ⟨j', member, items, ok⟩
      rw [lines, ← next]
      exact ih _ _ later
    · rw [lines]
      exact ⟨_, List.mem_cons_self .., id₁⟩

private theorem linesFrom_runs {p call : ℕ} {m : Brain (Recorded ε)} {jobs : List (Job ε)} {l : Line}
    (member : l ∈ linesFrom svc p call m jobs) :
    ∃ j ∈ jobs, ∃ items, j.intent.arguments.toDict = .ok items := by
  induction jobs generalizing call m with
  | nil => simp [linesFrom] at member
  | cons j jobs ih =>
    rcases linesFrom_cons svc p call m j jobs with ⟨-, -, lines⟩ | ⟨ok, -⟩
    · rw [lines] at member
      obtain ⟨j', found, ok⟩ := ih member
      exact ⟨j', List.mem_cons_of_mem _ found, ok⟩
    · exact ⟨j, List.mem_cons_self .., ok⟩

/-! Histories of processes. -/

namespace History

variable (h : History ε)

private theorem mem_lines {l : Line} (member : l ∈ h.file) :
    l ∈ (h.processes l.process).lines l.process := by
  rw [← h.merged l.process]
  exact List.mem_filter.mpr ⟨member, by simp⟩

private theorem mem_file {l : Line} {p : ℕ} (member : l ∈ (h.processes p).lines p) : l ∈ h.file := by
  rw [← h.merged p] at member
  exact (List.mem_filter.mp member).1

/-- The first task of every process is its task number one. -/
private theorem first_line {p : ℕ} (runs : (h.processes p).RunsTask) :
    ∃ l ∈ h.file, l.process = p ∧ l.record.taskId = some (taskIdOf 1) := by
  obtain ⟨l, member, id⟩ := linesFrom_first (h.processes p).svc p 0 (h.processes p).start runs
  rw [(h.processes p).fresh] at id
  exact ⟨l, h.mem_file member, linesFrom_process l member, id⟩

end History

/-- The task identifiers in the file identify the tasks exactly if at most one of the
processes runs a task. -/
theorem identified_iff (h : History ε) :
    Identified h.file ↔ ∀ p q, (h.processes p).RunsTask → (h.processes q).RunsTask → p = q := by
  constructor
  · rintro ⟨unique, -⟩ p q runs runs'
    obtain ⟨a, inside, rfl, id⟩ := h.first_line runs
    obtain ⟨b, inside', rfl, id'⟩ := h.first_line runs'
    exact (unique a inside b inside' (id.trans id'.symm)).1
  · intro single
    have alone {a b : Line} (inside : a ∈ h.file) (inside' : b ∈ h.file) : b.process = a.process :=
      single _ _ (linesFrom_runs (h.mem_lines inside')) (linesFrom_runs (h.mem_lines inside))
    have whole {a : Line} (inside : a ∈ h.file) : h.file = (h.processes a.process).lines a.process := by
      rw [← h.merged a.process]
      exact (List.filter_eq_self.mpr fun b inside' => by simpa using alone inside inside').symm
    have pairs {a : Line} (inside : a ∈ h.file) : ∃ started ended : Line,
        h.file.filter (fun l => l.record.taskId = a.record.taskId) = [started, ended] ∧
        started.call = a.call ∧ ended.call = a.call ∧
        started.record.outcome = some "started" ∧ ended.record.outcome ≠ some "started" := by
      rw [whole inside]
      exact linesFrom_pairs a (h.mem_lines inside)
    refine ⟨fun a inside b inside' same => ⟨(alone inside inside').symm, ?_⟩, fun a inside => ?_⟩
    · obtain ⟨s, e, pair, call₁, call₂, -⟩ := pairs inside
      have found : b ∈ h.file.filter (fun l => l.record.taskId = a.record.taskId) :=
        List.mem_filter.mpr ⟨inside', by simp [same]⟩
      rw [pair] at found
      rcases List.mem_pair.mp found with rfl | rfl
      · exact call₁.symm
      · exact call₂.symm
    · obtain ⟨s, e, pair, -, -, outcomes⟩ := pairs inside
      exact ⟨s, e, pair, outcomes⟩

/-- Two processes, one after the other, that do the same. -/
def twice (once : Process ε) : History ε where
  processes p := if p < 2 then once else { once with jobs := [] }
  file := once.lines 0 ++ once.lines 1
  merged p := by
    have own (q : ℕ) : (once.lines q).filter (fun l => l.process = p) =
        if q = p then once.lines q else [] := by
      split
      · next same =>
        exact List.filter_eq_self.mpr fun l member => by simp [linesFrom_process l member, same]
      · next other =>
        exact List.filter_eq_nil_iff.mpr fun l member => by simp [linesFrom_process l member, other]
    rw [List.filter_append, own, own]
    match p with
    | 0 => simp
    | 1 => simp
    | p + 2 =>
      have idle : ¬ p + 2 < 2 := by omega
      simp [idle, Process.lines, linesFrom]

private theorem twice_unidentified {once : Process ε} (runs : once.RunsTask) :
    ¬ Identified (twice once).file := by
  rintro ⟨unique, -⟩
  obtain ⟨a, inside, first, id⟩ := (twice once).first_line (p := 0) runs
  obtain ⟨b, inside', second, id'⟩ := (twice once).first_line (p := 1) runs
  have same := (unique a inside b inside' (id.trans id'.symm)).1
  rw [first, second] at same
  exact absurd same (by decide)

/-- A one-shot command in a process of its own. -/
def helpOnce : Process (SimWorld Unit) where
  svc := simulated hallwayDroid
  start := hallwayBrain
  jobs := [{ intent := { intent := "help" }, user := "operator", meanwhile := fun _ => .nothing }]
  fresh := by decide +kernel

/-- Two one-shot commands both record a task-0001. -/
theorem repeated_ids : ¬ Identified (twice helpOnce).file :=
  twice_unidentified ⟨_, List.mem_singleton_self _, [], rfl⟩

end DroidOs.System.TaskIds
