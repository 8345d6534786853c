/- GID: DroidOs/Rocky/DeskLaw
   generality: I
   source: rocky/rockyctl, rocky/audit.py, rocky/executor.py, rocky/policy.py
   digest: What the shared tables say of every action, whatever the commands at work on them do. -/

import DroidOs.Rocky.SharedDesk

set_option autoImplicit false
set_option relaxedAutoImplicit false

namespace DroidOs.Rocky.DeskLaw

open DroidOs.Lib.Procedure DroidOs.Lib.Interleaving DroidOs.Lib.Phases
open DroidOs.Lib.Interleaving.Coroutine (atomically)
open DroidOs.Core.Values
open Policy Executor Audit Pipeline SharedDesk

variable {σ : Type}

/-! What belongs to an action. -/

def rows (s : Desk σ) (id : String) : List ActionRow := s.tables.actions.filter fun row => row.id = id

def calls (s : Desk σ) (id : String) : List ToolCall := s.tables.toolCalls.filter fun call => call.actionId = id

def runs (s : Desk σ) (id : String) : List Execution := s.executions.filter fun run => run.actionId = id

/-- What a command holds of the action that it has recorded. -/
structure File where
  id : String
  verdict : Verdict
  ran : Option Result := none
  called : Bool := false
  settled : Bool := false

/-- The status that an action ends with. -/
def closing (decision : Decision) : Option Result → String
  | some result => if result.ok then "succeeded" else "failed"
  | none => if decision = .deny then "denied" else "awaiting_confirmation"

def File.status (f : File) : String := if f.settled then closing f.verdict.decision f.ran else "proposed"

/-- A command, and the action it is at work on. -/
structure Phase where
  command : Command
  file : Option File

/-- The command may run what the policy decided so about. -/
def Permits (decision : Decision) (assumeYes : Bool) : Prop :=
  decision = .allow ∨ decision = .askUser ∧ assumeYes = true

/-- The command must leave it. -/
def Refuses (decision : Decision) (assumeYes : Bool) : Prop :=
  decision = .deny ∨ decision = .askUser ∧ assumeYes = false

variable (text : PyText) (hex : Nat → String) (config : Config)

/-- The policy has judged the action of the command, and let the command do what it has done. -/
structure Judged (command : Command) (f : File) : Prop where
  decided : ∃ action assumeYes, command = .handle action assumeYes ∧ validateAction action = .ok [] ∧
    Policy.decide text config action = .ok f.verdict ∧
    (f.ran ≠ none → Permits f.verdict.decision assumeYes) ∧
    (f.settled = true → f.ran = none → Refuses f.verdict.decision assumeYes)

/-- The tables hold what the file says. -/
structure Shown (s : Desk σ) (f : File) : Prop where
  row : ∃ row, rows s f.id = [row] ∧ row.status = f.status ∧ row.decision = f.verdict.decision ∧
    row.reason = f.verdict.reason
  uncalled : f.called = false → calls s f.id = []
  called : f.called = true → ∃ result call, f.ran = some result ∧ calls s f.id = [call] ∧
    call.exitCode = result.exitCode
  code : ∀ result, f.ran = some result → result.ok = (result.exitCode == 0)
  unrun : f.ran = none → runs s f.id = []
  once : (runs s f.id).length ≤ 1
  filed : f.settled = true → f.ran ≠ none → f.called = true

/-- The phases tell the whole story of the tables. -/
structure Consistent (started : Command → Prop) (s : Desk σ) (phases : List Phase) : Prop where
  drawn : ∀ row ∈ s.tables.actions, ∃ k < s.tables.drawn, row.id = "act" ++ "_" ++ hex k
  owned : ∀ row ∈ s.tables.actions, ∃ phase ∈ phases, ∃ f, phase.file = some f ∧ f.id = row.id
  judged : ∀ phase ∈ phases, ∀ f, phase.file = some f → Judged text config phase.command f
  shown : ∀ phase ∈ phases, ∀ f, phase.file = some f → Shown s f
  apart : ∀ (i j : ℕ) (phase phase' : Phase) (f f' : File), phases[i]? = some phase → phases[j]? = some phase' →
    phase.file = some f → phase'.file = some f' → f.id = f'.id → i = j
  keyed : ∀ call ∈ s.tables.toolCalls, rows s call.actionId ≠ []
  rooted : ∀ run ∈ s.executions, rows s run.actionId ≠ [] ∧ ∃ row ∈ run.recorded, row.id = run.actionId
  known : ∀ phase ∈ phases, started phase.command

/-! Steps. -/

/-- What one call of a command does to the tables, and what it knows afterwards. -/
inductive Goes : Protocol (Desk σ) Phase
  | noted {c : Command} {file : Option File} {s s' : Desk σ} {entry : LogRow} :
      s'.tables.actions = s.tables.actions → s'.tables.toolCalls = s.tables.toolCalls →
      s'.tables.auditLog = s.tables.auditLog ++ [entry] → s.tables.drawn ≤ s'.tables.drawn →
      s'.executions = s.executions → Goes ⟨c, file⟩ s ⟨c, file⟩ s'
  | recorded {action : PyVal} {assumeYes : Bool} {verdict : Verdict} {row : ActionRow} {s s' : Desk σ} :
      validateAction action = .ok [] → Policy.decide text config action = .ok verdict →
      row.id = "act" ++ "_" ++ hex s.tables.drawn → row.status = "proposed" →
      row.decision = verdict.decision → row.reason = verdict.reason →
      s'.tables.actions = s.tables.actions ++ [row] → s'.tables.toolCalls = s.tables.toolCalls →
      s'.tables.auditLog = s.tables.auditLog → s'.tables.drawn = s.tables.drawn + 1 →
      s'.executions = s.executions →
      Goes ⟨.handle action assumeYes, none⟩ s ⟨.handle action assumeYes, some { id := row.id, verdict := verdict }⟩ s'
  | performed {action : PyVal} {assumeYes : Bool} {f : File} {result : Result} {s s' : Desk σ} :
      Permits f.verdict.decision assumeYes → f.ran = none → f.called = false → f.settled = false →
      result.ok = (result.exitCode == 0) → s'.tables = s.tables →
      (s'.executions = s.executions ∨ ∃ x, s'.executions = s.executions ++ [x] ∧
        x.recorded = s.tables.actions ∧ x.actionId = f.id) →
      Goes ⟨.handle action assumeYes, some f⟩ s ⟨.handle action assumeYes, some { f with ran := some result }⟩ s'
  | called {c : Command} {f : File} {result : Result} {call : ToolCall} {s s' : Desk σ} :
      f.ran = some result → f.called = false → f.settled = false → call.actionId = f.id →
      call.exitCode = result.exitCode → s'.tables.actions = s.tables.actions →
      s'.tables.toolCalls = s.tables.toolCalls ++ [call] → s'.tables.auditLog = s.tables.auditLog →
      s.tables.drawn ≤ s'.tables.drawn → s'.executions = s.executions →
      Goes ⟨c, some f⟩ s ⟨c, some { f with called := true }⟩ s'
  | settled {action : PyVal} {assumeYes : Bool} {f : File} {s s' : Desk σ} :
      f.settled = false → (f.ran = none → Refuses f.verdict.decision assumeYes) → (f.ran ≠ none → f.called = true) →
      s'.tables.actions = s.tables.actions.map (ActionRow.restatus f.id (closing f.verdict.decision f.ran)) →
      s'.tables.toolCalls = s.tables.toolCalls → s'.tables.auditLog = s.tables.auditLog →
      s.tables.drawn ≤ s'.tables.drawn → s'.executions = s.executions →
      Goes ⟨.handle action assumeYes, some f⟩ s ⟨.handle action assumeYes, some { f with settled := true }⟩ s'

/-- A command ends before it has recorded an action, or when that is settled. -/
def Ends {α : Type} (_ : Except Exn α) (phase : Phase) : Prop := ∀ f, phase.file = some f → f.settled = true

variable {text hex config}

/-! The tables, action by action. -/

section

variable {s s' : Desk σ}

private theorem filter_concat {α : Type} (key : α → String) (as : List α) (a : α) (id : String) :
    (as ++ [a]).filter (fun a => key a = id) =
      as.filter (fun a => key a = id) ++ if key a = id then [a] else [] := by
  rw [List.filter_append, List.filter_singleton, Bool.cond_decide]

theorem rows_append {row : ActionRow} (grown : s'.tables.actions = s.tables.actions ++ [row]) (id : String) :
    rows s' id = rows s id ++ if row.id = id then [row] else [] := by
  rw [rows, grown]
  exact filter_concat ActionRow.id s.tables.actions row id

theorem calls_append {call : ToolCall} (grown : s'.tables.toolCalls = s.tables.toolCalls ++ [call]) (id : String) :
    calls s' id = calls s id ++ if call.actionId = id then [call] else [] := by
  rw [calls, grown]
  exact filter_concat ToolCall.actionId s.tables.toolCalls call id

theorem runs_append {run : Execution} (grown : s'.executions = s.executions ++ [run]) (id : String) :
    runs s' id = runs s id ++ if run.actionId = id then [run] else [] := by
  rw [runs, grown]
  exact filter_concat Execution.actionId s.executions run id

theorem restatus_id (id status : String) (row : ActionRow) : (row.restatus id status).id = row.id := by
  unfold ActionRow.restatus
  split <;> rfl

theorem rows_restatus {id status : String}
    (mapped : s'.tables.actions = s.tables.actions.map (ActionRow.restatus id status)) (id' : String) :
    rows s' id' = (rows s id').map (ActionRow.restatus id status) := by
  rw [rows, mapped, List.filter_map, rows]
  congr 1
  refine List.filter_congr fun row _ => ?_
  simp only [Function.comp_apply, restatus_id]

theorem rows_restatus_of_ne {id status id' : String}
    (mapped : s'.tables.actions = s.tables.actions.map (ActionRow.restatus id status)) (other : id' ≠ id) :
    rows s' id' = rows s id' := by
  rw [rows_restatus mapped]
  refine (List.map_congr_left fun row member => ?_).trans (List.map_id _)
  have own : row.id = id' := by simpa using (List.mem_filter.mp member).2
  rw [ActionRow.restatus, if_neg (by rw [own]; exact other), id_eq]

theorem mem_rows {row : ActionRow} (member : row ∈ s.tables.actions) : row ∈ rows s row.id :=
  List.mem_filter.mpr ⟨member, by simp⟩

theorem rows_ne_nil {id : String} : rows s id ≠ [] ↔ ∃ row ∈ s.tables.actions, row.id = id := by
  constructor
  · intro some
    obtain ⟨row, member⟩ := List.exists_mem_of_ne_nil _ some
    obtain ⟨inside, own⟩ := List.mem_filter.mp member
    exact ⟨row, inside, by simpa using own⟩
  · rintro ⟨row, member, rfl⟩
    exact List.ne_nil_of_mem (mem_rows member)

/-- What is said of an action is said of its own rows, calls and runs. -/
theorem Shown.congr {f : File} (shown : Shown s f) (sameRows : rows s' f.id = rows s f.id)
    (sameCalls : calls s' f.id = calls s f.id) (sameRuns : runs s' f.id = runs s f.id) : Shown s' f where
  row := by
    rw [sameRows]
    exact shown.row
  uncalled := by
    rw [sameCalls]
    exact shown.uncalled
  called := by
    rw [sameCalls]
    exact shown.called
  code := shown.code
  unrun := by
    rw [sameRuns]
    exact shown.unrun
  once := by
    rw [sameRuns]
    exact shown.once
  filed := shown.filed

end

/-! One step among the commands. -/

section

variable {started : Command → Prop} {s s' : Desk σ} {phases : List Phase} {i : ℕ} {c : Command}
  {file file' : Option File}

private theorem mem_set_cases {phase : Phase} (member : phase ∈ phases.set i ⟨c, file'⟩) :
    phase = ⟨c, file'⟩ ∨ phase ∈ phases := by
  rcases List.mem_or_eq_of_mem_set member with old | new
  · exact .inr old
  · exact .inl new

/-- A command that has gone on, when the tables now show its own action so and every other
action as before, leaves the story whole. -/
theorem Consistent.advance (consistent : Consistent text hex config started s phases)
    (here : phases[i]? = some ⟨c, file⟩)
    (drawn : ∀ row ∈ s'.tables.actions, ∃ k < s'.tables.drawn, row.id = "act" ++ "_" ++ hex k)
    (keyed : ∀ call ∈ s'.tables.toolCalls, rows s' call.actionId ≠ [])
    (rooted : ∀ run ∈ s'.executions, rows s' run.actionId ≠ [] ∧ ∃ row ∈ run.recorded, row.id = run.actionId)
    (judged : ∀ f, file' = some f → Judged text config c f) (shown : ∀ f, file' = some f → Shown s' f)
    (same : ∀ f, file = some f → ∃ f', file' = some f' ∧ f'.id = f.id)
    (fresh : ∀ f, file' = some f → file = none → rows s f.id = [])
    (others : ∀ id, (∀ f, file' = some f → id ≠ f.id) →
      rows s' id = rows s id ∧ calls s' id = calls s id ∧ runs s' id = runs s id) :
    Consistent text hex config started s' (phases.set i ⟨c, file'⟩) := by
  obtain ⟨inside, -⟩ := List.getElem?_eq_some_iff.mp here
  have own : ⟨c, file'⟩ ∈ phases.set i ⟨c, file'⟩ := List.mem_set inside _
  -- no other command holds the action of this one
  have alone (j : ℕ) (phase : Phase) (f f' : File) (apart : j ≠ i) (there : phases[j]? = some phase)
      (holds : phase.file = some f) (holds' : file' = some f') : f.id ≠ f'.id := by
    intro together
    cases file with
    | some g =>
      obtain ⟨g', held, same⟩ := same g rfl
      cases held.symm.trans holds'
      exact apart (consistent.apart j i phase ⟨c, some g⟩ f g there here holds rfl (together.trans same))
    | none =>
      have shows := (consistent.shown phase (List.mem_of_getElem? there) f holds).row
      obtain ⟨row, recorded, -⟩ := shows
      rw [together, fresh f' holds' rfl] at recorded
      cases recorded
  refine ⟨drawn, fun row member => ?_, fun phase member f holds => ?_, fun phase member f holds => ?_,
    fun j k phase phase' f f' at_j at_k holds holds' together => ?_, keyed, rooted, fun phase member => ?_⟩
  · by_cases mine : ∃ f, file' = some f ∧ row.id = f.id
    · obtain ⟨f, holds, named⟩ := mine
      exact ⟨_, own, f, holds, named.symm⟩
    · have kept := (others row.id fun f holds named => mine ⟨f, holds, named⟩).1
      have member' : row ∈ rows s row.id := by
        rw [← kept]
        exact mem_rows member
      obtain ⟨phase, old, f, holds, named⟩ := consistent.owned row (List.mem_filter.mp member').1
      obtain ⟨j, there⟩ := List.mem_iff_getElem?.mp old
      have elsewhere : j ≠ i := by
        rintro rfl
        cases there.symm.trans here
        obtain ⟨f', holds', named'⟩ := same f holds
        exact mine ⟨f', holds', (named'.trans named).symm⟩
      refine ⟨phase, List.mem_iff_getElem?.mpr ⟨j, ?_⟩, f, holds, named⟩
      rw [List.getElem?_set_ne elsewhere.symm]
      exact there
  · rcases mem_set_cases member with rfl | old
    · exact judged f holds
    · exact consistent.judged phase old f holds
  · obtain ⟨j, there⟩ := List.mem_iff_getElem?.mp member
    by_cases mine : i = j
    · subst mine
      rw [List.getElem?_set_self inside] at there
      cases there
      exact shown f holds
    · rw [List.getElem?_set_ne mine] at there
      have before := consistent.shown phase (List.mem_of_getElem? there) f holds
      obtain ⟨sameRows, sameCalls, sameRuns⟩ := others f.id fun f' holds' =>
        alone j phase f f' (fun back => mine back.symm) there holds holds'
      exact before.congr sameRows sameCalls sameRuns
  · by_cases mine : i = j
    · by_cases mine' : i = k
      · exact mine.symm.trans mine'
      · subst mine
        rw [List.getElem?_set_self inside] at at_j
        rw [List.getElem?_set_ne mine'] at at_k
        cases at_j
        exact absurd together.symm (alone k phase' f' f (fun back => mine' back.symm) at_k holds' holds)
    · rw [List.getElem?_set_ne mine] at at_j
      by_cases mine' : i = k
      · subst mine'
        rw [List.getElem?_set_self inside] at at_k
        cases at_k
        exact absurd together (alone j phase f f' (fun back => mine back.symm) at_j holds holds')
      · rw [List.getElem?_set_ne mine'] at at_k
        exact consistent.apart j k phase phase' f f' at_j at_k holds holds' together
  · rcases mem_set_cases member with rfl | old
    · exact consistent.known ⟨c, file⟩ (List.mem_of_getElem? here)
    · exact consistent.known phase old

/-- Rows stay, so what refers to one still does. -/
private theorem rows_kept (grown : ∀ row ∈ s.tables.actions, ∃ row' ∈ s'.tables.actions, row'.id = row.id)
    {id : String} (some : rows s id ≠ []) : rows s' id ≠ [] := by
  obtain ⟨row, member, rfl⟩ := rows_ne_nil.mp some
  exact rows_ne_nil.mpr (grown row member)

/-- An entry in the log. -/
private theorem step_noted (consistent : Consistent text hex config started s phases)
    (here : phases[i]? = some ⟨c, file⟩) (actions : s'.tables.actions = s.tables.actions)
    (toolCalls : s'.tables.toolCalls = s.tables.toolCalls) (drawn : s.tables.drawn ≤ s'.tables.drawn)
    (executions : s'.executions = s.executions) :
    Consistent text hex config started s' (phases.set i ⟨c, file⟩) := by
  have member := List.mem_of_getElem? here
  have same (id : String) : rows s' id = rows s id ∧ calls s' id = calls s id ∧ runs s' id = runs s id := by
    refine ⟨?_, ?_, ?_⟩
    · rw [rows, actions, rows]
    · rw [calls, toolCalls, calls]
    · rw [runs, executions, runs]
  refine consistent.advance here ?_ ?_ ?_ ?_ ?_ (fun f holds => ⟨f, holds, rfl⟩) ?_ fun id _ => same id
  · intro row inside
    rw [actions] at inside
    obtain ⟨k, before, named⟩ := consistent.drawn row inside
    exact ⟨k, before.trans_le drawn, named⟩
  · intro call inside
    rw [toolCalls] at inside
    rw [(same _).1]
    exact consistent.keyed call inside
  · intro run inside
    rw [executions] at inside
    rw [(same _).1]
    exact consistent.rooted run inside
  · exact consistent.judged ⟨c, file⟩ member
  · intro f holds
    exact (consistent.shown ⟨c, file⟩ member f holds).congr (same _).1 (same _).2.1 (same _).2.2
  · intro f holds none
    rw [none] at holds
    cases holds

/-- A row for an action, under an identifier that no row has yet. -/
private theorem step_recorded (injective : Function.Injective hex)
    (consistent : Consistent text hex config started s phases) {action : PyVal} {assumeYes : Bool}
    {verdict : Verdict} {row : ActionRow} (here : phases[i]? = some ⟨.handle action assumeYes, none⟩)
    (accepted : validateAction action = .ok []) (decided : Policy.decide text config action = .ok verdict)
    (named : row.id = "act" ++ "_" ++ hex s.tables.drawn) (status : row.status = "proposed")
    (decision : row.decision = verdict.decision) (reason : row.reason = verdict.reason)
    (actions : s'.tables.actions = s.tables.actions ++ [row])
    (toolCalls : s'.tables.toolCalls = s.tables.toolCalls) (drawn : s'.tables.drawn = s.tables.drawn + 1)
    (executions : s'.executions = s.executions) :
    Consistent text hex config started s'
      (phases.set i ⟨.handle action assumeYes, some { id := row.id, verdict := verdict }⟩) := by
  have new : rows s row.id = [] := by
    by_contra some
    obtain ⟨old, member, same⟩ := rows_ne_nil.mp some
    obtain ⟨k, before, drawn⟩ := consistent.drawn old member
    rw [drawn, named] at same
    have equal : k = s.tables.drawn := by
      refine injective ?_
      exact String.ext (by simpa [String.ext_iff] using same)
    omega
  have uncalled : calls s row.id = [] := by
    refine List.filter_eq_nil_iff.mpr fun call member own => ?_
    have keyed := consistent.keyed call member
    rw [show call.actionId = row.id by simpa using own] at keyed
    exact keyed new
  have unrun : runs s row.id = [] := by
    refine List.filter_eq_nil_iff.mpr fun run member own => ?_
    have rooted := (consistent.rooted run member).1
    rw [show run.actionId = row.id by simpa using own] at rooted
    exact rooted new
  have sameCalls (id : String) : calls s' id = calls s id := by rw [calls, toolCalls, calls]
  have sameRuns (id : String) : runs s' id = runs s id := by rw [runs, executions, runs]
  have kept {id : String} (some : rows s id ≠ []) : rows s' id ≠ [] := by
    refine rows_kept (fun old member => ⟨old, ?_, rfl⟩) some
    rw [actions]
    exact List.mem_append_left _ member
  refine consistent.advance here ?_ ?_ ?_ ?_ ?_ (fun f holds => by cases holds) ?_ ?_
  · intro old inside
    rw [actions] at inside
    rcases List.mem_append.mp inside with before | last
    · obtain ⟨k, earlier, named⟩ := consistent.drawn old before
      exact ⟨k, by omega, named⟩
    · obtain rfl := List.mem_singleton.mp last
      exact ⟨s.tables.drawn, by omega, named⟩
  · intro call inside
    rw [toolCalls] at inside
    exact kept (consistent.keyed call inside)
  · intro run inside
    rw [executions] at inside
    exact ⟨kept (consistent.rooted run inside).1, (consistent.rooted run inside).2⟩
  · rintro f ⟨⟩
    exact ⟨action, assumeYes, rfl, accepted, decided, fun ran => absurd rfl ran, fun settled => by cases settled⟩
  · rintro f ⟨⟩
    have empty : runs s' row.id = [] := (sameRuns row.id).trans unrun
    exact {
      row := ⟨row, by rw [rows_append actions, new, if_pos rfl, List.nil_append], status, decision, reason⟩
      uncalled := fun _ => (sameCalls row.id).trans uncalled
      called := by
        intro called
        cases called
      code := by
        intro result ran
        cases ran
      unrun := fun _ => empty
      once := by
        rw [empty]
        exact Nat.zero_le 1
      filed := by
        intro settled
        cases settled }
  · rintro f ⟨⟩ -
    exact new
  · intro id other
    have apart : row.id ≠ id := fun same => other _ rfl same.symm
    refine ⟨?_, sameCalls id, sameRuns id⟩
    rw [rows_append actions, if_neg apart, List.append_nil]

/-- The action is run, or its handler fails before it does anything. -/
private theorem step_performed (consistent : Consistent text hex config started s phases) {action : PyVal}
    {assumeYes : Bool} {f : File} {result : Result} (here : phases[i]? = some ⟨.handle action assumeYes, some f⟩)
    (permitted : Permits f.verdict.decision assumeYes) (unrun : f.ran = none) (uncalled : f.called = false)
    (unsettled : f.settled = false) (code : result.ok = (result.exitCode == 0)) (tables : s'.tables = s.tables)
    (executions : s'.executions = s.executions ∨ ∃ x, s'.executions = s.executions ++ [x] ∧
      x.recorded = s.tables.actions ∧ x.actionId = f.id) :
    Consistent text hex config started s'
      (phases.set i ⟨.handle action assumeYes, some { f with ran := some result }⟩) := by
  have member := List.mem_of_getElem? here
  have before := consistent.shown _ member f rfl
  obtain ⟨row, recorded, status, decision, reason⟩ := before.row
  have sameRows (id : String) : rows s' id = rows s id := by rw [rows, tables, rows]
  have sameCalls (id : String) : calls s' id = calls s id := by rw [calls, tables, calls]
  have own : row ∈ s.tables.actions ∧ row.id = f.id := by
    have inside : row ∈ rows s f.id := by
      rw [recorded]
      exact List.mem_singleton_self row
    obtain ⟨inside, named⟩ := List.mem_filter.mp inside
    exact ⟨inside, by simpa using named⟩
  refine consistent.advance here ?_ ?_ ?_ ?_ ?_ (fun g holds => ?_) (fun g _ none => by cases none) ?_
  · rw [tables]
    exact consistent.drawn
  · intro call inside
    rw [tables] at inside
    rw [sameRows]
    exact consistent.keyed call inside
  · intro run inside
    rw [sameRows]
    rcases executions with same | ⟨x, more, seen, named⟩
    · rw [same] at inside
      exact consistent.rooted run inside
    · rw [more] at inside
      rcases List.mem_append.mp inside with old | new
      · exact consistent.rooted run old
      · obtain rfl := List.mem_singleton.mp new
        refine ⟨?_, row, ?_, own.2.trans named.symm⟩
        · rw [named, recorded]
          exact List.cons_ne_nil row []
        · rw [seen]
          exact own.1
  · rintro g ⟨⟩
    obtain ⟨action', assumeYes', same, accepted, decided, -, -⟩ := (consistent.judged _ member f rfl).decided
    cases same
    exact ⟨action, assumeYes, rfl, accepted, decided, fun _ => permitted, fun _ ran => by cases ran⟩
  · rintro g ⟨⟩
    exact {
      row := ⟨row, by rw [sameRows]; exact recorded, by rw [status, File.status, File.status, unsettled]; rfl,
        decision, reason⟩
      uncalled := fun _ => by rw [sameCalls]; exact before.uncalled uncalled
      called := by
        intro called
        rw [uncalled] at called
        cases called
      code := by
        rintro other ⟨⟩
        exact code
      unrun := by
        intro ran
        cases ran
      once := by
        rcases executions with same | ⟨x, more, -, named⟩
        · rw [runs, same]
          exact before.once
        · rw [runs_append more, before.unrun unrun, if_pos named]
          exact Nat.le_refl 1
      filed := by
        intro settled
        rw [unsettled] at settled
        cases settled }
  · cases holds
    exact ⟨_, rfl, rfl⟩
  · intro id other
    refine ⟨sameRows id, sameCalls id, ?_⟩
    rcases executions with same | ⟨x, more, -, named⟩
    · rw [runs, same, runs]
    · rw [runs_append more, if_neg (by rw [named]; exact fun same => other _ rfl same.symm), List.append_nil]

/-- What was run is recorded as a tool call. -/
private theorem step_called (consistent : Consistent text hex config started s phases) {f : File}
    {result : Result} {call : ToolCall} (here : phases[i]? = some ⟨c, some f⟩) (ran : f.ran = some result)
    (uncalled : f.called = false) (named : call.actionId = f.id) (code : call.exitCode = result.exitCode)
    (actions : s'.tables.actions = s.tables.actions)
    (toolCalls : s'.tables.toolCalls = s.tables.toolCalls ++ [call]) (drawn : s.tables.drawn ≤ s'.tables.drawn)
    (executions : s'.executions = s.executions) :
    Consistent text hex config started s' (phases.set i ⟨c, some { f with called := true }⟩) := by
  have member := List.mem_of_getElem? here
  have before := consistent.shown _ member f rfl
  obtain ⟨row, recorded, status, decision, reason⟩ := before.row
  have sameRows (id : String) : rows s' id = rows s id := by rw [rows, actions, rows]
  have sameRuns (id : String) : runs s' id = runs s id := by rw [runs, executions, runs]
  refine consistent.advance here ?_ ?_ ?_ ?_ ?_ (fun g holds => ?_) (fun g _ none => by cases none) ?_
  · intro old inside
    rw [actions] at inside
    obtain ⟨k, earlier, same⟩ := consistent.drawn old inside
    exact ⟨k, earlier.trans_le drawn, same⟩
  · intro other inside
    rw [sameRows]
    rw [toolCalls] at inside
    rcases List.mem_append.mp inside with old | new
    · exact consistent.keyed other old
    · obtain rfl := List.mem_singleton.mp new
      rw [named, recorded]
      exact List.cons_ne_nil row []
  · intro run inside
    rw [executions] at inside
    rw [sameRows]
    exact consistent.rooted run inside
  · rintro g ⟨⟩
    have judged := (consistent.judged _ member f rfl).decided
    exact ⟨judged⟩
  · rintro g ⟨⟩
    exact {
      row := ⟨row, by rw [sameRows]; exact recorded, status, decision, reason⟩
      uncalled := by
        intro no
        cases no
      called := fun _ => ⟨result, call, ran, by
        rw [calls_append toolCalls, before.uncalled uncalled, if_pos named, List.nil_append], code⟩
      code := before.code
      unrun := by
        intro absent
        cases ran.symm.trans absent
      once := by
        rw [sameRuns]
        exact before.once
      filed := fun _ _ => rfl }
  · cases holds
    exact ⟨_, rfl, rfl⟩
  · intro id other
    refine ⟨sameRows id, ?_, sameRuns id⟩
    rw [calls_append toolCalls, if_neg (by rw [named]; exact fun same => other _ rfl same.symm), List.append_nil]

/-- The action's row gets its last status. -/
private theorem step_settled (consistent : Consistent text hex config started s phases) {action : PyVal}
    {assumeYes : Bool} {f : File} (here : phases[i]? = some ⟨.handle action assumeYes, some f⟩)
    (refused : f.ran = none → Refuses f.verdict.decision assumeYes) (filed : f.ran ≠ none → f.called = true)
    (actions : s'.tables.actions =
      s.tables.actions.map (ActionRow.restatus f.id (closing f.verdict.decision f.ran)))
    (toolCalls : s'.tables.toolCalls = s.tables.toolCalls) (drawn : s.tables.drawn ≤ s'.tables.drawn)
    (executions : s'.executions = s.executions) :
    Consistent text hex config started s'
      (phases.set i ⟨.handle action assumeYes, some { f with settled := true }⟩) := by
  have member := List.mem_of_getElem? here
  have before := consistent.shown _ member f rfl
  obtain ⟨row, recorded, status, decision, reason⟩ := before.row
  have sameCalls (id : String) : calls s' id = calls s id := by rw [calls, toolCalls, calls]
  have sameRuns (id : String) : runs s' id = runs s id := by rw [runs, executions, runs]
  have own : row.id = f.id := by
    have inside : row ∈ rows s f.id := by
      rw [recorded]
      exact List.mem_singleton_self row
    simpa using (List.mem_filter.mp inside).2
  have kept {id : String} (some : rows s id ≠ []) : rows s' id ≠ [] := by
    rw [rows_restatus actions]
    exact fun none => some (List.map_eq_nil_iff.mp none)
  refine consistent.advance here ?_ ?_ ?_ ?_ ?_ (fun g holds => ?_) (fun g _ none => by cases none) ?_
  · intro new inside
    rw [actions] at inside
    obtain ⟨old, there, rfl⟩ := List.mem_map.mp inside
    obtain ⟨k, earlier, same⟩ := consistent.drawn old there
    exact ⟨k, earlier.trans_le drawn, by rw [restatus_id]; exact same⟩
  · intro call inside
    rw [toolCalls] at inside
    exact kept (consistent.keyed call inside)
  · intro run inside
    rw [executions] at inside
    exact ⟨kept (consistent.rooted run inside).1, (consistent.rooted run inside).2⟩
  · rintro g ⟨⟩
    obtain ⟨action', assumeYes', same, accepted, decided, permitted, -⟩ := (consistent.judged _ member f rfl).decided
    cases same
    exact ⟨action, assumeYes, rfl, accepted, decided, permitted, fun _ => refused⟩
  · rintro g ⟨⟩
    have rewritten : row.restatus f.id (closing f.verdict.decision f.ran) =
        { row with status := closing f.verdict.decision f.ran } := if_pos own
    exact {
      row := ⟨{ row with status := closing f.verdict.decision f.ran }, by
        rw [rows_restatus actions, recorded, List.map_singleton, rewritten], rfl, decision, reason⟩
      uncalled := fun no => by rw [sameCalls]; exact before.uncalled no
      called := fun yes => by rw [sameCalls]; exact before.called yes
      code := before.code
      unrun := fun none => by rw [sameRuns]; exact before.unrun none
      once := by
        rw [sameRuns]
        exact before.once
      filed := fun _ => filed }
  · cases holds
    exact ⟨_, rfl, rfl⟩
  · intro id other
    exact ⟨rows_restatus_of_ne actions fun same => other _ rfl same, sameCalls id, sameRuns id⟩

/-- Whatever a command does next, the story stays whole. -/
theorem Consistent.step (injective : Function.Injective hex)
    (consistent : Consistent text hex config started s phases) {phase phase' : Phase}
    (here : phases[i]? = some phase) (goes : Goes text hex config phase s phase' s') :
    Consistent text hex config started s' (phases.set i phase') := by
  cases goes with
  | noted actions toolCalls _ drawn executions =>
    exact step_noted consistent here actions toolCalls drawn executions
  | recorded accepted decided named status decision reason actions toolCalls _ drawn executions =>
    exact step_recorded injective consistent here accepted decided named status decision reason actions toolCalls
      drawn executions
  | performed permitted unrun uncalled unsettled code tables executions =>
    exact step_performed consistent here permitted unrun uncalled unsettled code tables executions
  | called ran uncalled _ named code actions toolCalls _ drawn executions =>
    exact step_called consistent here ran uncalled named code actions toolCalls drawn executions
  | settled _ refused filed actions toolCalls _ drawn executions =>
    exact step_settled consistent here refused filed actions toolCalls drawn executions

/-- A command that has just been started holds nothing. -/
theorem Consistent.start (consistent : Consistent text hex config started s phases) {c : Command}
    (known : started c) : Consistent text hex config started s (phases ++ [⟨c, none⟩]) := by
  have old {phase : Phase} {f : File} (member : phase ∈ phases ++ [⟨c, none⟩]) (holds : phase.file = some f) :
      phase ∈ phases := by
    rcases List.mem_append.mp member with before | new
    · exact before
    · obtain rfl := List.mem_singleton.mp new
      cases holds
  refine { consistent with
    owned := fun row member => ?_
    judged := fun phase member f holds => consistent.judged phase (old member holds) f holds
    shown := fun phase member f holds => consistent.shown phase (old member holds) f holds
    apart := fun i j phase phase' f f' at_i at_j holds holds' => ?_
    known := fun phase member => ?_ }
  · obtain ⟨phase, before, rest⟩ := consistent.owned row member
    exact ⟨phase, List.mem_append_left _ before, rest⟩
  · have back {k : ℕ} {phase : Phase} {f : File} (there : (phases ++ [⟨c, none⟩])[k]? = some phase)
        (holds : phase.file = some f) : phases[k]? = some phase := by
      by_cases inside : k < phases.length
      · rw [List.getElem?_append_left inside] at there
        exact there
      · rw [List.getElem?_append_right (by omega)] at there
        have last := List.mem_of_getElem? there
        obtain rfl := List.mem_singleton.mp last
        cases holds
    exact consistent.apart i j phase phase' f f' (back at_i holds) (back at_j holds') holds holds'
  · rcases List.mem_append.mp member with before | new
    · exact consistent.known phase before
    · obtain rfl := List.mem_singleton.mp new
      exact known

end

end DroidOs.Rocky.DeskLaw
