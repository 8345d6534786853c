/- GID: DroidOs/Rocky/DeskAccounts
   generality: I
   source: rocky/rockyctl, rocky/audit.py, rocky/executor.py, rocky/policy.py
   digest: Every run of commands on the shared tables can be accounted for, and nothing recorded is lost. -/

import DroidOs.Rocky.DeskLaw
import Mathlib.Data.List.Nodup

set_option autoImplicit false
set_option relaxedAutoImplicit false

namespace DroidOs.Rocky.DeskAccounts

open DroidOs.Lib.Procedure DroidOs.Lib.Interleaving DroidOs.Lib.Phases
open DroidOs.Lib.Interleaving.Coroutine (atomically)
open DroidOs.Core.Values
open Policy Executor Audit Pipeline SharedDesk DeskLaw

variable {σ α β : Type} {text : PyText} {hex : Nat → String} {config : Config} {machine : Machine σ}

/-! The commands keep to the steps. -/

private theorem startResult_code (id : String) (kind : PyVal) (argv : List String)
    (ended : Except Exn (Int × String × String)) :
    (startResult id kind argv ended).ok = ((startResult id kind argv ended).exitCode == 0) := by
  unfold startResult
  repeat' split
  all_goals rfl

private theorem actResult_code (id : String) (kind : PyVal) (ended : Except Exn PyVal) :
    (actResult id kind ended).ok = ((actResult id kind ended).exitCode == 0) := by
  cases ended <;> rfl

/-- A result is a success exactly if its code is zero. -/
theorem perform_code {action kind : PyVal} {id : String} {s s' : Desk σ} {result : Result}
    (performed : perform text machine action kind id s = (.ok result, s')) :
    result.ok = (result.exitCode == 0) := by
  unfold perform at performed
  dsimp only at performed
  cases effect : Executor.run text action <;> rw [effect] at performed <;> cases performed
  · exact startResult_code _ _ _ _
  · exact actResult_code _ _ _
  · exact actResult_code _ _ _
  · exact actResult_code _ _ _
  · exact actResult_code _ _ _
  · exact actResult_code _ _ _
  · exact actResult_code _ _ _
  · rfl

private theorem follows_log {c : Command} {file : Option File} {eventType actor message : String}
    {data : List (PyVal × PyVal)} {f : Unit → Coroutine (Desk σ) Exn β}
    (rest : Follows (Goes text hex config) Ends (f ()) ⟨c, file⟩) :
    Follows (Goes text hex config) Ends (atomically (log hex eventType actor message data) >>= f) ⟨c, file⟩ :=
  follows_atomically_bind fun _ => ⟨⟨c, file⟩, (), .noted rfl rfl rfl (Nat.le_succ _) rfl, rfl, rest⟩

private theorem follows_settle {action : PyVal} {assumeYes : Bool} (file : File) {status : String}
    {f : Unit → Coroutine (Desk σ) Exn β} (unsettled : file.settled = false)
    (refused : file.ran = none → Refuses file.verdict.decision assumeYes)
    (filed : file.ran ≠ none → file.called = true) (closes : status = closing file.verdict.decision file.ran)
    (rest : Follows (Goes text hex config) Ends (f ())
      ⟨.handle action assumeYes, some { file with settled := true }⟩) :
    Follows (Goes text hex config) Ends (atomically (updateActionStatus file.id status) >>= f)
      ⟨.handle action assumeYes, some file⟩ := by
  subst closes
  exact follows_atomically_bind fun _ => ⟨_, (), .settled unsettled refused filed rfl rfl rfl (Nat.le_refl _) rfl,
    rfl, rest⟩

private theorem follows_carryOut {action : PyVal} {assumeYes : Bool} {id : String} {verdict : Verdict}
    (accepted : validateAction action = .ok []) (permitted : Permits verdict.decision assumeYes) :
    Follows (Goes text hex config) Ends (carryOutSteps text hex machine action id)
      ⟨.handle action assumeYes, some { id := id, verdict := verdict }⟩ := by
  cases action with
  | dict items =>
    refine follows_atomically_bind fun s => ?_
    obtain ⟨result, s', performed, -, -, tables, executed⟩ :=
      @perform_spec σ text machine (.dict items) ((PyVal.lookup "kind" items).getD (.str "")) id s
    refine ⟨⟨.handle (.dict items) assumeYes, some { id := id, verdict := verdict, ran := some result }⟩, result,
      .performed permitted rfl rfl rfl (perform_code performed) ?_ ?_, ?_, ?_⟩
    · rw [performed]
      exact tables
    · rw [performed]
      exact executed
    · rw [performed]
    refine follows_atomically_bind fun s => ⟨⟨.handle (.dict items) assumeYes, some
      { id := id, verdict := verdict, ran := some result, called := true }⟩, (), ?_, rfl, ?_⟩
    · exact .called (f := { id := id, verdict := verdict, ran := some result }) rfl rfl rfl rfl rfl rfl rfl rfl
        (Nat.le_succ _) rfl
    refine follows_settle { id := id, verdict := verdict, ran := some result, called := true } rfl
      (fun none => by cases none) (fun _ => rfl) rfl (follows_log (follows_pure ?_))
    rintro f ⟨⟩
    rfl
  | _ => cases accepted

theorem follows_handle (action : PyVal) (assumeYes : Bool) :
    Follows (Goes text hex config) Ends (handleActionSteps text hex config machine assumeYes action)
      ⟨.handle action assumeYes, none⟩ := by
  have idle {r : Except Exn Reply} : Ends r ⟨.handle action assumeYes, none⟩ := by
    rintro f ⟨⟩
  unfold handleActionSteps
  rcases validated : validateAction action with e | errors
  · exact idle
  cases errors with
  | cons error errors => exact follows_log (follows_pure idle)
  | nil =>
    rcases decided : Policy.decide text config action with e | verdict
    · exact idle
    cases action with
    | dict items =>
      refine follows_atomically_bind fun s => ?_
      refine ⟨⟨.handle (.dict items) assumeYes, some { id := "act" ++ "_" ++ hex s.tables.drawn, verdict := verdict }⟩,
        "act" ++ "_" ++ hex s.tables.drawn, ?_, rfl, ?_⟩
      · exact .recorded validated decided (rfl : ActionRow.id ⟨_, _, _, _, _, _, _, _⟩ = _) rfl rfl rfl rfl rfl rfl rfl rfl
      have refused (status reason : String) (reply : Reply) (closes : status = closing verdict.decision none)
          (refuses : Refuses verdict.decision assumeYes) :
          Follows (Goes text hex config) Ends ((do
            atomically (updateActionStatus ("act" ++ "_" ++ hex s.tables.drawn) status)
            atomically (log hex "decision" "policy" reason
              [(.str "action_id", .str ("act" ++ "_" ++ hex s.tables.drawn))])
            return reply) : Coroutine (Desk σ) Exn Reply) ⟨.handle (.dict items) assumeYes,
              some { id := "act" ++ "_" ++ hex s.tables.drawn, verdict := verdict }⟩ := by
        refine follows_settle { id := "act" ++ "_" ++ hex s.tables.drawn, verdict := verdict } rfl
          (fun _ => refuses) (fun ran => absurd rfl ran) closes (follows_log (follows_pure ?_))
        rintro f ⟨⟩
        rfl
      have carried (permitted : Permits verdict.decision assumeYes) :=
        @follows_carryOut σ text hex config machine (.dict items) assumeYes
          ("act" ++ "_" ++ hex s.tables.drawn) verdict validated permitted
      cases judged : verdict.decision with
      | allow => exact carried (.inl judged)
      | deny => exact refused "denied" _ _ (by rw [judged]; rfl) (.inl judged)
      | askUser =>
        cases assumeYes with
        | true => exact carried (.inr ⟨judged, rfl⟩)
        | false => exact refused "awaiting_confirmation" _ _ (by rw [judged]; rfl) (.inr ⟨judged, rfl⟩)
    | _ => cases validated

theorem follows_code (c : Command) :
    Follows (Goes text hex config) Ends (c.code text hex config machine) ⟨c, none⟩ := by
  cases c with
  | handle action assumeYes =>
    exact follows_void (follows_handle action assumeYes) (fun _ _ ends => ends) fun _ _ ends => ends
  | note eventType actor message data =>
    refine fun s => ⟨⟨.note eventType actor message data, none⟩, .noted rfl rfl rfl (Nat.le_succ _) rfl, ?_⟩
    rintro f ⟨⟩

/-! Runs. -/

/-- The database as `init` leaves it, with no command at work. -/
def opened (world : σ) : Pool (Desk σ) Exn := ⟨{ tables := {}, world := world }, []⟩

theorem consistent_opened (started : Command → Prop) (world : σ) :
    Consistent text hex config started (opened world).state [] where
  drawn := fun row inside => by cases inside
  owned := fun row inside => by cases inside
  judged := fun phase inside => by cases inside
  shown := fun phase inside => by cases inside
  apart := fun i j phase phase' f f' there => by cases there
  keyed := fun call inside => by cases inside
  rooted := fun run inside => by cases inside
  known := fun phase inside => by cases inside

variable {started : Command → Prop}

/-- After every run the phases of its commands tell the whole story of the tables. -/
theorem consistent_run (injective : Function.Injective hex) (world : σ) {moves : List (Move Command)}
    (known : ∀ c, Move.start c ∈ moves → started c) :
    ∃ phases, Phased (Goes text hex config) Ends
        (runMoves (Command.code text hex config machine) (opened world) moves) phases ∧
      Consistent text hex config started
        (runMoves (Command.code text hex config machine) (opened world) moves).state phases :=
  phased_runMoves follows_code (fun c among _ _ consistent => consistent.start (known c among))
    (fun _ _ _ _ _ _ consistent here goes => consistent.step injective here goes)
    (phased_nil (opened world).state) (consistent_opened _ world)

/-! What a row tells. -/

/-- The row of an action that a command proposed is true of what was run and recorded for it. -/
structure Truthful (s : Desk σ) (row : ActionRow) (assumeYes : Bool) : Prop where
  once : (runs s row.id).length ≤ 1
  permitted : runs s row.id ≠ [] → Permits row.decision assumeYes
  status : row.status = "proposed" ∧ (calls s row.id).length ≤ 1 ∨
    row.status = closing row.decision none ∧ Refuses row.decision assumeYes ∧ calls s row.id = [] ∧
      runs s row.id = [] ∨
    ∃ call, calls s row.id = [call] ∧ Permits row.decision assumeYes ∧
      row.status = if call.exitCode = 0 then "succeeded" else "failed"

variable (text config started) in
/-- The tables can be accounted for: every row is the only one of an action that a command proposed, shows what the
policy decides about it, and is true; every tool call and every run has its row, a run even when it begins. -/
structure Accounts (s : Desk σ) : Prop where
  distinct : (s.tables.actions.map ActionRow.id).Nodup
  rows : ∀ row ∈ s.tables.actions, ∃ action assumeYes, started (.handle action assumeYes) ∧
    validateAction action = .ok [] ∧ Policy.decide text config action = .ok ⟨row.decision, row.reason⟩ ∧
    Truthful s row assumeYes
  calls : ∀ call ∈ s.tables.toolCalls, ∃ row ∈ s.tables.actions, row.id = call.actionId
  runs : ∀ run ∈ s.executions, (∃ row ∈ s.tables.actions, row.id = run.actionId) ∧
    ∃ row ∈ run.recorded, row.id = run.actionId

variable {s : Desk σ} {phases : List Phase}

private theorem closing_called {decision : Decision} {result : Result} {call : ToolCall}
    (code : result.ok = (result.exitCode == 0)) (same : call.exitCode = result.exitCode) :
    closing decision (some result) = if call.exitCode = 0 then "succeeded" else "failed" := by
  rw [closing, code, same]
  simp only [beq_iff_eq]

/-- The row that a file is about is true. -/
private theorem truthful_file {f : File} {row : ActionRow} {action : PyVal} {assumeYes : Bool}
    (judged : Judged text config (.handle action assumeYes) f) (shown : Shown s f) (row_eq : DeskLaw.rows s f.id = [row])
    (own : row.id = f.id) : Truthful s row assumeYes := by
  obtain ⟨_, _, same, -, -, permitted, refused⟩ := judged.decided
  cases same
  obtain ⟨row', recorded, status, decision, -⟩ := shown.row
  obtain rfl : row' = row := by
    rw [row_eq] at recorded
    cases recorded
    rfl
  refine ⟨?_, fun some => ?_, ?_⟩
  · rw [own]
    exact shown.once
  · rw [own] at some
    rw [decision]
    exact permitted fun none => some (shown.unrun none)
  rw [own, decision, status]
  cases settled : f.settled with
  | false =>
    refine .inl ⟨by rw [File.status, settled]; rfl, ?_⟩
    cases called : f.called with
    | false =>
      rw [shown.uncalled called]
      exact Nat.zero_le 1
    | true =>
      obtain ⟨_, call, -, calls, -⟩ := shown.called called
      rw [calls]
      exact Nat.le_refl 1
  | true =>
    have closes : f.status = closing f.verdict.decision f.ran := by
      rw [File.status, settled]
      rfl
    rw [closes]
    cases ran : f.ran with
    | none =>
      have uncalled : f.called = false := by
        by_contra called
        obtain ⟨_, _, held, -⟩ := shown.called (by simpa using called)
        rw [ran] at held
        cases held
      exact .inr (.inl ⟨rfl, refused settled ran, shown.uncalled uncalled, shown.unrun ran⟩)
    | some result =>
      have some : f.ran ≠ none := by
        rw [ran]
        exact Option.some_ne_none result
      obtain ⟨_, call, held, calls, code⟩ := shown.called (shown.filed settled some)
      cases ran.symm.trans held
      exact .inr (.inr ⟨call, calls, permitted some, closing_called (shown.code _ ran) code⟩)

/-- A row that a command holds is the only one of its action. -/
private theorem held_row (consistent : Consistent text hex config started s phases) {row : ActionRow}
    (inside : row ∈ s.tables.actions) : ∃ phase ∈ phases, ∃ f, phase.file = some f ∧ row.id = f.id ∧
      DeskLaw.rows s f.id = [row] := by
  obtain ⟨phase, member, f, held, named⟩ := consistent.owned row inside
  obtain ⟨row', recorded, -⟩ := (consistent.shown phase member f held).row
  have own := mem_rows inside
  rw [← named, recorded] at own
  obtain rfl := List.mem_singleton.mp own
  exact ⟨phase, member, f, held, named.symm, recorded⟩

private theorem nodup_of_rows {as : List ActionRow}
    (alone : ∀ row ∈ as, (as.filter fun other => other.id = row.id).length ≤ 1) : (as.map ActionRow.id).Nodup := by
  rw [List.nodup_iff_count_le_one]
  intro id
  by_cases among : id ∈ as.map ActionRow.id
  · obtain ⟨row, inside, rfl⟩ := List.mem_map.mp among
    rw [List.count, List.countP_map, List.countP_eq_length_filter]
    exact alone row inside
  · rw [List.count_eq_zero_of_not_mem among]
    exact Nat.zero_le 1

theorem accounts_of_consistent (consistent : Consistent text hex config started s phases) :
    Accounts text config started s where
  distinct := by
    refine nodup_of_rows fun row inside => ?_
    obtain ⟨_, _, f, _, named, recorded⟩ := held_row consistent inside
    rw [named]
    exact (congrArg List.length recorded).le
  rows := by
    intro row inside
    obtain ⟨phase, member, f, held, named, recorded⟩ := held_row consistent inside
    have judged := consistent.judged phase member f held
    have shown := consistent.shown phase member f held
    obtain ⟨row', recorded', -, decision, reason⟩ := shown.row
    cases recorded.symm.trans recorded'
    obtain ⟨action, assumeYes, command, accepted, decided, -⟩ := judged.decided
    rw [command] at judged
    refine ⟨action, assumeYes, ?_, accepted, ?_, truthful_file judged shown recorded named⟩
    · rw [← command]
      exact consistent.known phase member
    · rw [decided, decision, reason]
  calls := fun call inside => rows_ne_nil.mp (consistent.keyed call inside)
  runs := fun run inside => ⟨rows_ne_nil.mp (consistent.rooted run inside).1, (consistent.rooted run inside).2⟩

/-- Identifiers that count in strokes. -/
def strokes (n : Nat) : String := String.ofList (List.replicate n '|')

theorem strokes_injective : Function.Injective strokes := by
  intro m n same
  have lengths := congrArg (fun s : String => s.toList.length) same
  simpa [strokes] using lengths

/-- A command that runs at once. -/
def uptime : Command := .handle (.dict (uptimeWith (.list []))) false

/-- A command that waits for a confirmation. -/
def remembering : Command := .handle (.dict [(.str "type", .str "action"), (.str "kind", .str "memory.write"),
  (.str "risk", .str "write"), (.str "payload", .dict [(.str "content", .str "the door sticks")])]) false

/-- Two commands that take turns at the database. -/
def turns : List (Move Command) := [.start uptime, .start remembering, .resume 0, .resume 1, .resume 1, .resume 0,
  .resume 1, .resume 0, .resume 0, .resume 0]

/-- A row but for its status. -/
def entry (row : ActionRow) : ActionRow := { row with status := "" }

/-- No row, call, event or run is lost or changed, but for the status of an action that is not settled yet. -/
structure Grown (s t : Desk σ) : Prop where
  rows : s.tables.actions.map entry <+: t.tables.actions.map entry
  settled : ∀ (k : ℕ) (row : ActionRow), s.tables.actions[k]? = some row → row.status ≠ "proposed" →
    t.tables.actions[k]? = some row
  calls : s.tables.toolCalls <+: t.tables.toolCalls
  events : s.tables.auditLog <+: t.tables.auditLog
  runs : s.executions <+: t.executions

theorem Grown.refl (s : Desk σ) : Grown s s :=
  ⟨List.prefix_refl _, fun _ _ there _ => there, List.prefix_refl _, List.prefix_refl _, List.prefix_refl _⟩

theorem Grown.trans {s t u : Desk σ} (first : Grown s t) (second : Grown t u) : Grown s u where
  rows := first.rows.trans second.rows
  settled := fun k row there settled => second.settled k row (first.settled k row there settled) settled
  calls := first.calls.trans second.calls
  events := first.events.trans second.events
  runs := first.runs.trans second.runs

private theorem prefix_of_eq {as bs : List α} (same : bs = as) : as <+: bs := same ▸ List.prefix_refl bs

/-- More of everything but the rows, which are as they were. -/
private theorem grown_beside {s t : Desk σ} (actions : t.tables.actions = s.tables.actions)
    (calls : s.tables.toolCalls <+: t.tables.toolCalls) (events : s.tables.auditLog <+: t.tables.auditLog)
    (runs : s.executions <+: t.executions) : Grown s t where
  rows := prefix_of_eq (by rw [actions])
  settled := by
    intro k row there _
    rw [actions]
    exact there
  calls := calls
  events := events
  runs := runs

private theorem prefix_of_snoc {as bs : List α} {a : α} (more : bs = as ++ [a]) : as <+: bs := by
  rw [more]
  exact List.prefix_append as [a]

private theorem entry_restatus (id status : String) (row : ActionRow) : entry (row.restatus id status) = entry row := by
  unfold ActionRow.restatus
  split <;> rfl

/-- No step of a command takes anything away. -/
theorem grown_step {s' : Desk σ} {i : ℕ} {phase phase' : Phase}
    (consistent : Consistent text hex config started s phases) (here : phases[i]? = some phase)
    (goes : Goes text hex config phase s phase' s') : Grown s s' := by
  cases goes with
  | noted actions toolCalls auditLog _ executions =>
    exact grown_beside actions (prefix_of_eq toolCalls) (prefix_of_snoc auditLog) (prefix_of_eq executions)
  | recorded _ _ _ _ _ _ actions toolCalls auditLog _ executions =>
    refine ⟨?_, fun k row there _ => ?_, prefix_of_eq toolCalls, prefix_of_eq auditLog, prefix_of_eq executions⟩
    · rw [actions, List.map_append]
      exact List.prefix_append _ _
    · rw [actions, List.getElem?_append_left (List.getElem?_eq_some_iff.mp there).1]
      exact there
  | performed _ _ _ _ _ tables executions =>
    rcases executions with same | ⟨x, more, -⟩
    · exact grown_beside (congrArg Tables.actions tables) (prefix_of_eq (congrArg Tables.toolCalls tables))
        (prefix_of_eq (congrArg Tables.auditLog tables)) (prefix_of_eq same)
    · exact grown_beside (congrArg Tables.actions tables) (prefix_of_eq (congrArg Tables.toolCalls tables))
        (prefix_of_eq (congrArg Tables.auditLog tables)) (prefix_of_snoc more)
  | called _ _ _ _ _ actions toolCalls auditLog _ executions =>
    exact grown_beside actions (prefix_of_snoc toolCalls) (prefix_of_eq auditLog) (prefix_of_eq executions)
  | @settled action assumeYes f _ _ unsettled _ _ actions toolCalls auditLog _ executions =>
    refine ⟨?_, fun k row there settled => ?_, prefix_of_eq toolCalls, prefix_of_eq auditLog,
      prefix_of_eq executions⟩
    · rw [actions, List.map_map]
      refine prefix_of_eq (List.map_congr_left fun row _ => ?_)
      exact entry_restatus _ _ row
    · -- the row that gets a status is one that has none yet
      have other : row.id ≠ f.id := by
        intro own
        obtain ⟨row', recorded, status, -⟩ := (consistent.shown _ (List.mem_of_getElem? here) f rfl).row
        have mine := mem_rows (List.mem_of_getElem? there)
        rw [own, recorded] at mine
        obtain rfl := List.mem_singleton.mp mine
        rw [File.status, unsettled] at status
        exact settled status
      rw [actions, List.getElem?_map, there, Option.map_some, ActionRow.restatus, if_neg other]

end DroidOs.Rocky.DeskAccounts
