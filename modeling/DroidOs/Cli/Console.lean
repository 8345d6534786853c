/- GID: DroidOs/Cli/Console
   generality: I
   source: src/droidos/cli/droid.py
   digest: The interactive console, line by line, while the rest of its process goes on. -/

import DroidOs.System.Operations

set_option autoImplicit false
set_option relaxedAutoImplicit false

namespace DroidOs.Cli.Console

open DroidOs.Lib.Procedure DroidOs.Lib.Interleaving
open DroidOs.Core.Values DroidOs.Core.Context
open DroidOs.Services.Supervisor
open DroidOs.Language.Intent DroidOs.Language.Conversation
open DroidOs.Executive.RunIntent
open System.Registration System.Operations

/-- What the process of the console comes to do next: to read a line, while the providers
are as they are then, or a move of something else. -/
inductive Event (ι : Type)
  | typed (line : String) (providers : List Provider)
  | meanwhile (m : Move (Operation ι))

/-- The loop of `interactive`, with the lines it has put to the language service and their
answers; an exception ends it. -/
structure Session (ε : Type) where
  pool : Pool (Brain ε) Exn
  pending : Option StructuredIntent := none
  answers : List (String × Response) := []
  closed : Bool := false
  raised : Option Exn := none

def farewells : List String := ["quit", "exit", ":q"]

variable {ε ι : Type} (svc : Services ε) (world : ι → ε → ε) (lang : List Provider → LanguageService)
variable (user : String)

/-- What a line asks of the language service. -/
def asks (line : String) (pending : Option StructuredIntent) : Request where
  text := svc.text.strip line
  user := some user
  pending := pending

/-- One round of the loop, from the line on that it reads. -/
def turn (line : String) (providers : List Provider) (c : Session ε) : Session ε :=
  if svc.text.strip line = "" then c
  else if svc.text.lower (svc.text.strip line) ∈ farewells then { c with closed := true }
  else
    match (process svc (droidServices svc) (lang providers) (asks svc user line c.pending)).run c.pool.state with
    | (.ok resp, m) => { c with
        pool := { c.pool with state := m }
        pending := if resp.needsConfirmation then resp.pending else none
        answers := c.answers ++ [(svc.text.strip line, resp)] }
    | (.error e, m) => { c with pool := { c.pool with state := m }, closed := true, raised := some e }

def step (c : Session ε) : Event ι → Session ε
  | .typed line providers => if c.closed then c else turn svc lang user line providers c
  | .meanwhile m => { c with pool := move (code svc world) c.pool m }

def converse (c : Session ε) (events : List (Event ι)) : Session ε := events.foldl (step svc world lang user) c

/-- The lines that are put to the language service, up to the one that ends the session. -/
def questions : List (Event ι) → List String
  | [] => []
  | .meanwhile _ :: events => questions events
  | .typed line _ :: events =>
    if svc.text.strip line = "" then questions events
    else if svc.text.lower (svc.text.strip line) ∈ farewells then []
    else svc.text.strip line :: questions events

variable {svc world lang user} {line : String} {providers : List Provider} {c : Session ε}

/-! One round, by what is typed. -/

theorem turn_blank (blank : svc.text.strip line = "") : turn svc lang user line providers c = c := if_pos blank

theorem turn_farewell (words : svc.text.strip line ≠ "")
    (leaves : svc.text.lower (svc.text.strip line) ∈ farewells) :
    turn svc lang user line providers c = { c with closed := true } := by
  unfold turn
  rw [if_neg words, if_pos leaves]

theorem turn_answered (words : svc.text.strip line ≠ "")
    (stays : svc.text.lower (svc.text.strip line) ∉ farewells) {resp : Response} {m : Brain ε}
    (ran : (process svc (droidServices svc) (lang providers) (asks svc user line c.pending)).run c.pool.state =
      (.ok resp, m)) :
    turn svc lang user line providers c = { c with
      pool := { c.pool with state := m }
      pending := if resp.needsConfirmation then resp.pending else none
      answers := c.answers ++ [(svc.text.strip line, resp)] } := by
  unfold turn
  rw [if_neg words, if_neg stays, ran]

/-- A session whose rounds all answer puts the questions to the language service, in their order. -/
theorem converse_answered {I : Session ε → Prop} {events : List (Event ι)}
    (round : ∀ line providers, .typed line providers ∈ events → ∀ c, I c → I (turn svc lang user line providers c) ∧
      (svc.text.strip line ≠ "" → svc.text.lower (svc.text.strip line) ∉ farewells →
        (turn svc lang user line providers c).closed = c.closed ∧
          ∃ resp, (turn svc lang user line providers c).answers = c.answers ++ [(svc.text.strip line, resp)]))
    (other : ∀ m c, I c → I { c with pool := move (code svc world) c.pool m }) (holds : I c) :
    I (converse svc world lang user c events) ∧ (converse svc world lang user c events).answers.map Prod.fst =
      c.answers.map Prod.fst ++ if c.closed then [] else questions svc events := by
  induction events generalizing c with
  | nil => exact ⟨holds, by cases c.closed <;> simp [converse, questions]⟩
  | cons event events ih =>
    have rest {c : Session ε} (holds : I c) := ih (fun line providers inside =>
      round line providers (List.mem_cons_of_mem _ inside)) holds
    cases event with
    | meanwhile m => exact rest (other m c holds)
    | typed line providers =>
      obtain ⟨kept, answers⟩ := round line providers List.mem_cons_self c holds
      change I (converse svc world lang user (if c.closed then c else turn svc lang user line providers c) events) ∧
        (converse svc world lang user (if c.closed then c else turn svc lang user line providers c) events).answers.map
          Prod.fst = _
      by_cases closed : c.closed = true
      · rw [if_pos closed]
        have ended := rest holds
        rw [if_pos closed] at ended ⊢
        exact ended
      rw [if_neg closed, if_neg closed]
      unfold questions
      by_cases words : svc.text.strip line = ""
      · have ended := rest holds
        rw [if_neg closed] at ended
        rw [if_pos words, turn_blank words]
        exact ended
      rw [if_neg words]
      by_cases leaves : svc.text.lower (svc.text.strip line) ∈ farewells
      · have ended := rest kept
        rw [turn_farewell words leaves] at ended ⊢
        rw [if_pos leaves]
        exact ended
      · obtain ⟨same, resp, answered⟩ := answers words leaves
        have ended := rest kept
        rw [same, if_neg closed, answered, List.map_append, List.append_assoc] at ended
        rw [if_neg leaves]
        exact ended

end DroidOs.Cli.Console
