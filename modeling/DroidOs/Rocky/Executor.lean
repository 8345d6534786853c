/- GID: DroidOs/Rocky/Executor
   generality: I
   source: rocky/executor.py, rocky/rockyctl
   digest: What an action does to the machine once it is run, and when it is run. -/

import DroidOs.Rocky.Policy

set_option autoImplicit false
set_option relaxedAutoImplicit false

namespace DroidOs.Rocky.Executor

open DroidOs.Core.Values
open Policy

/-- What a handler sets out to do. -/
inductive Effect
  | start (argv : List String)
  | readFile (path : PyVal)
  | writeFile (path content : PyVal) (append : Bool)
  | deleteFile (path : PyVal)
  | addMemory (kind content : PyVal)
  | searchMemory (query : PyVal)
  | print (message : PyVal)
  | fail (error : String)

variable (text : PyText)

/-- `_run_command`: no shell, and the command as it is. -/
def runCommand (action : PyVal) : Except Exn Effect := do
  let payload ← payloadOf action
  match ← payload.get "command" .none with
  | .str command =>
    if command = "" then return .fail "missing/invalid 'command'"
    let args ← ((← payload.get "args" .none).orElse (.list [])).toList
    return .start (command :: args.map (strOf text))
  | _ => return .fail "missing/invalid 'command'"

/-- The path of a file action, if it has one. -/
private def withPath (action : PyVal) (f : PyVal → PyVal → Except Exn Effect) : Except Exn Effect := do
  let payload ← payloadOf action
  let path ← payload.get "path" .none
  if path.truthy then f payload path else return .fail "missing 'path'"

def fileRead (action : PyVal) : Except Exn Effect := withPath action fun _ path => return .readFile path

def fileWrite (action : PyVal) : Except Exn Effect := withPath action fun payload path => do
  let content ← payload.get "content" (.str "")
  return .writeFile path content ((← payload.get "mode" .none).isKey "append")

def fileDelete (action : PyVal) : Except Exn Effect := withPath action fun _ path => return .deleteFile path

def memoryWrite (action : PyVal) : Except Exn Effect := do
  let payload ← payloadOf action
  return .addMemory (← payload.get "kind" (.str "fact")) (← payload.get "content" (.str ""))

def memorySearch (action : PyVal) : Except Exn Effect := do
  return .searchMemory (← (← payloadOf action).get "query" (.str ""))

def notify (action : PyVal) : Except Exn Effect := do
  return .print (← (← payloadOf action).get "message" (.str ""))

/-- `_HANDLERS`. -/
def handlers : List (String × (PyVal → Except Exn Effect)) :=
  [("debian.command", runCommand text), ("file.read", fileRead), ("file.write", fileWrite),
    ("file.delete", fileDelete), ("memory.write", memoryWrite), ("memory.search", memorySearch),
    ("notify", notify), ("speak", notify)]

/-- `run`: an exception of a handler becomes a failure. -/
def run (action : PyVal) : Effect :=
  match action.get "kind" (.str "") with
  | .ok (.str kind) => match (handlers text).lookup kind with
    | some handler => match handler action with
      | .ok effect => effect
      | .error e => .fail e.describe
    | none => .fail ("no executor for kind '" ++ kind ++ "'")
  | _ => .fail "no executor for this kind"

/-- How `handle_action` ends. -/
inductive Handled
  | rejected (errors : List String)
  | denied (reason : String)
  | needsConfirmation (reason : String)
  | ran (effect : Effect)

/-- `handle_action`, without its audit records. -/
def handleAction (config : Config) (assumeYes : Bool) (action : PyVal) : Except Exn Handled := do
  let errors ← validateAction action
  if !errors.isEmpty then return .rejected errors
  let verdict ← decide text config action
  match verdict.decision with
  | .deny => return .denied verdict.reason
  | .askUser => if assumeYes then return .ran (run text action) else return .needsConfirmation verdict.reason
  | .allow => return .ran (run text action)

end DroidOs.Rocky.Executor
