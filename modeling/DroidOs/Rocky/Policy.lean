/- GID: DroidOs/Rocky/Policy
   generality: I
   source: rocky/policy.py, rocky/rockyctl
   digest: What a proposed action must look like, and what the policy decides about it. -/

import DroidOs.Core.Values

set_option autoImplicit false
set_option relaxedAutoImplicit false

namespace DroidOs.Rocky.Policy

open DroidOs.Core.Values

/-! Typed actions. -/

def validKinds : List String :=
  ["debian.command", "file.read", "file.write", "file.delete", "memory.write", "memory.search",
    "notify", "speak"]

def validRisks : List String :=
  ["read_only", "write", "network", "private", "destructive", "privileged", "forbidden"]

/-- `v in names`, for a set of texts. -/
def memberOf (names : List String) (v : PyVal) : Except Exn Bool :=
  if v.hashable then .ok (names.any fun name => v.isKey name) else .error ⟨.typeError, "unhashable type"⟩

def isDict : PyVal → Bool
  | .dict _ => true
  | _ => false

/-- `validate_action`. -/
def validateAction (action : PyVal) : Except Exn (List String) := do
  if !isDict action then return ["action is not a JSON object"]
  let typed := (← action.get "type" .none).isKey "action"
  let kind ← memberOf validKinds (← action.get "kind" .none)
  let risk ← memberOf validRisks (← action.get "risk" .none)
  let payload := isDict (← action.get "payload" (.dict []))
  return (if typed then [] else ["type must be 'action'"]) ++
    (if kind then [] else ["kind must be one of ['debian.command', 'file.delete', 'file.read', " ++
      "'file.write', 'memory.search', 'memory.write', 'notify', 'speak']"]) ++
    (if risk then [] else ["risk must be one of ['destructive', 'forbidden', 'network', " ++
      "'private', 'privileged', 'read_only', 'write']"]) ++
    (if payload then [] else ["payload must be an object"])

/-! The configuration. -/

/-- The two documents that the policy is configured by. -/
structure Config where
  capabilities : PyVal
  registry : PyVal

/-- A switch of the capabilities file. -/
private def switch (name : String) (on : Bool) (risk : String) : PyVal × PyVal :=
  (.str name, .dict [(.str "enabled", .bool on), (.str "risk", .str risk)])

/-- A list of the registry file. -/
private def names (key : String) (items : List String) : PyVal × PyVal :=
  (.str key, .list (items.map PyVal.str))

/-- The configuration in the repository's two files, without the descriptions. -/
def shipped : Config where
  capabilities := .dict [switch "shell_read" true "read_only", switch "shell_write" false "write",
    switch "file_read" true "read_only", switch "file_write" false "write",
    switch "file_delete" false "destructive", switch "memory_read" true "read_only",
    switch "memory_write" true "write", switch "network" false "network",
    switch "privileged" false "privileged"]
  registry := .dict [
    names "debian_read_only_commands" ["pwd", "whoami", "id", "uname", "hostname", "date", "uptime",
      "df", "du", "free", "ls", "cat", "head", "tail", "grep", "find", "stat", "file", "ps", "top", "ss",
      "ip", "lscpu", "lsblk", "mount", "env", "printenv", "which", "command"],
    names "dangerous_commands" ["sudo", "su", "rm", "rmdir", "mv", "cp", "chmod", "chown", "dd", "mkfs",
      "fdisk", "parted", "mount", "umount", "systemctl", "service", "apt", "apt-get", "dpkg", "pip",
      "pip3", "curl", "wget", "nc", "ssh", "scp", "rsync", "kill", "killall", "pkill", "reboot",
      "shutdown", "passwd", "useradd", "userdel", "usermod", "crontab", "tee", "sed", "awk", "python",
      "python3", "perl", "bash", "sh"],
    names "forbidden_patterns" ["rm -rf /", "rm -rf /*", "mkfs", "dd if=", ":()\x7b :|:& \x7d;:",
      "chmod -R 777 /", "chown -R", "> /dev/sd", "> /dev/nvme"]]

/-- `reg.get(key, []) or []`, as it is iterated over. -/
def entries (registry : PyVal) (key : String) : Except Exn (List PyVal) := do
  ((← registry.get key (.list [])).orElse (.list [])).toList

/-- `base in set(reg.get(key, []) or [])`. -/
def listed (registry : PyVal) (key base : String) : Except Exn Bool := do
  let items ← entries registry key
  if items.all PyVal.hashable then return items.any (PyVal.isKey base)
  else .error ⟨.typeError, "unhashable type"⟩

/-- `cap is not None and cap.get("enabled", False)`, for the capability of that name. -/
def enabled (capabilities : PyVal) (name : String) : Except Exn Bool := do
  match ← capabilities.get name .none with
  | .none => return false
  | cap => return (← cap.get "enabled" (.bool false)).truthy

/-! The decision. -/

def privilegedCommands : List String :=
  ["sudo", "su", "systemctl", "service", "apt", "apt-get", "dpkg", "pip", "pip3", "mount", "umount",
    "useradd", "userdel", "usermod", "passwd", "reboot", "shutdown", "crontab"]

/-- `_KIND_CAPABILITY`. -/
def kindCapability : List (String × String) :=
  [("file.read", "file_read"), ("file.write", "file_write"), ("file.delete", "file_delete"),
    ("memory.write", "memory_write"), ("memory.search", "memory_read")]

variable (text : PyText)

/-- `str(v)`. -/
def strOf : PyVal → String
  | .str s => s
  | v => text.str v

/-- `action.get("payload", {}) or {}`. -/
def payloadOf (action : PyVal) : Except Exn PyVal := do
  return (← action.get "payload" (.dict [])).orElse (.dict [])

/-- `p.get("args", []) or []`, each as a text. -/
def argsOf (payload : PyVal) : Except Exn (List String) := do
  let args ← ((← payload.get "args" (.list [])).orElse (.list [])).toList
  return args.map (strOf text)

/-- `command_string`. -/
def commandString (action : PyVal) : Except Exn String := do
  let payload ← payloadOf action
  let command ← payload.get "command" (.str "")
  return text.strip (" ".intercalate (strOf text command :: (← argsOf text payload)))

/-- The first of the patterns in the text. -/
def firstPattern (haystack : String) : List PyVal → Except Exn (Option PyVal)
  | [] => .ok none
  | pattern :: rest =>
    if !pattern.truthy then firstPattern haystack rest
    else match pattern with
      | .str s => if containsText s haystack then .ok (some pattern) else firstPattern haystack rest
      | _ => .error ⟨.typeError, "'in <string>' requires string as left operand"⟩

/-- The forbidden pattern that the action matches. -/
def forbiddenPattern (registry action : PyVal) : Except Exn (Option PyVal) := do
  let command ← commandString text action
  let content ← (← payloadOf action).get "content" (.str "")
  firstPattern (command ++ " " ++ strOf text content) (← entries registry "forbidden_patterns")

/-- `str(payload.get("command", "")).strip()`. -/
def baseOf (payload : PyVal) : Except Exn String := do
  return text.strip (strOf text (← payload.get "command" (.str "")))

/-- `_required_capability`. -/
def requiredCapability (kind risk payload registry : PyVal) : Except Exn (Option String) := do
  if kind.isKey "debian.command" then
    let base ← baseOf text payload
    if base ∈ privilegedCommands || risk.isKey "privileged" then return some "privileged"
    if risk.isKey "network" then return some "network"
    let allow ← listed registry "debian_read_only_commands" base
    return some (if risk.isKey "read_only" && allow then "shell_read" else "shell_write")
  if risk.isKey "network" then return some "network"
  match kind with
  | .str name => return kindCapability.lookup name
  | _ => if kind.hashable then return none else .error ⟨.typeError, "unhashable type"⟩

inductive Decision
  | allow | askUser | deny
  deriving DecidableEq

structure Verdict where
  decision : Decision
  reason : String

/-- The capability that the action needs, if that one is not enabled. -/
def missingCapability (config : Config) (kind risk payload : PyVal) : Except Exn (Option String) := do
  match ← requiredCapability text kind risk payload config.registry with
  | none => return none
  | some name => return if ← enabled config.capabilities name then none else some name

/-- The rules for a command. -/
def decideCommand (config : Config) (risk payload : PyVal) : Except Exn Verdict := do
  let base ← baseOf text payload
  if base = "" then return ⟨.deny, "no command specified"⟩
  let allow ← listed config.registry "debian_read_only_commands" base
  let dangerous ← listed config.registry "dangerous_commands" base
  if dangerous then return ⟨.askUser, "command '" ++ base ++ "' is potentially dangerous"⟩
  if risk.isKey "read_only" && allow then
    return ⟨.allow, "'" ++ base ++ "' is an allowlisted read-only command"⟩
  return ⟨.askUser, "'" ++ base ++ "' is not on the read-only allowlist"⟩

/-- The defaults by the stated risk. -/
def decideByRisk (risk : PyVal) : Verdict :=
  if risk.isKey "read_only" then ⟨.allow, "read-only action"⟩
  else ⟨.askUser, "risk '" ++ strOf text (risk.orElse (.str "unknown")) ++ "' requires confirmation"⟩

/-- `decide`. -/
def decide (config : Config) (action : PyVal) : Except Exn Verdict := do
  let kind ← action.get "kind" (.str "")
  let risk ← action.get "risk" (.str "")
  let payload ← payloadOf action
  if risk.isKey "forbidden" then return ⟨.deny, "risk is 'forbidden'"⟩
  match ← forbiddenPattern text config.registry action with
  | some pattern => return ⟨.deny, "matches forbidden pattern: " ++ text.repr pattern⟩
  | none =>
    match ← missingCapability text config kind risk payload with
    | some name => return ⟨.deny, "capability '" ++ name ++ "' is disabled"⟩
    | none =>
      if kind.isKey "debian.command" then decideCommand text config risk payload
      else return decideByRisk text risk

end DroidOs.Rocky.Policy
