/- GID: DroidOs.Language.Utterance
   generality: I
   source: src/droidos/services/voice.py
   digest: One heard utterance, from emergency detection to the language service. -/

import DroidOs.Language.Conversation

set_option autoImplicit false
set_option relaxedAutoImplicit false

namespace DroidOs.Language.Utterance

open DroidOs.Lib.Procedure DroidOs.Lib.Interleaving DroidOs.Lib.Regex
open DroidOs.Lib.Interleaving.Coroutine (atomically)
open DroidOs.Core.Values DroidOs.Core.Context
open DroidOs.Services.Lifecycle DroidOs.Services.SafetyGateway DroidOs.Services.Supervisor
open Pattern OfflineParser Conversation

inductive Emergency
  | emergencyStop | stop
  deriving DecidableEq

/-- `_EMERGENCY`. -/
def emergencyStopPattern : Pattern :=
  sequence [.boundary, anyOf [literal "emergency stop",
    sequence [.char 'e', optional (.char '-'), literal "stop"], literal "kill power",
    literal "kill it"], .boundary]

def stopWords : List String := ["stop", "halt", "freeze", "whoa", "abort"]

/-- `Voice`, with the engine's speaker identification. What is spoken leaves no state. -/
structure Voice where
  language : LanguageService
  engine : String → Option String
  wakeNames : List String
  requireWake : Bool := false
  defaultUser : String := "operator"

structure VoiceResult where
  heard : String
  woke : Bool
  emergency : Option Emergency
  speaker : String
  response : String

variable {ε : Type} (svc : Services ε) (reg : Registry (Runtime ε)) (v : Voice)

namespace Voice

def hasWakeWord (text : PyText) (s : String) : Bool :=
  v.wakeNames.any fun w => containsText w (text.lower s)

def stripWakeWord (text : PyText) (s : String) : String :=
  let out := v.wakeNames.foldl (fun out w =>
    remove text.isWord text.sameIgnoringCase (sequence [.boundary, literal w, .boundary]) out) s
  stripChars ",." out

def identifySpeaker (sample : String) : String :=
  match v.engine sample with
  | some who => if who = "" then v.defaultUser else who
  | none => v.defaultUser

/-- `user or self.identify_speaker(text)`. -/
def speaker (heard : String) (user : Option String) : String :=
  match user with
  | some user => if user = "" then v.identifySpeaker heard else user
  | none => v.identifySpeaker heard

end Voice

def detectEmergency (text : PyText) (s : String) : Option Emergency :=
  let t := text.normalize (text.lower s)
  if hears text emergencyStopPattern t then some .emergencyStop
  else if mentions text stopWords t then some .stop
  else none

/-- What the language service is asked, unless the wake word is needed and missing. -/
def Voice.request (text : PyText) (heard : String) (user : Option String) : Option Request :=
  if v.requireWake && !v.hasWakeWord text heard then none
  else
    let command := if v.requireWake then v.stripWakeWord text heard else heard
    some { text := command, user := some (v.speaker heard user) }

/-- `handle_utterance`. -/
def handleUtterance (heard : String) (user : Option String) : Coroutine (Brain ε) Exn VoiceResult :=
  let speaker := v.speaker heard user
  match detectEmergency svc.text heard with
  | some .emergencyStop => do
    atomically (onRt (engageEstop svc "voice_emergency"))
    return ⟨heard, true, some .emergencyStop, speaker, "Emergency stop engaged. Motor power removed."⟩
  | some .stop => do
    atomically (onRt (outside svc.stop))
    return ⟨heard, true, some .stop, speaker, "Stopped."⟩
  | none => match v.request svc.text heard user with
    | none => pure ⟨heard, false, none, speaker, ""⟩
    | some r => do
      let resp ← process svc reg v.language r
      return ⟨heard, true, none, speaker, resp.text⟩

/-- Without an emergency an utterance leaves what its request leaves. -/
theorem handleUtterance_after {heard : String} {user : Option String}
    (calm : detectEmergency svc.text heard = none) (m : Brain ε) :
    ((handleUtterance svc reg v heard user).run m).2 = match v.request svc.text heard user with
      | none => m
      | some r => ((process svc reg v.language r).run m).2 := by
  unfold handleUtterance
  rw [calm]
  dsimp only
  cases v.request svc.text heard user with
  | none => rfl
  | some r =>
    dsimp only
    rw [Coroutine.run_bind]
    rcases run : (process svc reg v.language r).run m with ⟨e | resp, m'⟩
    · rw [bind_error run]
    · rw [bind_ok run]
      rfl

/-- An emergency is handled before anything else is looked at. -/
theorem handleUtterance_emergencyStop {heard : String} {user : Option String}
    (detected : detectEmergency svc.text heard = some .emergencyStop) (m : Brain ε) :
    ((handleUtterance svc reg v heard user).run m).2 = (onRt (engageEstop svc "voice_emergency") m).2 := by
  unfold handleUtterance
  rw [detected]
  dsimp only
  rw [Coroutine.run_bind, Coroutine.run_atomically]
  rcases run : onRt (engageEstop svc "voice_emergency") m with ⟨e | _, m'⟩
  · rw [bind_error run]
  · rw [bind_ok run]
    rfl

theorem handleUtterance_stop {heard : String} {user : Option String}
    (detected : detectEmergency svc.text heard = some .stop) (m : Brain ε) :
    ((handleUtterance svc reg v heard user).run m).2 = (onRt (outside svc.stop) m).2 := by
  unfold handleUtterance
  rw [detected]
  dsimp only
  rw [Coroutine.run_bind, Coroutine.run_atomically]
  rcases run : onRt (outside svc.stop) m with ⟨e | _, m'⟩
  · rw [bind_error run]
  · rw [bind_ok run]
    rfl

/-- A word of stopping that is not a whole command is heard all the same. -/
example : detectEmergency .ascii "please STOP right there" = some .stop := by decide +kernel

end DroidOs.Language.Utterance
