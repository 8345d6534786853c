/- GID: DroidOs/Language/OfflineParser
   generality: I
   source: src/droidos/language/offline_parser.py
   digest: The deterministic rules that turn a text into a structured intent. -/

import DroidOs.Lib.Regex
import DroidOs.Language.Intent

set_option autoImplicit false
set_option relaxedAutoImplicit false

namespace DroidOs.Language.OfflineParser

open DroidOs.Lib.Regex
open DroidOs.Core.Values
open Pattern Intent

variable (text : PyText)

/-- `re.search(r, s)`, for the groups of the match. -/
def find (r : Pattern) (s : String) : Option (List String) :=
  search text.isWord (fun c d => c = d) r s

/-- `re.match(r, s)`. -/
def start (r : Pattern) (s : String) : Option (List String) :=
  matchStart text.isWord (fun c d => c = d) r s

/-- `re.match(r, s, re.IGNORECASE)`. -/
def startIgnoringCase (r : Pattern) (s : String) : Option (List String) :=
  matchStart text.isWord text.sameIgnoringCase r s

/-- `\b(…|…)\b` over literal words. -/
def words (ws : List String) : Pattern := sequence [.boundary, oneOf ws, .boundary]

/-- Whether one of the words stands in the text. -/
def mentions (ws : List String) (t : String) : Bool := (find text (words ws) t).isSome

def hears (r : Pattern) (t : String) : Bool := (find text r t).isSome

/-! Answers to a confirmation. -/

def affirmatives : List String :=
  ["yes", "y", "confirm", "confirmed", "do it", "go ahead", "affirmative", "proceed"]

def negatives : List String :=
  ["no", "n", "cancel", "cancel that", "stop", "negative", "abort", "don't", "dont"]

private def answerOf (text : PyText) (s : String) : String :=
  rstrip ".!" (text.lower (text.strip s))

def isAffirmative (s : String) : Bool := answerOf text s ∈ affirmatives

def isNegative (s : String) : Bool := answerOf text s ∈ negatives

/-! Slots. -/

def cautious (t : String) : String :=
  if ["careful", "carefully", "slow", "slowly", "cautious"].any fun w => containsText w t
  then "cautious" else "normal"

/-- Without the first article that the lower-cased slot starts with. -/
def dropArticle (text : PyText) (s : String) : List String → String
  | [] => s
  | article :: rest =>
    if article.toList.isPrefixOf (text.lower s).toList
    then String.ofList (s.toList.drop article.length) else dropArticle text s rest

/-- `_clean`. -/
def clean (s : String) : String :=
  dropArticle text (text.strip (rstrip " .?!," (text.strip s))) ["the ", "a ", "an "]

/-! Patterns. -/

def the : Pattern := optional (literal "the ")
def please : Pattern := optional (literal "please ")
def slot (greedy : Bool) : Pattern := .group (plus greedy .dot)

/-- `re.fullmatch(r"(stop|halt|freeze|stop moving|stop now)\.?", t)`. -/
def stopPattern : Pattern :=
  .seq (oneOf ["stop", "halt", "freeze", "stop moving", "stop now"]) (optional (.char '.'))

def silenceWords : List String := ["silence", "be quiet", "stop talking", "shush"]

/-- `\b(cancel|abort)\b.*\b(task|it|that|action)?\b`. -/
def cancelPattern : Pattern :=
  sequence [words ["cancel", "abort"], .star true .dot, .boundary,
    optional (oneOf ["task", "it", "that", "action"]), .boundary]

/-- `\b(can'?t|cannot|stop|stopped|disabled|inhibit|fail)`. -/
def whyNotPattern : Pattern :=
  .seq .boundary
    (oneOf ["can't", "cant", "cannot", "stop", "stopped", "disabled", "inhibit", "fail"])

def describePattern : List String :=
  ["what can you see", "what do you see", "describe the scene", "describe the room",
    "describe the surroundings", "describe scene", "describe room", "describe surroundings",
    "look around"]

def placesPattern : List String :=
  ["list places", "list destinations", "list rooms", "known places", "known destinations",
    "known rooms", "what places", "what destinations", "what rooms"]

def goAndInspect : Pattern :=
  sequence [oneOf ["go to", "navigate to", "walk to", "drive to"], .char ' ', the, slot false,
    literal " and ", oneOf ["inspect", "look at", "check"], .char ' ', the, slot true]

def inspectPattern : Pattern :=
  sequence [oneOf ["inspect", "look at", "check"], .char ' ', the, slot true]

def forgetPattern : Pattern :=
  sequence [please, literal "forget ", optional (literal "about "), slot true]

def rememberPattern : Pattern :=
  sequence [please, literal "remember ", optional (literal "that "), slot true]

def navigatePattern : Pattern :=
  sequence [please, oneOf ["go", "navigate", "walk", "drive", "move", "proceed", "head"],
    optional (oneOf [" to", " toward", " towards", " back to"]), .char ' ', the, slot true]

def stairsPattern : Pattern :=
  sequence [words ["walk", "climb"], .star true .dot, words ["stairs", "upstairs"]]

def groupAt (groups : List String) (n : Nat) : String := groups.getD n ""

/-! The rules, in the order of the source. -/

/-- The lower-cased text with single blanks that the rules read. -/
def normalized (s : String) : String := text.normalize (text.lower (text.strip s))

def isEmergencyStop (t : String) : Bool :=
  containsText "emergency stop" t || decide (t ∈ ["e-stop", "estop", "kill power"])

def isStop (t : String) : Bool := fullMatch text.isWord (fun c d => c = d) stopPattern t

/-- `si(intent, …)`. -/
private def intent (raw name : String) (arguments : List (PyVal × PyVal) := []) : StructuredIntent where
  intent := name
  arguments := .dict arguments
  rawText := raw

/-- `parse`, from the motion and memory rules on. -/
def parseRequest (text : PyText) (raw t : String) : StructuredIntent :=
  match start text forgetPattern t with
  | some groups => intent raw "memory.forget" [(.str "query", .str (clean text (groupAt groups 0)))]
  | none =>
  match startIgnoringCase text rememberPattern raw with
  | some groups => intent raw "memory.remember"
      [(.str "text", .str (rstrip " ." (text.strip (groupAt groups 0))))]
  | none =>
  match find text goAndInspect t with
  | some groups =>
    { intent raw "inspect.named_target" [(.str "destination", .str (clean text (groupAt groups 0))),
        (.str "target", .str (clean text (groupAt groups 1)))] with
      requiresMotion := true
      requestedSpeed := .str (cautious t)
      requestedOutput := "spoken summary" }
  | none =>
  match start text inspectPattern t with
  | some groups =>
    { intent raw "inspect.named_target" [(.str "target", .str (clean text (groupAt groups 0)))] with
      requiresMotion := true
      requestedSpeed := .str (cautious t)
      requestedOutput := "spoken summary" }
  | none =>
  if mentions text ["charge", "charging", "dock"] t && mentions text ["go", "return", "navigate", "to"] t then
    { intent raw "navigation.go_charge" with
      requiresMotion := true
      requestedSpeed := .str (cautious t) }
  else if hears text stairsPattern t then
    { intent raw "navigation.navigate_to" [(.str "destination", .str "stairs")] with
      requiresMotion := true }
  else match start text navigatePattern t with
  | some groups =>
    { intent raw "navigation.navigate_to"
        [(.str "destination", .str (clean text (groupAt groups 0)))] with
      requiresMotion := true
      requestedSpeed := .str (cautious t) }
  | none => { intent raw "unknown" [(.str "text", .str raw)] with confidence := 0 }

/-- `parse`, from the rule after `motion.stop` on. -/
def parseCommand (raw t : String) : StructuredIntent :=
  if hears text cancelPattern t && !containsText "don't" t then intent raw "task.cancel"
  else if mentions text ["shutdown", "shut down", "power off", "turn off"] t then
    intent raw "system.shutdown"
  else if mentions text ["reboot", "restart"] t then intent raw "system.request_reboot"
  else if mentions text ["safe idle", "stand down", "return to idle", "safe mode"] t then
    intent raw "robot.return_safe_idle"
  else if mentions text ["battery", "charge level", "power level", "how much power",
      "how much charge"] t then intent raw "robot.get_battery"
  else if mentions text ["temperature", "how hot", "motor temp", "too hot", "overheat"] t then
    intent raw "robot.get_temperature"
  else if mentions text ["what's wrong", "what is wrong", "whats wrong", "any faults", "any problems",
      "report active faults", "report faults", "diagnostic", "diagnostics", "health"] t then
    intent raw "diagnostics.summary"
  else if mentions text ["current task", "what are you doing", "report current task", "report task"] t then
    intent raw "robot.explain" [(.str "topic", .str "current_task")]
  else if mentions text ["why"] t && hears text whyNotPattern t then
    intent raw "robot.explain" [(.str "topic", .str "why")]
  else if mentions text ["help", "what can you do", "commands"] t then intent raw "help"
  else if mentions text describePattern t then intent raw "perception.describe_scene"
  else if mentions text placesPattern t || containsText "where can you go" t then
    intent raw "navigation.list_places"
  else if mentions text ["status", "how are you", "report status", "are you ok", "are you safe"] t then
    intent raw "robot.get_status"
  else parseRequest text raw t

/-- `parse`. -/
def parse (s : String) : StructuredIntent :=
  let raw := text.strip s
  let t := normalized text s
  if isEmergencyStop t then intent raw "motion.emergency_stop"
  else if mentions text silenceWords t then intent raw "voice.silence"
  else if isStop text t then intent raw "motion.stop"
  else parseCommand text raw t

/-! What every parse gives. -/

private theorem parseRequest_arguments (raw t : String) :
    ∃ items, (parseRequest text raw t).arguments = .dict items := by
  unfold parseRequest
  repeat' split
  all_goals exact ⟨_, rfl⟩

private theorem mapping_ite {c : Prop} [Decidable c] {yes no : StructuredIntent}
    (first : ∃ items, yes.arguments = .dict items) (second : ∃ items, no.arguments = .dict items) :
    ∃ items, (if c then yes else no).arguments = .dict items := by
  split
  · exact first
  · exact second

private theorem parseCommand_arguments (raw t : String) :
    ∃ items, (parseCommand text raw t).arguments = .dict items := by
  unfold parseCommand
  repeat refine mapping_ite ⟨_, rfl⟩ ?_
  exact parseRequest_arguments text raw t

private theorem parseRequest_intent (raw t : String) {name : String}
    (stop : name ∈ ["motion.emergency_stop", "motion.stop"]) : (parseRequest text raw t).intent ≠ name := by
  simp only [List.mem_cons, List.not_mem_nil, or_false] at stop
  unfold parseRequest
  repeat' split
  all_goals
    rcases stop with rfl | rfl
    all_goals simp [intent]

private theorem named_ite {c : Prop} [Decidable c] {yes no : StructuredIntent} {name : String}
    (first : yes.intent ≠ name) (second : no.intent ≠ name) : (if c then yes else no).intent ≠ name := by
  split
  · exact first
  · exact second

private theorem parseCommand_intent (raw t : String) {name : String}
    (stop : name ∈ ["motion.emergency_stop", "motion.stop"]) : (parseCommand text raw t).intent ≠ name := by
  have request := parseRequest_intent text raw t stop
  simp only [List.mem_cons, List.not_mem_nil, or_false] at stop
  rcases stop with rfl | rfl
  all_goals
    unfold parseCommand
    repeat refine named_ite (by simp [intent]) ?_
    exact request

/-- Only the first rule gives an emergency stop. -/
theorem parse_emergencyStop (s : String) :
    (parse text s).intent = "motion.emergency_stop" ↔ isEmergencyStop (normalized text s) = true := by
  by_cases stops : isEmergencyStop (normalized text s) = true
  · exact iff_of_true (by simp only [parse, if_pos stops, intent]) stops
  · refine iff_of_false ?_ stops
    simp only [parse, if_neg stops]
    refine named_ite ?_ (named_ite ?_ (parseCommand_intent text _ _ List.mem_cons_self))
    · simp [intent]
    · simp [intent]

/-- Only the third rule gives a stop. -/
theorem parse_stop {s : String} (stops : (parse text s).intent = "motion.stop") :
    isStop text (normalized text s) = true := by
  by_contra moves
  revert stops
  simp only [parse, if_neg moves]
  refine named_ite ?_ (named_ite ?_ (parseCommand_intent text _ _ (List.mem_cons_of_mem _ List.mem_cons_self)))
  · simp [intent]
  · simp [intent]

/-- The arguments of a parsed intent are a mapping. -/
theorem parse_arguments (s : String) : ∃ items, (parse text s).arguments = .dict items := by
  unfold parse
  refine mapping_ite ⟨_, rfl⟩ (mapping_ite ⟨_, rfl⟩ (mapping_ite ⟨_, rfl⟩ ?_))
  exact parseCommand_arguments text _ _

end DroidOs.Language.OfflineParser
