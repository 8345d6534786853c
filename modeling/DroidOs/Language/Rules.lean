/- GID: DroidOs/Language/Rules
   generality: I
   source: src/droidos/language/offline_parser.py
   digest: Which texts reach the rules for memory and motion, and what words the earlier rules hear. -/

import DroidOs.Lib.Matching
import DroidOs.Language.OfflineParser

set_option autoImplicit false
set_option relaxedAutoImplicit false

namespace DroidOs.Language.Rules

open DroidOs.Lib.Regex DroidOs.Lib.Regex.Pattern
open DroidOs.Core.Values
open Intent OfflineParser

variable (text : PyText)

/-- The words and phrases of the rules that search a text for nothing else. -/
def heardWords : List (List String) :=
  [silenceWords,
    ["shutdown", "shut down", "power off", "turn off"],
    ["reboot", "restart"],
    ["safe idle", "stand down", "return to idle", "safe mode"],
    ["battery", "charge level", "power level", "how much power", "how much charge"],
    ["temperature", "how hot", "motor temp", "too hot", "overheat"],
    ["what's wrong", "what is wrong", "whats wrong", "any faults", "any problems",
      "report active faults", "report faults", "diagnostic", "diagnostics", "health"],
    ["current task", "what are you doing", "report current task", "report task"],
    ["help", "what can you do", "commands"],
    describePattern,
    placesPattern,
    ["status", "how are you", "report status", "are you ok", "are you safe"]]

/-- Whether some rule before those for memory and motion takes the lower-cased text. -/
def captured (t : String) : Bool :=
  isEmergencyStop t || isStop text t || (hears text cancelPattern t && !containsText "don't" t) ||
    (mentions text ["why"] t && hears text whyNotPattern t) || containsText "where can you go" t ||
    heardWords.any fun words => mentions text words t

/-- The intents of those rules. -/
def commandIntents : List String :=
  ["motion.emergency_stop", "voice.silence", "motion.stop", "task.cancel", "system.shutdown",
    "system.request_reboot", "robot.return_safe_idle", "robot.get_battery", "robot.get_temperature",
    "diagnostics.summary", "robot.explain", "help", "perception.describe_scene",
    "navigation.list_places", "robot.get_status"]

variable {text} {s : String}

private theorem listed_ite {c : Prop} [Decidable c] {yes no : StructuredIntent} (name : String)
    (given : yes.intent = name) (listed : name ∈ commandIntents)
    (rest : ¬ c → no.intent ∈ commandIntents) : (if c then yes else no).intent ∈ commandIntents := by
  split
  case isTrue => rwa [given]
  case isFalse passed => exact rest passed

theorem parse_captured (taken : captured text (normalized text s) = true) :
    (parse text s).intent ∈ commandIntents := by
  unfold parse parseCommand
  refine listed_ite "motion.emergency_stop" rfl (by decide) fun emergency => ?_
  refine listed_ite "voice.silence" rfl (by decide) fun silence => ?_
  refine listed_ite "motion.stop" rfl (by decide) fun stop => ?_
  refine listed_ite "task.cancel" rfl (by decide) fun cancel => ?_
  refine listed_ite "system.shutdown" rfl (by decide) fun shutdown => ?_
  refine listed_ite "system.request_reboot" rfl (by decide) fun reboot => ?_
  refine listed_ite "robot.return_safe_idle" rfl (by decide) fun idle => ?_
  refine listed_ite "robot.get_battery" rfl (by decide) fun battery => ?_
  refine listed_ite "robot.get_temperature" rfl (by decide) fun temperature => ?_
  refine listed_ite "diagnostics.summary" rfl (by decide) fun wrong => ?_
  refine listed_ite "robot.explain" rfl (by decide) fun task => ?_
  refine listed_ite "robot.explain" rfl (by decide) fun why => ?_
  refine listed_ite "help" rfl (by decide) fun help => ?_
  refine listed_ite "perception.describe_scene" rfl (by decide) fun scene => ?_
  refine listed_ite "navigation.list_places" rfl (by decide) fun places => ?_
  refine listed_ite "robot.get_status" rfl (by decide) fun status => ?_
  simp only [Bool.not_eq_true] at *
  simp only [Bool.or_eq_false_iff] at places
  simp only [captured, heardWords, List.any_cons, List.any_nil, emergency, silence, stop, cancel, shutdown,
    reboot, idle, battery, temperature, wrong, task, why, help, scene, places, status, Bool.or_false,
    Bool.false_eq_true] at taken

/-- A text that no such rule takes is parsed by those for memory and motion. -/
theorem parse_request (free : captured text (normalized text s) = false) :
    parse text s = parseRequest text (text.strip s) (normalized text s) := by
  simp only [captured, heardWords, List.any_cons, List.any_nil, Bool.or_eq_false_iff] at free
  obtain ⟨⟨⟨⟨⟨emergency, stop⟩, cancel⟩, why⟩, places⟩, silence, shutdown, reboot, idle, battery,
    temperature, wrong, task, help, scene, places', status, -⟩ := free
  simp only [parse, parseCommand, emergency, silence, stop, cancel, shutdown, reboot, idle, battery,
    temperature, wrong, task, why, help, scene, places, places', status, Bool.or_false, Bool.false_eq_true,
    if_false]

/-! What each of the later rules gives. -/

/-- What a request asks for, by its intent and arguments. -/
def meaning (request : StructuredIntent) : String × PyVal := (request.intent, request.arguments)

/-- `re.search(…) and re.search(…)` of the rule for charging. -/
def asksCharge (text : PyText) (t : String) : Bool :=
  mentions text ["charge", "charging", "dock"] t && mentions text ["go", "return", "navigate", "to"] t

variable {raw t : String} {groups : List String}

theorem parseRequest_forget (found : start text forgetPattern t = some groups) :
    meaning (parseRequest text raw t) =
      ("memory.forget", .dict [(.str "query", .str (clean text (groupAt groups 0)))]) := by
  unfold parseRequest
  rw [found]
  rfl

section

variable (forget : start text forgetPattern t = none)
include forget

theorem parseRequest_remember (found : startIgnoringCase text rememberPattern raw = some groups) :
    meaning (parseRequest text raw t) =
      ("memory.remember", .dict [(.str "text", .str (rstrip " ." (text.strip (groupAt groups 0))))]) := by
  unfold parseRequest
  rw [forget, found]
  rfl

variable (remember : startIgnoringCase text rememberPattern raw = none)
include remember

theorem parseRequest_inspectThere (found : find text goAndInspect t = some groups) :
    meaning (parseRequest text raw t) = ("inspect.named_target",
      .dict [(.str "destination", .str (clean text (groupAt groups 0))),
        (.str "target", .str (clean text (groupAt groups 1)))]) := by
  unfold parseRequest
  rw [forget, remember, found]
  rfl

variable (there : find text goAndInspect t = none)
include there

theorem parseRequest_inspect (found : start text inspectPattern t = some groups) :
    meaning (parseRequest text raw t) =
      ("inspect.named_target", .dict [(.str "target", .str (clean text (groupAt groups 0)))]) := by
  unfold parseRequest
  rw [forget, remember, there, found]
  rfl

variable (inspect : start text inspectPattern t = none)
include inspect

theorem parseRequest_charge (asks : asksCharge text t = true) :
    meaning (parseRequest text raw t) = ("navigation.go_charge", .dict []) := by
  unfold asksCharge at asks
  unfold parseRequest
  rw [forget, remember, there, inspect]
  simp only [asks, if_true]
  rfl

variable (charge : asksCharge text t = false)
include charge

theorem parseRequest_stairs (climbs : hears text stairsPattern t = true) :
    meaning (parseRequest text raw t) =
      ("navigation.navigate_to", .dict [(.str "destination", .str "stairs")]) := by
  unfold asksCharge at charge
  unfold parseRequest
  rw [forget, remember, there, inspect]
  simp only [charge, climbs, Bool.false_eq_true, if_false, if_true]
  rfl

variable (stairs : hears text stairsPattern t = false)
include stairs

theorem parseRequest_navigate (found : start text navigatePattern t = some groups) :
    meaning (parseRequest text raw t) =
      ("navigation.navigate_to", .dict [(.str "destination", .str (clean text (groupAt groups 0)))]) := by
  unfold asksCharge at charge
  unfold parseRequest
  rw [forget, remember, there, inspect, found]
  simp only [charge, stairs, Bool.false_eq_true, if_false]
  rfl

theorem parseRequest_unknown (navigate : start text navigatePattern t = none) :
    meaning (parseRequest text raw t) = ("unknown", .dict [(.str "text", .str raw)]) := by
  unfold asksCharge at charge
  unfold parseRequest
  rw [forget, remember, there, inspect, navigate]
  simp only [charge, stairs, Bool.false_eq_true, if_false]
  rfl

end

/-- The intents of the rules behind those for memory. -/
def motionIntents : List String :=
  ["inspect.named_target", "navigation.go_charge", "navigation.navigate_to", "unknown"]

theorem parseRequest_motion (forget : start text forgetPattern t = none)
    (remember : startIgnoringCase text rememberPattern raw = none) :
    (meaning (parseRequest text raw t)).1 ∈ motionIntents := by
  rcases there : find text goAndInspect t with _ | groups
  case some => simp [parseRequest_inspectThere forget remember there, motionIntents]
  rcases inspect : start text inspectPattern t with _ | groups
  case some => simp [parseRequest_inspect forget remember there inspect, motionIntents]
  cases charge : asksCharge text t with
  | true => simp [parseRequest_charge forget remember there inspect charge, motionIntents]
  | false =>
    cases stairs : hears text stairsPattern t with
    | true => simp [parseRequest_stairs forget remember there inspect charge stairs, motionIntents]
    | false =>
      rcases navigate : start text navigatePattern t with _ | groups
      · simp [parseRequest_unknown forget remember there inspect charge stairs navigate, motionIntents]
      · simp [parseRequest_navigate forget remember there inspect charge stairs navigate, motionIntents]

/-- Only the rule for forgetting gives that intent. -/
theorem parseRequest_not_forget (passed : start text forgetPattern t = none) :
    (meaning (parseRequest text raw t)).1 ≠ "memory.forget" := by
  rcases remember : startIgnoringCase text rememberPattern raw with _ | groups
  · intro forgets
    have listed := parseRequest_motion passed remember
    rw [forgets] at listed
    exact absurd listed (by decide)
  · simp [parseRequest_remember passed remember]

/-- Only the rule for remembering gives that intent. -/
theorem parseRequest_remembers (remembers : (meaning (parseRequest text raw t)).1 = "memory.remember") :
    ∃ groups, startIgnoringCase text rememberPattern raw = some groups ∧ meaning (parseRequest text raw t) =
      ("memory.remember", .dict [(.str "text", .str (rstrip " ." (text.strip (groupAt groups 0))))]) := by
  rcases forget : start text forgetPattern t with _ | groups
  · rcases remember : startIgnoringCase text rememberPattern raw with _ | groups
    · have listed := parseRequest_motion forget remember
      rw [remembers] at listed
      exact absurd listed (by decide)
    · exact ⟨groups, rfl, parseRequest_remember forget remember⟩
  · rw [parseRequest_forget forget] at remembers
    have same : "memory.forget" = "memory.remember" := remembers
    exact absurd same (by decide)

theorem parse_forget (forgets : (parse text s).intent = "memory.forget") :
    ∃ groups, start text forgetPattern (normalized text s) = some groups ∧
      (parse text s).arguments = .dict [(.str "query", .str (clean text (groupAt groups 0)))] := by
  cases taken : captured text (normalized text s) with
  | true =>
    have listed := parse_captured taken
    rw [forgets] at listed
    exact absurd listed (by decide +kernel)
  | false =>
    have asked : (meaning (parse text s)).1 = "memory.forget" := forgets
    have given : (meaning (parse text s)).2 = (parse text s).arguments := rfl
    rw [← given]
    rw [parse_request taken] at asked ⊢
    rcases found : start text forgetPattern (normalized text s) with _ | groups
    · exact absurd asked (parseRequest_not_forget found)
    · exact ⟨groups, rfl, by rw [parseRequest_forget found]⟩

end DroidOs.Language.Rules
