/- GID: DroidOs/System/StopPhrases
   generality: I
   source: src/droidos/services/voice.py, src/droidos/language/offline_parser.py
   digest: Which texts are an emergency stop when said, when typed, and both ways. -/

import DroidOs.Core.Words
import DroidOs.Language.Utterance
import DroidOs.System.Boot
import DroidOs.System.Simulated

set_option autoImplicit false
set_option relaxedAutoImplicit false

namespace DroidOs.System.StopPhrases

open DroidOs.Lib.Interleaving DroidOs.Lib.Regex
open DroidOs.Core.Values DroidOs.Core.Context
open DroidOs.Backends.Simulation DroidOs.Services.Supervisor
open DroidOs.Language.OfflineParser DroidOs.Language.Conversation DroidOs.Language.Utterance
open Pattern Registration Boot Simulated

/-- The phrases that `_EMERGENCY` listens for. -/
def phrases : List String := ["emergency stop", "e-stop", "estop", "kill power", "kill it"]

/-- The texts that the parser takes whole. -/
def wholeTexts : List String := ["e-stop", "estop", "kill power"]

/-- The text contains the words "emergency stop", be it within longer words. -/
def Contains (t : String) : Prop := "emergency stop".toList <:+: t.toList

/-- An emergency phrase stands in the text, with no word character next to it. -/
def Stands (text : PyText) (t : String) : Prop :=
  ∃ phrase ∈ phrases, StandsIn text.isWord phrase.toList t.toList

/-- Where "emergency stop" is contained an emergency phrase stands, and elsewhere an
emergency phrase stands only if it is one of the whole texts. -/
def Unmistakable (text : PyText) (t : String) : Prop :=
  (Contains t → Stands text t) ∧ (¬ Contains t → Stands text t → t ∈ wholeTexts)

/-! What each side hears. -/

private theorem spells_phrases (isWord : Char → Bool) : ∃ (spoken : Pattern) (texts : Language Char),
    emergencyStopPattern = sequence [.boundary, spoken, .boundary] ∧ Spells isWord spoken texts ∧
      ∀ w, w ∈ texts ↔ w ∈ phrases.map String.toList := by
  have hyphen : Spells isWord (optional (.char '-')) ({['-']} + 1) := spells_optional (spells_char '-')
  have first : Spells isWord (.char 'e') {['e']} := spells_char 'e'
  have short := first.seq (hyphen.seq ((spells_literal "stop").seq spells_empty))
  refine ⟨_, _, rfl, (spells_literal "emergency stop").alt
    (short.alt ((spells_literal "kill power").alt (spells_literal "kill it"))), fun w => ?_⟩
  simp only [Language.mem_add, Language.mem_mul, mul_one]
  constructor
  · rintro (rfl | ⟨_, rfl, _, ⟨hyphen, rfl | rfl, _, rfl, rfl⟩, rfl⟩ | rfl | rfl)
    all_goals simp [phrases]
  · intro listed
    simp only [phrases, List.map_cons, List.map_nil, List.mem_cons, List.not_mem_nil, or_false] at listed
    rcases listed with rfl | rfl | rfl | rfl | rfl
    · exact .inl rfl
    · exact .inr (.inl ⟨['e'], rfl, "-stop".toList, ⟨['-'], .inl rfl, "stop".toList, rfl, rfl⟩, rfl⟩)
    · exact .inr (.inl ⟨['e'], rfl, "stop".toList, ⟨[], .inr rfl, "stop".toList, rfl, rfl⟩, rfl⟩)
    · exact .inr (.inr (.inl rfl))
    · exact .inr (.inr (.inr rfl))

variable {text : PyText}

/-- Letters are word characters. -/
def Literate (text : PyText) : Prop := ∀ c : Char, c.isAlpha = true → text.isWord c = true

private theorem phrases_ends (letters : Literate text) {w : List Char} (listed : w ∈ phrases.map String.toList) :
    wordChar text.isWord w.head? = true ∧ wordChar text.isWord w.getLast? = true := by
  simp only [phrases, List.map_cons, List.map_nil, List.mem_cons, List.not_mem_nil, or_false] at listed
  rcases listed with rfl | rfl | rfl | rfl | rfl
  all_goals exact ⟨letters _ (by decide), letters _ (by decide)⟩

/-- The voice hears the phrases that stand in the text. -/
theorem hears_iff (letters : Literate text) (t : String) :
    hears text emergencyStopPattern t = true ↔ Stands text t := by
  obtain ⟨spoken, texts, pattern, spells, listed⟩ := spells_phrases text.isWord
  have bounded := @search_bounded text.isWord spoken texts spells
    (fun w inside => (phrases_ends letters ((listed w).mp inside)).1)
    (fun w inside => (phrases_ends letters ((listed w).mp inside)).2) t
  rw [hears, find, pattern, bounded]
  simp only [listed, Stands]
  constructor
  · rintro ⟨w, inside, stands⟩
    obtain ⟨phrase, listed, rfl⟩ := List.mem_map.mp inside
    exact ⟨phrase, listed, stands⟩
  · rintro ⟨phrase, listed, stands⟩
    exact ⟨phrase.toList, List.mem_map.mpr ⟨phrase, listed, rfl⟩, stands⟩

private theorem stands_whole {t : String} (whole : t ∈ wholeTexts) : Stands text t := by
  have listed : t ∈ phrases := by
    simp only [wholeTexts, List.mem_cons, List.not_mem_nil, or_false] at whole
    rcases whole with rfl | rfl | rfl
    all_goals decide
  exact ⟨t, listed, [], [], by simp, rfl, rfl⟩

/-- The parser takes the texts that contain "emergency stop" and the whole texts. -/
theorem isEmergencyStop_iff (t : String) : isEmergencyStop t = true ↔ Contains t ∨ t ∈ wholeTexts := by
  have contains : containsText "emergency stop" t = true ↔ Contains t := PyText.containsText_iff _ t
  rw [isEmergencyStop, Bool.or_eq_true, contains, decide_eq_true_eq, wholeTexts]

private theorem detects_iff (letters : Literate text) (s : String) :
    detectEmergency text s = some .emergencyStop ↔ Stands text (text.normalize (text.lower s)) := by
  rw [← hears_iff letters, detectEmergency]
  by_cases heard : hears text emergencyStopPattern (text.normalize (text.lower s)) = true
  · simp [heard]
  · simp only [heard, Bool.false_eq_true, if_false, iff_false]
    split <;> simp

/-- Blanks around a text do not matter: a lower-cased text keeps them. -/
def KeepsBlanks (text : PyText) : Prop := ∀ s, text.lower (text.strip s) = text.strip (text.lower s)

/-- Said and typed, a text is an emergency stop for both or for neither exactly if it is
unmistakable. -/
theorem agree_iff (letters : Literate text) (blanks : KeepsBlanks text) (s : String) :
    (detectEmergency text s = some .emergencyStop ↔ (parse text s).intent = "motion.emergency_stop") ↔
      Unmistakable text (normalized text s) := by
  have same : text.normalize (text.lower s) = normalized text s := by
    rw [normalized, blanks, PyText.normalize, PyText.normalize, text.split_strip]
  rw [detects_iff letters, same, parse_emergencyStop, isEmergencyStop_iff]
  constructor
  · intro agree
    exact ⟨fun contained => agree.mpr (.inl contained),
      fun not_contained stands => (agree.mp stands).resolve_left not_contained⟩
  · rintro ⟨contained, not_contained⟩
    constructor
    · intro stands
      by_cases inside : Contains (normalized text s)
      · exact .inl inside
      · exact .inr (not_contained inside stands)
    · rintro (inside | whole)
      · exact contained inside
      · exact stands_whole whole

theorem agree_iff_estop : (detectEmergency .ascii " E-Stop " = some .emergencyStop ↔
      (parse .ascii " E-Stop ").intent = "motion.emergency_stop") ↔
    Unmistakable .ascii (normalized .ascii " E-Stop ") :=
  agree_iff (fun c alpha => by simp [PyText.ascii, Char.isAlphanum, alpha]) PyText.ascii_lower_strip " E-Stop "

/-- The brain of a droid in its room. -/
def roomBrain : Brain (SimWorld Unit) :=
  booted (simulated hallwayDroid) (newRuntime 0 .missing { backend := .new wheeled, store := () })

def roomVoice : Voice where
  language := { authorizer := { users := [] }, providers := [], refuse := id, render := fun _ => .ok "" }
  engine := fun _ => none
  wakeNames := ["r2"]

/-- Said, "estop now" latches the emergency stop; typed, it is not understood. -/
theorem said_not_typed :
    detectEmergency .ascii "estop now" = some .emergencyStop ∧
    (parse .ascii "estop now").intent = "unknown" ∧
    ((handleUtterance (simulated hallwayDroid) (droidServices (simulated hallwayDroid)) roomVoice
      "estop now" none).run roomBrain).2.rt.controller.estop = true ∧
    ((process (simulated hallwayDroid) (droidServices (simulated hallwayDroid)) roomVoice.language
      { text := "estop now" }).run roomBrain).2.rt.controller.estop = false := by
  decide +kernel

/-- Typed, it is an emergency stop; said, it only stops the droid. -/
example : detectEmergency .ascii "non-emergency stops" = none ∧
    (parse .ascii "non-emergency stops").intent = "motion.emergency_stop" := by decide +kernel

end DroidOs.System.StopPhrases
