/- GID: DroidOs/Language/Reply
   generality: I
   source: src/droidos/language/providers.py
   digest: What becomes of the text that a language model replies with. -/

import DroidOs.Language.Conversation
import DroidOs.Language.FirstObject

set_option autoImplicit false
set_option relaxedAutoImplicit false

namespace DroidOs.Language.Reply

open DroidOs.Lib.Json DroidOs.Lib.JsonLoads
open DroidOs.Core.Values DroidOs.Core.Context
open Intent OfflineParser Conversation FirstObject

/-! A decoded document as a dynamic value. -/

/-- The characters of a text. A surrogate that stands alone is shown as the replacement character, which
no key and no name has. -/
def shown (t : Text) : String :=
  String.ofList (t.map fun
    | .char c => c
    | .surrogate _ => '\uFFFD')

mutual

def toPy : Value PyVal → PyVal
  | .null => .none
  | .bool b => .bool b
  | .num x => x
  | .str s => .str (shown s)
  | .arr items => .list (toPyItems items)
  | .obj members => .dict (toPyMembers members)

def toPyItems : List (Value PyVal) → List PyVal
  | [] => []
  | v :: rest => toPy v :: toPyItems rest

def toPyMembers : List (Text × Value PyVal) → Items
  | [] => []
  | (key, v) :: rest => (.str (shown key), toPy v) :: toPyMembers rest

end

/-! The source's functions. `number` converts a literal, unless it has more digits than `int` takes. -/

variable (text : PyText) (number : Text → Option PyVal)

/-- `_first_json_object`. -/
def firstObject (content : Text) : Except Exn (Option PyVal) :=
  match firstJsonObject number content with
  | .ok found => .ok (found.map toPy)
  | .error _ => .error ⟨.valueError, "Exceeds the limit (4300 digits) for integer string conversion"⟩

/-- The deterministic parse that stands in for bad output. -/
def fallback (raw : String) : StructuredIntent := { parse text raw with source := "llm-fallback" }

/-- `v in allowed`, with the name that it is. -/
def allowedName (allowed : List String) : PyVal → Option String
  | .str name => if name ∈ allowed then some name else none
  | _ => none

/-- `_parse_intent`. -/
def parseIntent (content : Text) (raw : String) (allowed : List String) : Except Exn StructuredIntent := do
  match ← firstObject number content with
  | none => return fallback text raw
  | some obj =>
    if !obj.truthy then return fallback text raw
    match allowedName allowed (← obj.get "intent" .none) with
    | none => return fallback text raw
    | some name =>
      let arguments ← obj.get "arguments" (.dict [])
      let moves ← obj.get "requires_motion" (.bool false)
      let speed ← obj.get "requested_speed" (.str "normal")
      let confidence ← text.float (← obj.get "confidence" (.float (.fin (9 / 10))))
      return {
        intent := name, arguments := arguments.orElse (.dict []), requiresMotion := moves.truthy
        requestedSpeed := speed, rawText := raw, source := "llm", confidence := confidence }

/-- The names in the catalog that the model is given. -/
def allowedNames : List String := defaultTools.map ToolSpec.name

/-- A model server that can be reached and replies with this content. -/
def replying (name : String) (content : Text) : Provider where
  name := name
  available := .ok true
  generate := fun s => parseIntent text number content s allowedNames

/-! What a reply proposes. -/

/-- The registered action that an object names, with the object's items. -/
def proposal : Option PyVal → Option (String × Items)
  | some (.dict obj) => (allowedName allowedNames ((PyVal.lookup "intent" obj).getD .none)).map fun name => (name, obj)
  | _ => none

/-- The proposed arguments, an empty mapping for what is not true. -/
def proposedArguments (obj : Items) : PyVal := ((PyVal.lookup "arguments" obj).getD (.dict [])).orElse (.dict [])

/-- How sure the model says it is. -/
def saidConfidence (obj : Items) : PyVal := (PyVal.lookup "confidence" obj).getD (.float (.fin (9 / 10)))

/-- The intent made of a proposal. -/
def proposedIntent (name : String) (obj : Items) (raw : String) (confidence : PyFloat) : StructuredIntent where
  intent := name
  arguments := proposedArguments obj
  requiresMotion := ((PyVal.lookup "requires_motion" obj).getD (.bool false)).truthy
  requestedSpeed := (PyVal.lookup "requested_speed" obj).getD (.str "normal")
  rawText := raw
  source := "llm"
  confidence := confidence

variable {text number} {content : Text} {raw : String}

theorem fallback_arguments (raw : String) : ∃ items, (fallback text raw).arguments = .dict items := by
  unfold fallback
  exact parse_arguments text raw

/-- A proposal is for a registered action. -/
theorem proposal_registered {found : Option PyVal} {name : String} {obj : Items}
    (proposes : proposal found = some (name, obj)) : ∃ tool, getTool name = some tool := by
  have listed : name ∈ allowedNames := by
    cases found with
    | none => cases proposes
    | some v =>
      cases v with
      | dict items =>
        obtain ⟨name', named, same⟩ := Option.map_eq_some_iff.mp proposes
        cases same
        unfold allowedName at named
        split at named
        · split at named
          case isTrue listed =>
            obtain rfl := Option.some.inj named
            exact listed
          case isFalse => cases named
        · cases named
      | _ => cases proposes
  obtain ⟨tool, member, named⟩ := List.mem_map.mp listed
  unfold getTool
  exact Option.isSome_iff_exists.mp (List.find?_isSome.mpr ⟨tool, member, by simpa using named⟩)

/-- What is found in a reply is an object. -/
theorem firstObject_dict {v : PyVal} (found : firstObject number content = .ok (some v)) : ∃ obj, v = .dict obj := by
  unfold firstObject at found
  split at found
  case h_1 first read =>
    obtain ⟨w, rfl, rfl⟩ := Option.map_eq_some_iff.mp (Except.ok.inj found)
    obtain ⟨-, r, -, -, -, loaded⟩ := firstJsonObject_some read
    obtain ⟨members, rfl⟩ := loads_members loaded
    exact ⟨toPyMembers members, by rw [toPy]⟩
  case h_2 => cases found

theorem parseIntent_unread {e : Exn} (unread : firstObject number content = .error e) (allowed : List String) :
    parseIntent text number content raw allowed = .error e := by
  rw [parseIntent, unread]
  rfl

private theorem except_ok_bind {α β : Type} (a : α) (f : α → Except Exn β) : (Except.ok a >>= f) = f a := rfl

/-- Without a proposal the text is parsed without the model. -/
theorem parseIntent_fallback {found : Option PyVal} (read : firstObject number content = .ok found)
    (none_ : proposal found = none) : parseIntent text number content raw allowedNames = .ok (fallback text raw) := by
  rw [parseIntent, read, except_ok_bind]
  cases found with
  | none => rfl
  | some v =>
    obtain ⟨obj, rfl⟩ := firstObject_dict read
    have other : allowedName allowedNames ((PyVal.lookup "intent" obj).getD .none) = none :=
      Option.map_eq_none_iff.mp none_
    dsimp only
    split
    · rfl
    · rw [PyVal.get, except_ok_bind, other]
      rfl

/-- A proposal becomes an intent if the confidence is a number. -/
theorem parseIntent_proposal {found : Option PyVal} {name : String} {obj : Items}
    (read : firstObject number content = .ok found) (proposes : proposal found = some (name, obj)) :
    parseIntent text number content raw allowedNames =
      (text.float (saidConfidence obj)).map (proposedIntent name obj raw) := by
  rw [parseIntent, read, except_ok_bind]
  cases found with
  | none => cases proposes
  | some v =>
    obtain ⟨items, rfl⟩ := firstObject_dict read
    obtain ⟨name', named, same⟩ := Option.map_eq_some_iff.mp proposes
    cases same
    have some_items : (PyVal.dict obj).truthy = true := by
      cases obj with
      | nil => cases named
      | cons item rest => rfl
    dsimp only
    rw [some_items, if_neg (by simp), PyVal.get, except_ok_bind, named]
    simp only [PyVal.get, except_ok_bind]
    change (text.float (saidConfidence obj) >>= _) = _
    rcases text.float (saidConfidence obj) with e | confidence
    · rfl
    · rfl

/-! The reply in the chain of providers. -/

/-- The chain goes on to the next provider: this one is not available, or fails as a provider does. -/
def PassedOver (q : Provider) (s : String) : Prop :=
  q.available = .ok false ∨ (∃ e, q.available = .error e ∧ e.cls = .providerError) ∨
    q.available = .ok true ∧ ∃ e, q.generate s = .error e ∧ e.cls = .providerError

private theorem float_error {v : PyVal} {e : Exn} (raised : text.float v = .error e) : e.cls ≠ .providerError := by
  cases v with
  | bool b => cases raised
  | float x => cases raised
  | int n =>
    simp only [PyText.float] at raised
    split at raised
    · cases raised
    · obtain rfl := Except.error.inj raised
      simp
  | str s =>
    simp only [PyText.float] at raised
    split at raised
    · cases raised
    · obtain rfl := Except.error.inj raised
      simp
  | none | list items | dict items =>
    obtain rfl := Except.error.inj raised
    simp

/-- No reply makes the chain go on. -/
private theorem parseIntent_error {e : Exn} (raised : parseIntent text number content raw allowedNames = .error e) :
    e.cls ≠ .providerError := by
  rcases read : firstObject number content with e' | found
  · rw [parseIntent_unread read] at raised
    obtain rfl := Except.error.inj raised
    unfold firstObject at read
    split at read
    · cases read
    · obtain rfl := Except.error.inj read
      decide
  rcases proposes : proposal found with _ | ⟨name, obj⟩
  · rw [parseIntent_fallback read proposes] at raised
    cases raised
  · rw [parseIntent_proposal read proposes] at raised
    rcases said : text.float (saidConfidence obj) with e' | confidence
    · rw [said] at raised
      obtain rfl := Except.error.inj raised
      exact float_error said
    · rw [said] at raised
      cases raised

/-- Behind providers that are passed over, the reply decides. -/
theorem generate_replied {name : String} {before : List Provider} (passed : ∀ q ∈ before, PassedOver q raw)
    (rest : List Provider) : generate text raw (before ++ replying text number name content :: rest) =
      parseIntent text number content raw allowedNames := by
  induction before with
  | nil =>
    rw [List.nil_append, generate]
    have answer : (do if ← (replying text number name content).available then
        some <$> (replying text number name content).generate raw else .ok none) =
          some <$> parseIntent text number content raw allowedNames := rfl
    rw [answer]
    rcases parsed : parseIntent text number content raw allowedNames with e | intent
    · exact if_neg (parseIntent_error parsed)
    · rfl
  | cons q before ih =>
    have later := ih fun q' inside => passed q' (List.mem_cons_of_mem q inside)
    rw [List.cons_append, generate]
    rcases passed q List.mem_cons_self with absent | ⟨e, absent, fails⟩ | ⟨present, e, raised, fails⟩
    · rw [absent]
      exact later
    · rw [absent]
      exact (if_pos fails).trans later
    · rw [present]
      dsimp only [bind, Except.bind]
      rw [if_pos rfl, raised]
      exact (if_pos fails).trans later

/-- The chain ends with an offline provider, which a reply leaves no work. -/
theorem generate_chain {name : String} {before : List Provider} (passed : ∀ q ∈ before, PassedOver q raw)
    (rest : List Provider) :
    generate text raw (providerChain text (before ++ replying text number name content :: rest)) =
      parseIntent text number content raw allowedNames := by
  unfold providerChain
  split
  · exact generate_replied passed rest
  · rw [List.append_assoc, List.cons_append]
    exact generate_replied passed _

end DroidOs.Language.Reply
