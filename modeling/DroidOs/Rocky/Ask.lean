/- GID: DroidOs/Rocky/Ask
   generality: I
   source: rocky/rockyctl
   digest: What becomes of the text that a language model replies with to `rockyctl ask`. -/

import DroidOs.Language.Reply
import DroidOs.Lib.JsonAppend
import DroidOs.Rocky.Pipeline

set_option autoImplicit false
set_option relaxedAutoImplicit false

namespace DroidOs.Rocky.Ask

open DroidOs.Lib.Procedure
open DroidOs.Lib.Json DroidOs.Lib.JsonLoads DroidOs.Lib.JsonAppend
open DroidOs.Core.Values
open DroidOs.Language.Reply (toPy)
open Policy Executor Audit

/-! The source's functions. `number` converts a literal, unless it has more digits than `int` takes. -/

/-- `reply.find(c)`. -/
def find (c : Char) (reply : Text) : Option ℕ := reply.findIdx? (· == .char c)

/-- `reply.rfind(c)`. -/
def rfind (c : Char) (reply : Text) : Option ℕ :=
  (reply.reverse.findIdx? (· == .char c)).map fun k => reply.length - 1 - k

/-- The decoded document is a typed action. -/
def isAction : PyVal → Bool
  | .dict items => ((PyVal.lookup "type" items).getD .none).isKey "action"
  | _ => false

/-- What is made of the decoded text. -/
def judged : Except Refusal (Value PyVal) → Except Exn (Option PyVal)
  | .ok v => .ok (if isAction (toPy v) then some (toPy v) else none)
  | .error .malformed => .ok none
  | .error _ => .error ⟨.valueError, "Exceeds the limit (4300 digits) for integer string conversion"⟩

variable (number : Text → Option PyVal)

/-- `_extract_action`. Only a `JSONDecodeError` makes a plain answer of the reply. -/
def extractAction (reply : Text) : Except Exn (Option PyVal) :=
  match find '\x7b' reply, rfind '\x7d' reply with
  | some start, some stop =>
    if stop ≤ start then .ok none else judged (loads number ((reply.drop start).take (stop + 1 - start)))
  | _, _ => .ok none

/-- How `cmd_ask` ends once a server has been found. -/
inductive Asked
  | unanswered
  | plain (reply : Text)
  | handled (reply : Audit.Reply)

variable {σ : Type} (text : PyText) (hex : Nat → String)

/-- The entry that `cmd_ask` makes in the log. -/
def noteAsk (url model request : String) : Proc (Desk σ) Exn Unit :=
  log hex "ask" "user" request [(.str "llm", .str url), (.str "model", .str model)]

/-- `cmd_ask`. `reply` is what the server replies with, if it does. -/
def ask (config : Config) (machine : Machine σ) (url model request : String) (reply : Option Text)
    (assumeYes : Bool) : Proc (Desk σ) Exn Asked := do
  noteAsk hex url model request
  match reply with
  | none => return .unanswered
  | some reply =>
    match ← ofExcept (extractAction number reply) with
    | none => return .plain reply
    | some action => return .handled (← handleAction text hex config machine assumeYes action)

/-! What a reply proposes. -/

/-- A text in braces. -/
abbrev braced (body : Text) : Text := .char '\x7b' :: body ++ [.char '\x7d']

/-- From the first opening brace to the last closing one, the reply is the text of this action. -/
def Proposes (reply : Text) (v : Value PyVal) : Prop :=
  ∃ before body after, reply = before ++ braced body ++ after ∧
    .char '\x7b' ∉ before ∧ .char '\x7d' ∉ after ∧
    loads number (braced body) = .ok v ∧ isAction (toPy v) = true

variable {number} {reply before body after : Text}

private theorem findIdx_first {c : Code} (absent : c ∉ before) (after : Text) :
    (before ++ c :: after).findIdx? (· == c) = some before.length := by
  induction before with
  | nil => rw [List.nil_append, List.findIdx?_cons, if_pos (beq_self_eq_true c), List.length_nil]
  | cons d before ih =>
    have other : (d == c) = false := by
      rw [beq_eq_false_iff_ne]
      rintro rfl
      exact absent List.mem_cons_self
    rw [List.cons_append, List.findIdx?_cons, if_neg (by rw [other]; exact Bool.false_ne_true),
      ih fun inside => absent (List.mem_cons_of_mem d inside)]
    rfl

theorem find_first {c : Char} (absent : .char c ∉ before) (after : Text) :
    find c (before ++ .char c :: after) = some before.length := findIdx_first absent after

theorem rfind_last {c : Char} (before : Text) (absent : .char c ∉ after) :
    rfind c (before ++ .char c :: after) = some before.length := by
  have turned : (before ++ .char c :: after).reverse = after.reverse ++ .char c :: before.reverse := by
    rw [List.reverse_append, List.reverse_cons, List.append_assoc, List.singleton_append]
  rw [rfind, turned, findIdx_first (by simpa using absent), Option.map_some, List.length_append,
    List.length_cons, List.length_reverse]
  exact congrArg some (by omega)

theorem find_none {c : Char} (absent : .char c ∉ reply) : find c reply = none := by
  refine List.findIdx?_eq_none_iff.mpr fun d inside => beq_eq_false_iff_ne.mpr ?_
  rintro rfl
  exact absent inside

theorem rfind_none {c : Char} (absent : .char c ∉ reply) : rfind c reply = none :=
  Option.map_eq_none_iff.mpr (find_none (by simpa using absent))

private theorem split_last {c : Code} (inside : c ∈ reply) : ∃ before after, reply = before ++ c :: after ∧ c ∉ after := by
  obtain ⟨after, before, turned, absent⟩ := List.eq_append_cons_of_mem (List.mem_reverse.mpr inside)
  refine ⟨before.reverse, after.reverse, ?_, by simpa using absent⟩
  rw [← reply.reverse_reverse, turned, List.reverse_append, List.reverse_cons, List.append_assoc, List.singleton_append]

private theorem first_unique {c : Char} {front front' back back' : Text}
    (same : front ++ .char c :: back = front' ++ .char c :: back') (absent : .char c ∉ front)
    (absent' : .char c ∉ front') : front = front' ∧ back = back' := by
  have places := congrArg (find c) same
  rw [find_first absent, find_first absent'] at places
  obtain ⟨rfl, rest⟩ := List.append_inj same (Option.some.inj places)
  exact ⟨rfl, (List.cons.inj rest).2⟩

private theorem last_unique {c : Char} {front front' back back' : Text}
    (same : front ++ .char c :: back = front' ++ .char c :: back') (absent : .char c ∉ back)
    (absent' : .char c ∉ back') : front = front' ∧ back = back' := by
  have places := congrArg (rfind c) same
  rw [rfind_last front absent, rfind_last front' absent'] at places
  obtain ⟨rfl, rest⟩ := List.append_inj same (Option.some.inj places)
  exact ⟨rfl, (List.cons.inj rest).2⟩

/-- The text from the first opening brace to the last closing one is decoded. -/
theorem extractAction_span (no_opening : .char '\x7b' ∉ before) (no_closing : .char '\x7d' ∉ after) :
    extractAction number (before ++ braced body ++ after) =
      judged (loads number (braced body)) := by
  have first : before ++ braced body ++ after =
      before ++ .char '\x7b' :: (body ++ .char '\x7d' :: after) := by simp
  have last : before ++ braced body ++ after =
      (before ++ .char '\x7b' :: body) ++ .char '\x7d' :: after := by simp
  have found : find '\x7b' (before ++ braced body ++ after) = some before.length := by
    rw [first, find_first no_opening]
  have found_last : rfind '\x7d' (before ++ braced body ++ after) =
      some (before.length + 1 + body.length) := by
    rw [last, rfind_last _ no_closing, List.length_append, List.length_cons]
    exact congrArg some (by omega)
  have slice : ((before ++ braced body ++ after).drop before.length).take
      (before.length + 1 + body.length + 1 - before.length) = braced body := by
    have size : before.length + 1 + body.length + 1 - before.length =
        (braced body).length := by
      simp only [List.length_append, List.length_cons, List.length_nil]
      omega
    rw [List.append_assoc, List.drop_left, size, List.take_left]
  unfold extractAction
  rw [found, found_last]
  dsimp only
  rw [if_neg (by omega), slice]

/-- A reply without an opening brace that a closing one follows is a plain answer. -/
theorem extractAction_cases (number : Text → Option PyVal) (reply : Text) :
    (∃ before body after, reply = before ++ braced body ++ after ∧
      .char '\x7b' ∉ before ∧ .char '\x7d' ∉ after) ∨ extractAction number reply = .ok none := by
  by_cases opens : .char '\x7b' ∈ reply
  · obtain ⟨before, rest, rfl, no_opening⟩ := List.eq_append_cons_of_mem opens
    by_cases closes : .char '\x7d' ∈ rest
    · left
      obtain ⟨body, after, rfl, no_closing⟩ := split_last closes
      exact ⟨before, body, after, by simp, no_opening, no_closing⟩
    right
    unfold extractAction
    rw [find_first no_opening]
    by_cases earlier : .char '\x7d' ∈ before
    · obtain ⟨front, back, rfl, no_closing⟩ := split_last earlier
      have whole : (front ++ .char '\x7d' :: back) ++ .char '\x7b' :: rest =
          front ++ .char '\x7d' :: (back ++ .char '\x7b' :: rest) := by simp
      have none_later : .char '\x7d' ∉ back ++ .char '\x7b' :: rest := by
        simp only [List.mem_append, List.mem_cons, not_or]
        exact ⟨no_closing, by decide, closes⟩
      rw [whole, rfind_last front none_later]
      dsimp only
      rw [if_pos (by rw [List.length_append]; omega)]
    · have none_there : .char '\x7d' ∉ before ++ .char '\x7b' :: rest := by
        simp only [List.mem_append, List.mem_cons, not_or]
        exact ⟨earlier, by decide, closes⟩
      rw [rfind_none none_there]
  · right
    unfold extractAction
    rw [find_none opens]

/-- An action is extracted from a reply just when the reply proposes it. -/
theorem extractAction_iff {action : PyVal} :
    extractAction number reply = .ok (some action) ↔ ∃ v, Proposes number reply v ∧ action = toPy v := by
  constructor
  · intro extracts
    rcases extractAction_cases number reply with ⟨before, body, after, rfl, no_opening, no_closing⟩ | plain
    · rw [extractAction_span no_opening no_closing] at extracts
      cases decoded : loads number (braced body) with
      | ok v =>
        rw [decoded, judged] at extracts
        split_ifs at extracts with typed
        · cases extracts
          exact ⟨v, ⟨before, body, after, rfl, no_opening, no_closing, decoded, typed⟩, rfl⟩
        · cases extracts
      | error e =>
        rw [decoded] at extracts
        cases e <;> cases extracts
    · rw [plain] at extracts
      cases extracts
  · rintro ⟨v, ⟨before, body, after, rfl, no_opening, no_closing, decoded, typed⟩, rfl⟩
    rw [extractAction_span no_opening no_closing, decoded, judged, if_pos typed]

/-- Behind text without an opening brace an action is proposed just when no closing brace follows it. -/
theorem proposes_followed {v w : Value PyVal} (no_opening : .char '\x7b' ∉ before)
    (decoded : loads number (braced body) = .ok v) :
    Proposes number (before ++ braced body ++ after) w ↔
      isAction (toPy v) = true ∧ .char '\x7d' ∉ after ∧ w = v := by
  constructor
  · rintro ⟨before', body', after', whole, no_opening', no_closing', decoded', typed⟩
    have opened : before ++ .char '\x7b' :: (body ++ .char '\x7d' :: after) =
        before' ++ .char '\x7b' :: (body' ++ .char '\x7d' :: after') := by simpa using whole
    obtain ⟨rfl, closed⟩ := first_unique opened no_opening no_opening'
    by_cases closes : .char '\x7d' ∈ after
    · exfalso
      obtain ⟨middle, last, rfl, no_closing⟩ := split_last closes
      have longer : (body ++ .char '\x7d' :: middle) ++ .char '\x7d' :: last = body' ++ .char '\x7d' :: after' := by
        simpa using closed
      obtain ⟨rfl, rfl⟩ := last_unique longer no_closing no_closing'
      -- the object ends where its own brace is, and the last brace of the reply is no blank
      have visible : skipBlanks (middle ++ [.char '\x7d']) ≠ [] := by
        intro blank
        have last_blank := List.dropWhile_eq_nil_iff.mp blank (.char '\x7d') (by simp)
        exact absurd last_blank (by decide)
      have followed : loads number (.char '\x7b' :: (body ++ [.char '\x7d']) ++ (middle ++ [.char '\x7d'])) =
          if skipBlanks (middle ++ [.char '\x7d']) = [] then .ok v else .error .malformed :=
        loads_followed decoded _
      rw [if_neg visible] at followed
      have same_text : braced (body ++ .char '\x7d' :: middle) =
          .char '\x7b' :: (body ++ [.char '\x7d']) ++ (middle ++ [.char '\x7d']) := by simp
      rw [same_text, followed] at decoded'
      cases decoded'
    · obtain ⟨rfl, rfl⟩ := last_unique closed closes no_closing'
      rw [decoded] at decoded'
      cases decoded'
      exact ⟨typed, closes, rfl⟩
  · rintro ⟨typed, no_closing, rfl⟩
    exact ⟨before, body, after, rfl, no_opening, no_closing, decoded, typed⟩

/-! The command. -/

variable {text hex} {config : Config} {machine : Machine σ} {url model request : String} {assumeYes : Bool}

/-- A call that handles an action, as the end of `cmd_ask`. -/
def handled (call : Except Exn Audit.Reply × Desk σ) : Except Exn Asked × Desk σ := (call.1.map .handled, call.2)

/-- The desk with the entry of `cmd_ask`. -/
def noted (hex : Nat → String) (url model request : String) (s : Desk σ) : Desk σ := (noteAsk hex url model request s).2

theorem ask_reply (s : Desk σ) : ask number text hex config machine url model request (some reply) assumeYes s =
    match extractAction number reply with
    | .error e => (.error e, noted hex url model request s)
    | .ok none => (.ok (.plain reply), noted hex url model request s)
    | .ok (some action) =>
      handled (handleAction text hex config machine assumeYes action (noted hex url model request s)) := by
  have logged : noteAsk hex url model request s = (.ok (), noted hex url model request s) := rfl
  unfold ask
  rw [bind_ok logged]
  dsimp only
  rw [bind_run, ofExcept_run]
  rcases extractAction number reply with e | _ | action
  · rfl
  · rfl
  · dsimp only
    rw [bind_run]
    unfold handled
    rcases handleAction text hex config machine assumeYes action (noted hex url model request s) with ⟨e | r, t⟩
    · rfl
    · rfl

/-- A reply that proposes an action, as the text from its first opening to its last closing brace, does what
the proposal of that action does, and any other reply does nothing. The text of an object proposes its
action whatever stands around it, as long as no brace opens before it and none closes behind it. -/
theorem ask_relays (reply : Text) (s : Desk σ) :
    let asked := ask number text hex config machine url model request (some reply) assumeYes s
    (∀ v, Proposes number reply v → asked =
      handled (handleAction text hex config machine assumeYes (toPy v) (noted hex url model request s))) ∧
    ((∀ v, ¬ Proposes number reply v) →
      asked.2 = noted hex url model request s ∧ ∀ r, asked.1 ≠ .ok (.handled r)) ∧
    ∀ before body after v, reply = before ++ braced body ++ after → .char '\x7b' ∉ before →
      loads number (braced body) = .ok v → ∀ w, Proposes number reply w ↔
        isAction (toPy v) = true ∧ .char '\x7d' ∉ after ∧ w = v := by
  intro asked
  refine ⟨fun v proposes => ?_, fun proposes_none => ?_, ?_⟩
  · change ask _ _ _ _ _ _ _ _ _ _ _ = _
    rw [ask_reply, extractAction_iff.mpr ⟨v, proposes, rfl⟩]
  · change (ask _ _ _ _ _ _ _ _ _ _ _).2 = _ ∧ ∀ r, (ask _ _ _ _ _ _ _ _ _ _ _).1 ≠ _
    rw [ask_reply]
    rcases extracts : extractAction number reply with e | _ | action
    · exact ⟨rfl, fun r same => by cases same⟩
    · exact ⟨rfl, fun r same => by cases same⟩
    · obtain ⟨v, proposes, -⟩ := extractAction_iff.mp extracts
      exact absurd proposes (proposes_none v)
  · rintro before body after v rfl no_opening decoded w
    exact proposes_followed no_opening decoded

/-- `Ok {"type":"action"}.` -/
private def agreeing : Text :=
  Text.ofChars ['O', 'k', ' ', '\x7b', '"', 't', 'y', 'p', 'e', '"', ':', '"', 'a', 'c', 't', 'i', 'o', 'n', '"', '\x7d', '.']

example : extractAction (fun _ => none) agreeing = .ok (some (.dict [(.str "type", .str "action")])) := by rfl

-- two actions in one reply are none
example : extractAction (fun _ => none) (agreeing ++ agreeing) = .ok none := by rfl

end DroidOs.Rocky.Ask
