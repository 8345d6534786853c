/- GID: DroidOs/Language/FirstObject
   generality: I
   source: src/droidos/language/providers.py
   digest: Which JSON objects _first_json_object finds again in a text around them. -/

import DroidOs.Lib.JsonLoads
import Mathlib.Data.List.Count

set_option autoImplicit false
set_option relaxedAutoImplicit false

namespace DroidOs.Language.FirstObject

open DroidOs.Lib.Json DroidOs.Lib.JsonText DroidOs.Lib.JsonLoads

/-! The source's functions. -/

/-- The text up to the brace that brings the depth back to zero. Strings are not looked at. -/
def candidate : ℕ → Text → Option Text
  | _, [] => none
  | depth, c :: rest =>
    if c = .char '{' then (candidate (depth + 1) rest).map (c :: ·)
    else if c = .char '}' then
      if depth - 1 = 0 then some [c] else (candidate (depth - 1) rest).map (c :: ·)
    else (candidate depth rest).map (c :: ·)

variable {ν : Type} (number : Text → Option ν)

/-- `_first_json_object`. Only a `JSONDecodeError` sends it to the next opening brace. -/
def firstJsonObject : Text → Except Refusal (Option (Value ν))
  | [] => .ok none
  | c :: rest =>
    if c = .char '{' then
      match candidate 0 (c :: rest) with
      | none => firstJsonObject rest
      | some found =>
        match loads number found with
        | .ok v => .ok (some v)
        | .error .malformed => firstJsonObject rest
        | .error e => .error e
    else firstJsonObject rest

/-! Braces. -/

def opens (l : Text) : ℕ := l.count (.char '{')

def closes (l : Text) : ℕ := l.count (.char '}')

/-- Strings included, a text's braces match at its end and at no place before. -/
def BracesNest (s : Text) : Prop :=
  (∀ p t, s = p ++ t → p ≠ [] → t ≠ [] → closes p < opens p) ∧ closes s = opens s

/-- The same with `depth` braces open before the text. -/
def NestsFrom (depth : ℕ) (s : Text) : Prop :=
  (∀ p t, s = p ++ t → t ≠ [] → closes p < depth + opens p) ∧ closes s = depth + opens s

private theorem opens_cons (c : Code) (l : Text) : opens (c :: l) = opens [c] + opens l := by
  unfold opens
  rw [← List.count_append]
  rfl

private theorem closes_cons (c : Code) (l : Text) : closes (c :: l) = closes [c] + closes l := by
  unfold closes
  rw [← List.count_append]
  rfl

private theorem nestsFrom_zero (s : Text) : NestsFrom 0 s ↔ s = [] := by
  constructor
  · intro nests
    by_contra some_text
    exact absurd (nests.1 [] s rfl some_text) (lt_irrefl 0)
  · rintro rfl
    refine ⟨?_, rfl⟩
    intro p t whole some_text
    exact absurd (List.append_eq_nil_iff.mp whole.symm).2 some_text

private theorem nestsFrom_cons {depth next : ℕ} {c : Code} {s : Text}
    (moves : depth + opens [c] = next + closes [c]) :
    NestsFrom depth (c :: s) ↔ 0 < depth ∧ NestsFrom next s := by
  constructor
  · intro nests
    refine ⟨nests.1 [] (c :: s) rfl (by simp), ?_, ?_⟩
    · intro p t whole some_text
      have here := nests.1 (c :: p) t (by rw [whole]; rfl) some_text
      rw [opens_cons, closes_cons] at here
      omega
    · have there := nests.2
      rw [opens_cons, closes_cons] at there
      omega
  · rintro ⟨within, nests⟩
    constructor
    · intro p t whole some_text
      cases p with
      | nil => exact within
      | cons d p =>
        obtain ⟨rfl, rfl⟩ := List.cons.inj whole
        have here := nests.1 p t rfl some_text
        rw [opens_cons, closes_cons]
        omega
    · have there := nests.2
      rw [opens_cons, closes_cons]
      omega

theorem bracesNest_iff (r : Text) : BracesNest (.char '{' :: r) ↔ NestsFrom 1 r := by
  have brace : opens [.char '{'] = 1 ∧ closes [.char '{'] = 0 := by decide
  constructor
  · rintro ⟨before, total⟩
    constructor
    · intro p t whole some_text
      have here := before (.char '{' :: p) t (by rw [whole]; rfl) (by simp) some_text
      rw [opens_cons, closes_cons] at here
      omega
    · rw [opens_cons, closes_cons] at total
      omega
  · rintro ⟨before, total⟩
    constructor
    · intro p t whole some_front some_text
      cases p with
      | nil => exact absurd rfl some_front
      | cons d p =>
        obtain ⟨rfl, rfl⟩ := List.cons.inj whole
        have here := before p t rfl some_text
        rw [opens_cons, closes_cons]
        omega
    · rw [opens_cons, closes_cons]
      omega

private theorem split_cons {depth next : ℕ} {c : Code} {rest u : Text}
    (moves : depth + 1 + opens [c] = next + closes [c]) :
    (∃ t, c :: rest = u ++ t ∧ NestsFrom (depth + 1) u) ↔
      ∃ u', u = c :: u' ∧ ∃ t, rest = u' ++ t ∧ NestsFrom next u' := by
  constructor
  · rintro ⟨t, whole, nests⟩
    cases u with
    | nil => exact nomatch nests.2
    | cons d u' =>
      obtain ⟨rfl, rfl⟩ := List.cons.inj whole
      exact ⟨u', rfl, t, rfl, ((nestsFrom_cons moves).mp nests).2⟩
  · rintro ⟨u', rfl, t, rfl, nests⟩
    exact ⟨t, rfl, (nestsFrom_cons moves).mpr ⟨Nat.succ_pos _, nests⟩⟩

/-- The candidate from a depth on is the front of the text whose braces match first. -/
theorem candidate_iff (depth : ℕ) (l u : Text) :
    candidate (depth + 1) l = some u ↔ ∃ t, l = u ++ t ∧ NestsFrom (depth + 1) u := by
  induction l generalizing depth u with
  | nil =>
    constructor
    · intro found
      exact nomatch found
    · rintro ⟨t, whole, nests⟩
      have empty := (List.append_eq_nil_iff.mp whole.symm).1
      subst empty
      exact nomatch nests.2
  | cons c rest ih =>
    have onward {next : ℕ} (moves : depth + 1 + opens [c] = next + 1 + closes [c]) :
        (candidate (next + 1) rest).map (c :: ·) = some u ↔
          ∃ t, c :: rest = u ++ t ∧ NestsFrom (depth + 1) u := by
      rw [split_cons moves, Option.map_eq_some_iff]
      constructor
      · rintro ⟨u', found, rfl⟩
        exact ⟨u', rfl, (ih next u').mp found⟩
      · rintro ⟨u', rfl, nests⟩
        exact ⟨u', (ih next u').mpr nests, rfl⟩
    rw [candidate]
    by_cases opening : c = .char '{'
    · subst opening
      rw [if_pos rfl]
      exact onward rfl
    rw [if_neg opening]
    by_cases closing : c = .char '}'
    · subst closing
      rw [if_pos rfl, Nat.add_sub_cancel]
      cases depth with
      | zero =>
        have first : 0 + 1 + opens [.char '}'] = 0 + closes [.char '}'] := rfl
        rw [if_pos rfl, split_cons first]
        constructor
        · rintro ⟨⟩
          exact ⟨[], rfl, rest, rfl, (nestsFrom_zero []).mpr rfl⟩
        · rintro ⟨u', rfl, t, -, nests⟩
          rw [(nestsFrom_zero u').mp nests]
      | succ depth =>
        rw [if_neg (Nat.succ_ne_zero depth)]
        exact onward rfl
    · rw [if_neg closing]
      apply onward
      simp [opens, closes, opening, closing]

/-- The first object's text is the candidate, whatever comes after it. -/
private theorem candidate_of_nest {r : Text} (nest : BracesNest (.char '{' :: r)) (after : Text) :
    candidate 0 (.char '{' :: (r ++ after)) = some (.char '{' :: r) := by
  have found := (candidate_iff 0 (r ++ after) r).mpr ⟨after, rfl, (bracesNest_iff r).mp nest⟩
  rw [candidate, if_pos rfl, found]
  rfl

private theorem nest_of_candidate {l u : Text} (found : candidate 0 (.char '{' :: l) = some u) :
    BracesNest u ∧ ∃ r t, u = .char '{' :: r ∧ l = r ++ t := by
  rw [candidate, if_pos rfl] at found
  obtain ⟨r, inner, rfl⟩ := Option.map_eq_some_iff.mp found
  obtain ⟨t, whole, nests⟩ := (candidate_iff 0 l r).mp inner
  exact ⟨(bracesNest_iff r).mpr nests, r, t, rfl, whole⟩

/-! Objects and their texts. -/

/-- A JSON object: the keys of every object in it are distinct. -/
structure JsonObject (ν : Type) where
  members : List (Text × Value ν)
  distinct : Distinct (.obj members)

/-- The decoder reads the whole text as the object, whose members it writes once each. -/
def Serialises (s : Text) (o : JsonObject ν) : Prop :=
  readValue number (fuelFor s) s = .ok (.obj o.members, [])

/-- The scanner returns the object whatever text without an opening brace is put before its text
and whatever text after. -/
def FoundAgain (s : Text) (o : JsonObject ν) : Prop :=
  ∀ before after : Text, .char '{' ∉ before →
    firstJsonObject number (before ++ s ++ after) = .ok (some (.obj o.members))

variable {number}

private theorem Serialises.brace {s : Text} {o : JsonObject ν} (serialises : Serialises number s o) :
    ∃ r, s = .char '{' :: r := by
  unfold Serialises fuelFor at serialises
  by_contra other
  by_cases quote : ∃ r, s = .char '"' :: r
  · obtain ⟨r, rfl⟩ := quote
    obtain ⟨⟨t, rest⟩, -, gives⟩ := bind_ok serialises
    cases gives
  by_cases bracket : ∃ r, s = .char '[' :: r
  · obtain ⟨r, rfl⟩ := bracket
    rw [readValue] at serialises
    split at serialises
    · cases serialises
    · obtain ⟨⟨items, rest⟩, -, gives⟩ := bind_ok serialises
      cases gives
  · rw [readValue.eq_5 _ _ _ (fun r here => quote ⟨r, here⟩) (fun r here => other ⟨r, here⟩)
      (fun r here => bracket ⟨r, here⟩), readScalar] at serialises
    split at serialises
    · cases serialises
    · cases serialises
    · cases serialises
    · split at serialises
      · cases serialises
      · split at serialises <;> cases serialises

theorem firstJsonObject_skip {before : Text} (none_before : .char '{' ∉ before) (l : Text) :
    firstJsonObject number (before ++ l) = firstJsonObject number l := by
  induction before with
  | nil => rfl
  | cons c before ih =>
    have other : c ≠ .char '{' := fun same => none_before (same ▸ List.mem_cons_self)
    rw [List.cons_append, firstJsonObject, if_neg other]
    exact ih fun there => none_before (List.mem_cons_of_mem c there)

/-- What is returned was read from a candidate at some opening brace. -/
theorem firstJsonObject_some {l : Text} {v : Value ν}
    (returns : firstJsonObject number l = .ok (some v)) :
    ∃ before r t, l = before ++ .char '{' :: (r ++ t) ∧ BracesNest (.char '{' :: r) ∧
      loads number (.char '{' :: r) = .ok v := by
  induction l with
  | nil => exact nomatch returns
  | cons c rest ih =>
    have later (returns : firstJsonObject number rest = .ok (some v)) :
        ∃ before r t, c :: rest = before ++ .char '{' :: (r ++ t) ∧ BracesNest (.char '{' :: r) ∧
          loads number (.char '{' :: r) = .ok v := by
      obtain ⟨before, r, t, whole, found⟩ := ih returns
      exact ⟨c :: before, r, t, by rw [whole]; rfl, found⟩
    rw [firstJsonObject] at returns
    split_ifs at returns with brace
    · subst brace
      split at returns
      · exact later returns
      · rename_i found candidate
        obtain ⟨nest, r, t, rfl, rfl⟩ := nest_of_candidate candidate
        split at returns
        · rename_i read
          cases returns
          exact ⟨[], r, t, rfl, nest, read⟩
        · exact later returns
        · exact nomatch returns
    · exact later returns

/-- A proper front of an object's text is no object's text. -/
private theorem front_unread {s r t : Text} {o : JsonObject ν} {v : Value ν}
    (serialises : Serialises number s o) (whole : s = .char '{' :: (r ++ t))
    (read : loads number (.char '{' :: r) = .ok v) : t = [] := by
  subst whole
  by_contra some_text
  obtain ⟨body, ends_s, closed_body⟩ := takes_object (sound number _) serialises
  obtain ⟨inner, rest, m, rfl, closed_inner⟩ := loads_body read
  obtain ⟨front, last, ends⟩ := (List.eq_nil_or_concat (rest ++ t)).resolve_left
    (by simp [some_text])
  have longer : body = inner ++ .char '}' :: front := by
    have same : (inner ++ .char '}' :: front) ++ [last] = body ++ [.char '}'] := by
      rw [← ends_s, List.append_assoc, List.append_assoc, List.cons_append, List.cons_append, ends,
        List.concat_eq_append]
    exact (List.append_inj' same rfl).1.symm
  -- The brace that ends the front closes nothing that the whole object opened.
  obtain ⟨st, read_inner, read_brace⟩ := lex_split (longer ▸ closed_body 0 0)
  rw [closed_inner 0 0] at read_inner
  cases read_inner
  exact nomatch read_brace

/-- Every opening brace of an object's text but its first comes after a quote. -/
private theorem quote_before {s before l : Text} {o : JsonObject ν}
    (serialises : Serialises number s o) (whole : s = before ++ .char '{' :: l)
    (some_text : before ≠ []) : .char '"' ∈ before := by
  obtain ⟨c, before, rfl⟩ := List.exists_cons_of_ne_nil some_text
  obtain ⟨r, brace⟩ := serialises.brace
  rw [whole] at brace serialises
  obtain ⟨rfl, rfl⟩ := List.cons.inj brace
  obtain ⟨blanks, after, same, blank, start⟩ := object_start serialises
  rcases List.append_eq_append_iff.mp same with ⟨more, rfl, starts⟩ | ⟨more, rfl, starts⟩
  · cases more with
    | nil =>
      rw [List.nil_append] at starts
      rcases start with stop | ⟨key, stop⟩ <;> rw [← starts] at stop <;> cases stop
    | cons d more =>
      have there := blank d (by simp)
      cases starts
      exact nomatch there
  · cases more with
    | nil =>
      rw [List.nil_append] at starts
      rcases start with stop | ⟨key, stop⟩ <;> rw [starts] at stop <;> cases stop
    | cons d more =>
      rcases start with stop | ⟨key, stop⟩
      · rw [starts] at stop
        have left := (List.cons.inj stop).2
        simp at left
      · rw [starts] at stop
        cases stop
        simp

/-- No object that stands inside the text of an object is that object. -/
private theorem inner_differs {s before r t : Text} {o : JsonObject ν}
    (serialises : Serialises number s o) (whole : s = before ++ .char '{' :: (r ++ t))
    (read : loads number (.char '{' :: r) = .ok (.obj o.members)) : before = [] := by
  by_contra some_text
  have quote := quote_before serialises whole some_text
  obtain ⟨n, closed_part, strings⟩ := loads_closed read
  obtain ⟨front, same, closed_whole⟩ := (sound number _).value serialises
  rw [List.append_nil] at same
  subst same
  rw [whole] at closed_whole
  have fewer := closed_inner closed_whole closed_part quote
  omega

/-- An object is found again around its own text exactly when the braces of the text, those in
its strings included, nest. -/
theorem found_again_iff (number : Text → Option ν) (s : Text) (o : JsonObject ν)
    (serialises : Serialises number s o) : FoundAgain number s o ↔ BracesNest s := by
  constructor
  · intro found
    have returns := found [] [] List.not_mem_nil
    rw [List.nil_append, List.append_nil] at returns
    obtain ⟨before, r, t, whole, nest, read⟩ := firstJsonObject_some returns
    have first := inner_differs serialises whole read
    subst first
    rw [List.nil_append] at whole
    have all := front_unread serialises whole read
    subst all
    rw [whole, List.append_nil]
    exact nest
  · intro nest before after none_before
    obtain ⟨r, rfl⟩ := serialises.brace
    have read := loads_object o.distinct serialises
    rw [List.append_assoc, firstJsonObject_skip none_before, List.cons_append, firstJsonObject,
      if_pos rfl, candidate_of_nest nest]
    dsimp only
    rw [read]

private def chars (l : List Char) : Text := Text.ofChars l

/-- `{"intent":"calm"}`. -/
def calmText : Text :=
  chars ['{', '"', 'i', 'n', 't', 'e', 'n', 't', '"', ':', '"', 'c', 'a', 'l', 'm', '"', '}']

def calm : JsonObject Text where
  members := [(chars ['i', 'n', 't', 'e', 'n', 't'], .str (chars ['c', 'a', 'l', 'm']))]
  distinct := by simp [Distinct, DistinctMembers]

theorem calm_found_again : Serialises some calmText calm ∧ FoundAgain some calmText calm :=
  ⟨rfl, (found_again_iff some calmText calm rfl).mpr
    (nest_of_candidate (show candidate 0 (.char '{' :: calmText.tail) = some calmText from rfl)).1⟩

/-- `{"a":"}"}`. -/
def lostText : Text := chars ['{', '"', 'a', '"', ':', '"', '}', '"', '}']

def lost : JsonObject Text where
  members := [(chars ['a'], .str (chars ['}']))]
  distinct := by simp [Distinct, DistinctMembers]

/-- `{"a":"}","b":{"a":"x"}}`. -/
def replacedText : Text :=
  chars ['{', '"', 'a', '"', ':', '"', '}', '"', ',', '"', 'b', '"', ':',
    '{', '"', 'a', '"', ':', '"', 'x', '"', '}', '}']

def argument : Value Text := .obj [(chars ['a'], .str (chars ['x']))]

def replaced : JsonObject Text where
  members := [(chars ['a'], .str (chars ['}'])), (chars ['b'], argument)]
  distinct := by simp [Distinct, DistinctMembers, argument, chars, Text.ofChars]

/-- A brace in a string loses one object and puts another's argument in its place. -/
theorem brace_in_string :
    (Serialises some lostText lost ∧ firstJsonObject some lostText = .ok none) ∧
      Serialises some replacedText replaced ∧
        firstJsonObject some replacedText = .ok (some argument) ∧
          ¬ FoundAgain some lostText lost ∧ ¬ FoundAgain some replacedText replaced := by
  have finds_none : firstJsonObject some lostText = .ok none := rfl
  have finds_argument : firstJsonObject some replacedText = .ok (some argument) := rfl
  refine ⟨⟨rfl, finds_none⟩, rfl, finds_argument, ?_, ?_⟩
  · intro found
    have returns := found [] [] List.not_mem_nil
    rw [List.nil_append, List.append_nil, finds_none] at returns
    exact nomatch returns
  · intro found
    have returns := found [] [] List.not_mem_nil
    rw [List.nil_append, List.append_nil, finds_argument] at returns
    simp [argument, replaced] at returns

end DroidOs.Language.FirstObject
