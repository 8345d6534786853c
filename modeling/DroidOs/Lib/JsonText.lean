/- GID: DroidOs/Lib/JsonText
   generality: G
   digest: The quotes and braces of a text that the JSON decoder reads. -/

import DroidOs.Lib.Json
import Mathlib.Data.List.TakeDrop
import Mathlib.Data.List.TakeWhile

set_option autoImplicit false
set_option relaxedAutoImplicit false

namespace DroidOs.Lib.JsonText

open DroidOs.Lib DroidOs.Lib.Json

/-! A text read position by position. -/

inductive Mode
  | outside
  | inside
  | escaped
  deriving DecidableEq

/-- Whether a string is open, how many braces are open outside strings, and the quotes so far. -/
structure Lexed where
  mode : Mode
  depth : ℕ
  quotes : ℕ
  deriving DecidableEq

/-- One more position. No backslash and no unmatched closing brace stands outside a string. -/
def step (st : Lexed) (c : Code) : Option Lexed :=
  match st.mode with
  | .escaped => some { st with mode := .inside }
  | .inside =>
    if c = .char '"' then some { st with mode := .outside, quotes := st.quotes + 1 }
    else if c = .char '\\' then some { st with mode := .escaped }
    else some st
  | .outside =>
    if c = .char '"' then some { st with mode := .inside, quotes := st.quotes + 1 }
    else if c = .char '\\' then none
    else if c = .char '{' then some { st with depth := st.depth + 1 }
    else if c = .char '}' then
      if st.depth = 0 then none else some { st with depth := st.depth - 1 }
    else some st

def lex (st : Lexed) (l : Text) : Option Lexed := l.foldlM step st

@[simp] theorem lex_nil (st : Lexed) : lex st [] = some st := rfl

@[simp] theorem lex_cons (st : Lexed) (c : Code) (l : Text) :
    lex st (c :: l) = (step st c).bind fun st => lex st l := rfl

theorem lex_append (st : Lexed) (l m : Text) :
    lex st (l ++ m) = (lex st l).bind fun st => lex st m := by
  unfold lex
  rw [List.foldlM_append]
  rfl

theorem lex_split {st last : Lexed} {l m : Text} (read : lex st (l ++ m) = some last) :
    ∃ middle, lex st l = some middle ∧ lex middle m = some last := by
  rw [lex_append] at read
  exact Option.bind_eq_some_iff.mp read

/-- The text leaves a reader that is outside strings as it was, and has `n` quotes. -/
def Closed (l : Text) (n : ℕ) : Prop :=
  ∀ depth quotes, lex ⟨.outside, depth, quotes⟩ l = some ⟨.outside, depth, quotes + n⟩

theorem closed_nil : Closed [] 0 := fun _ _ => rfl

theorem Closed.append {l m : Text} {a b : ℕ} (front : Closed l a) (back : Closed m b) :
    Closed (l ++ m) (a + b) := by
  intro depth quotes
  rw [lex_append, front, Option.bind_some, back, Nat.add_assoc]

/-- A position that neither opens nor closes anything. -/
def Plain (c : Code) : Prop :=
  c ≠ .char '"' ∧ c ≠ .char '\\' ∧ c ≠ .char '{' ∧ c ≠ .char '}'

instance (c : Code) : Decidable (Plain c) := by
  unfold Plain
  infer_instance

theorem closed_of_plain {l : Text} (plain : ∀ c ∈ l, Plain c) : Closed l 0 := by
  induction l with
  | nil => exact closed_nil
  | cons c l ih =>
    intro depth quotes
    have here := plain c (by simp)
    have kept : step ⟨.outside, depth, quotes⟩ c = some ⟨.outside, depth, quotes⟩ := by
      simp [step, here.1, here.2.1, here.2.2.1, here.2.2.2]
    rw [lex_cons, kept, Option.bind_some]
    exact ih (fun d there => plain d (List.mem_cons_of_mem _ there)) depth quotes

theorem Closed.braces {l : Text} {n : ℕ} (body : Closed l n) :
    Closed (.char '{' :: (l ++ [.char '}'])) n := by
  intro depth quotes
  have opened : step ⟨.outside, depth, quotes⟩ (.char '{') =
      some ⟨.outside, depth + 1, quotes⟩ := rfl
  have closed : step ⟨.outside, depth + 1, quotes + n⟩ (.char '}') =
      some ⟨.outside, depth, quotes + n⟩ := rfl
  rw [lex_cons, opened, Option.bind_some, lex_append, body, Option.bind_some, lex_cons, closed]
  rfl

/-- A text that ends an open string and stays outside. -/
def Quoted (l : Text) : Prop :=
  ∀ depth quotes, lex ⟨.inside, depth, quotes⟩ l = some ⟨.outside, depth, quotes + 1⟩

theorem Quoted.closed {l : Text} (quoted : Quoted l) : Closed (.char '"' :: l) 2 := by
  intro depth quotes
  have opened : step ⟨.outside, depth, quotes⟩ (.char '"') =
      some ⟨.inside, depth, quotes + 1⟩ := rfl
  rw [lex_cons, opened, Option.bind_some, quoted]

theorem Quoted.plain {c : Code} {l : Text} (no_quote : c ≠ .char '"') (no_escape : c ≠ .char '\\')
    (quoted : Quoted l) : Quoted (c :: l) := by
  intro depth quotes
  have kept : step ⟨.inside, depth, quotes⟩ c = some ⟨.inside, depth, quotes⟩ := by
    simp [step, no_quote, no_escape]
  rw [lex_cons, kept, Option.bind_some, quoted]

theorem Quoted.escape (c : Code) {l : Text} (quoted : Quoted l) :
    Quoted (.char '\\' :: c :: l) := by
  intro depth quotes
  have opened : step ⟨.inside, depth, quotes⟩ (.char '\\') =
      some ⟨.escaped, depth, quotes⟩ := rfl
  have kept : step ⟨.escaped, depth, quotes⟩ c = some ⟨.inside, depth, quotes⟩ := rfl
  rw [lex_cons, opened, Option.bind_some, lex_cons, kept, Option.bind_some, quoted]

/-! What the decoder takes off a text. -/

/-- What is read of the text before `rest` is closed and has `n` quotes. -/
def Takes (l rest : Text) (n : ℕ) : Prop := ∃ front, l = front ++ rest ∧ Closed front n

variable {l m rest : Text} {a b n : ℕ}

theorem Takes.refl (l : Text) : Takes l l 0 := ⟨[], rfl, closed_nil⟩

theorem Takes.trans (first : Takes l m a) (second : Takes m rest b) : Takes l rest (a + b) := by
  obtain ⟨front, rfl, front_closed⟩ := first
  obtain ⟨back, rfl, back_closed⟩ := second
  exact ⟨front ++ back, (List.append_assoc _ _ _).symm, front_closed.append back_closed⟩

theorem Takes.count (takes : Takes l rest a) (same : a = b) : Takes l rest b := same ▸ takes

theorem Takes.length_le (takes : Takes l rest n) : rest.length ≤ l.length := by
  obtain ⟨front, rfl, -⟩ := takes
  simp

theorem takes_of_plain {front : Text} (plain : ∀ c ∈ front, Plain c) (rest : Text) :
    Takes (front ++ rest) rest 0 :=
  ⟨front, rfl, closed_of_plain plain⟩

theorem takes_mark {c : Code} (plain : Plain c) (rest : Text) : Takes (c :: rest) rest 0 := by
  have all : ∀ d ∈ [c], Plain d := by simpa using plain
  exact takes_of_plain all rest

private theorem plain_of_blank {c : Code} (blank : isBlank c = true) : Plain c := by
  cases c with
  | surrogate n => simp [Plain]
  | char c =>
    simp only [isBlank, Bool.or_eq_true, decide_eq_true_eq] at blank
    rcases blank with ((rfl | rfl) | rfl) | rfl <;> decide

theorem takes_skipBlanks (l : Text) : Takes l (skipBlanks l) 0 := by
  have parts := List.takeWhile_append_dropWhile (p := isBlank) (l := l)
  refine ⟨l.takeWhile isBlank, parts.symm, closed_of_plain ?_⟩
  intro c there
  exact plain_of_blank (List.mem_takeWhile_imp there)

private theorem plain_of_digit {c : Code} (digit : isDigit c = true) : Plain c := by
  cases c with
  | surrogate n => simp [Plain]
  | char c =>
    refine ⟨?_, ?_, ?_, ?_⟩ <;> (rintro ⟨⟩; revert digit; decide)

/-- A part of plain positions cut off the front of a text. -/
structure Cut (l : Text) (part : Text × Text) : Prop where
  whole : l = part.1 ++ part.2
  plain : ∀ c ∈ part.1, Plain c

theorem Cut.none (l : Text) : Cut l ([], l) := ⟨rfl, by simp⟩

theorem Cut.cons {c : Code} {part : Text × Text} (plain : Plain c) (cut : Cut l part) :
    Cut (c :: l) (c :: part.1, part.2) := by
  refine ⟨by rw [cut.whole]; rfl, ?_⟩
  intro d there
  rcases List.mem_cons.mp there with rfl | there
  · exact plain
  · exact cut.plain d there

theorem Cut.append {front back : Text × Text} (first : Cut l front) (second : Cut front.2 back) :
    Cut l (front.1 ++ back.1, back.2) := by
  refine ⟨by rw [first.whole, second.whole, List.append_assoc], ?_⟩
  intro c there
  exact (List.mem_append.mp there).elim (first.plain c) (second.plain c)

theorem Cut.takes {part : Text × Text} (cut : Cut l part) : Takes l part.2 0 :=
  ⟨part.1, cut.whole, closed_of_plain cut.plain⟩

theorem cut_digits (l : Text) : Cut l (l.span isDigit) := by
  rw [List.span_eq_takeWhile_dropWhile]
  exact ⟨(List.takeWhile_append_dropWhile (p := isDigit) (l := l)).symm,
    fun c there => plain_of_digit (List.mem_takeWhile_imp there)⟩

theorem cut_readMinus (l : Text) : Cut l (readMinus l) := by
  unfold readMinus
  split
  · exact (Cut.none _).cons (by decide)
  · exact Cut.none l

theorem cut_readSign (l : Text) : Cut l (readSign l) := by
  unfold readSign
  split
  · exact (Cut.none _).cons (by decide)
  · exact (Cut.none _).cons (by decide)
  · exact Cut.none l

theorem cut_readWhole {part : Text × Text} (reads : readWhole l = some part) : Cut l part := by
  unfold readWhole at reads
  split at reads
  · cases reads
    exact (Cut.none _).cons (by decide)
  · split at reads
    · cases reads
      exact cut_digits _
    · exact nomatch reads
  · exact nomatch reads

theorem cut_readFraction (l : Text) : Cut l (readFraction l) := by
  unfold readFraction
  split
  · split
    · exact Cut.none _
    · rename_i after _ digits rest _ split
      have cut := cut_digits after
      rw [split] at cut
      exact cut.cons (by decide)
  · exact Cut.none l

theorem cut_readExponent (l : Text) : Cut l (readExponent l) := by
  unfold readExponent
  split
  · split
    · rename_i c rest mark
      have plain : Plain c := by rcases mark with rfl | rfl <;> decide
      have sign := cut_readSign rest
      have digits := cut_digits (readSign rest).2
      simp only
      split
      · exact Cut.none _
      · rename_i split
        rw [split] at digits
        exact (sign.append digits).cons plain
    · exact Cut.none _
  · exact Cut.none []

theorem cut_readNumber {part : Text × Text} (reads : readNumber l = some part) : Cut l part := by
  unfold readNumber at reads
  obtain ⟨whole, reads_whole, gives⟩ := Option.bind_eq_some_iff.mp reads
  cases gives
  have front := (cut_readMinus l).append (cut_readWhole reads_whole)
  exact (front.append (cut_readFraction _)).append (cut_readExponent _)

theorem cut_readWord {word : List Char} (plain : ∀ c ∈ Text.ofChars word, Plain c)
    (reads : readWord word l = some rest) : Cut l (Text.ofChars word, rest) :=
  ⟨(List.isPrefixOf?_eq_some_iff_append_eq.mp reads).symm, plain⟩

theorem cut_firstWord {words : List (List Char)} {part : Text × Text}
    (plain : ∀ word ∈ words, ∀ c ∈ Text.ofChars word, Plain c)
    (reads : firstWord words l = some part) : Cut l part := by
  obtain ⟨word, listed, found⟩ := List.exists_of_findSome?_eq_some reads
  obtain ⟨rest, reads_word, rfl⟩ := Option.map_eq_some_iff.mp found
  exact cut_readWord (plain word listed) reads_word

private theorem plain_numberWords : ∀ word ∈ numberWords, ∀ c ∈ Text.ofChars word, Plain c := by
  decide

/-! Values. -/

variable {ν : Type}

mutual

/-- How many strings a value has, the keys of its objects included. -/
def stringsOf : Value ν → ℕ
  | .null => 0
  | .bool _ => 0
  | .num _ => 0
  | .str _ => 1
  | .arr items => stringsOfItems items
  | .obj members => stringsOfMembers members

def stringsOfItems : List (Value ν) → ℕ
  | [] => 0
  | v :: rest => stringsOf v + stringsOfItems rest

def stringsOfMembers : List (Text × Value ν) → ℕ
  | [] => 0
  | (_, v) :: rest => 1 + stringsOf v + stringsOfMembers rest

end

variable {number : Text → Option ν}

/-- A value without parts is plain. -/
theorem cut_readScalar {v : Value ν} (reads : readScalar number l = .ok (v, rest)) :
    stringsOf v = 0 ∧ ∃ front, Cut l (front, rest) := by
  unfold readScalar at reads
  split at reads
  · rename_i word
    cases reads
    exact ⟨rfl, _, cut_readWord (by decide) word⟩
  · rename_i word _
    cases reads
    exact ⟨rfl, _, cut_readWord (by decide) word⟩
  · rename_i word _ _
    cases reads
    exact ⟨rfl, _, cut_readWord (by decide) word⟩
  · split at reads
    · exact nomatch reads
    · rename_i part after literal
      split at reads
      · exact nomatch reads
      · cases reads
        refine ⟨rfl, part, ?_⟩
        rcases word : firstWord numberWords l with - | part
        · rw [word] at literal
          exact cut_readNumber literal
        · rw [word] at literal
          cases literal
          exact cut_firstWord plain_numberWords word

theorem takes_readScalar {v : Value ν} (reads : readScalar number l = .ok (v, rest)) :
    Takes l rest (2 * stringsOf v) := by
  obtain ⟨no_string, front, cut⟩ := cut_readScalar reads
  rw [no_string]
  exact cut.takes

private theorem hexDigit_inner {c : Code} {n : ℕ} (digit : hexDigit c = some n) :
    c ≠ .char '"' ∧ c ≠ .char '\\' := by
  constructor
  · rintro rfl
    exact nomatch (show hexDigit (.char '"') = none by decide).symm.trans digit
  · rintro rfl
    exact nomatch (show hexDigit (.char '\\') = none by decide).symm.trans digit

private theorem Quoted.hexNumber {a b c d : Code} {n : ℕ} (number : hexNumber a b c d = some n)
    {l : Text} (quoted : Quoted l) : Quoted (a :: b :: c :: d :: l) := by
  obtain ⟨_, first, number⟩ := Option.bind_eq_some_iff.mp number
  obtain ⟨_, second, number⟩ := Option.bind_eq_some_iff.mp number
  obtain ⟨_, third, number⟩ := Option.bind_eq_some_iff.mp number
  obtain ⟨_, fourth, -⟩ := Option.bind_eq_some_iff.mp number
  apply Quoted.plain (hexDigit_inner first).1 (hexDigit_inner first).2
  apply Quoted.plain (hexDigit_inner second).1 (hexDigit_inner second).2
  apply Quoted.plain (hexDigit_inner third).1 (hexDigit_inner third).2
  exact quoted.plain (hexDigit_inner fourth).1 (hexDigit_inner fourth).2

/-- The pieces of a string and its closing quote. -/
theorem readPieces_quoted {pieces : List Piece} (reads : readPieces l = .ok (pieces, rest)) :
    ∃ front, l = front ++ rest ∧ Quoted front := by
  induction l using readPieces.induct generalizing pieces with
  | case1 => exact nomatch reads
  | case2 after =>
    cases reads
    exact ⟨[.char '"'], rfl, fun _ _ => rfl⟩
  | case3 a b c d after no_number =>
    rw [readPieces, no_number] at reads
    exact nomatch reads
  | case4 a b c d after n number ih =>
    rw [readPieces, number] at reads
    obtain ⟨⟨inner, last⟩, reads_inner, gives⟩ := bind_ok reads
    cases gives
    obtain ⟨front, rfl, quoted⟩ := ih reads_inner
    exact ⟨_ :: _ :: _ :: _ :: _ :: _ :: front, rfl, (quoted.hexNumber number).escape (.char 'u')⟩
  | case5 e after no_unit unknown =>
    rw [readPieces.eq_4 _ _ no_unit, unknown] at reads
    exact nomatch reads
  | case6 e after no_unit c escapes ih =>
    rw [readPieces.eq_4 _ _ no_unit, escapes] at reads
    obtain ⟨⟨inner, last⟩, reads_inner, gives⟩ := bind_ok reads
    cases gives
    obtain ⟨front, rfl, quoted⟩ := ih reads_inner
    exact ⟨_ :: _ :: front, rfl, quoted.escape e⟩
  | case7 c after no_quote no_unit no_escape refused =>
    rw [readPieces.eq_5 _ _ no_quote no_unit no_escape, if_pos refused] at reads
    exact nomatch reads
  | case8 c after no_quote no_unit no_escape taken ih =>
    rw [readPieces.eq_5 _ _ no_quote no_unit no_escape, if_neg taken] at reads
    obtain ⟨⟨inner, last⟩, reads_inner, gives⟩ := bind_ok reads
    cases gives
    obtain ⟨front, rfl, quoted⟩ := ih reads_inner
    refine ⟨c :: front, rfl, quoted.plain no_quote ?_⟩
    rintro rfl
    simp at taken

theorem takes_readString {s : Text} (reads : readString l = .ok (s, rest)) :
    Takes (.char '"' :: l) rest 2 := by
  obtain ⟨⟨pieces, last⟩, reads_pieces, gives⟩ := bind_ok reads
  cases gives
  obtain ⟨front, rfl, quoted⟩ := readPieces_quoted reads_pieces
  exact ⟨_ :: front, rfl, quoted.closed⟩

theorem takes_expect {c : Char} (plain : Plain (.char c)) (reads : expect c l = .ok rest) :
    Takes l rest 0 := by
  unfold expect at reads
  split at reads
  · rename_i d after skipped
    split_ifs at reads with mark
    cases reads
    have blanks := takes_skipBlanks l
    rw [skipped, mark] at blanks
    exact blanks.trans (takes_mark plain _)
  · exact nomatch reads

/-- After the last item the closing mark follows. -/
theorem takes_more {closing : Char} {another : Bool} (reads : more closing l = .ok (another, rest)) :
    Takes l (if another then rest else .char closing :: rest) 0 := by
  unfold more at reads
  have blanks := takes_skipBlanks l
  split at reads
  · rename_i d after skipped
    split_ifs at reads with comma mark
    · cases reads
      rw [skipped, comma] at blanks
      exact (blanks.trans (takes_mark (by decide) after)).trans (takes_skipBlanks after)
    · cases reads
      rw [skipped, mark] at blanks
      exact blanks
  · exact nomatch reads

theorem Takes.braces (body : Takes l (.char '}' :: rest) n) : Takes (.char '{' :: l) rest n := by
  obtain ⟨front, rfl, closed⟩ := body
  exact ⟨.char '{' :: (front ++ [.char '}']), by simp, closed.braces⟩


/-- What each part of the decoder takes, with the quotes of what it returns. -/
structure Sound (number : Text → Option ν) (fuel : ℕ) : Prop where
  value : ∀ {l v rest}, readValue number fuel l = .ok (v, rest) → Takes l rest (2 * stringsOf v)
  members : ∀ {l members rest}, readMembers number fuel l = .ok (members, rest) →
    Takes l (.char '}' :: rest) (2 * stringsOfMembers members)
  items : ∀ {l items rest}, readItems number fuel l = .ok (items, rest) →
    Takes l (.char ']' :: rest) (2 * stringsOfItems items)

private theorem Takes.skipped {n : ℕ} (takes : Takes (skipBlanks l) rest n) : Takes l rest n := by
  have both := (takes_skipBlanks l).trans takes
  rwa [Nat.zero_add] at both

/-- The body of an object. -/
theorem takes_object {fuel : ℕ} {v : Value ν} (inner : Sound number fuel)
    (reads : readValue number (fuel + 1) (.char '{' :: l) = .ok (v, rest)) :
    Takes l (.char '}' :: rest) (2 * stringsOf v) := by
  rw [readValue] at reads
  split at reads
  · rename_i after skipped
    cases reads
    exact .skipped (skipped ▸ .refl _)
  · obtain ⟨⟨members, last⟩, reads_members, gives⟩ := bind_ok reads
    cases gives
    exact (inner.members reads_members).skipped

private theorem takes_array {fuel : ℕ} {v : Value ν} (inner : Sound number fuel)
    (reads : readValue number (fuel + 1) (.char '[' :: l) = .ok (v, rest)) :
    Takes l (.char ']' :: rest) (2 * stringsOf v) := by
  rw [readValue] at reads
  split at reads
  · rename_i after skipped
    cases reads
    exact .skipped (skipped ▸ .refl _)
  · obtain ⟨⟨items, last⟩, reads_items, gives⟩ := bind_ok reads
    cases gives
    exact (inner.items reads_items).skipped

private theorem takes_readValue {fuel : ℕ} {v : Value ν} (inner : Sound number fuel)
    (reads : readValue number (fuel + 1) l = .ok (v, rest)) : Takes l rest (2 * stringsOf v) := by
  by_cases quote : ∃ after, l = .char '"' :: after
  · obtain ⟨after, rfl⟩ := quote
    obtain ⟨⟨s, last⟩, reads_string, gives⟩ := bind_ok reads
    cases gives
    exact takes_readString reads_string
  by_cases brace : ∃ after, l = .char '{' :: after
  · obtain ⟨after, rfl⟩ := brace
    exact (takes_object inner reads).braces
  by_cases bracket : ∃ after, l = .char '[' :: after
  · obtain ⟨after, rfl⟩ := bracket
    have body := (takes_array inner reads).trans (takes_mark (by decide) rest)
    have whole := (takes_mark (c := .char '[') (by decide) after).trans body
    simpa using whole
  · rw [readValue.eq_5 _ _ _ (fun after here => quote ⟨after, here⟩)
      (fun after here => brace ⟨after, here⟩) (fun after here => bracket ⟨after, here⟩)] at reads
    exact takes_readScalar reads

private theorem takes_readMembers {fuel : ℕ} {members : List (Text × Value ν)}
    (inner : Sound number fuel) (reads : readMembers number (fuel + 1) l = .ok (members, rest)) :
    Takes l (.char '}' :: rest) (2 * stringsOfMembers members) := by
  by_cases quote : ∃ after, l = .char '"' :: after
  · obtain ⟨after, rfl⟩ := quote
    rw [readMembers] at reads
    obtain ⟨⟨key, l₁⟩, reads_key, reads⟩ := bind_ok reads
    obtain ⟨l₂, colon, reads⟩ := bind_ok reads
    obtain ⟨⟨v, l₃⟩, reads_value, reads⟩ := bind_ok reads
    obtain ⟨⟨another, l₄⟩, mark, reads⟩ := bind_ok reads
    have front := (takes_readString reads_key).trans (takes_expect (by decide) colon)
    have member := (front.trans (takes_skipBlanks l₂)).trans (inner.value reads_value)
    cases another with
    | true =>
      obtain ⟨⟨others, l₅⟩, reads_others, gives⟩ := bind_ok reads
      cases gives
      have whole := (member.trans (takes_more mark)).trans (inner.members reads_others)
      apply whole.count
      rw [stringsOfMembers]
      omega
    | false =>
      cases reads
      have whole := member.trans (takes_more mark)
      apply whole.count
      rw [stringsOfMembers, stringsOfMembers]
      omega
  · rw [readMembers.eq_3 _ _ _ fun after here => quote ⟨after, here⟩] at reads
    exact nomatch reads

private theorem takes_readItems {fuel : ℕ} {items : List (Value ν)}
    (inner : Sound number fuel) (reads : readItems number (fuel + 1) l = .ok (items, rest)) :
    Takes l (.char ']' :: rest) (2 * stringsOfItems items) := by
  rw [readItems] at reads
  obtain ⟨⟨v, l₁⟩, reads_value, reads⟩ := bind_ok reads
  obtain ⟨⟨another, l₂⟩, mark, reads⟩ := bind_ok reads
  have item := inner.value reads_value
  cases another with
  | true =>
    obtain ⟨⟨others, l₃⟩, reads_others, gives⟩ := bind_ok reads
    cases gives
    have whole := (item.trans (takes_more mark)).trans (inner.items reads_others)
    apply whole.count
    rw [stringsOfItems]
    omega
  | false =>
    cases reads
    have whole := item.trans (takes_more mark)
    apply whole.count
    rw [stringsOfItems, stringsOfItems]
    omega

theorem sound (number : Text → Option ν) (fuel : ℕ) : Sound number fuel := by
  induction fuel with
  | zero =>
    constructor
    · intro l v rest reads
      exact nomatch reads
    · intro l members rest reads
      exact nomatch reads
    · intro l items rest reads
      exact nomatch reads
  | succ fuel ih => exact ⟨takes_readValue ih, takes_readMembers ih, takes_readItems ih⟩


/-! Two readings of one text. -/

/-- Where one reading is inside a string the other is too, or where one is the other is not. -/
def Paired (here there : Mode) : Prop :=
  here = there ∨ (here = .outside ∧ there = .inside) ∨ (here = .inside ∧ there = .outside)

private theorem step_paired {st st' next next' : Lexed} {c : Code}
    (paired : Paired st.mode st'.mode) (read : step st c = some next)
    (read' : step st' c = some next') :
    Paired next.mode next'.mode ∧ next.quotes + st'.quotes = next'.quotes + st.quotes := by
  obtain ⟨mode, depth, quotes⟩ := st
  obtain ⟨mode', depth', quotes'⟩ := st'
  unfold step at read read'
  rcases paired with same | ⟨here, there⟩ | ⟨here, there⟩
  · dsimp only at same
    subst same
    cases mode with
    | escaped =>
      cases read
      cases read'
      exact ⟨.inl rfl, Nat.add_comm _ _⟩
    | inside =>
      dsimp only at read read'
      split_ifs at read read' <;> cases read <;> cases read' <;>
        exact ⟨.inl rfl, by dsimp only; omega⟩
    | outside =>
      dsimp only at read read'
      split_ifs at read read' <;> cases read <;> cases read' <;>
        exact ⟨.inl rfl, by dsimp only; omega⟩
  · dsimp only at here there
    subst here there
    dsimp only at read read'
    split_ifs at read read' <;> cases read <;> cases read' <;>
      exact ⟨by simp [Paired], by dsimp only; omega⟩
  · dsimp only at here there
    subst here there
    dsimp only at read read'
    split_ifs at read read' <;> cases read <;> cases read' <;>
      exact ⟨by simp [Paired], by dsimp only; omega⟩

/-- Paired readings count the same quotes. -/
theorem lex_paired {st st' last last' : Lexed} {l : Text} (paired : Paired st.mode st'.mode)
    (read : lex st l = some last) (read' : lex st' l = some last') :
    last.quotes + st'.quotes = last'.quotes + st.quotes := by
  induction l generalizing st st' with
  | nil =>
    cases read
    cases read'
    exact Nat.add_comm _ _
  | cons c l ih =>
    obtain ⟨next, first, others⟩ := Option.bind_eq_some_iff.mp read
    obtain ⟨next', first', others'⟩ := Option.bind_eq_some_iff.mp read'
    obtain ⟨paired_next, counts⟩ := step_paired paired first first'
    have rest := ih paired_next others others'
    omega

private theorem step_grows {st next : Lexed} {c : Code} (read : step st c = some next) :
    st.quotes ≤ next.quotes := by
  obtain ⟨mode, depth, quotes⟩ := st
  unfold step at read
  cases mode with
  | escaped =>
    cases read
    exact le_rfl
  | inside =>
    dsimp only at read
    split_ifs at read <;> cases read <;> dsimp only <;> omega
  | outside =>
    dsimp only at read
    split_ifs at read <;> cases read <;> dsimp only <;> omega

theorem lex_grows {st last : Lexed} {l : Text} (read : lex st l = some last) :
    st.quotes ≤ last.quotes := by
  induction l generalizing st with
  | nil =>
    cases read
    exact le_rfl
  | cons c l ih =>
    obtain ⟨next, first, others⟩ := Option.bind_eq_some_iff.mp read
    exact (step_grows first).trans (ih others)

private theorem step_outside {depth quotes : ℕ} {next : Lexed} {c : Code} (other : c ≠ .char '"')
    (read : step ⟨.outside, depth, quotes⟩ c = some next) :
    next.mode = .outside ∧ next.quotes = quotes := by
  unfold step at read
  dsimp only at read
  rw [if_neg other] at read
  split_ifs at read <;> cases read <;> exact ⟨rfl, rfl⟩

/-- The first quote of a text read from outside strings counts. -/
theorem lex_counts {st last : Lexed} {l : Text} (outside : st.mode = .outside)
    (quote : .char '"' ∈ l) (read : lex st l = some last) : st.quotes < last.quotes := by
  induction l generalizing st with
  | nil => simp at quote
  | cons c l ih =>
    obtain ⟨mode, depth, quotes⟩ := st
    dsimp only at outside
    subst outside
    obtain ⟨next, first, others⟩ := Option.bind_eq_some_iff.mp read
    by_cases here : c = .char '"'
    · subst here
      cases first
      exact lex_grows others
    · obtain ⟨still, same⟩ := step_outside here first
      have later := (List.mem_cons.mp quote).resolve_left (Ne.symm here)
      have counted := ih still later others
      rwa [same] at counted

private theorem step_brace {st next : Lexed} (read : step st (.char '{') = some next) :
    Paired next.mode .outside ∧ next.quotes = st.quotes := by
  obtain ⟨mode, depth, quotes⟩ := st
  cases mode <;> cases read <;> simp [Paired]

/-- A closed text that starts with a brace has fewer quotes than a closed text around it that has
a quote before it. -/
theorem closed_inner {before inner after : Text} {m n : ℕ}
    (whole : Closed (before ++ .char '{' :: (inner ++ after)) n)
    (part : Closed (.char '{' :: inner) m) (quote : .char '"' ∈ before) : m < n := by
  obtain ⟨st, read_before, read⟩ := lex_split (whole 0 0)
  rw [← List.cons_append] at read
  obtain ⟨st', read_inner, read_after⟩ := lex_split read
  rw [lex_cons] at read_inner
  obtain ⟨next, brace, others⟩ := Option.bind_eq_some_iff.mp read_inner
  have read_part := part 0 0
  rw [lex_cons] at read_part
  obtain ⟨next', brace', others'⟩ := Option.bind_eq_some_iff.mp read_part
  cases brace'
  obtain ⟨paired, same⟩ := step_brace brace
  have counts := lex_paired paired others others'
  have counted := lex_counts rfl quote read_before
  have later := lex_grows read_after
  dsimp only at counts counted later
  omega

end DroidOs.Lib.JsonText
