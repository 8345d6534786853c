/- GID: DroidOs/Lib/JsonAppend
   generality: G
   digest: The decoder does not look past the value that it reads. -/

import DroidOs.Lib.JsonDumps

set_option autoImplicit false
set_option relaxedAutoImplicit false

namespace DroidOs.Lib.JsonAppend

open DroidOs.Lib.Json DroidOs.Lib.JsonLoads
open DroidOs.Lib.JsonDumps (isNumeral)

variable {l rest : Text}

/-! Marks and strings. -/

theorem skipBlanks_append (visible : skipBlanks l ≠ []) (t : Text) : skipBlanks (l ++ t) = skipBlanks l ++ t := by
  unfold skipBlanks at *
  rw [List.dropWhile_append, if_neg (by simpa using visible)]

theorem expect_append {c : Char} (reads : expect c l = .ok rest) (t : Text) : expect c (l ++ t) = .ok (rest ++ t) := by
  unfold expect at reads
  split at reads
  · rename_i d after skipped
    split_ifs at reads with mark
    cases reads
    unfold expect
    rw [skipBlanks_append (by rw [skipped]; exact List.cons_ne_nil _ _), skipped]
    exact if_pos mark
  · cases reads

theorem more_append {closing : Char} {another : Bool} (reads : more closing l = .ok (another, rest))
    (goes_on : another = true → rest ≠ []) (t : Text) : more closing (l ++ t) = .ok (another, rest ++ t) := by
  unfold more at reads
  split at reads
  · rename_i d after skipped
    unfold more
    rw [skipBlanks_append (by rw [skipped]; exact List.cons_ne_nil _ _), skipped]
    dsimp only [List.cons_append]
    split_ifs at reads ⊢ with comma last
    · cases reads
      rw [skipBlanks_append (goes_on rfl)]
    · cases reads
      rfl
  · cases reads

theorem readPieces_append {pieces : List Piece} (reads : readPieces l = .ok (pieces, rest)) (t : Text) :
    readPieces (l ++ t) = .ok (pieces, rest ++ t) := by
  induction l using readPieces.induct generalizing pieces with
  | case1 => cases reads
  | case2 after =>
    cases reads
    rfl
  | case3 a b c d after no_number =>
    rw [readPieces, no_number] at reads
    cases reads
  | case4 a b c d after n number ih =>
    rw [readPieces, number] at reads
    obtain ⟨⟨inner, last⟩, reads_inner, gives⟩ := bind_ok reads
    cases gives
    dsimp only [List.cons_append]
    rw [readPieces, number]
    dsimp only
    rw [ih reads_inner]
    rfl
  | case5 e after no_unit unknown =>
    rw [readPieces.eq_4 _ _ no_unit, unknown] at reads
    cases reads
  | case6 e after no_unit c escapes ih =>
    rw [readPieces.eq_4 _ _ no_unit, escapes] at reads
    obtain ⟨⟨inner, last⟩, reads_inner, gives⟩ := bind_ok reads
    cases gives
    dsimp only [List.cons_append]
    rw [readPieces.eq_4, escapes]
    · dsimp only
      rw [ih reads_inner]
      rfl
    · rintro a b c' d after' rfl -
      cases escapes
  | case7 c after no_quote no_unit no_escape refused =>
    rw [readPieces.eq_5 _ _ no_quote no_unit no_escape, if_pos refused] at reads
    cases reads
  | case8 c after no_quote no_unit no_escape taken ih =>
    rw [readPieces.eq_5 _ _ no_quote no_unit no_escape, if_neg taken] at reads
    obtain ⟨⟨inner, last⟩, reads_inner, gives⟩ := bind_ok reads
    cases gives
    have plain : c ≠ .char '\\' := by
      rintro rfl
      simp at taken
    dsimp only [List.cons_append]
    rw [readPieces.eq_5 _ _ no_quote (fun _ _ _ _ _ same _ => plain same) (fun _ _ same _ => plain same),
      if_neg taken, ih reads_inner]
    rfl

theorem readString_append {s : Text} (reads : readString l = .ok (s, rest)) (t : Text) :
    readString (l ++ t) = .ok (s, rest ++ t) := by
  obtain ⟨⟨pieces, last⟩, reads_pieces, gives⟩ := bind_ok reads
  cases gives
  unfold readString
  rw [readPieces_append reads_pieces]
  rfl

/-! Numbers. -/

/-- Something follows, and no numeral goes on with it. -/
def Stopped (rest : Text) : Prop := ∃ c after, rest = c :: after ∧ isNumeral c = false

theorem Stopped.ne_nil (stopped : Stopped rest) : rest ≠ [] := by
  obtain ⟨c, after, rfl, -⟩ := stopped
  exact List.cons_ne_nil c after

theorem Stopped.head {c : Code} {after : Text} (stopped : Stopped (c :: after)) : isNumeral c = false := by
  obtain ⟨d, after', same, other⟩ := stopped
  cases same
  exact other

private theorem span_append {p : Code → Bool} {front : Text} (spans : l.span p = (front, rest)) (visible : rest ≠ [])
    (t : Text) : (l ++ t).span p = (front, rest ++ t) := by
  rw [List.span_eq_takeWhile_dropWhile] at spans ⊢
  obtain ⟨rfl, rfl⟩ := Prod.mk.inj spans
  have stops : (l.takeWhile p).length ≠ l.length := by
    intro all
    have whole : l.takeWhile p ++ l.dropWhile p = l := List.takeWhile_append_dropWhile
    have lengths := congrArg List.length whole
    rw [List.length_append] at lengths
    exact visible (List.length_eq_zero_iff.mp (by omega))
  rw [List.takeWhile_append, if_neg stops, List.dropWhile_append, if_neg (by simpa using visible)]

private theorem readMinus_append (some_text : l ≠ []) (t : Text) :
    readMinus (l ++ t) = ((readMinus l).1, (readMinus l).2 ++ t) := by
  obtain ⟨c, after, rfl⟩ := List.exists_cons_of_ne_nil some_text
  by_cases minus : c = .char '-'
  · subst minus
    rfl
  · dsimp only [List.cons_append]
    rw [readMinus.eq_2 _ fun _ same => minus (List.cons.inj same).1,
      readMinus.eq_2 _ fun _ same => minus (List.cons.inj same).1]
    rfl

private theorem readSign_append (some_text : l ≠ []) (t : Text) :
    readSign (l ++ t) = ((readSign l).1, (readSign l).2 ++ t) := by
  obtain ⟨c, after, rfl⟩ := List.exists_cons_of_ne_nil some_text
  by_cases plus : c = .char '+'
  · subst plus
    rfl
  by_cases minus : c = .char '-'
  · subst minus
    rfl
  · dsimp only [List.cons_append]
    rw [readSign.eq_3 _ (fun _ same => plus (List.cons.inj same).1) fun _ same => minus (List.cons.inj same).1,
      readSign.eq_3 _ (fun _ same => plus (List.cons.inj same).1) fun _ same => minus (List.cons.inj same).1]
    rfl

private theorem readWhole_digit {part : Text × Text} (reads : readWhole l = some part) :
    ∃ c after, l = c :: after ∧ isDigit c = true := by
  unfold readWhole at reads
  split at reads
  · exact ⟨_, _, rfl, rfl⟩
  · split_ifs at reads with digit
    exact ⟨_, _, rfl, digit⟩
  · cases reads

private theorem readWhole_append {front : Text} (reads : readWhole l = some (front, rest)) (visible : rest ≠ [])
    (t : Text) : readWhole (l ++ t) = some (front, rest ++ t) := by
  obtain ⟨c, after, rfl, digit⟩ := readWhole_digit reads
  by_cases zero : c = .char '0'
  · subst zero
    cases reads
    rfl
  · rw [readWhole.eq_2 _ _ zero, if_pos digit] at reads
    dsimp only [List.cons_append]
    rw [readWhole.eq_2 _ _ zero, if_pos digit, ← List.cons_append, span_append (Option.some.inj reads) visible]

private theorem readFraction_append {front : Text} (reads : readFraction l = (front, rest)) (visible : rest ≠ [])
    (no_point : ∀ after, rest ≠ .char '.' :: after) (t : Text) : readFraction (l ++ t) = (front, rest ++ t) := by
  cases l with
  | nil =>
    cases reads
    exact absurd rfl visible
  | cons c after =>
    by_cases point : c = .char '.'
    · subst point
      rw [readFraction] at reads
      split at reads
      · cases reads
        exact absurd rfl (no_point after)
      · rename_i digits last no_digit spans
        cases reads
        dsimp only [List.cons_append]
        rw [readFraction, span_append spans visible]
        split
        · rename_i same
          cases same
          exact absurd rfl no_digit
        · rename_i same
          cases same
          rfl
    · have other {l : Text} : ∀ digits : Text, c :: l = .char '.' :: digits → False :=
        fun _ same => point (List.cons.inj same).1
      rw [readFraction.eq_2 _ other] at reads
      cases reads
      dsimp only [List.cons_append]
      exact readFraction.eq_2 _ other

private theorem readExponent_append {front : Text} (reads : readExponent l = (front, rest)) (visible : rest ≠ [])
    (no_mark : ∀ c after, rest = c :: after → ¬(c = .char 'e' ∨ c = .char 'E')) (t : Text) :
    readExponent (l ++ t) = (front, rest ++ t) := by
  cases l with
  | nil =>
    cases reads
    exact absurd rfl visible
  | cons c after =>
    dsimp only [List.cons_append]
    unfold readExponent at reads ⊢
    dsimp only at reads ⊢
    split_ifs at reads ⊢ with mark
    · split at reads
      · cases reads
        exact absurd mark (no_mark c after rfl)
      · rename_i digits last no_digit spans
        cases reads
        have some_text : after ≠ [] := by
          rintro rfl
          cases spans
          exact visible rfl
        rw [readSign_append some_text]
        dsimp only
        rw [span_append spans visible]
        split
        · rename_i same
          cases same
          exact absurd rfl no_digit
        · rename_i same
          cases same
          rfl
    · cases reads
      rfl

theorem readNumber_append {literal : Text} (reads : readNumber l = some (literal, rest)) (stopped : Stopped rest)
    (t : Text) : readNumber (l ++ t) = some (literal, rest ++ t) := by
  unfold readNumber at reads
  obtain ⟨⟨whole, l₁⟩, reads_whole, gives⟩ := Option.bind_eq_some_iff.mp reads
  replace reads_whole : readWhole (readMinus l).2 = some (whole, l₁) := reads_whole
  rcases fraction : readFraction l₁ with ⟨digits, l₂⟩
  rcases exponent : readExponent l₂ with ⟨power, l₃⟩
  replace gives : some ((readMinus l).1 ++ whole ++ (readFraction l₁).1 ++ (readExponent (readFraction l₁).2).1,
      (readExponent (readFraction l₁).2).2) = some (literal, rest) := gives
  rw [fraction] at gives
  dsimp only at gives
  rw [exponent] at gives
  obtain ⟨rfl, rfl⟩ := Prod.mk.inj (Option.some.inj gives)
  have no_mark : ∀ c after, l₃ = c :: after → ¬(c = .char 'e' ∨ c = .char 'E') := by
    rintro c after rfl (rfl | rfl)
    · exact absurd stopped.head (by decide)
    · exact absurd stopped.head (by decide)
  have second : l₂ ≠ [] := by
    rintro rfl
    cases exponent
    exact stopped.ne_nil rfl
  have no_point : ∀ after, l₂ ≠ .char '.' :: after := by
    rintro after rfl
    cases exponent
    exact absurd stopped.head (by decide)
  have first : l₁ ≠ [] := by
    rintro rfl
    cases fraction
    exact second rfl
  have some_text : l ≠ [] := by
    rintro rfl
    cases reads_whole
  unfold readNumber
  rw [readMinus_append some_text]
  dsimp only
  rw [readWhole_append reads_whole first]
  dsimp only [bind, Option.bind]
  rw [readFraction_append fraction second no_point]
  dsimp only
  rw [readExponent_append exponent stopped.ne_nil no_mark]
  rfl

/-! Words. -/

private theorem readWord_append {word : List Char} (reads : readWord word l = some rest) (t : Text) :
    readWord word (l ++ t) = some (rest ++ t) := by
  have whole := List.isPrefixOf?_eq_some_iff_append_eq.mp reads
  refine List.isPrefixOf?_eq_some_iff_append_eq.mpr ?_
  rw [← whole, List.append_assoc]

private theorem readWord_other {word : List Char} {c : Code} {d : Char} (first : word.head? = some d)
    (other : c ≠ .char d) (l : Text) : readWord word (c :: l) = none := by
  rw [readWord, Option.eq_none_iff_forall_ne_some]
  intro rest found
  have whole := List.isPrefixOf?_eq_some_iff_append_eq.mp found
  obtain ⟨later, rfl⟩ : ∃ later, word = d :: later := List.head?_eq_some_iff.mp first
  exact other (List.cons.inj whole).1.symm

private theorem firstWord_append {word : Text} (reads : firstWord numberWords l = some (word, rest)) (t : Text) :
    firstWord numberWords (l ++ t) = some (word, rest ++ t) := by
  obtain ⟨chars, listed, found⟩ := List.exists_of_findSome?_eq_some reads
  obtain ⟨after, reads_word, same⟩ := Option.map_eq_some_iff.mp found
  cases same
  have whole := List.isPrefixOf?_eq_some_iff_append_eq.mp reads_word
  subst whole
  rw [List.append_assoc]
  simp only [numberWords, List.mem_cons, List.not_mem_nil, or_false] at listed
  rcases listed with rfl | rfl | rfl
  · rfl
  · rfl
  · rfl

private theorem digit_ne {c : Code} (digit : isDigit c = true) {d : Char} (other : isDigit (.char d) = false) :
    c ≠ .char d := by
  rintro rfl
  rw [other] at digit
  cases digit

/-- A numeral begins with a digit, or with a minus and a digit. -/
private theorem readNumber_start {part : Text × Text} (reads : readNumber l = some part) :
    ∃ c after, l = c :: after ∧
      (isDigit c = true ∨ c = .char '-' ∧ ∃ d others, after = d :: others ∧ isDigit d = true) := by
  unfold readNumber at reads
  obtain ⟨⟨whole, l₁⟩, reads_whole, -⟩ := Option.bind_eq_some_iff.mp reads
  replace reads_whole : readWhole (readMinus l).2 = some (whole, l₁) := reads_whole
  obtain ⟨d, others, after, digit⟩ := readWhole_digit reads_whole
  cases l with
  | nil => cases after
  | cons c l =>
    by_cases minus : c = .char '-'
    · subst minus
      exact ⟨_, _, rfl, .inr ⟨rfl, d, others, after, digit⟩⟩
    · rw [readMinus.eq_2 _ fun _ same => minus (List.cons.inj same).1] at after
      cases after
      exact ⟨_, _, rfl, .inl digit⟩

/-- No word for a number stands where a numeral does. -/
private theorem firstWord_none {part : Text × Text} (reads : readNumber l = some part) (t : Text) :
    firstWord numberWords (l ++ t) = none := by
  obtain ⟨c, after, rfl, start⟩ := readNumber_start reads
  refine List.findSome?_eq_none_iff.mpr fun word listed => Option.map_eq_none_iff.mpr ?_
  simp only [numberWords, List.mem_cons, List.not_mem_nil, or_false] at listed
  rcases start with digit | ⟨rfl, d, others, rfl, digit⟩
  · rcases listed with rfl | rfl | rfl
    · exact readWord_other rfl (digit_ne digit (by decide)) _
    · exact readWord_other rfl (digit_ne digit (by decide)) _
    · exact readWord_other rfl (digit_ne digit (by decide)) _
  · rcases listed with rfl | rfl | rfl
    · exact readWord_other rfl (by decide) _
    · exact readWord_other rfl (by decide) _
    · have second := @readWord_other ['I', 'n', 'f', 'i', 'n', 'i', 't', 'y'] d 'I' rfl (digit_ne digit (by decide))
        (others ++ t)
      exact second

private theorem literal_start {part : Text × Text}
    (reads : (firstWord numberWords l <|> readNumber l) = some part) :
    ∃ c after, l = c :: after ∧ ∀ d ∈ ['n', 't', 'f'], c ≠ .char d := by
  rcases worded : firstWord numberWords l with _ | part
  · rw [worded] at reads
    obtain ⟨c, after, rfl, start⟩ := readNumber_start reads
    refine ⟨c, after, rfl, fun d listed => ?_⟩
    simp only [List.mem_cons, List.not_mem_nil, or_false] at listed
    rcases start with digit | ⟨rfl, -⟩
    · apply digit_ne digit
      rcases listed with rfl | rfl | rfl <;> rfl
    · rcases listed with rfl | rfl | rfl <;> decide
  · obtain ⟨chars, listed, found⟩ := List.exists_of_findSome?_eq_some worded
    obtain ⟨after, reads_word, -⟩ := Option.map_eq_some_iff.mp found
    rw [← List.isPrefixOf?_eq_some_iff_append_eq.mp reads_word]
    simp only [numberWords, List.mem_cons, List.not_mem_nil, or_false] at listed
    rcases listed with rfl | rfl | rfl
    · exact ⟨_, _, rfl, by simp⟩
    · exact ⟨_, _, rfl, by simp⟩
    · exact ⟨_, _, rfl, by simp⟩

variable {ν : Type} {number : Text → Option ν}

theorem readScalar_append {v : Value ν} (reads : readScalar number l = .ok (v, rest)) (stopped : Stopped rest)
    (t : Text) : readScalar number (l ++ t) = .ok (v, rest ++ t) := by
  have words (word : List Char) (after : Text) (found : readWord word l = some after) :
      Text.ofChars word ++ after = l := List.isPrefixOf?_eq_some_iff_append_eq.mp found
  unfold readScalar at reads
  split at reads
  · rename_i found
    cases reads
    rw [← words _ _ found, List.append_assoc]
    rfl
  · rename_i found _
    cases reads
    rw [← words _ _ found, List.append_assoc]
    rfl
  · rename_i found _ _
    cases reads
    rw [← words _ _ found, List.append_assoc]
    rfl
  · rename_i no_null no_true no_false
    split at reads
    · cases reads
    rename_i literal after found
    split at reads
    · cases reads
    rename_i x converted
    cases reads
    have other {word : List Char} {d : Char} (first : word.head? = some d) (listed : d ∈ ['n', 't', 'f']) :
        readWord word (l ++ t) = none := by
      obtain ⟨c, after, rfl, apart⟩ := literal_start found
      exact readWord_other first (apart d listed) _
    have again : (firstWord numberWords (l ++ t) <|> readNumber (l ++ t)) = some (literal, rest ++ t) := by
      rcases worded : firstWord numberWords l with _ | part
      · rw [worded] at found
        rw [firstWord_none found, readNumber_append found stopped]
        rfl
      · rw [worded] at found
        cases found
        rw [firstWord_append worded]
        rfl
    unfold readScalar
    rw [other rfl (by decide), other rfl (by decide), other rfl (by decide), again]
    dsimp only
    rw [converted]

/-! Values. -/

/-- More text and more fuel change nothing: the value ends with its own text, or something stops it. -/
structure Steady (number : Text → Option ν) (fuel : ℕ) : Prop where
  value : ∀ {l rest : Text} {v : Value ν}, readValue number fuel l = .ok (v, rest) →
    (l.head? = some (.char '\x7b') ∨ Stopped rest) → ∀ fuel' t, fuel ≤ fuel' →
      readValue number fuel' (l ++ t) = .ok (v, rest ++ t)
  members : ∀ {l rest : Text} {ms : List (Text × Value ν)}, readMembers number fuel l = .ok (ms, rest) →
    ∀ fuel' t, fuel ≤ fuel' → readMembers number fuel' (l ++ t) = .ok (ms, rest ++ t)
  items : ∀ {l rest : Text} {vs : List (Value ν)}, readItems number fuel l = .ok (vs, rest) →
    ∀ fuel' t, fuel ≤ fuel' → readItems number fuel' (l ++ t) = .ok (vs, rest ++ t)

private theorem readValue_nil (fuel : ℕ) (part : Value ν × Text) : readValue number fuel [] ≠ .ok part := by
  intro reads
  cases fuel with
  | zero =>
    rw [readValue] at reads
    cases reads
  | succ fuel => cases reads

private theorem readMembers_nil (fuel : ℕ) (part : List (Text × Value ν) × Text) :
    readMembers number fuel [] ≠ .ok part := by
  intro reads
  cases fuel with
  | zero =>
    rw [readMembers] at reads
    cases reads
  | succ fuel => cases reads

private theorem readItems_nil (fuel : ℕ) (part : List (Value ν) × Text) : readItems number fuel [] ≠ .ok part := by
  intro reads
  cases fuel with
  | zero =>
    rw [readItems] at reads
    cases reads
  | succ fuel =>
    rw [readItems] at reads
    obtain ⟨⟨v, rest⟩, reads_value, -⟩ := bind_ok reads
    exact readValue_nil fuel _ reads_value

/-- Where a comma or the end of the list follows, no numeral goes on. -/
private theorem more_stopped {closing : Char} {part : Bool × Text} (reads : more closing l = .ok part)
    (mark : isNumeral (.char closing) = false) : Stopped l := by
  unfold more at reads
  split at reads
  · rename_i d after skipped
    have last : isNumeral d = false := by
      split_ifs at reads with comma ends
      · rw [comma]
        rfl
      · rw [ends]
        exact mark
    cases l with
    | nil => cases skipped
    | cons c l =>
      refine ⟨c, l, rfl, ?_⟩
      cases blank : isBlank c with
      | true =>
        cases c with
        | surrogate n => rfl
        | char c =>
          simp only [isBlank, Bool.or_eq_true, decide_eq_true_eq] at blank
          rcases blank with ((rfl | rfl) | rfl) | rfl <;> rfl
      | false =>
        rw [skipBlanks, List.dropWhile_cons_of_neg (by rw [blank]; exact Bool.false_ne_true)] at skipped
        cases skipped
        exact last
  · cases reads

private theorem ok_bind {α β : Type} (a : α) (f : α → Except Refusal β) : (Except.ok a >>= f) = f a := rfl

private theorem readMembers_append {fuel : ℕ} (inner : Steady number fuel) {ms : List (Text × Value ν)}
    (reads : readMembers number (fuel + 1) l = .ok (ms, rest)) (fuel' : ℕ) (t : Text) (enough : fuel ≤ fuel') :
    readMembers number (fuel' + 1) (l ++ t) = .ok (ms, rest ++ t) := by
  by_cases quote : ∃ after, l = .char '"' :: after
  · obtain ⟨after, rfl⟩ := quote
    rw [readMembers] at reads
    obtain ⟨⟨key, l₁⟩, reads_key, reads⟩ := bind_ok reads
    obtain ⟨l₂, reads_colon, reads⟩ := bind_ok reads
    obtain ⟨⟨v, l₃⟩, reads_value, reads⟩ := bind_ok reads
    obtain ⟨⟨another, l₄⟩, reads_mark, reads⟩ := bind_ok reads
    have stopped := more_stopped reads_mark rfl
    have visible : skipBlanks l₂ ≠ [] := by
      intro empty
      rw [empty] at reads_value
      exact readValue_nil fuel _ reads_value
    dsimp only [List.cons_append]
    rw [readMembers, readString_append reads_key, ok_bind]
    dsimp only
    rw [expect_append reads_colon, ok_bind, skipBlanks_append visible,
      inner.value reads_value (.inr stopped) fuel' t enough, ok_bind]
    dsimp only
    cases another with
    | true =>
      obtain ⟨⟨others, last⟩, reads_others, gives⟩ := bind_ok reads
      cases gives
      have goes_on : l₄ ≠ [] := by
        rintro rfl
        exact readMembers_nil fuel _ reads_others
      rw [more_append reads_mark (fun _ => goes_on), ok_bind]
      dsimp only
      rw [if_pos rfl, inner.members reads_others fuel' t enough]
      rfl
    | false =>
      cases reads
      rw [more_append reads_mark (fun goes_on => by cases goes_on), ok_bind]
      rfl
  · rw [readMembers.eq_3 _ _ _ fun after here => quote ⟨after, here⟩] at reads
    cases reads

private theorem readItems_append {fuel : ℕ} (inner : Steady number fuel) {vs : List (Value ν)}
    (reads : readItems number (fuel + 1) l = .ok (vs, rest)) (fuel' : ℕ) (t : Text) (enough : fuel ≤ fuel') :
    readItems number (fuel' + 1) (l ++ t) = .ok (vs, rest ++ t) := by
  rw [readItems] at reads
  obtain ⟨⟨v, l₁⟩, reads_value, reads⟩ := bind_ok reads
  obtain ⟨⟨another, l₂⟩, reads_mark, reads⟩ := bind_ok reads
  have stopped := more_stopped reads_mark rfl
  rw [readItems, inner.value reads_value (.inr stopped) fuel' t enough, ok_bind]
  dsimp only
  cases another with
  | true =>
    obtain ⟨⟨others, last⟩, reads_others, gives⟩ := bind_ok reads
    cases gives
    have goes_on : l₂ ≠ [] := by
      rintro rfl
      exact readItems_nil fuel _ reads_others
    rw [more_append reads_mark (fun _ => goes_on), ok_bind]
    dsimp only
    rw [if_pos rfl, inner.items reads_others fuel' t enough]
    rfl
  | false =>
    cases reads
    rw [more_append reads_mark (fun goes_on => by cases goes_on), ok_bind]
    rfl

private theorem readValue_append {fuel : ℕ} (inner : Steady number fuel) {v : Value ν}
    (reads : readValue number (fuel + 1) l = .ok (v, rest)) (ends : l.head? = some (.char '\x7b') ∨ Stopped rest)
    (fuel' : ℕ) (t : Text) (enough : fuel ≤ fuel') :
    readValue number (fuel' + 1) (l ++ t) = .ok (v, rest ++ t) := by
  by_cases quote : ∃ after, l = .char '"' :: after
  · obtain ⟨after, rfl⟩ := quote
    obtain ⟨⟨s, last⟩, reads_string, gives⟩ := bind_ok reads
    cases gives
    dsimp only [List.cons_append]
    rw [readValue, readString_append reads_string]
    rfl
  by_cases brace : ∃ after, l = .char '\x7b' :: after
  · obtain ⟨after, rfl⟩ := brace
    rw [readValue] at reads
    dsimp only [List.cons_append]
    rw [readValue]
    split at reads
    · rename_i last skipped
      cases reads
      rw [skipBlanks_append (by rw [skipped]; exact List.cons_ne_nil _ _), skipped]
      rfl
    · rename_i more_text other
      obtain ⟨⟨ms, last⟩, reads_members, gives⟩ := bind_ok reads
      cases gives
      have visible : skipBlanks after ≠ [] := by
        intro empty
        rw [empty] at reads_members
        exact readMembers_nil fuel _ reads_members
      rw [skipBlanks_append visible]
      split
      · rename_i same
        obtain ⟨c, others, first⟩ := List.exists_cons_of_ne_nil visible
        rw [first] at same
        cases same
        exact absurd first (other others)
      · rw [inner.members reads_members fuel' t enough]
        rfl
  by_cases bracket : ∃ after, l = .char '[' :: after
  · obtain ⟨after, rfl⟩ := bracket
    rw [readValue] at reads
    dsimp only [List.cons_append]
    rw [readValue]
    split at reads
    · rename_i last skipped
      cases reads
      rw [skipBlanks_append (by rw [skipped]; exact List.cons_ne_nil _ _), skipped]
      rfl
    · rename_i more_text other
      obtain ⟨⟨vs, last⟩, reads_items, gives⟩ := bind_ok reads
      cases gives
      have visible : skipBlanks after ≠ [] := by
        intro empty
        rw [empty] at reads_items
        exact readItems_nil fuel _ reads_items
      rw [skipBlanks_append visible]
      split
      · rename_i same
        obtain ⟨c, others, first⟩ := List.exists_cons_of_ne_nil visible
        rw [first] at same
        cases same
        exact absurd first (other others)
      · rw [inner.items reads_items fuel' t enough]
        rfl
  · cases l with
    | nil => exact absurd reads (readValue_nil _ _)
    | cons c after =>
      have stopped : Stopped rest := by
        refine ends.resolve_left fun first => brace ⟨after, ?_⟩
        rw [Option.some.inj first]
      rw [readValue.eq_5 _ _ _ (fun after here => quote ⟨after, here⟩)
        (fun after here => brace ⟨after, here⟩) (fun after here => bracket ⟨after, here⟩)] at reads
      dsimp only [List.cons_append]
      rw [readValue.eq_5 _ _ _ (fun _ same => quote ⟨after, by rw [(List.cons.inj same).1]⟩)
        (fun _ same => brace ⟨after, by rw [(List.cons.inj same).1]⟩)
        (fun _ same => bracket ⟨after, by rw [(List.cons.inj same).1]⟩)]
      exact readScalar_append reads stopped t

theorem steady (number : Text → Option ν) (fuel : ℕ) : Steady number fuel := by
  induction fuel with
  | zero =>
    refine ⟨fun reads => ?_, fun reads => ?_, fun reads => ?_⟩
    · rw [readValue] at reads
      cases reads
    · rw [readMembers] at reads
      cases reads
    · rw [readItems] at reads
      cases reads
  | succ fuel ih =>
    refine ⟨fun reads ends fuel' t enough => ?_, fun reads fuel' t enough => ?_, fun reads fuel' t enough => ?_⟩
    · obtain ⟨k, rfl⟩ := Nat.exists_eq_add_of_le' (Nat.lt_of_lt_of_le (Nat.succ_pos fuel) enough)
      exact readValue_append ih reads ends k t (by omega)
    · obtain ⟨k, rfl⟩ := Nat.exists_eq_add_of_le' (Nat.lt_of_lt_of_le (Nat.succ_pos fuel) enough)
      exact readMembers_append ih reads k t (by omega)
    · obtain ⟨k, rfl⟩ := Nat.exists_eq_add_of_le' (Nat.lt_of_lt_of_le (Nat.succ_pos fuel) enough)
      exact readItems_append ih reads k t (by omega)

/-- An object that can be loaded is still loaded when blanks follow, and nothing is when anything else does. -/
theorem loads_followed {v : Value ν} (reads : loads number (.char '\x7b' :: l) = .ok v) (t : Text) :
    loads number (.char '\x7b' :: l ++ t) = if skipBlanks t = [] then .ok v else .error .malformed := by
  obtain ⟨raw, rest, value, blank, rfl⟩ := loads_reads reads
  rw [skipBlanks_brace] at value
  have longer : fuelFor (.char '\x7b' :: l) ≤ fuelFor (.char '\x7b' :: l ++ t) := by
    unfold fuelFor
    rw [List.length_append]
    omega
  have again := (steady number _).value value (.inl rfl) _ t longer
  have after : skipBlanks (rest ++ t) = skipBlanks t := by
    unfold skipBlanks at *
    rw [List.dropWhile_append, if_pos (by rw [blank]; rfl)]
  have no_mark : (.char '\x7b' :: l ++ t : Text).head? ≠ some byteOrderMark := by
    simp [byteOrderMark]
  have opened : skipBlanks (.char '\x7b' :: l ++ t) = .char '\x7b' :: l ++ t := rfl
  rw [loads, if_neg no_mark, opened, again, ok_bind]
  dsimp only
  rw [after]
  rfl

end DroidOs.Lib.JsonAppend
