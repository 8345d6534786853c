/- GID: DroidOs/Lib/JsonDumps
   generality: G
   digest: The JSON writer, and that the decoder reads its texts back. -/

import DroidOs.Lib.JsonLoads

set_option autoImplicit false
set_option relaxedAutoImplicit false

namespace DroidOs.Lib.JsonDumps

open DroidOs.Lib.Json DroidOs.Lib.JsonLoads

/-! The writer. -/

/-- The character behind the backslash, for the characters that have one of their own. -/
def shortEscape : Char → Option Char
  | '"' => some '"'
  | '\\' => some '\\'
  | '\n' => some 'n'
  | '\r' => some 'r'
  | '\t' => some 't'
  | '\x08' => some 'b'
  | '\x0c' => some 'f'
  | _ => none

def isShown (c : Char) : Bool := ' ' ≤ c && c ≤ '~'

/-- Under `ensure_ascii` a position is a character, or one or two escapes of four digits. -/
def piecesOf : Code → List Piece
  | .surrogate n => [.unit n]
  | .char c =>
    if (shortEscape c).isSome || isShown c then [.plain (.char c)]
    else if c.toNat < 0x10000 then [.unit c.toNat]
    else [.unit (0xD800 + (c.toNat - 0x10000) / 0x400), .unit (0xDC00 + (c.toNat - 0x10000) % 0x400)]

def hexChar (n : ℕ) : Char := if n < 10 then .ofNat (n + 48) else .ofNat (n + 87)

def pieceText : Piece → Text
  | .unit n => [.char '\\', .char 'u', .char (hexChar (n / 0x1000)), .char (hexChar (n / 0x100 % 0x10)),
      .char (hexChar (n / 0x10 % 0x10)), .char (hexChar (n % 0x10))]
  | .plain (.char c) => match shortEscape c with
    | some e => [.char '\\', .char e]
    | none => [.char c]
  | .plain (.surrogate n) => [.surrogate n]

/-- The text of a string behind its opening quote. -/
def dumpString (s : Text) : Text := (s.flatMap piecesOf).flatMap pieceText ++ [.char '"']

/-- A position of a numeral. -/
def isNumeral : Code → Bool
  | .char c => isDigit (.char c) || c ∈ ['+', '-', '.', 'e', 'E', 'N', 'a', 'I', 'n', 'f', 'i', 't', 'y']
  | .surrogate _ => false

/-- Numbers with their numerals: the decoder takes a numeral as a whole and gets the number back. -/
structure Numerals (ν : Type) where
  numeral : ν → Text
  convert : Text → ν
  chars : ∀ x, ∀ c ∈ numeral x, isNumeral c = true
  literal : ∀ x rest, (∀ c ∈ rest.head?, isNumeral c = false) →
    (firstWord numberWords (numeral x ++ rest) <|> readNumber (numeral x ++ rest)) = some (numeral x, rest)
  converts : ∀ x, convert (numeral x) = x

variable {ν : Type} (N : Numerals ν)

mutual

/-- `json.dumps`. -/
def dumps : Value ν → Text
  | .null => Text.ofChars ['n', 'u', 'l', 'l']
  | .bool true => Text.ofChars ['t', 'r', 'u', 'e']
  | .bool false => Text.ofChars ['f', 'a', 'l', 's', 'e']
  | .num x => N.numeral x
  | .str s => .char '"' :: dumpString s
  | .arr [] => [.char '[', .char ']']
  | .arr (v :: items) => .char '[' :: (dumps v ++ dumpItems items)
  | .obj [] => [.char '\x7b', .char '\x7d']
  | .obj ((key, v) :: members) =>
    .char '\x7b' :: .char '"' :: (dumpString key ++ .char ':' :: .char ' ' :: (dumps v ++ dumpMembers members))

/-- What stands behind an item. -/
def dumpItems : List (Value ν) → Text
  | [] => [.char ']']
  | v :: items => .char ',' :: .char ' ' :: (dumps v ++ dumpItems items)

/-- What stands behind a member. -/
def dumpMembers : List (Text × Value ν) → Text
  | [] => [.char '\x7d']
  | (key, v) :: members =>
    .char ',' :: .char ' ' :: .char '"' ::
      (dumpString key ++ .char ':' :: .char ' ' :: (dumps v ++ dumpMembers members))

end

/-! Values that a text can give back. -/

/-- Surrogates are in their range, and no high one stands right before a low one. -/
def Unpaired : Text → Prop
  | [] => True
  | .char _ :: rest => Unpaired rest
  | .surrogate n :: rest => (isHigh n = true ∨ isLow n = true) ∧
      (isHigh n = true → ∀ m, rest.head? = some (.surrogate m) → isLow m = false) ∧ Unpaired rest

mutual

/-- Every string is unpaired. -/
def Legible : Value ν → Prop
  | .str s => Unpaired s
  | .arr items => LegibleItems items
  | .obj members => LegibleMembers members
  | _ => True

def LegibleItems : List (Value ν) → Prop
  | [] => True
  | v :: items => Legible v ∧ LegibleItems items

def LegibleMembers : List (Text × Value ν) → Prop
  | [] => True
  | (key, v) :: members => Unpaired key ∧ Legible v ∧ LegibleMembers members

end

/-! Strings. -/

private theorem hexDigit_hexChar : ∀ n < 16, hexDigit (.char (hexChar n)) = some n := by decide

private theorem hexNumber_unit {n : ℕ} (small : n < 0x10000) :
    hexNumber (.char (hexChar (n / 0x1000))) (.char (hexChar (n / 0x100 % 0x10)))
      (.char (hexChar (n / 0x10 % 0x10))) (.char (hexChar (n % 0x10))) = some n := by
  have digits : ((n / 0x1000 * 16 + n / 0x100 % 0x10) * 16 + n / 0x10 % 0x10) * 16 + n % 0x10 = n := by omega
  rw [hexNumber, hexDigit_hexChar _ (by omega), hexDigit_hexChar _ (by omega), hexDigit_hexChar _ (by omega),
    hexDigit_hexChar _ (by omega)]
  exact congrArg some digits

theorem readPieces_unit {n : ℕ} (small : n < 0x10000) (l : Text) : readPieces (pieceText (.unit n) ++ l) =
    (do let (pieces, rest) ← readPieces l; return (.unit n :: pieces, rest)) := by
  simp only [pieceText, List.cons_append, List.nil_append]
  rw [readPieces, hexNumber_unit small]

private theorem readPieces_short {c e : Char} (short : shortEscape c = some e) (l : Text) :
    readPieces (.char '\\' :: .char e :: l) =
      (do let (pieces, rest) ← readPieces l; return (.plain (.char c) :: pieces, rest)) := by
  have escapes : e ≠ 'u' ∧ unescape (.char e) = some c := by
    unfold shortEscape at short
    split at short <;> cases short <;> exact ⟨by decide, rfl⟩
  rw [readPieces.eq_4 _ _ fun a b c' d rest same => ?_, escapes.2]
  · exact fun _ => escapes.1 (Code.char.inj same)

theorem readPieces_shown {c : Char} (bare : shortEscape c = none) (shown : isShown c = true) (l : Text) :
    readPieces (.char c :: l) =
      (do let (pieces, rest) ← readPieces l; return (.plain (.char c) :: pieces, rest)) := by
  have no_quote : c ≠ '"' := by
    rintro rfl
    cases bare
  have no_escape : c ≠ '\\' := by
    rintro rfl
    cases bare
  have no_control : ¬ (isControl (.char c) || (.char c : Code) = .char '\\') = true := by
    simp only [isShown, Bool.and_eq_true, decide_eq_true_eq] at shown
    simp [isControl, no_escape, shown.1]
  rw [readPieces.eq_5, if_neg no_control]
  · exact fun same => no_quote (Code.char.inj same)
  · intro a b c' d rest same
    exact absurd (Code.char.inj same) no_escape
  · intro e rest same
    exact absurd (Code.char.inj same) no_escape

/-- A piece that the writer writes. -/
def Written : Piece → Prop
  | .plain (.char c) => (shortEscape c).isSome = true ∨ isShown c = true
  | .plain (.surrogate _) => False
  | .unit n => n < 0x10000

theorem readPieces_piece {p : Piece} (written : Written p) (l : Text) : readPieces (pieceText p ++ l) =
    (do let (pieces, rest) ← readPieces l; return (p :: pieces, rest)) := by
  match p, written with
  | .unit n, small => exact readPieces_unit small l
  | .plain (.char c), known =>
    rw [pieceText]
    split
    case h_1 e short => exact readPieces_short short l
    case h_2 bare =>
      have shown := known.resolve_left (by rw [bare]; exact Bool.false_ne_true)
      exact readPieces_shown bare shown l

theorem readPieces_pieces {ps : List Piece} (written : ∀ p ∈ ps, Written p) (rest : Text) :
    readPieces (ps.flatMap pieceText ++ .char '"' :: rest) = .ok (ps, rest) := by
  induction ps with
  | nil => rfl
  | cons p ps ih =>
    rw [List.flatMap_cons, List.append_assoc, readPieces_piece (written p List.mem_cons_self),
      ih fun q inside => written q (List.mem_cons_of_mem p inside)]
    rfl

private theorem high_low_written (c : Char) : (c.toNat - 0x10000) / 0x400 < 0x400 := by
  have valid := c.valid
  unfold UInt32.isValidChar Nat.isValidChar at valid
  have bound : c.toNat < 0x110000 := by
    unfold Char.toNat
    omega
  omega

/-- How a character is written. -/
private theorem piecesOf_char (c : Char) :
    (piecesOf (.char c) = [.plain (.char c)] ∧ ((shortEscape c).isSome = true ∨ isShown c = true)) ∨
      (piecesOf (.char c) = [.unit c.toNat] ∧ c.toNat < 0x10000) ∨
      (piecesOf (.char c) = [.unit (0xD800 + (c.toNat - 0x10000) / 0x400),
        .unit (0xDC00 + (c.toNat - 0x10000) % 0x400)] ∧ 0x10000 ≤ c.toNat) := by
  by_cases known : ((shortEscape c).isSome || isShown c) = true
  · exact .inl ⟨if_pos known, by rwa [Bool.or_eq_true] at known⟩
  by_cases small : c.toNat < 0x10000
  · exact .inr (.inl ⟨(if_neg known).trans (if_pos small), small⟩)
  · exact .inr (.inr ⟨(if_neg known).trans (if_neg small), Nat.le_of_not_lt small⟩)

theorem piecesOf_written {s : Text} (unpaired : Unpaired s) : ∀ p ∈ s.flatMap piecesOf, Written p := by
  induction s with
  | nil => exact fun p inside => (by cases inside)
  | cons c s ih =>
    intro p inside
    rw [List.flatMap_cons, List.mem_append] at inside
    cases c with
    | surrogate n =>
      rcases inside with here | later
      · obtain rfl := List.mem_singleton.mp here
        rcases unpaired.1 with high | low
        · simp only [isHigh, Bool.and_eq_true, decide_eq_true_eq] at high
          exact high.2.trans (by decide)
        · simp only [isLow, Bool.and_eq_true, decide_eq_true_eq] at low
          exact low.2.trans (by decide)
      · exact ih unpaired.2.2 p later
    | char c =>
      rcases inside with here | later
      · rcases piecesOf_char c with ⟨own, known⟩ | ⟨own, small⟩ | ⟨own, large⟩
        all_goals rw [own] at here
        · obtain rfl := List.mem_singleton.mp here
          exact known
        · obtain rfl := List.mem_singleton.mp here
          exact small
        · have bound := high_low_written c
          rcases List.mem_cons.mp here with rfl | here
          · show _ < _
            omega
          · obtain rfl := List.mem_singleton.mp here
            show _ < _
            omega
      · exact ih unpaired p later

/-- The unit with which what is written of a text begins is a low surrogate only if the text begins with one. -/
private theorem piecesOf_low {s : Text} {low : ℕ} {ps : List Piece} (first : s.flatMap piecesOf = .unit low :: ps)
    (is_low : isLow low = true) : s.head? = some (.surrogate low) := by
  cases s with
  | nil => cases first
  | cons c s =>
    rw [List.flatMap_cons] at first
    cases c with
    | surrogate n =>
      obtain ⟨same, -⟩ := List.cons.inj first
      obtain rfl := Piece.unit.inj same
      rfl
    | char c =>
      exfalso
      simp only [isLow, Bool.and_eq_true, decide_eq_true_eq] at is_low
      rcases piecesOf_char c with ⟨own, -⟩ | ⟨own, -⟩ | ⟨own, -⟩
      all_goals rw [own] at first
      · cases (List.cons.inj first).1
      · have same := Piece.unit.inj (List.cons.inj first).1
        have valid := c.valid
        unfold UInt32.isValidChar Nat.isValidChar at valid
        unfold Char.toNat at same
        omega
      · have same := Piece.unit.inj (List.cons.inj first).1
        have bound := high_low_written c
        omega

private theorem codeOf_char {c : Char} : codeOf c.toNat = .char c := by
  have valid := c.valid
  unfold UInt32.isValidChar Nat.isValidChar at valid
  have apart : (isHigh c.toNat || isLow c.toNat) = false := by
    unfold Char.toNat
    simp only [isHigh, isLow, Bool.or_eq_false_iff, Bool.and_eq_false_iff, decide_eq_false_iff_not]
    omega
  rw [codeOf, apart, if_neg Bool.false_ne_true, Char.ofNat_toNat]

private theorem joined_unit {n : ℕ} {ps : List Piece}
    (apart : ∀ low rest, ps = .unit low :: rest → (isHigh n && isLow low) = false) :
    joined (.unit n :: ps) = codeOf n :: joined ps := by
  by_cases unit : ∃ low rest, ps = .unit low :: rest
  · obtain ⟨low, rest, rfl⟩ := unit
    rw [joined, apart low rest rfl, if_neg Bool.false_ne_true]
  · exact joined.eq_4 n ps fun low rest same => unit ⟨low, rest, same⟩

/-- The pieces of a text join to the text. -/
theorem joined_piecesOf {s : Text} (unpaired : Unpaired s) : joined (s.flatMap piecesOf) = s := by
  induction s with
  | nil => rfl
  | cons c s ih =>
    rw [List.flatMap_cons]
    cases c with
    | surrogate n =>
      obtain ⟨ranged, alone, later⟩ := unpaired
      have apart : ∀ low rest, s.flatMap piecesOf = .unit low :: rest → (isHigh n && isLow low) = false := by
        intro low rest first
        by_contra paired
        rw [Bool.not_eq_false, Bool.and_eq_true] at paired
        have free := alone paired.1 low (piecesOf_low first paired.2)
        rw [paired.2] at free
        cases free
      have own : codeOf n = .surrogate n := by
        rw [codeOf, if_pos (by rwa [Bool.or_eq_true])]
      rw [piecesOf, List.singleton_append, joined_unit apart, own, ih later]
    | char c =>
      have later := ih unpaired
      rcases piecesOf_char c with ⟨own, -⟩ | ⟨own, -⟩ | ⟨own, large⟩
      all_goals rw [own]
      · exact congrArg (Code.char c :: ·) later
      · have low_only (low : ℕ) (rest : List Piece) (_ : s.flatMap piecesOf = .unit low :: rest) :
            (isHigh c.toNat && isLow low) = false := by
          have valid := c.valid
          unfold UInt32.isValidChar Nat.isValidChar at valid
          have not_high : isHigh c.toNat = false := by
            unfold Char.toNat
            simp only [isHigh, Bool.and_eq_false_iff, decide_eq_false_iff_not]
            omega
          rw [not_high, Bool.false_and]
        rw [List.singleton_append, joined_unit low_only, codeOf_char, later]
      · have bound := high_low_written c
        have both : (isHigh (0xD800 + (c.toNat - 0x10000) / 0x400) &&
            isLow (0xDC00 + (c.toNat - 0x10000) % 0x400)) = true := by
          simp only [isHigh, isLow, Bool.and_eq_true, decide_eq_true_eq]
          omega
        have number : 0x10000 + (0xD800 + (c.toNat - 0x10000) / 0x400 - 0xD800) * 0x400 +
            (0xDC00 + (c.toNat - 0x10000) % 0x400 - 0xDC00) = c.toNat := by omega
        rw [List.cons_append, List.cons_append, List.nil_append, joined, both, if_pos rfl, number, Char.ofNat_toNat,
          later]

theorem readString_dumpString {s : Text} (unpaired : Unpaired s) (rest : Text) :
    readString (dumpString s ++ rest) = .ok (s, rest) := by
  rw [dumpString, List.append_assoc, List.singleton_append, readString,
    readPieces_pieces (piecesOf_written unpaired)]
  exact congrArg (fun text => Except.ok (text, rest)) (joined_piecesOf unpaired)

/-! Scalars. -/

/-- A position that neither parts values nor stands around them. -/
def Solid (c : Code) : Prop :=
  isBlank c = false ∧ c ≠ .char '"' ∧ c ≠ .char '\x7b' ∧ c ≠ .char '\x7d' ∧ c ≠ .char '[' ∧ c ≠ .char ']' ∧
    c ≠ .char ',' ∧ c ≠ .char ':'

instance (c : Code) : Decidable (Solid c) := by
  unfold Solid
  infer_instance

theorem solid_of_numeral {c : Code} (numeral : isNumeral c = true) : Solid c := by
  cases c with
  | surrogate n => cases numeral
  | char c =>
    by_cases digit : isDigit (.char c) = true
    · simp only [isDigit, Bool.and_eq_true, decide_eq_true_eq] at digit
      have apart (d : Char) (other : d < '0' ∨ '9' < d) : (.char c : Code) ≠ .char d := by
        intro same
        obtain rfl := Code.char.inj same
        rcases other with under | past
        · exact Char.not_lt.mpr digit.1 under
        · exact Char.not_lt.mpr digit.2 past
      refine ⟨?_, apart _ (by decide), apart _ (by decide), apart _ (by decide), apart _ (by decide),
        apart _ (by decide), apart _ (by decide), apart _ (by decide)⟩
      have blanks (d : Char) (other : d < '0' ∨ '9' < d) : c ≠ d := fun same => apart d other (congrArg _ same)
      simp [isBlank, blanks ' ' (by decide), blanks '\t' (by decide), blanks '\n' (by decide),
        blanks '\r' (by decide)]
    · rw [isNumeral, Bool.or_eq_true, decide_eq_true_eq] at numeral
      have sign := numeral.resolve_left digit
      simp only [List.mem_cons, List.not_mem_nil, or_false] at sign
      rcases sign with rfl | rfl | rfl | rfl | rfl | rfl | rfl | rfl | rfl | rfl | rfl | rfl | rfl <;> decide

/-- What follows a numeral and is no part of it. -/
def Ended (rest : Text) : Prop := ∀ c ∈ rest.head?, isNumeral c = false

variable {N}

/-- The decoder's conversion of literals. -/
def Numerals.number (N : Numerals ν) (l : Text) : Option ν := some (N.convert l)

private theorem no_literal {c : Char} (other : c ∈ ['n', 't', 'f', '"', '\x7b', '[']) (l : Text) :
    (firstWord numberWords (.char c :: l) <|> readNumber (.char c :: l)) = none := by
  simp only [List.mem_cons, List.not_mem_nil, or_false] at other
  rcases other with rfl | rfl | rfl | rfl | rfl | rfl <;> rfl

private theorem numeral_head {x : ν} {rest : Text} (ended : Ended rest) {c : Char}
    (other : c ∈ ['n', 't', 'f', '"', '\x7b', '[']) (l : Text) : N.numeral x ++ rest ≠ .char c :: l := by
  intro same
  have literal := N.literal x rest ended
  rw [same, no_literal other] at literal
  cases literal

theorem numeral_ne_nil (x : ν) : N.numeral x ≠ [] := by
  intro empty
  have literal := N.literal x [] fun c inside => (by cases inside)
  rw [empty] at literal
  cases literal

private theorem readWord_none {word : List Char} {l : Text} (other : ∀ rest, l ≠ Text.ofChars word ++ rest) :
    readWord word l = none := by
  rw [readWord, Option.eq_none_iff_forall_ne_some]
  intro rest found
  exact other rest (List.isPrefixOf?_eq_some_iff_append_eq.mp found).symm

theorem readScalar_numeral (x : ν) {rest : Text} (ended : Ended rest) :
    readScalar N.number (N.numeral x ++ rest) = .ok (.num x, rest) := by
  have null : readWord ['n', 'u', 'l', 'l'] (N.numeral x ++ rest) = none :=
    readWord_none fun l => numeral_head ended (by decide) _
  have true_ : readWord ['t', 'r', 'u', 'e'] (N.numeral x ++ rest) = none :=
    readWord_none fun l => numeral_head ended (by decide) _
  have false_ : readWord ['f', 'a', 'l', 's', 'e'] (N.numeral x ++ rest) = none :=
    readWord_none fun l => numeral_head ended (by decide) _
  simp only [readScalar, null, true_, false_, N.literal x rest ended, Numerals.number, N.converts]

/-! Values. -/

/-- A value's text begins with something that is neither blank nor the end of a list. -/
theorem dumps_head (v : Value ν) : ∃ c l, dumps N v = c :: l ∧ isBlank c = false ∧
    c ≠ .char ']' ∧ c ≠ .char '\x7d' := by
  match v with
  | .null => exact ⟨_, _, rfl, by decide⟩
  | .bool true => exact ⟨_, _, rfl, by decide⟩
  | .bool false => exact ⟨_, _, rfl, by decide⟩
  | .num x =>
    rw [dumps]
    cases text : N.numeral x with
    | nil => exact absurd text (numeral_ne_nil x)
    | cons c l =>
      have solid := solid_of_numeral (N.chars x c (by rw [text]; exact List.mem_cons_self))
      exact ⟨c, l, rfl, solid.1, solid.2.2.2.2.2.1, solid.2.2.2.1⟩
  | .str s => exact ⟨_, _, by rw [dumps], by decide⟩
  | .arr [] => exact ⟨_, _, by rw [dumps], by decide⟩
  | .arr (v :: items) => exact ⟨_, _, by rw [dumps], by decide⟩
  | .obj [] => exact ⟨_, _, by rw [dumps], by decide⟩
  | .obj ((key, v) :: members) => exact ⟨_, _, by rw [dumps], by decide⟩

theorem skipBlanks_dumps (v : Value ν) (rest : Text) :
    skipBlanks (dumps N v ++ rest) = dumps N v ++ rest := by
  obtain ⟨c, l, own, visible, -⟩ := dumps_head (N := N) v
  rw [own, List.cons_append, skipBlanks, List.dropWhile_cons_of_neg (by rw [visible]; exact Bool.false_ne_true)]

private theorem skipBlanks_space (l : Text) : skipBlanks (.char ' ' :: l) = skipBlanks l := rfl

/-- The result, unless the fuel runs out. -/
def Unless {α : Type} (result : Except Refusal α) (a : α) : Prop := result = .ok a ∨ result = .error .outOfFuel

theorem Unless.map {α β : Type} {result : Except Refusal α} {a : α} (given : Unless result a) (f : α → β) :
    Unless (result >>= fun b => pure (f b)) (f a) := by
  rcases given with rfl | rfl
  · exact .inl rfl
  · exact .inr rfl

private theorem except_ok_bind {α β : Type} (a : α) (f : α → Except Refusal β) : (Except.ok a >>= f) = f a := rfl

/-- The value is read back in front of what does not go on with it. -/
def ReadsBack (N : Numerals ν) (v : Value ν) : Prop := ∀ fuel rest, Ended rest →
  Unless (readValue N.number fuel (dumps N v ++ rest)) (v, rest)

private theorem reads_scalar {v : Value ν} {l : Text} (own : dumps N v = l)
    (other : ∀ rest, Ended rest → ∀ c ∈ ['"', '\x7b', '['], ∀ tail, l ++ rest ≠ .char c :: tail)
    (scalar : ∀ rest, Ended rest → readScalar N.number (l ++ rest) = .ok (v, rest)) :
    ReadsBack N v := by
  intro fuel rest ended
  rw [own]
  cases fuel with
  | zero => exact .inr (by rw [readValue])
  | succ fuel =>
    rw [readValue.eq_5 _ _ _ (other rest ended _ (by decide)) (other rest ended _ (by decide))
      (other rest ended _ (by decide)), scalar rest ended]
    exact .inl rfl

private theorem ended_cons {c : Char} (other : isNumeral (.char c) = false) (l : Text) : Ended (.char c :: l) := by
  intro d here
  obtain rfl := Option.some.inj here
  exact other

private theorem ended_items (items : List (Value ν)) (rest : Text) : Ended (dumpItems N items ++ rest) := by
  cases items with
  | nil =>
    rw [dumpItems]
    exact ended_cons (by decide) _
  | cons v items =>
    rw [dumpItems]
    exact ended_cons (by decide) _

private theorem ended_members (members : List (Text × Value ν)) (rest : Text) :
    Ended (dumpMembers N members ++ rest) := by
  cases members with
  | nil =>
    rw [dumpMembers]
    exact ended_cons (by decide) _
  | cons member members =>
    rw [dumpMembers]
    exact ended_cons (by decide) _

/-- The next item, or the end. -/
private theorem more_item (items : List (Value ν)) (rest : Text) :
    more ']' (dumpItems N items ++ rest) = match items with
      | [] => .ok (false, rest)
      | v :: items => .ok (true, dumps N v ++ (dumpItems N items ++ rest)) := by
  cases items with
  | nil =>
    rw [dumpItems]
    rfl
  | cons v items =>
    rw [dumpItems, List.cons_append, List.cons_append, List.append_assoc]
    exact congrArg (fun l => Except.ok (true, l)) (skipBlanks_dumps v _)

/-- The next member, or the end. -/
private theorem more_member (key : Text) (v : Value ν) (members : List (Text × Value ν)) (rest : Text) :
    more '\x7d' (dumpMembers N ((key, v) :: members) ++ rest) = .ok (true, .char '"' :: (dumpString key ++
      .char ':' :: .char ' ' :: (dumps N v ++ (dumpMembers N members ++ rest)))) := by
  rw [dumpMembers, List.cons_append, List.cons_append, List.cons_append, List.append_assoc, List.cons_append,
    List.cons_append, List.append_assoc]
  rfl

private theorem more_member_nil (rest : Text) : more '\x7d' (dumpMembers N [] ++ rest) = .ok (false, rest) := by
  rw [dumpMembers]
  rfl

private theorem readValue_object (number : Text → Option ν) (fuel : ℕ) (l : Text) :
    readValue number (fuel + 1) (.char '\x7b' :: .char '"' :: l) =
      (do let (members, rest) ← readMembers number fuel (.char '"' :: l); return (.obj members, rest)) := rfl

private theorem expect_colon (l : Text) : expect ':' (.char ':' :: l) = .ok l := rfl

mutual

/-- The decoder reads the text of a value back. -/
theorem readValue_dumps : (v : Value ν) → Legible v → ReadsBack N v
  | .null, _ => reads_scalar (by rw [dumps]) (by simp [Text.ofChars]) fun _ _ => rfl
  | .bool true, _ => reads_scalar (by rw [dumps]) (by simp [Text.ofChars]) fun _ _ => rfl
  | .bool false, _ => reads_scalar (by rw [dumps]) (by simp [Text.ofChars]) fun _ _ => rfl
  | .num x, _ => by
    refine reads_scalar (by rw [dumps]) (fun rest ended c inside => ?_) fun rest => readScalar_numeral x
    exact numeral_head ended (List.mem_of_mem_drop (i := 3) inside)
  | .str s, legible => by
    intro fuel rest _
    cases fuel with
    | zero => exact .inr (by rw [readValue])
    | succ fuel =>
      rw [dumps, List.cons_append, readValue, readString_dumpString legible]
      exact .inl rfl
  | .arr [], _ => by
    intro fuel rest _
    cases fuel with
    | zero => exact .inr (by rw [readValue])
    | succ fuel => exact .inl rfl
  | .arr (v :: items), legible => by
    intro fuel rest _
    cases fuel with
    | zero => exact .inr (by rw [readValue])
    | succ fuel =>
      have inner : skipBlanks (dumps N v ++ (dumpItems N items ++ rest)) =
          dumps N v ++ (dumpItems N items ++ rest) := skipBlanks_dumps v _
      have reads := readItems_dumps v (readValue_dumps v legible.1) items legible.2 fuel rest
      rw [dumps, List.cons_append, List.append_assoc, readValue, inner]
      split
      · rename_i after empty
        obtain ⟨c, l, own, -, no_end, -⟩ := dumps_head (N := N) v
        rw [own] at empty
        exact absurd (List.cons.inj empty).1 no_end
      · rcases reads with reads | out
        · rw [reads]
          exact .inl rfl
        · rw [out]
          exact .inr rfl
  | .obj [], _ => by
    intro fuel rest _
    cases fuel with
    | zero => exact .inr (by rw [readValue])
    | succ fuel => exact .inl rfl
  | .obj ((key, v) :: members), legible => by
    intro fuel rest _
    cases fuel with
    | zero => exact .inr (by rw [readValue])
    | succ fuel =>
      have reads := readMembers_dumps key legible.1 v (readValue_dumps v legible.2.1) members legible.2.2 fuel rest
      rw [dumps, List.cons_append, List.cons_append, List.append_assoc, List.cons_append, List.cons_append,
        List.append_assoc, readValue_object]
      rcases reads with reads | out
      · rw [reads]
        exact .inl rfl
      · rw [out]
        exact .inr rfl

private theorem readItems_dumps (v : Value ν) (reads : ReadsBack N v) :
    (items : List (Value ν)) → LegibleItems items → ∀ fuel rest,
      Unless (readItems N.number fuel (dumps N v ++ (dumpItems N items ++ rest)))
        (v :: items, rest)
  | [], _ => by
    intro fuel rest
    cases fuel with
    | zero => exact .inr (by rw [readItems])
    | succ fuel =>
      have mark := more_item (N := N) [] rest
      rw [readItems]
      rcases reads fuel _ (ended_items [] rest) with read | out
      · rw [read, except_ok_bind]
        dsimp only
        rw [mark]
        exact .inl rfl
      · rw [out]
        exact .inr rfl
  | w :: items, legible => by
    intro fuel rest
    cases fuel with
    | zero => exact .inr (by rw [readItems])
    | succ fuel =>
      have mark := more_item (N := N) (w :: items) rest
      have later := readItems_dumps w (readValue_dumps w legible.1) items legible.2 fuel rest
      rw [readItems]
      rcases reads fuel _ (ended_items (w :: items) rest) with read | out
      · rw [read, except_ok_bind]
        dsimp only
        rw [mark]
        exact later.map fun part => (v :: part.1, part.2)
      · rw [out]
        exact .inr rfl

private theorem readMembers_dumps (key : Text) (unpaired : Unpaired key) (v : Value ν) (reads : ReadsBack N v) :
    (members : List (Text × Value ν)) → LegibleMembers members → ∀ fuel rest,
      Unless (readMembers N.number fuel (.char '"' :: (dumpString key ++
        .char ':' :: .char ' ' :: (dumps N v ++ (dumpMembers N members ++ rest)))))
        ((key, v) :: members, rest)
  | [], _ => by
    intro fuel rest
    cases fuel with
    | zero => exact .inr (by rw [readMembers])
    | succ fuel =>
      have mark := more_member_nil (N := N) rest
      rw [readMembers, readString_dumpString unpaired, except_ok_bind]
      dsimp only
      rw [expect_colon, except_ok_bind, skipBlanks_space, skipBlanks_dumps]
      rcases reads fuel _ (ended_members [] rest) with read | out
      · rw [read, except_ok_bind]
        dsimp only
        rw [mark]
        exact .inl rfl
      · rw [out]
        exact .inr rfl
  | (other, w) :: members, legible => by
    intro fuel rest
    cases fuel with
    | zero => exact .inr (by rw [readMembers])
    | succ fuel =>
      have mark := more_member (N := N) other w members rest
      have later := readMembers_dumps other legible.1 w (readValue_dumps w legible.2.1) members legible.2.2 fuel rest
      rw [readMembers, readString_dumpString unpaired, except_ok_bind]
      dsimp only
      rw [expect_colon, except_ok_bind, skipBlanks_space, skipBlanks_dumps]
      rcases reads fuel _ (ended_members ((other, w) :: members) rest) with read | out
      · rw [read, except_ok_bind]
        dsimp only
        rw [mark]
        exact later.map fun part => ((key, v) :: part.1, part.2)
      · rw [out]
        exact .inr rfl

end

/-- The text of an object begins with its brace. -/
theorem dumps_object (members : List (Text × Value ν)) :
    ∃ l, dumps N (.obj members) = .char '\x7b' :: l := by
  cases members with
  | nil => exact ⟨_, by rw [dumps]⟩
  | cons member members => exact ⟨_, by rw [dumps]⟩

private theorem dumpMembers_last (members : List (Text × Value ν)) :
    (dumpMembers N members).getLast? = some (.char '\x7d') := by
  induction members with
  | nil =>
    rw [dumpMembers]
    rfl
  | cons member members later =>
    obtain ⟨key, v⟩ := member
    have whole : dumpMembers N ((key, v) :: members) =
        (.char ',' :: .char ' ' :: .char '"' :: (dumpString key ++ .char ':' :: .char ' ' :: dumps N v)) ++
          dumpMembers N members := by
      rw [dumpMembers]
      simp only [List.cons_append, List.append_assoc]
    rw [whole, List.getLast?_append, later]
    rfl

/-- And it ends with its brace. -/
theorem dumps_object_last (members : List (Text × Value ν)) :
    (dumps N (.obj members)).getLast? = some (.char '\x7d') := by
  cases members with
  | nil =>
    rw [dumps]
    rfl
  | cons member members =>
    obtain ⟨key, v⟩ := member
    have whole : dumps N (.obj ((key, v) :: members)) =
        (.char '\x7b' :: .char '"' :: (dumpString key ++ .char ':' :: .char ' ' :: dumps N v)) ++
          dumpMembers N members := by
      rw [dumps]
      simp only [List.cons_append, List.append_assoc]
    rw [whole, List.getLast?_append, dumpMembers_last]
    rfl

/-- An object is loaded from its own text. -/
theorem loads_dumps {members : List (Text × Value ν)} (legible : Legible (.obj members))
    (distinct : Distinct (.obj members)) :
    loads N.number (dumps N (.obj members)) = .ok (.obj members) := by
  obtain ⟨l, own⟩ := dumps_object (N := N) members
  have reads := readValue_dumps (N := N) (.obj members) legible (fuelFor (.char '\x7b' :: l)) []
    fun c inside => (by cases inside)
  rw [List.append_nil, own] at reads
  rw [own]
  refine loads_object distinct (reads.resolve_right ?_)
  exact (fed N.number _).value (Nat.lt_succ_self _)

/-! The characters of a text. -/

/-- A printable character of ASCII. -/
def Shown : Code → Prop
  | .char c => isShown c = true
  | .surrogate _ => False

instance (c : Code) : Decidable (Shown c) :=
  match c with
  | .char c => inferInstanceAs (Decidable (isShown c = true))
  | .surrogate _ => inferInstanceAs (Decidable False)

private theorem hexChar_shown : ∀ n < 16, Shown (.char (hexChar n)) := by decide

private theorem shortEscape_shown {c e : Char} (short : shortEscape c = some e) : Shown (.char e) := by
  unfold shortEscape at short
  split at short <;> cases short <;> decide

private theorem pieceText_shown {p : Piece} (written : Written p) : ∀ c ∈ pieceText p, Shown c := by
  match p, written with
  | .unit n, small =>
    have small : n < 0x10000 := small
    intro c inside
    simp only [pieceText, List.mem_cons, List.not_mem_nil, or_false] at inside
    rcases inside with rfl | rfl | rfl | rfl | rfl | rfl
    · decide
    · decide
    · exact hexChar_shown _ (by omega)
    · exact hexChar_shown _ (by omega)
    · exact hexChar_shown _ (by omega)
    · exact hexChar_shown _ (by omega)
  | .plain (.char d), known =>
    intro c inside
    rw [pieceText] at inside
    split at inside
    case h_1 e short =>
      simp only [List.mem_cons, List.not_mem_nil, or_false] at inside
      rcases inside with rfl | rfl
      · decide
      · exact shortEscape_shown short
    case h_2 bare =>
      obtain rfl := List.mem_singleton.mp inside
      exact known.resolve_left (by rw [bare]; exact Bool.false_ne_true)

private theorem dumpString_shown {s : Text} (unpaired : Unpaired s) : ∀ c ∈ dumpString s, Shown c := by
  intro c inside
  rcases List.mem_append.mp inside with here | here
  · obtain ⟨p, piece, here⟩ := List.mem_flatMap.mp here
    exact pieceText_shown (piecesOf_written unpaired p piece) c here
  · obtain rfl := List.mem_singleton.mp here
    decide

private theorem numeral_shown {c : Code} (numeral : isNumeral c = true) : Shown c := by
  cases c with
  | surrogate n => cases numeral
  | char c =>
    rw [isNumeral, Bool.or_eq_true, decide_eq_true_eq] at numeral
    rcases numeral with digit | sign
    · simp only [isDigit, Bool.and_eq_true, decide_eq_true_eq] at digit
      simp only [Shown, isShown, Bool.and_eq_true, decide_eq_true_eq]
      exact ⟨Char.le_trans (by decide) digit.1, Char.le_trans digit.2 (by decide)⟩
    · simp only [List.mem_cons, List.not_mem_nil, or_false] at sign
      rcases sign with rfl | rfl | rfl | rfl | rfl | rfl | rfl | rfl | rfl | rfl | rfl | rfl | rfl <;> decide

private theorem shown_cons {c : Code} {l : Text} (first : Shown c) (others : ∀ d ∈ l, Shown d) :
    ∀ d ∈ c :: l, Shown d := by
  intro d inside
  rcases List.mem_cons.mp inside with rfl | later
  · exact first
  · exact others d later

private theorem shown_append {l m : Text} (front : ∀ c ∈ l, Shown c) (back : ∀ c ∈ m, Shown c) :
    ∀ c ∈ l ++ m, Shown c := by
  intro c inside
  rcases List.mem_append.mp inside with here | there
  · exact front c here
  · exact back c there

mutual

/-- The text of a value is one line of printable characters. -/
theorem dumps_shown : (v : Value ν) → Legible v → ∀ c ∈ dumps N v, Shown c
  | .null, _ => by
    rw [dumps]
    decide
  | .bool true, _ => by
    rw [dumps]
    decide
  | .bool false, _ => by
    rw [dumps]
    decide
  | .num x, _ => by
    rw [dumps]
    exact fun c inside => numeral_shown (N.chars x c inside)
  | .str s, unpaired => by
    rw [dumps]
    exact shown_cons (by decide) (dumpString_shown unpaired)
  | .arr [], _ => by
    rw [dumps]
    decide
  | .arr (v :: items), legible => by
    rw [dumps]
    exact shown_cons (by decide) (shown_append (dumps_shown v legible.1) (dumpItems_shown items legible.2))
  | .obj [], _ => by
    rw [dumps]
    decide
  | .obj ((key, v) :: members), legible => by
    rw [dumps]
    refine shown_cons (by decide) (shown_cons (by decide) (shown_append (dumpString_shown legible.1) ?_))
    refine shown_cons (by decide) (shown_cons (by decide) ?_)
    exact shown_append (dumps_shown v legible.2.1) (dumpMembers_shown members legible.2.2)

private theorem dumpItems_shown :
    (items : List (Value ν)) → LegibleItems items → ∀ c ∈ dumpItems N items, Shown c
  | [], _ => by
    rw [dumpItems]
    decide
  | v :: items, legible => by
    rw [dumpItems]
    refine shown_cons (by decide) (shown_cons (by decide) ?_)
    exact shown_append (dumps_shown v legible.1) (dumpItems_shown items legible.2)

private theorem dumpMembers_shown :
    (members : List (Text × Value ν)) → LegibleMembers members → ∀ c ∈ dumpMembers N members, Shown c
  | [], _ => by
    rw [dumpMembers]
    decide
  | (key, v) :: members, legible => by
    rw [dumpMembers]
    refine shown_cons (by decide) (shown_cons (by decide) (shown_cons (by decide) ?_))
    refine shown_append (dumpString_shown legible.1) (shown_cons (by decide) (shown_cons (by decide) ?_))
    exact shown_append (dumps_shown v legible.2.1) (dumpMembers_shown members legible.2.2)

end

end DroidOs.Lib.JsonDumps
