/- GID: DroidOs/Util/Characters
   generality: I
   source: src/droidos/util/miniyaml.py
   digest: Blanks, line breaks, numerals and printed forms of Python texts. -/

import DroidOs.Core.Values
import DroidOs.Lib.TextLines

set_option autoImplicit false
set_option relaxedAutoImplicit false

namespace DroidOs.Util.Characters

open DroidOs.Lib DroidOs.Core.Values

/-- Besides number formatting, the interpreter's tables of decimal digits and of printable
characters, and its limit on the digits of a numeral, with 0 for no limit. -/
structure YamlText extends PyText where
  decimal : Char → Option Nat
  printable : Char → Bool
  maxStrDigits : Nat

namespace YamlText

/-- Texts and tables that agree with Python's on ASCII; no text reads as a float. -/
def ascii : YamlText where
  toPyText := PyText.ascii
  decimal := fun c => if c.isDigit then some (c.toNat - '0'.toNat) else none
  printable := fun c => decide (0x20 ≤ c.toNat ∧ c.toNat < 0x7F)
  maxStrDigits := 4300

variable (text : YamlText)

/-- `int` and `str` convert numerals of so many digits. -/
def converts (count : Nat) : Bool := decide (text.maxStrDigits = 0 ∨ count ≤ text.maxStrDigits)

/-- `str(n)` returns. -/
def prints (n : Int) : Bool := text.converts (Nat.toDigits 10 n.natAbs).length

end YamlText

/-- The characters `str.strip` takes off. -/
def isSpace (c : Char) : Bool :=
  decide (c.toNat ∈ [0x09, 0x0A, 0x0B, 0x0C, 0x0D, 0x1C, 0x1D, 0x1E, 0x1F, 0x20, 0x85, 0xA0, 0x1680,
    0x2000, 0x2001, 0x2002, 0x2003, 0x2004, 0x2005, 0x2006, 0x2007, 0x2008, 0x2009, 0x200A, 0x2028,
    0x2029, 0x202F, 0x205F, 0x3000])

/-- The characters `str.splitlines` cuts at. -/
def isLineBreak (c : Char) : Bool :=
  decide (c.toNat ∈ [0x0A, 0x0B, 0x0C, 0x0D, 0x1C, 0x1D, 0x1E, 0x85, 0x2028, 0x2029])

/-- `"\r\n"` is one line break. -/
def isCrLf (c d : Char) : Bool := decide (c = '\r' ∧ d = '\n')

/-- `s.strip()`. -/
def strip (s : List Char) : List Char := TextLines.strip isSpace s

/-- `s.splitlines()`. -/
def splitlines (s : List Char) : List (List Char) := TextLines.splitLines isLineBreak isCrLf s

/-- `"\n".join(lines)`. -/
def joinLines (lines : List (List Char)) : List Char := ['\n'].intercalate lines

/-- `str(n)` of an integer. -/
def intText : Int → List Char
  | .ofNat n => Nat.toDigits 10 n
  | .negSucc n => '-' :: Nat.toDigits 10 (n + 1)

private def digits (decimal : Char → Option Nat) : Nat → Bool → List Char → Option Nat
  | n, afterDigit, [] => if afterDigit then some n else none
  | n, afterDigit, c :: cs =>
    if c = '_' then if afterDigit then digits decimal n false cs else none
    else (decimal c).bind fun d => digits decimal (10 * n + d) true cs

private def numeral (text : YamlText) (cs : List Char) : Option Nat :=
  if text.converts (cs.filter fun c => c ≠ '_').length then digits text.decimal 0 false cs else none

/-- `int(s)`, where it succeeds: a sign, and digits with single underscores between them. -/
def int (text : YamlText) (s : List Char) : Option Int :=
  match strip s with
  | '-' :: cs => (numeral text cs).map fun n => -(n : Int)
  | '+' :: cs => (numeral text cs).map Int.ofNat
  | cs => (numeral text cs).map Int.ofNat

private def hex (width n : Nat) : List Char :=
  let shown := Nat.toDigits 16 n
  List.replicate (width - shown.length) '0' ++ shown

private def escape (printable : Char → Bool) (quote c : Char) : List Char :=
  if c = quote ∨ c = '\\' then ['\\', c]
  else if printable c then [c]
  else if c = '\t' then ['\\', 't']
  else if c = '\n' then ['\\', 'n']
  else if c = '\r' then ['\\', 'r']
  else if c.toNat < 0x100 then ['\\', 'x'] ++ hex 2 c.toNat
  else if c.toNat < 0x10000 then ['\\', 'u'] ++ hex 4 c.toNat
  else ['\\', 'U'] ++ hex 8 c.toNat

/-- `repr(s)` of a text. -/
def reprText (printable : Char → Bool) (s : List Char) : List Char :=
  let quote := if '\'' ∈ s ∧ '"' ∉ s then '"' else '\''
  quote :: s.flatMap (escape printable quote) ++ [quote]

theorem isSpace_of_isLineBreak {c : Char} (breaks : isLineBreak c = true) : isSpace c = true := by
  simp only [isLineBreak, isSpace, decide_eq_true_eq, List.mem_cons, List.not_mem_nil, or_false]
    at breaks ⊢
  omega

theorem isLineBreak_of_isCrLf (c d : Char) (paired : isCrLf c d = true) : isLineBreak c = true := by
  simp only [isCrLf, decide_eq_true_eq] at paired
  rw [paired.1]
  decide

theorem not_isCrLf_newline (c : Char) : isCrLf '\n' c = false := by
  simp [isCrLf]

/-! A text is printed unescaped when it holds one kind of quote at most and no backslash. -/

theorem reprText_of_printable (printable : Char → Bool) {s : List Char}
    (shown : ∀ c ∈ s, printable c = true ∧ c ≠ '\\') (quotes : ¬ ('\'' ∈ s ∧ '"' ∈ s)) :
    ∃ quote, (quote = '\'' ∨ quote = '"') ∧ quote ∉ s ∧ reprText printable s = quote :: s ++ [quote] := by
  let quote := if '\'' ∈ s ∧ '"' ∉ s then '"' else '\''
  have absent : quote ∉ s := by
    by_cases single : '\'' ∈ s ∧ '"' ∉ s
    · simp only [quote, if_pos single]
      exact single.2
    · simp only [quote, if_neg single]
      intro there
      exact single ⟨there, fun double => quotes ⟨there, double⟩⟩
  have kind : quote = '\'' ∨ quote = '"' := by
    by_cases single : '\'' ∈ s ∧ '"' ∉ s <;> simp [quote, single]
  have plain : s.flatMap (escape printable quote) = s := by
    have each : ∀ c ∈ s, escape printable quote c = [c] := by
      intro c there
      have other : ¬ (c = quote ∨ c = '\\') := by
        rintro (same | slash)
        · exact absent (same ▸ there)
        · exact (shown c there).2 slash
      rw [escape, if_neg other, if_pos (shown c there).1]
    rw [List.flatMap_congr each, List.flatMap_singleton']
  exact ⟨quote, kind, absent, by rw [reprText]; simp only [quote] at plain; rw [plain]⟩

/-! Numerals are read back. -/

/-- The table of decimal digits has the ASCII digits as they are. -/
def AsciiDigits (decimal : Char → Option Nat) : Prop :=
  ∀ c : Char, c.isDigit = true → decimal c = some (c.toNat - '0'.toNat)

theorem asciiDigits_ascii : AsciiDigits YamlText.ascii.decimal := fun _ digit => if_pos digit

private theorem not_isSpace_of_isDigit {c : Char} (digit : c.isDigit = true) : isSpace c = false := by
  simp only [Char.isDigit, Bool.and_eq_true, decide_eq_true_eq, UInt32.le_iff_toNat_le] at digit
  simp only [isSpace, decide_eq_false_iff_not, List.mem_cons, List.not_mem_nil, or_false, Char.toNat]
  have low : 48 ≤ c.val.toNat := digit.1
  have high : c.val.toNat ≤ 57 := digit.2
  omega

private theorem digits_eq {decimal : Char → Option Nat} (ascii : AsciiDigits decimal)
    {cs : List Char} (numeral : ∀ c ∈ cs, c.isDigit = true) (n : Nat) (afterDigit : Bool) :
    digits decimal n afterDigit cs =
      if afterDigit || !cs.isEmpty then some (Nat.ofDigitChars 10 cs n) else none := by
  induction cs generalizing n afterDigit with
  | nil => simp [digits, Nat.ofDigitChars_nil]
  | cons c cs ih =>
    have digit := numeral c List.mem_cons_self
    have other : c ≠ '_' := by
      rintro rfl
      revert digit
      decide
    have later := ih (fun d there => numeral d (List.mem_cons_of_mem _ there))
      (10 * n + (c.toNat - '0'.toNat)) true
    rw [digits, if_neg other, ascii c digit, Option.bind_some, later, Nat.ofDigitChars_cons]
    simp

private theorem numeral_toDigits {text : YamlText} (ascii : AsciiDigits text.decimal) {n : Nat}
    (short : text.converts (Nat.toDigits 10 n).length = true) :
    numeral text (Nat.toDigits 10 n) = some n := by
  have decimals : ∀ c ∈ Nat.toDigits 10 n, c.isDigit = true := fun c there =>
    Nat.isDigit_of_mem_toDigits (by decide) (by decide) there
  have whole : (Nat.toDigits 10 n).filter (fun c => c ≠ '_') = Nat.toDigits 10 n := by
    rw [List.filter_eq_self]
    intro c there
    have digit := decimals c there
    simp only [ne_eq, decide_eq_true_eq]
    rintro rfl
    revert digit
    decide
  rw [numeral, whole, if_pos short, digits_eq ascii decimals, Nat.ofDigitChars_ten_toDigits]
  simp [Nat.toDigits_ne_nil]

private theorem digits_none {decimal : Char → Option Nat} {c : Char} (other : c ≠ '_')
    (no_digit : decimal c = none) {cs : List Char} (there : c ∈ cs) (n : Nat) (afterDigit : Bool) :
    digits decimal n afterDigit cs = none := by
  induction cs generalizing n afterDigit with
  | nil => exact nomatch there
  | cons d cs ih =>
    rw [digits]
    rcases List.mem_cons.mp there with rfl | later
    · rw [if_neg other, no_digit]
      rfl
    · simp only [ih later]
      split
      · exact ite_self none
      · exact Option.bind_fun_none _

/-- A text with a character that is no digit is no numeral. -/
theorem int_none {text : YamlText} {s : List Char} {c : Char} (there : c ∈ strip s)
    (other : c ∉ ['-', '+', '_']) (no_digit : text.decimal c = none) : int text s = none := by
  simp only [List.mem_cons, List.not_mem_nil, or_false, not_or] at other
  have unread {cs : List Char} (there : c ∈ cs) : numeral text cs = none := by
    rw [numeral, digits_none other.2.2 no_digit there]
    exact ite_self none
  unfold int
  split
  · rename_i cs same
    rw [same] at there
    rw [unread ((List.mem_cons.mp there).resolve_left other.1)]
    rfl
  · rename_i cs same
    rw [same] at there
    rw [unread ((List.mem_cons.mp there).resolve_left other.2.1)]
    rfl
  · rw [unread there]
    rfl

/-- Every character of a printed integer is a digit, but for a sign in front. -/
theorem mem_intText {n : Int} {c : Char} (there : c ∈ intText n) : c.isDigit = true ∨ c = '-' := by
  cases n with
  | ofNat m => exact .inl (Nat.isDigit_of_mem_toDigits (by decide) (by decide) there)
  | negSucc m =>
    rcases List.mem_cons.mp there with rfl | there
    · exact .inr rfl
    · exact .inl (Nat.isDigit_of_mem_toDigits (by decide) (by decide) there)

theorem intText_ne_nil (n : Int) : intText n ≠ [] := by
  cases n <;> simp [intText, Nat.toDigits_ne_nil]

theorem not_isSpace_of_mem_intText {n : Int} {c : Char} (there : c ∈ intText n) :
    isSpace c = false := by
  rcases mem_intText there with digit | rfl
  · exact not_isSpace_of_isDigit digit
  · decide

theorem bare_intText (n : Int) : TextLines.Bare isSpace (intText n) :=
  ⟨fun _ there => not_isSpace_of_mem_intText (List.mem_of_mem_head? there),
    fun _ there => not_isSpace_of_mem_intText (List.mem_of_getLast? there)⟩

theorem strip_intText (n : Int) : strip (intText n) = intText n := TextLines.strip_of_bare (bare_intText n)

/-- `int(str(n))` is `n`. -/
theorem int_intText {text : YamlText} (ascii : AsciiDigits text.decimal) {n : Int}
    (short : text.prints n = true) : int text (intText n) = some n := by
  unfold int
  rw [strip_intText]
  cases n with
  | ofNat m =>
    have first : ∀ c ∈ Nat.toDigits 10 m, c.isDigit = true := fun c there =>
      Nat.isDigit_of_mem_toDigits (by decide) (by decide) there
    have whole := numeral_toDigits (n := m) ascii short
    rcases shown : Nat.toDigits 10 m with - | ⟨c, cs⟩
    · exact absurd shown Nat.toDigits_ne_nil
    · have digit := first c (by simp [shown])
      have unsigned : c ≠ '-' ∧ c ≠ '+' := by
        constructor <;> (rintro rfl; revert digit; decide)
      rw [shown] at whole
      simp only [intText, shown]
      split
      next same => exact absurd (List.cons.inj same).1 unsigned.1
      next same => exact absurd (List.cons.inj same).1 unsigned.2
      next => rw [whole]; rfl
  | negSucc m =>
    simp only [intText, numeral_toDigits (n := m + 1) ascii short]
    rfl

end DroidOs.Util.Characters
