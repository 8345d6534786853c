/- GID: DroidOs/Lib/Json
   generality: G
   digest: JSON values and the decoder that reads a text as one. -/

import DroidOs.Lib.Dict
import Mathlib.Data.List.Basic

set_option autoImplicit false
set_option relaxedAutoImplicit false

namespace DroidOs.Lib.Json

open DroidOs.Lib

/-- One position of a text: a character, or a surrogate that stands alone. -/
inductive Code
  | char (c : Char)
  | surrogate (n : ℕ)
  deriving DecidableEq

abbrev Text := List Code

/-- The text of ordinary characters. -/
def Text.ofChars (l : List Char) : Text := l.map .char

/-- A JSON value over numbers of any kind. -/
inductive Value (ν : Type)
  | null
  | bool (b : Bool)
  | num (x : ν)
  | str (s : Text)
  | arr (items : List (Value ν))
  | obj (members : List (Text × Value ν))

/-- Why a text is not read. `unconverted` is a number whose conversion fails. -/
inductive Refusal
  | malformed
  | unconverted
  | outOfFuel
  deriving DecidableEq

theorem bind_ok {ε α β : Type} {x : Except ε α} {f : α → Except ε β} {b : β}
    (gives : x >>= f = .ok b) : ∃ a, x = .ok a ∧ f a = .ok b := by
  cases x with
  | error e => exact nomatch gives
  | ok a => exact ⟨a, rfl, gives⟩

theorem bind_error {ε α β : Type} {x : Except ε α} {f : α → Except ε β} {e : ε}
    (fails : x >>= f = .error e) : x = .error e ∨ ∃ a, x = .ok a ∧ f a = .error e := by
  cases x with
  | error e' =>
    cases fails
    exact .inl rfl
  | ok a => exact .inr ⟨a, rfl, fails⟩

/-! Blanks and marks. -/

def isBlank : Code → Bool
  | .char c => c = ' ' || c = '\t' || c = '\n' || c = '\r'
  | .surrogate _ => false

def skipBlanks (l : Text) : Text := l.dropWhile isBlank

/-- The text after a mark that blanks may precede. -/
def expect (c : Char) (l : Text) : Except Refusal Text :=
  match skipBlanks l with
  | d :: rest => if d = .char c then .ok rest else .error .malformed
  | [] => .error .malformed

/-- After an item: whether a comma announces another, or the closing mark follows. -/
def more (closing : Char) (l : Text) : Except Refusal (Bool × Text) :=
  match skipBlanks l with
  | d :: rest =>
    if d = .char ',' then .ok (true, skipBlanks rest)
    else if d = .char closing then .ok (false, rest)
    else .error .malformed
  | [] => .error .malformed

/-! Strings. -/

/-- A piece of a string: a position of the text, or the number of an escape of four digits. -/
inductive Piece
  | plain (c : Code)
  | unit (n : ℕ)

def hexDigit : Code → Option ℕ
  | .char c =>
    if '0' ≤ c ∧ c ≤ '9' then some (c.toNat - '0'.toNat)
    else if 'a' ≤ c ∧ c ≤ 'f' then some (c.toNat - 'a'.toNat + 10)
    else if 'A' ≤ c ∧ c ≤ 'F' then some (c.toNat - 'A'.toNat + 10)
    else none
  | .surrogate _ => none

def hexNumber (a b c d : Code) : Option ℕ := do
  let a ← hexDigit a
  let b ← hexDigit b
  let c ← hexDigit c
  let d ← hexDigit d
  return ((a * 16 + b) * 16 + c) * 16 + d

/-- What a backslash and one character stand for. -/
def unescape : Code → Option Char
  | .char '"' => some '"'
  | .char '\\' => some '\\'
  | .char '/' => some '/'
  | .char 'b' => some '\x08'
  | .char 'f' => some '\x0c'
  | .char 'n' => some '\n'
  | .char 'r' => some '\r'
  | .char 't' => some '\t'
  | _ => none

def isControl : Code → Bool
  | .char c => c < ' '
  | .surrogate _ => false

/-- The pieces of a string up to its closing quote, and the text after it. -/
def readPieces : Text → Except Refusal (List Piece × Text)
  | [] => .error .malformed
  | .char '"' :: rest => .ok ([], rest)
  | .char '\\' :: .char 'u' :: a :: b :: c :: d :: rest =>
    match hexNumber a b c d with
    | none => .error .malformed
    | some n => do
      let (pieces, rest) ← readPieces rest
      return (.unit n :: pieces, rest)
  | .char '\\' :: e :: rest =>
    match unescape e with
    | none => .error .malformed
    | some c => do
      let (pieces, rest) ← readPieces rest
      return (.plain (.char c) :: pieces, rest)
  | c :: rest =>
    if isControl c || c = .char '\\' then .error .malformed
    else do
      let (pieces, rest) ← readPieces rest
      return (.plain c :: pieces, rest)

def isHigh (n : ℕ) : Bool := 0xD800 ≤ n && n < 0xDC00

def isLow (n : ℕ) : Bool := 0xDC00 ≤ n && n < 0xE000

def codeOf (n : ℕ) : Code := if isHigh n || isLow n then .surrogate n else .char (.ofNat n)

/-- A high escape and a low one right after it are one character. -/
def joined : List Piece → Text
  | [] => []
  | .plain c :: rest => c :: joined rest
  | .unit high :: .unit low :: rest =>
    if isHigh high && isLow low then
      .char (.ofNat (0x10000 + (high - 0xD800) * 0x400 + (low - 0xDC00))) :: joined rest
    else codeOf high :: joined (.unit low :: rest)
  | .unit n :: rest => codeOf n :: joined rest

/-- The string up to its closing quote. -/
def readString (l : Text) : Except Refusal (Text × Text) := do
  let (pieces, rest) ← readPieces l
  return (joined pieces, rest)

/-! Numbers and words. -/

def isDigit : Code → Bool
  | .char c => '0' ≤ c && c ≤ '9'
  | .surrogate _ => false

/-- The digits of a whole number without leading zeros, and the text after them. -/
def readWhole : Text → Option (Text × Text)
  | .char '0' :: rest => some ([.char '0'], rest)
  | c :: rest => if isDigit c then some ((c :: rest).span isDigit) else none
  | [] => none

/-- The fraction, where a digit follows the point. -/
def readFraction : Text → Text × Text
  | .char '.' :: rest =>
    match rest.span isDigit with
    | ([], _) => ([], .char '.' :: rest)
    | (digits, rest) => (.char '.' :: digits, rest)
  | l => ([], l)

def readSign : Text → Text × Text
  | .char '+' :: rest => ([.char '+'], rest)
  | .char '-' :: rest => ([.char '-'], rest)
  | l => ([], l)

/-- The exponent, where a digit follows its sign. -/
def readExponent : Text → Text × Text
  | c :: rest =>
    if c = .char 'e' ∨ c = .char 'E' then
      let (sign, digits) := readSign rest
      match digits.span isDigit with
      | ([], _) => ([], c :: rest)
      | (digits, rest) => (c :: sign ++ digits, rest)
    else ([], c :: rest)
  | [] => ([], [])

def readMinus : Text → Text × Text
  | .char '-' :: rest => ([.char '-'], rest)
  | l => ([], l)

/-- The literal of a number, and the text after it. -/
def readNumber (l : Text) : Option (Text × Text) := do
  let (minus, l) := readMinus l
  let (whole, l) ← readWhole l
  let (fraction, l) := readFraction l
  let (exponent, l) := readExponent l
  return (minus ++ whole ++ fraction ++ exponent, l)

/-- The text after a word that it starts with. -/
def readWord (word : List Char) (l : Text) : Option Text := (Text.ofChars word).isPrefixOf? l

def firstWord (words : List (List Char)) (l : Text) : Option (Text × Text) :=
  words.findSome? fun word => (readWord word l).map fun rest => (Text.ofChars word, rest)

/-- The words that stand for numbers. -/
def numberWords : List (List Char) :=
  [['N', 'a', 'N'], ['I', 'n', 'f', 'i', 'n', 'i', 't', 'y'],
    ['-', 'I', 'n', 'f', 'i', 'n', 'i', 't', 'y']]

variable {ν : Type} (number : Text → Option ν)

/-- A value without parts. `number` converts the literal of a number. -/
def readScalar (l : Text) : Except Refusal (Value ν × Text) :=
  match readWord ['n', 'u', 'l', 'l'] l, readWord ['t', 'r', 'u', 'e'] l,
    readWord ['f', 'a', 'l', 's', 'e'] l with
  | some rest, _, _ => .ok (.null, rest)
  | _, some rest, _ => .ok (.bool true, rest)
  | _, _, some rest => .ok (.bool false, rest)
  | none, none, none =>
    match firstWord numberWords l <|> readNumber l with
    | none => .error .malformed
    | some (literal, rest) =>
      match number literal with
      | none => .error .unconverted
      | some x => .ok (.num x, rest)

/-! Values. -/

mutual

/-- A value that starts here, and the text after it. -/
def readValue : ℕ → Text → Except Refusal (Value ν × Text)
  | 0, _ => .error .outOfFuel
  | _ + 1, .char '"' :: rest => do
    let (s, rest) ← readString rest
    return (.str s, rest)
  | fuel + 1, .char '{' :: rest =>
    match skipBlanks rest with
    | .char '}' :: rest => .ok (.obj [], rest)
    | inner => do
      let (members, rest) ← readMembers fuel inner
      return (.obj members, rest)
  | fuel + 1, .char '[' :: rest =>
    match skipBlanks rest with
    | .char ']' :: rest => .ok (.arr [], rest)
    | inner => do
      let (items, rest) ← readItems fuel inner
      return (.arr items, rest)
  | _ + 1, l => readScalar number l

/-- The members up to the closing brace. -/
def readMembers : ℕ → Text → Except Refusal (List (Text × Value ν) × Text)
  | 0, _ => .error .outOfFuel
  | fuel + 1, .char '"' :: rest => do
    let (key, rest) ← readString rest
    let rest ← expect ':' rest
    let (value, rest) ← readValue fuel (skipBlanks rest)
    let (another, rest) ← more '}' rest
    if another then
      let (members, rest) ← readMembers fuel rest
      return ((key, value) :: members, rest)
    else return ([(key, value)], rest)
  | _ + 1, _ => .error .malformed

/-- The items up to the closing bracket. -/
def readItems : ℕ → Text → Except Refusal (List (Value ν) × Text)
  | 0, _ => .error .outOfFuel
  | fuel + 1, l => do
    let (value, rest) ← readValue fuel l
    let (another, rest) ← more ']' rest
    if another then
      let (items, rest) ← readItems fuel rest
      return (value :: items, rest)
    else return ([value], rest)

end

mutual

/-- Each object with its members as a dictionary: the last value of a repeated key stays. -/
def Value.merged : Value ν → Value ν
  | .arr items => .arr (mergedItems items)
  | .obj members => .obj ((mergedMembers members).foldl (fun d m => Dict.set m.1 m.2 d) [])
  | .null => .null
  | .bool b => .bool b
  | .num x => .num x
  | .str s => .str s

def mergedItems : List (Value ν) → List (Value ν)
  | [] => []
  | v :: rest => v.merged :: mergedItems rest

def mergedMembers : List (Text × Value ν) → List (Text × Value ν)
  | [] => []
  | (key, v) :: rest => (key, v.merged) :: mergedMembers rest

end

/-- Enough for every text of this length. -/
def fuelFor (l : Text) : ℕ := 2 * l.length + 1

def byteOrderMark : Code := .char '\uFEFF'

/-- `json.loads` of a text. -/
def loads (l : Text) : Except Refusal (Value ν) :=
  if l.head? = some byteOrderMark then .error .malformed
  else do
    let (v, rest) ← readValue number (fuelFor (skipBlanks l)) (skipBlanks l)
    if skipBlanks rest = [] then return v.merged else .error .malformed

end DroidOs.Lib.Json
