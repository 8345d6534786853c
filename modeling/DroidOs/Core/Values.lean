/- GID: DroidOs/Core/Values
   generality: I
   source: src/droidos/core/errors.py, src/droidos/core/models.py
   digest: The dynamic values, numbers, texts and exceptions the brain computes with. -/

import Mathlib.Data.Rat.Floor
import DroidOs.Lib.Procedure

set_option autoImplicit false
set_option relaxedAutoImplicit false

namespace DroidOs.Core.Values

open DroidOs.Lib.Procedure

/-! Numbers. A finite float is its exact value; rounding is not modelled. -/

inductive PyFloat
  | nan
  | inf (negative : Bool)
  | fin (q : ℚ)
  deriving DecidableEq

namespace PyFloat

instance : Inhabited PyFloat := ⟨.fin 0⟩
instance (n : Nat) : OfNat PyFloat n := ⟨.fin n⟩

def neg : PyFloat → PyFloat
  | nan => nan
  | inf s => inf !s
  | fin q => fin (-q)

def add : PyFloat → PyFloat → PyFloat
  | fin a, fin b => fin (a + b)
  | inf s, inf t => if s = t then inf s else nan
  | inf s, fin _ => inf s
  | fin _, inf s => inf s
  | _, _ => nan

def mul : PyFloat → PyFloat → PyFloat
  | fin a, fin b => fin (a * b)
  | inf s, inf t => inf (s != t)
  | inf s, fin b => if b = 0 then nan else inf (s != decide (b < 0))
  | fin a, inf t => if a = 0 then nan else inf (t != decide (a < 0))
  | _, _ => nan

instance : Neg PyFloat := ⟨neg⟩
instance : Add PyFloat := ⟨add⟩
instance : Mul PyFloat := ⟨mul⟩
instance : Sub PyFloat := ⟨fun a b => a + -b⟩

/-- `a < b`; no comparison with NaN holds. -/
def lt : PyFloat → PyFloat → Bool
  | fin a, fin b => decide (a < b)
  | inf s, inf t => s && !t
  | inf s, fin _ => s
  | fin _, inf t => !t
  | _, _ => false

/-- `a == b`. -/
def eq : PyFloat → PyFloat → Bool
  | nan, _ => false
  | a, b => a = b

def le (a b : PyFloat) : Bool := lt a b || eq a b

/-- `max(a, b)` keeps its first argument unless the second is greater. -/
def max (a b : PyFloat) : PyFloat := if lt a b then b else a
def min (a b : PyFloat) : PyFloat := if lt b a then b else a

def abs (a : PyFloat) : PyFloat := if lt a 0 then -a else a

def isNan (a : PyFloat) : Bool := a = nan
def isInf (a : PyFloat) : Bool := a = inf true || a = inf false

/-- `round(a, digits)` on exact values, halves to even. -/
def round (digits : Nat) : PyFloat → PyFloat
  | fin q =>
    let scaled := q * 10 ^ digits
    let below := ⌊scaled⌋
    let rest := scaled - below
    let n := if rest < 1 / 2 ∨ (rest = 1 / 2 ∧ below % 2 = 0) then below else below + 1
    fin (n / 10 ^ digits)
  | x => x

/-- The truth value of a number. -/
def truthy (a : PyFloat) : Bool := a ≠ 0

/-- `a or b`. -/
def orElse (a b : PyFloat) : PyFloat := if a.truthy then a else b

end PyFloat

/-- `math.pi`, the double. -/
def mathPi : ℚ := 884279719003555 / 281474976710656

/-- `(a + math.pi) % (2 * math.pi) - math.pi`. -/
def wrap : PyFloat → PyFloat
  | .fin a => .fin (a - 2 * mathPi * ⌊(a + mathPi) / (2 * mathPi)⌋)
  | _ => .nan

/-- `a % (2 * math.pi)`. -/
def modTurn : PyFloat → PyFloat
  | .fin a => .fin (a - 2 * mathPi * ⌊a / (2 * mathPi)⌋)
  | _ => .nan

/-- The functions of the `math` module that a drive uses. -/
structure Libm where
  sin : PyFloat → PyFloat
  cos : PyFloat → PyFloat
  atan2 : PyFloat → PyFloat → PyFloat
  hypot : PyFloat → PyFloat → PyFloat

/-! Dynamic values, as JSON and YAML documents hold them. -/

inductive PyVal
  | none
  | bool (b : Bool)
  | int (n : Int)
  | float (x : PyFloat)
  | str (s : String)
  | list (items : List PyVal)
  | dict (items : List (PyVal × PyVal))

/-! Exceptions. -/

inductive ExnClass
  | droidError | configError | bodyError | backendError | safetyError | capabilityError
  | authorizationError | confirmationRequired | unknownIntentError | providerError
  | invalidTransition | typeError | valueError | keyError | attributeError
  | other (name : String)
  deriving DecidableEq

def ExnClass.name : ExnClass → String
  | droidError => "DroidError"
  | configError => "ConfigError"
  | bodyError => "BodyError"
  | backendError => "BackendError"
  | safetyError => "SafetyError"
  | capabilityError => "CapabilityError"
  | authorizationError => "AuthorizationError"
  | confirmationRequired => "ConfirmationRequired"
  | unknownIntentError => "UnknownIntentError"
  | providerError => "ProviderError"
  | invalidTransition => "InvalidTransition"
  | typeError => "TypeError"
  | valueError => "ValueError"
  | keyError => "KeyError"
  | attributeError => "AttributeError"
  | other name => name

/-- `isinstance(exc, DroidError)`. -/
def ExnClass.isDroidError : ExnClass → Bool
  | droidError | configError | bodyError | backendError | safetyError | capabilityError
  | authorizationError | confirmationRequired | unknownIntentError | providerError => true
  | _ => false

structure Exn where
  cls : ExnClass
  msg : String
  deriving DecidableEq

/-- `f"{type(exc).__name__}: {exc}"`. -/
def Exn.describe (e : Exn) : String := e.cls.name ++ ": " ++ e.msg

/-- What the brain takes from `str`, `repr` and number formatting. -/
structure PyText where
  lower : String → String
  isSpace : Char → Bool
  isWord : Char → Bool
  sameIgnoringCase : Char → Char → Bool
  str : PyVal → String
  repr : PyVal → String
  fixed : Nat → PyFloat → String
  parseFloat : String → Option PyFloat

namespace PyText

variable (text : PyText)

/-- `s.strip()`. -/
def strip (s : String) : String :=
  String.ofList (((s.toList.dropWhile text.isSpace).reverse.dropWhile text.isSpace).reverse)

def splitChars (text : PyText) : List Char → List Char → List (List Char)
  | word, [] => if word.isEmpty then [] else [word.reverse]
  | word, c :: cs =>
    if text.isSpace c then
      if word.isEmpty then splitChars text [] cs else word.reverse :: splitChars text [] cs
    else splitChars text (c :: word) cs

/-- `s.split()`. -/
def split (s : String) : List String := (splitChars text [] s.toList).map String.ofList

/-- `" ".join(s.split())`. -/
def normalize (s : String) : String := " ".intercalate (text.split s)

private theorem splitChars_dropWhile (cs : List Char) :
    splitChars text [] (cs.dropWhile text.isSpace) = splitChars text [] cs := by
  induction cs with
  | nil => rfl
  | cons c cs ih =>
    by_cases space : text.isSpace c = true
    · rw [List.dropWhile_cons_of_pos space, ih, splitChars, if_pos space]
      rfl
    · rw [List.dropWhile_cons_of_neg space]

private theorem splitChars_spaces {spaces : List Char} (blank : ∀ c ∈ spaces, text.isSpace c = true)
    (word : List Char) : splitChars text word spaces = splitChars text word [] := by
  induction spaces generalizing word with
  | nil => rfl
  | cons c spaces ih =>
    have rest := ih (fun d inside => blank d (List.mem_cons_of_mem c inside)) []
    simp only [splitChars, if_pos (blank c List.mem_cons_self), rest]
    cases word <;> rfl

private theorem splitChars_append {spaces : List Char} (blank : ∀ c ∈ spaces, text.isSpace c = true)
    (word cs : List Char) : splitChars text word (cs ++ spaces) = splitChars text word cs := by
  induction cs generalizing word with
  | nil => exact splitChars_spaces text blank word
  | cons c cs ih => simp only [List.cons_append, splitChars, ih]

/-- Blanks around a text do not change its words. -/
theorem split_strip (s : String) : text.split (text.strip s) = text.split s := by
  have cut (cs : List Char) : (cs.reverse.dropWhile text.isSpace).reverse ++
      (cs.reverse.takeWhile text.isSpace).reverse = cs := by
    rw [← List.reverse_append, List.takeWhile_append_dropWhile, List.reverse_reverse]
  have behind (cs : List Char) : splitChars text [] (cs.reverse.dropWhile text.isSpace).reverse =
      splitChars text [] cs := by
    conv => rhs; rw [← cut cs]
    refine (splitChars_append text (fun c inside => ?_) [] _).symm
    exact List.all_eq_true.mp List.all_takeWhile c (List.mem_reverse.mp inside)
  simp only [split, strip, String.toList_ofList]
  rw [behind, splitChars_dropWhile]

/-- `float(v)`. -/
def float : PyVal → Except Exn PyFloat
  | .bool b => .ok (if b then 1 else 0)
  | .int n =>
    if n.natAbs < 2 ^ 1024 - 2 ^ 970 then .ok (.fin n)
    else .error ⟨.other "OverflowError", "int too large to convert to float"⟩
  | .float x => .ok x
  | .str s => match text.parseFloat s with
    | some x => .ok x
    | none => .error ⟨.valueError, "could not convert string to float: " ++ text.repr (.str s)⟩
  | _ => .error ⟨.typeError, "float() argument must be a string or a real number"⟩

/-- A decimal with `digits` places, halves rounded to even. -/
private def decimal (digits : Nat) (q : ℚ) : String :=
  let n : Int := match PyFloat.round digits (.fin q) with
    | .fin r => ⌊r * 10 ^ digits⌋
    | _ => 0
  let whole := toString (n.natAbs / 10 ^ digits)
  let places := toString (n.natAbs % 10 ^ digits)
  let sign := if n < 0 then "-" else ""
  if digits = 0 then sign ++ whole
  else sign ++ whole ++ "." ++ String.ofList (List.replicate (digits - places.length) '0') ++ places

/-- Text functions that agree with Python's on ASCII texts and on the scalar
values that concrete runs print; no text reads as a number. -/
def ascii : PyText where
  lower := fun s => String.ofList (s.toList.map Char.toLower)
  isSpace := fun c => decide (c ∈ [' ', '\t', '\n', '\r'])
  isWord := fun c => c.isAlphanum || c = '_'
  sameIgnoringCase := fun c d => c.toLower = d.toLower
  str
    | .str s => s
    | .bool b => if b then "True" else "False"
    | .int n => toString n
    | _ => "None"
  repr
    | .str s => "'" ++ s ++ "'"
    | .bool b => if b then "True" else "False"
    | .int n => toString n
    | _ => "None"
  fixed
    | digits, .fin q => decimal digits q
    | _, .inf negative => if negative then "-inf" else "inf"
    | _, .nan => "nan"
  parseFloat := fun _ => none

end PyText

/-- `needle in s`. -/
def containsText (needle : String) (s : String) : Bool :=
  s.toList.tails.any fun suffix => needle.toList.isPrefixOf suffix

/-- `s.rstrip(chars)`. -/
def rstrip (chars : String) (s : String) : String :=
  String.ofList (s.toList.reverse.dropWhile fun c => decide (c ∈ chars.toList)).reverse

/-- `s.strip(chars)`. -/
def stripChars (chars : String) (s : String) : String :=
  rstrip chars (String.ofList (s.toList.dropWhile fun c => decide (c ∈ chars.toList)))

namespace PyVal

def truthy : PyVal → Bool
  | none => false
  | bool b => b
  | int n => n ≠ 0
  | float x => x.truthy
  | str s => s ≠ ""
  | list items => !items.isEmpty
  | dict items => !items.isEmpty

/-- `v or default`. -/
def orElse (v default : PyVal) : PyVal := if v.truthy then v else default

def isKey (key : String) : PyVal → Bool
  | str s => s = key
  | _ => false

/-- The value under a text key of a mapping's items. -/
def lookup (key : String) (items : List (PyVal × PyVal)) : Option PyVal :=
  (items.find? fun item => item.1.isKey key).map Prod.snd

/-- `v.get(key, default)`. -/
def get (v : PyVal) (key : String) (default : PyVal) : Except Exn PyVal :=
  match v with
  | dict items => .ok ((lookup key items).getD default)
  | _ => .error ⟨.attributeError, "object has no attribute 'get'"⟩

def hashable : PyVal → Bool
  | list _ | dict _ => false
  | _ => true

/-- The two items of what `dict` accepts as one entry. -/
def asPair : PyVal → Option (PyVal × PyVal)
  | list [k, v] => some (k, v)
  | dict [(k, _), (l, _)] => some (k, l)
  | str s => match s.toList with
    | [a, b] => some (str a.toString, str b.toString)
    | _ => Option.none
  | _ => Option.none

private def insertKey (key value : PyVal) (items : List (PyVal × PyVal)) : List (PyVal × PyVal) :=
  match key with
  | str s => if (lookup s items).isSome
      then items.map fun item => if item.1.isKey s then (item.1, value) else item
      else items ++ [(key, value)]
  | _ => items ++ [(key, value)]

private def dictOfPairs : List PyVal → List (PyVal × PyVal) → Except Exn (List (PyVal × PyVal))
  | [], items => .ok items
  | entry :: rest, items => match entry.asPair with
    | Option.none => .error ⟨.valueError, "dictionary update sequence element has wrong length"⟩
    | some (key, value) =>
      if key.hashable then dictOfPairs rest (insertKey key value items)
      else .error ⟨.typeError, "unhashable type"⟩

/-- `dict(v)`. Only text keys are merged, since no reader asks for another key. -/
def toDict : PyVal → Except Exn (List (PyVal × PyVal))
  | dict items => .ok items
  | list entries => dictOfPairs entries []
  | str s => if s = "" then .ok []
      else .error ⟨.valueError, "dictionary update sequence element #0 has length 1; 2 is required"⟩
  | _ => .error ⟨.typeError, "object is not iterable"⟩

/-- `list(v)`. -/
def toList : PyVal → Except Exn (List PyVal)
  | list items => .ok items
  | str s => .ok (s.toList.map fun c => str c.toString)
  | dict items => .ok (items.map Prod.fst)
  | _ => .error ⟨.typeError, "object is not iterable"⟩

/-- An operand of arithmetic or of an ordering with a number. -/
def number : PyVal → Except Exn PyFloat
  | bool b => .ok (if b then 1 else 0)
  | int n => .ok (.fin n)
  | float x => .ok x
  | _ => .error ⟨.typeError, "unsupported operand type"⟩

end PyVal

/-- A computation returns only if each of its parts does. -/
theorem except_bind_ok {α β : Type} {x : Except Exn α} {f : α → Except Exn β} {b : β}
    (returns : (x >>= f) = .ok b) : ∃ a, x = .ok a ∧ f a = .ok b := by
  rcases x with e | a
  · cases returns
  · exact ⟨a, rfl, returns⟩

theorem except_bind_known {α β : Type} {x : Except Exn α} {f : α → Except Exn β} {a : α} (known : x = .ok a)
    (rest : ∃ b, f a = .ok b) : ∃ b, (x >>= f) = .ok b := by
  rw [known]
  exact rest

theorem except_bind_returns {α β : Type} {x : Except Exn α} {f : α → Except Exn β} (first : ∃ a, x = .ok a)
    (rest : ∀ a, ∃ b, f a = .ok b) : ∃ b, (x >>= f) = .ok b := by
  obtain ⟨a, known⟩ := first
  exact except_bind_known known (rest a)

theorem except_ite_returns {α : Type} {c : Prop} [Decidable c] {x y : Except Exn α} (yes : c → ∃ a, x = .ok a)
    (no : ¬ c → ∃ a, y = .ok a) : ∃ a, (if c then x else y) = .ok a := by
  split
  · exact yes ‹_›
  · exact no ‹_›

theorem except_mapM_returns {α β : Type} {f : α → Except Exn β} {xs : List α} (each : ∀ x ∈ xs, ∃ y, f x = .ok y) :
    ∃ ys, xs.mapM f = .ok ys := by
  induction xs with
  | nil => exact ⟨[], rfl⟩
  | cons x xs ih =>
    obtain ⟨y, first⟩ := each x List.mem_cons_self
    obtain ⟨ys, rest⟩ := ih fun x' member => each x' (List.mem_cons_of_mem x member)
    rw [List.mapM_cons, first, rest]
    exact ⟨y :: ys, rfl⟩

/-- An outcome computed without touching the state. -/
def ofExcept {σ α : Type} (r : Except Exn α) : Proc σ Exn α := fun s => (r, s)

@[simp] theorem ofExcept_run {σ α : Type} (r : Except Exn α) (s : σ) :
    (ofExcept r : Proc σ Exn α) s = (r, s) := rfl

theorem keeps_ofExcept {σ α : Type} {I : σ → Prop} (r : Except Exn α) :
    Keeps I (ofExcept r : Proc σ Exn α) := by
  rw [keeps_iff]
  exact fun s holds => holds

/-- `BodyVelocity`. -/
structure BodyVelocity where
  linearX : PyFloat := 0
  linearY : PyFloat := 0
  angularZ : PyFloat := 0

def BodyVelocity.isZero (v : BodyVelocity) : Bool :=
  v.linearX.eq 0 && v.linearY.eq 0 && v.angularZ.eq 0

structure Pose where
  x : PyFloat := 0
  y : PyFloat := 0
  theta : PyFloat := 0

/-- The movement-permission token issued by the safety gateway. -/
structure MotionPermission where
  granted : Bool
  reason : String := ""
  token : String := ""

inductive DiagnosticLevel
  | ok | warn | error | stale
  deriving DecidableEq

end DroidOs.Core.Values
