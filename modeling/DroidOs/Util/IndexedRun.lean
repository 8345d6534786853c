/- GID: DroidOs/Util/IndexedRun
   generality: I
   source: src/droidos/util/miniyaml.py
   digest: The YAML parser comes to an end within its indices, and what it then has read. -/

import DroidOs.Util.Indexed
import DroidOs.Util.Parsed
import Mathlib.Algebra.Order.BigOperators.Group.List

set_option autoImplicit false
set_option relaxedAutoImplicit false

namespace DroidOs.Util.IndexedRun

open DroidOs.Lib DroidOs.Core.Values DroidOs.Util.Characters DroidOs.Util.Parsed DroidOs.Util.Indexed
open MiniYaml (Line Entries Stop isQuote indentOf isMarker splitFlow inside word isItem shown mapping scalarWithin)

variable {α β : Type} {text : YamlText}

/-! Indices in range. -/

theorem item_ok {s : List α} {i : ℕ} {a : α} (found : s[i]? = some a) : item s i = .ok a := by
  rw [item, found]

theorem item_getElem {s : List α} {i : ℕ} (inRange : i < s.length) : item s i = .ok s[i] :=
  item_ok (List.getElem?_eq_getElem inRange)

theorem lastItem_ok {s : List α} {a : α} (found : s.getLast? = some a) : lastItem s = .ok a := by
  rw [lastItem, found]

theorem ok_bind {a : α} {f : α → Except Halt β} : ((.ok a : Except Halt α) >>= f) = f a := rfl

/-! Lines. -/

/-- The character before `i` decides whether a `#` at `i` starts a comment. -/
private theorem stripCommentFrom_eq (front rest : List Char) (inSingle inDouble : Bool) :
    stripCommentFrom (front ++ rest) inSingle inDouble front.length rest =
      .ok (front ++ MiniYaml.stripComment inSingle inDouble front.getLast? rest) := by
  induction rest generalizing front inSingle inDouble with
  | nil => rw [stripCommentFrom, MiniYaml.stripComment]
  | cons ch rest ih =>
    have next (inSingle inDouble : Bool) :
        stripCommentFrom (front ++ ch :: rest) inSingle inDouble (front.length + 1) rest =
          .ok (front ++ ch :: MiniYaml.stripComment inSingle inDouble (some ch) rest) := by
      have later := ih (front ++ [ch]) inSingle inDouble
      simpa using later
    rw [stripCommentFrom, MiniYaml.stripComment]
    split
    · exact next _ _
    split
    · exact next _ _
    by_cases opens : ch = '#' ∧ inSingle = false ∧ inDouble = false
    · obtain ⟨rfl, rfl, rfl⟩ := opens
      rw [if_pos ⟨rfl, rfl, rfl⟩]
      rcases List.eq_nil_or_concat front with rfl | ⟨front, before, rfl⟩
      · rfl
      · have found : item (front.concat before ++ '#' :: rest) ((front.concat before).length - 1) = .ok before := by
          refine item_ok ?_
          simp
        rw [if_neg (by simp), found, ok_bind]
        have last : (front.concat before).getLast? = some before := by simp
        have blank : (before = ' ' ∨ before = '\t') ↔ (('#' : Char) = '#' ∧ false = false ∧ false = false ∧
            (some before = none ∨ some before = some ' ' ∨ some before = some '\t')) := by simp
        rw [last]
        by_cases comment : before = ' ' ∨ before = '\t'
        · rw [if_pos comment, if_pos (blank.mp comment), List.take_left', List.append_nil]
          · rfl
          · rfl
        · rw [if_neg comment, if_neg fun starts => comment (blank.mpr starts)]
          exact next _ _
    · rw [if_neg opens, if_neg fun starts => opens ⟨starts.1, starts.2.1, starts.2.2.1⟩]
      exact next _ _

theorem stripComment_eq (line : List Char) :
    Indexed.stripComment line = .ok (MiniYaml.stripComment false false none line) :=
  stripCommentFrom_eq [] line false false

private theorem cleanLine_eq (raw : List Char) : Indexed.cleanLine raw = .ok (MiniYaml.cleanLine raw) := by
  rw [Indexed.cleanLine, stripComment_eq, ok_bind, MiniYaml.cleanLine]
  split
  · rfl
  split <;> rfl

theorem cleanLines_eq (document : List Char) :
    Indexed.cleanLines document = .ok (MiniYaml.cleanLines document) := by
  rw [Indexed.cleanLines, MiniYaml.cleanLines]
  induction splitlines document with
  | nil => rfl
  | cons raw raws ih =>
    rw [cleanEach, cleanLine_eq, ok_bind, ih, ok_bind, List.filterMap_cons]
    cases MiniYaml.cleanLine raw <;> rfl

/-! Scalars. -/

/-- A token of two characters has a first and a last. -/
private theorem ends_of_long {token : List Char} (long : 2 ≤ token.length) :
    ∃ first last, token.head? = some first ∧ token.getLast? = some last ∧
      item token 0 = .ok first ∧ lastItem token = .ok last := by
  obtain ⟨first, rest, rfl⟩ : ∃ first rest, token = first :: rest := by
    cases token with
    | nil => simp at long
    | cons first rest => exact ⟨first, rest, rfl⟩
  obtain ⟨last, found⟩ : ∃ last, (first :: rest).getLast? = some last :=
    ⟨_, List.getLast?_eq_getLast_of_ne_nil (List.cons_ne_nil first rest)⟩
  exact ⟨first, last, rfl, found, item_ok rfl, lastItem_ok found⟩

theorem looksQuoted_eq (token : List Char) : Indexed.looksQuoted token = .ok (MiniYaml.looksQuoted token) := by
  rw [Indexed.looksQuoted, MiniYaml.looksQuoted]
  by_cases long : 2 ≤ token.length
  · obtain ⟨first, last, head, tail, front, back⟩ := ends_of_long long
    rw [if_pos long, front, ok_bind, back, ok_bind, head, tail]
    by_cases same : first = last
    · simp [same, long, ok_bind, pure, Except.pure]
    · simp [same, long, pure, Except.pure]
  · simp [long]

theorem looksFlow_eq (token : List Char) : Indexed.looksFlow token = .ok (MiniYaml.looksFlow token) := by
  rw [Indexed.looksFlow, MiniYaml.looksFlow]
  by_cases long : 2 ≤ token.length
  · obtain ⟨first, last, head, tail, front, back⟩ := ends_of_long long
    rw [if_pos long, front, ok_bind, head, tail]
    by_cases opens : first = '['
    · simp [opens, long, back, ok_bind, pure, Except.pure]
    · simp [opens, long, pure, Except.pure]
  · simp [long]

/-- No `ValueError` gets out of the two `try` blocks. -/
theorem number_eq (token : List Char) : number text token = .ok
    (if let some n := int text token then .int n
    else if let some x := text.parseFloat (String.ofList token) then .float x
    else .str (String.ofList token)) := by
  rw [number, readInt]
  cases int text token with
  | some n => rfl
  | none =>
    rw [readFloat]
    cases text.parseFloat (String.ofList token) <;> rfl

private theorem mapM_ok {f : α → Except Halt β} {g : α → β} {items : List α}
    (each : ∀ a ∈ items, f a = .ok (g a)) : items.mapM f = .ok (items.map g) := by
  induction items with
  | nil => rfl
  | cons a items ih =>
    have rest := ih fun b member => each b (List.mem_cons_of_mem a member)
    rw [List.mapM_cons, each a List.mem_cons_self, ok_bind, rest, ok_bind, List.map_cons]
    rfl

/-- A part of a flow list is shorter than the list, so a token needs no more fuel than it
has characters. -/
theorem scalar_eq {token : List Char} {fuel : ℕ} (enough : token.length < fuel) :
    Indexed.scalar text fuel token = .ok (MiniYaml.scalar text token) := by
  rw [MiniYaml.scalar, ← scalarWithin_eq enough (Nat.lt_succ_self _)]
  induction fuel generalizing token with
  | zero => omega
  | succ fuel ih =>
    have short := length_strip token
    rw [Indexed.scalar, scalarWithin]
    dsimp only
    cases word (strip token) with
    | some value => rfl
    | none =>
      dsimp only
      rw [looksQuoted_eq, ok_bind]
      cases MiniYaml.looksQuoted (strip token) with
      | true => rfl
      | false =>
        rw [if_neg Bool.false_ne_true, if_neg Bool.false_ne_true, looksFlow_eq, ok_bind]
        cases flow : MiniYaml.looksFlow (strip token) with
        | true =>
          rw [if_pos rfl, if_pos rfl]
          have inner := length_inner flow
          have parts : (splitFlow (strip (inside (strip token)))).mapM (Indexed.scalar text fuel) =
              .ok ((splitFlow (strip (inside (strip token)))).map (scalarWithin text fuel)) := by
            refine mapM_ok fun part listed => ih ?_
            have shorter := length_part listed
            rw [List.length_nil] at shorter
            omega
          rw [parts]
          split <;> rfl
        | false =>
          rw [if_neg Bool.false_ne_true, if_neg Bool.false_ne_true]
          exact number_eq _

theorem blockScalarKind_eq (rest : List Char) :
    Indexed.blockScalarKind rest = .ok (MiniYaml.blockScalarKind rest) := by
  rw [Indexed.blockScalarKind, MiniYaml.blockScalarKind]
  cases strip rest with
  | nil => rfl
  | cons first tail =>
    rw [if_neg (List.cons_ne_nil _ _), item_ok (a := first) rfl, ok_bind, ok_bind]
    by_cases literal : first = '|'
    · subst literal
      rfl
    by_cases folded : first = '>'
    · subst folded
      rfl
    · rw [if_pos ⟨literal, folded⟩]
      split
      next same => exact absurd (List.cons.inj same).1 literal
      next same => exact absurd (List.cons.inj same).1 folded
      next => rfl

/-! Loops over the lines. -/

/-- The deeper lines from `i` on are taken, and the loop stops at the first other line. -/
theorem deeper_eq (lines : List Line) (indent : ℕ) (part : Line → α) {fuel i : ℕ} (parts : List α)
    (inRange : i ≤ lines.length) (enough : lines.length - i < fuel) :
    ∃ j, i ≤ j ∧ j ≤ lines.length ∧ lines.drop j = (lines.drop i).dropWhile (fun line => indent < line.1) ∧
      deeper lines indent part fuel i parts =
        .ok (parts ++ ((lines.drop i).takeWhile fun line => indent < line.1).map part, j) := by
  induction fuel generalizing i parts with
  | zero => omega
  | succ fuel ih =>
    rw [deeper]
    by_cases below : i < lines.length
    · rw [if_pos below, item_getElem below, ok_bind, List.drop_eq_getElem_cons below]
      by_cases deep : indent < lines[i].1
      · rw [if_pos deep, ok_bind, List.takeWhile_cons_of_pos (by simpa using deep),
          List.dropWhile_cons_of_pos (by simpa using deep)]
        obtain ⟨j, after, within, rest, run⟩ := ih (parts ++ [part lines[i]]) (i := i + 1) below (by omega)
        refine ⟨j, by omega, within, rest, ?_⟩
        rw [run, List.append_assoc, List.map_cons]
        rfl
      · rw [if_neg deep, List.takeWhile_cons_of_neg (by simpa using deep),
          List.dropWhile_cons_of_neg (by simpa using deep)]
        refine ⟨i, Nat.le_refl i, inRange, List.drop_eq_getElem_cons below, ?_⟩
        rw [List.map_nil, List.append_nil]
        rfl
    · have done : lines.drop i = [] := List.drop_eq_nil_of_le (Nat.not_lt.mp below)
      rw [if_neg below]
      refine ⟨i, Nat.le_refl i, inRange, by rw [done]; rfl, ?_⟩
      rw [done]
      simp

theorem parseBlockScalar_eq (lines : List Line) (indent : ℕ) (block : Bool × Bool) {fuel start : ℕ}
    (inRange : start ≤ lines.length) (enough : lines.length - start < fuel) :
    ∃ j, start ≤ j ∧ j ≤ lines.length ∧
      lines.drop j = (MiniYaml.parseBlockScalar (lines.drop start) indent block).2 ∧
      Indexed.parseBlockScalar fuel lines start indent block =
        .ok ((MiniYaml.parseBlockScalar (lines.drop start) indent block).1, j) := by
  obtain ⟨j, after, within, rest, run⟩ := deeper_eq lines indent Prod.snd [] inRange enough
  refine ⟨j, after, within, rest, ?_⟩
  rw [Indexed.parseBlockScalar, run, ok_bind, List.nil_append]
  rfl

/-! The parser that is left with the lines that follow. -/

/-- Where the parser with indices stops when the other one does. -/
def haltOf : Stop → Halt
  | .outOfFuel => .running
  | .miniYamlError message => .miniYamlError message

/-- One outcome as both parsers give it: the lines left are those from an index on. -/
inductive Matches (lines : List Line) (i : ℕ) :
    Except Halt (α × ℕ) → Except Stop (α × List Line) → Prop
  | returns (a : α) {j : ℕ} : i ≤ j → j ≤ lines.length →
      Matches lines i (.ok (a, j)) (.ok (a, lines.drop j))
  | stops (stop : Stop) : Matches lines i (.error (haltOf stop)) (.error stop)

variable {lines : List Line} {i : ℕ}

theorem Matches.bind {x : Except Halt (α × ℕ)} {y : Except Stop (α × List Line)}
    {f : α × ℕ → Except Halt (β × ℕ)} {g : α × List Line → Except Stop (β × List Line)}
    (first : Matches lines i x y)
    (next : ∀ a j, i ≤ j → j ≤ lines.length → Matches lines i (f (a, j)) (g (a, lines.drop j))) :
    Matches lines i (x >>= f) (y >>= g) := by
  cases first with
  | returns a after within => exact next a _ after within
  | stops stop => exact .stops stop

theorem Matches.earlier {x : Except Halt (α × ℕ)} {y : Except Stop (α × List Line)} {j : ℕ}
    (same : Matches lines j x y) (after : i ≤ j) : Matches lines i x y := by
  cases same with
  | returns a later within => exact .returns a (after.trans later) within
  | stops stop => exact .stops stop

theorem Matches.raises (message : String) :
    Matches lines i (.error (.miniYamlError message) : Except Halt (α × ℕ))
      (.error (.miniYamlError message)) := .stops (.miniYamlError message)

/-- No line is longer. -/
def Fits (longest : ℕ) (lines : List Line) : Prop := ∀ line ∈ lines, line.2.length ≤ longest

/-- With this much fuel, three units for each line and one for each character of a line, the
two parsers agree. -/
structure Agrees (text : YamlText) (longest fuel : ℕ) : Prop where
  block : ∀ {lines i} indent, Fits longest lines → i < lines.length →
    3 * (lines.length - i) + longest + 3 ≤ fuel →
    Matches lines i (Indexed.parseBlock text fuel lines i indent)
      (MiniYaml.parseBlock text fuel (lines.drop i) indent)
  map : ∀ {lines i} indent result, Fits longest lines → i ≤ lines.length →
    3 * (lines.length - i) + longest + 1 ≤ fuel →
    Matches lines i (Indexed.parseMap text fuel lines i indent result)
      (MiniYaml.parseMap text fuel (lines.drop i) indent result)
  list : ∀ {lines i} indent result, Fits longest lines → i ≤ lines.length →
    3 * (lines.length - i) + longest + 2 ≤ fuel →
    Matches lines i (Indexed.parseList text fuel lines i indent result)
      (MiniYaml.parseList text fuel (lines.drop i) indent result)

variable {longest fuel : ℕ}

private theorem block_agrees (smaller : Agrees text longest fuel) (indent : ℕ) (fits : Fits longest lines)
    (inRange : i < lines.length) (enough : 3 * (lines.length - i) + longest + 3 ≤ fuel + 1) :
    Matches lines i (Indexed.parseBlock text (fuel + 1) lines i indent)
      (MiniYaml.parseBlock text (fuel + 1) (lines.drop i) indent) := by
  have head : (lines.drop i).head? = some lines[i] := by
    rw [List.drop_eq_getElem_cons inRange, List.head?_cons]
  rw [Indexed.parseBlock, item_getElem inRange, ok_bind, MiniYaml.parseBlock, head, Option.any_some]
  by_cases listed : isItem lines[i].2 = true
  · rw [if_pos listed, if_pos listed]
    exact (smaller.list indent [] fits inRange.le (by omega)).bind fun items j => .returns (PyVal.list items)
  · rw [if_neg listed, if_neg listed]
    exact (smaller.map indent [] fits inRange.le (by omega)).bind fun entries j => .returns (mapping entries)

private theorem map_agrees (smaller : Agrees text longest fuel) (indent : ℕ) (result : Entries)
    (fits : Fits longest lines) (inRange : i ≤ lines.length)
    (enough : 3 * (lines.length - i) + longest + 1 ≤ fuel + 1) :
    Matches lines i (Indexed.parseMap text (fuel + 1) lines i indent result)
      (MiniYaml.parseMap text (fuel + 1) (lines.drop i) indent result) := by
  rw [Indexed.parseMap]
  by_cases below : i < lines.length
  · have short := fits lines[i] (List.getElem_mem below)
    have rest := List.drop_eq_getElem_cons below
    have later (j : ℕ) (after : i + 1 ≤ j) (within : j ≤ lines.length) (entries : Entries) :
        Matches lines (i + 1) (Indexed.parseMap text fuel lines j indent entries)
          (MiniYaml.parseMap text fuel (lines.drop j) indent entries) :=
      (smaller.map indent entries fits within (by omega)).earlier after
    have next (entries : Entries) := (later (i + 1) (Nat.le_refl _) below entries).earlier (Nat.le_succ i)
    rw [if_pos below, item_getElem below, ok_bind, rest]
    rcases line : lines[i] with ⟨current, content⟩
    rw [line] at short rest
    replace short : content.length ≤ longest := short
    rw [MiniYaml.parseMap]
    dsimp only
    by_cases shallow : current < indent
    · rw [if_pos shallow, if_pos shallow, ← rest]
      exact .returns result (Nat.le_refl i) inRange
    rw [if_neg shallow, if_neg shallow]
    by_cases deep : indent < current
    · rw [if_pos deep, if_pos deep]
      exact .raises _
    rw [if_neg deep, if_neg deep]
    by_cases listed : isItem content = true
    · rw [if_pos listed, if_pos listed]
      exact .raises _
    rw [if_neg listed, if_neg listed]
    by_cases plain : ':' ∉ content
    · rw [if_pos plain, if_pos plain]
      exact .raises _
    rw [if_neg plain, if_neg plain, blockScalarKind_eq, ok_bind]
    have value_short : (strip (content.dropWhile fun c => c ≠ ':').tail).length < fuel := by
      have cut := length_strip (content.dropWhile fun c => c ≠ ':').tail
      have tail := (List.dropWhile_suffix (fun c => decide (c ≠ ':')) (l := content)).length_le
      rw [List.length_tail] at cut
      omega
    generalize strip (content.dropWhile fun c => c ≠ ':').tail = value at value_short ⊢
    cases MiniYaml.blockScalarKind value with
    | some block =>
      have fuelled : lines.length - (i + 1) < fuel := by omega
      obtain ⟨j, after, within, left, run⟩ := parseBlockScalar_eq lines indent block below fuelled
      dsimp only
      rw [run, ok_bind, ← left]
      exact (later j after within _).earlier (Nat.le_succ i)
    | none =>
      dsimp only
      by_cases empty : value = []
      · rw [if_pos empty, if_pos empty]
        by_cases follows : i + 1 < lines.length
        · have child : (lines.drop (i + 1)).head? = some lines[i + 1] := by
            rw [List.drop_eq_getElem_cons follows, List.head?_cons]
          rw [if_pos follows, item_getElem follows, ok_bind, child]
          dsimp only
          by_cases nested : indent < lines[i + 1].1
          · rw [if_pos nested, if_pos nested, ok_bind]
            have inner := smaller.block lines[i + 1].1 fits follows (by omega)
            exact (inner.bind fun value j after within => later j after within _).earlier (Nat.le_succ i)
          · rw [if_neg nested, if_neg nested]
            exact next _
        · have last : (lines.drop (i + 1)).head? = none := by
            rw [List.drop_eq_nil_of_le (Nat.not_lt.mp follows), List.head?_nil]
          rw [if_neg follows, last]
          exact next _
      · rw [if_neg empty, if_neg empty, scalar_eq value_short, ok_bind]
        exact next _
  · rw [if_neg below, List.drop_eq_nil_of_le (Nat.not_lt.mp below), MiniYaml.parseMap]
    have ended : Matches lines i (.ok (result, i)) (.ok (result, lines.drop i)) :=
      .returns result (Nat.le_refl i) inRange
    rwa [List.drop_eq_nil_of_le (Nat.not_lt.mp below)] at ended

/-- An item with a colon in it is not empty, so it has a first character to look at. -/
theorem opensMapping_eq (entry : List Char) :
    opensMapping entry = .ok (decide (':' ∈ entry ∧ entry.head?.any isQuote = false)) := by
  rw [opensMapping]
  by_cases colon : ':' ∈ entry
  · obtain ⟨first, rest, rfl⟩ := List.exists_cons_of_ne_nil (List.ne_nil_of_mem colon)
    rw [if_pos colon, item_ok (a := first) rfl, ok_bind, List.head?_cons, Option.any_some]
    cases isQuote first with
    | true => rw [decide_eq_false fun both => Bool.false_ne_true both.2.symm]; rfl
    | false => rw [decide_eq_true ⟨colon, rfl⟩]; rfl
  · rw [if_neg colon, decide_eq_false fun both => colon both.1]

private theorem list_agrees (smaller : Agrees text longest fuel) (indent : ℕ) (result : List PyVal)
    (fits : Fits longest lines) (inRange : i ≤ lines.length)
    (enough : 3 * (lines.length - i) + longest + 2 ≤ fuel + 1) :
    Matches lines i (Indexed.parseList text (fuel + 1) lines i indent result)
      (MiniYaml.parseList text (fuel + 1) (lines.drop i) indent result) := by
  rw [Indexed.parseList]
  by_cases below : i < lines.length
  · have short := fits lines[i] (List.getElem_mem below)
    have rest := List.drop_eq_getElem_cons below
    have later (j : ℕ) (after : i + 1 ≤ j) (within : j ≤ lines.length) (items : List PyVal) :
        Matches lines i (Indexed.parseList text fuel lines j indent items)
          (MiniYaml.parseList text fuel (lines.drop j) indent items) :=
      (smaller.list indent items fits within (by omega)).earlier (by omega)
    rw [if_pos below, item_getElem below, ok_bind, rest]
    rcases line : lines[i] with ⟨current, content⟩
    rw [line] at short rest
    replace short : content.length ≤ longest := short
    rw [MiniYaml.parseList]
    dsimp only
    by_cases ended : current < indent ∨ (isItem content = false ∧ current = indent)
    · rw [if_pos ended, if_pos ended, ← rest]
      exact .returns result (Nat.le_refl i) inRange
    rw [if_neg ended, if_neg ended]
    by_cases deep : indent < current
    · rw [if_pos deep, if_pos deep]
      exact .raises _
    rw [if_neg deep, if_neg deep, opensMapping_eq, ok_bind]
    have entry_short : (strip (content.drop 2)).length ≤ longest := by
      have cut := length_strip (content.drop 2)
      rw [List.length_drop] at cut
      omega
    generalize strip (content.drop 2) = entry at entry_short ⊢
    by_cases opens : ':' ∈ entry ∧ entry.head?.any isQuote = false
    · rw [decide_eq_true opens, if_pos rfl, if_pos opens]
      have fuelled : lines.length - (i + 1) < fuel := by omega
      obtain ⟨j, after, within, left, run⟩ :=
        deeper_eq lines indent id [(indent + 2, entry)] below fuelled
      rw [List.map_id, List.singleton_append] at run
      rw [run, ok_bind, ← left]
      have synth : Fits longest
          ((indent + 2, entry) :: (lines.drop (i + 1)).takeWhile fun line => indent < line.1) := by
        intro line member
        rcases List.mem_cons.mp member with rfl | inside
        · exact entry_short
        · exact fits line (List.mem_of_mem_drop ((List.takeWhile_prefix _).subset inside))
      have few := (List.takeWhile_prefix (fun line => decide (indent < line.1)) (l := lines.drop (i + 1))).length_le
      rw [List.length_drop] at few
      have inner := smaller.map (indent + 2) [] synth (Nat.zero_le _) (by rw [List.length_cons]; omega)
      rw [List.drop_zero] at inner
      generalize Indexed.parseMap text fuel _ 0 (indent + 2) [] = read,
        MiniYaml.parseMap text fuel _ (indent + 2) [] = read' at inner ⊢
      cases inner with
      | returns entries => exact later j after within _
      | stops stop => exact .stops stop
    · rw [decide_eq_false opens, if_neg Bool.false_ne_true, if_neg opens, scalar_eq (by omega), ok_bind]
      exact later (i + 1) (Nat.le_refl _) below _
  · rw [if_neg below, List.drop_eq_nil_of_le (Nat.not_lt.mp below), MiniYaml.parseList]
    have ended : Matches lines i (.ok (result, i)) (.ok (result, lines.drop i)) :=
      .returns result (Nat.le_refl i) inRange
    rwa [List.drop_eq_nil_of_le (Nat.not_lt.mp below)] at ended

private theorem agrees_all (text : YamlText) (longest fuel : ℕ) : Agrees text longest fuel := by
  induction fuel with
  | zero => constructor <;> (intros; omega)
  | succ fuel ih => exact ⟨block_agrees ih, map_agrees ih, list_agrees ih⟩

/-! Documents. -/

/-- Fuel for a document: three units for each of its lines, and one for each character. -/
def enough (document : List Char) : ℕ :=
  3 * (MiniYaml.cleanLines document).length + ((MiniYaml.cleanLines document).map fun line => line.2.length).sum + 3

/-- With enough fuel the parser does what the one without indices does. -/
theorem parse_eq (document : List Char) {fuel : ℕ} (fuelled : enough document ≤ fuel) :
    Indexed.parse text fuel document = (MiniYaml.parse text document).mapError haltOf := by
  unfold enough at fuelled
  rw [Indexed.parse, cleanLines_eq, ok_bind, MiniYaml.parse]
  rcases cleaned : MiniYaml.cleanLines document with _ | ⟨line, lines⟩
  · rfl
  rw [cleaned] at fuelled
  have fits : Fits ((line :: lines).map fun line => line.2.length).sum (line :: lines) := fun other member =>
    List.single_le_sum (fun _ _ => Nat.zero_le _) _ (List.mem_map_of_mem member)
  have same := (agrees_all text _ fuel).block line.1 fits (i := 0) (by simp) (by rw [Nat.sub_zero]; exact fuelled)
  rw [List.drop_zero, parseBlock_eq (line :: lines) line.1 (by omega)] at same
  rw [if_neg (List.cons_ne_nil _ _), item_ok (a := line) rfl, ok_bind]
  dsimp only
  generalize Indexed.parseBlock text fuel (line :: lines) 0 line.1 = read,
    MiniYaml.parseBlock text _ (line :: lines) line.1 = read' at same ⊢
  cases same with
  | stops stop => rfl
  | @returns value j after within =>
    rw [ok_bind]
    dsimp only
    by_cases consumed : j = (line :: lines).length
    · rw [if_neg (not_not_intro consumed), consumed, List.drop_length]
      rfl
    · have left : j < (line :: lines).length := Nat.lt_of_le_of_ne within consumed
      rw [if_pos consumed, item_getElem left, ok_bind, List.drop_eq_getElem_cons left]
      rfl

/-- On every text the parser comes to an end, with a value or a `MiniYamlError`: no index of a
line or of a character is out of range, and no `ValueError` of a number gets out. -/
theorem parse_total (text : YamlText) (document : List Char) : ∃ fuel, ∀ more, fuel ≤ more →
    (∃ value, Indexed.parse text more document = .ok value) ∨
      ∃ message, Indexed.parse text more document = .error (.miniYamlError message) := by
  refine ⟨enough document, fun more fuelled => ?_⟩
  have ends : MiniYaml.parse text document ≠ .error .outOfFuel := parse_ends document
  rw [parse_eq document fuelled]
  rcases parsed : MiniYaml.parse text document with (_ | message) | value
  · exact absurd parsed ends
  · exact .inr ⟨message, rfl⟩
  · exact .inl ⟨value, rfl⟩

end DroidOs.Util.IndexedRun
