/- GID: DroidOs/Util/Leaves
   generality: I
   source: src/droidos/util/miniyaml.py
   digest: What is written for a scalar, an empty collection or a list in a list, and how it is read. -/

import DroidOs.Util.Legible
import Mathlib.Data.Bool.AllAny

set_option autoImplicit false
set_option relaxedAutoImplicit false

namespace DroidOs.Util.Leaves

open DroidOs.Lib DroidOs.Core.Values DroidOs.Util.Characters DroidOs.Util.MiniYaml
  DroidOs.Util.Legible

variable {text : YamlText} {fuel : ℕ}

/-- A text that fills a line of its own and comes back from it. -/
structure Solid (t : List Char) : Prop where
  nonempty : t ≠ []
  bare : TextLines.Bare isSpace t
  unbroken : ∀ c ∈ t, isLineBreak c = false

theorem Solid.strip_eq {t : List Char} (solid : Solid t) : strip t = t :=
  TextLines.strip_of_bare solid.bare

/-- A text without blanks is solid. -/
theorem Solid.of_dense {t : List Char} (nonempty : t ≠ []) (dense : ∀ c ∈ t, isSpace c = false) :
    Solid t where
  nonempty := nonempty
  bare := ⟨fun c there => dense c (List.mem_of_mem_head? there),
    fun c there => dense c (List.mem_of_getLast? there)⟩
  unbroken := fun c there => by
    by_contra breaks
    have space := isSpace_of_isLineBreak (c := c) (by simpa using breaks)
    simp [dense c there] at space

/-- A text between two characters that are no blanks is solid. -/
theorem Solid.enclosed {first last : Char} {t : List Char} (front : isSpace first = false)
    (back : isSpace last = false) (unbroken : ∀ c ∈ t, isLineBreak c = false) :
    Solid (first :: t ++ [last]) where
  nonempty := by simp
  bare := by
    apply TextLines.bare_append (by simp) (by simp)
    · simpa using front
    · simpa using back
  unbroken := by
    intro c there
    have no_break {d : Char} (dense : isSpace d = false) : isLineBreak d = false := by
      by_contra breaks
      have space := isSpace_of_isLineBreak (c := d) (by simpa using breaks)
      simp [dense] at space
    rw [List.mem_append, List.mem_cons, List.mem_singleton] at there
    rcases there with (rfl | there) | rfl
    · exact no_break front
    · exact unbroken c there
    · exact no_break back

theorem solid_intText (n : Int) : Solid (intText n) :=
  .of_dense (intText_ne_nil n) fun _ there => not_isSpace_of_mem_intText there

private theorem last_enclosed (first last : Char) (t : List Char) :
    (first :: (t ++ [last])).getLast? = some last := by
  rw [← List.cons_append, List.getLast?_concat]

/-! One lemma for each way the scalar parser takes. -/

/-- The characters the named values start with. -/
private def initials : List Char := ['n', '~', 'N', 't', 'T', 'f', 'F', '[', '\x7b']

private theorem word_of_head {c : Char} {cs : List Char} (other : c ∉ initials) :
    word (c :: cs) = none := by
  simp only [initials, List.mem_cons, not_or] at other
  simp [word, other]

theorem scalarWithin_word {t : List Char} {v : PyVal} (solid : strip t = t)
    (named : word t = some v) : scalarWithin text (fuel + 1) t = v := by
  simp [scalarWithin, solid, named]

theorem scalarWithin_quoted {q : Char} {s : List Char} (quote : isQuote q = true)
    (solid : strip (q :: s ++ [q]) = q :: s ++ [q]) :
    scalarWithin text (fuel + 1) (q :: s ++ [q]) = .str (String.ofList s) := by
  have unnamed : word (q :: s ++ [q]) = none := by
    apply word_of_head
    simp only [isQuote, decide_eq_true_eq] at quote
    rcases quote with rfl | rfl <;> decide
  have looks : looksQuoted (q :: s ++ [q]) = true := by
    simp [looksQuoted, quote, last_enclosed]
  have middle : inside (q :: s ++ [q]) = s := by simp [inside]
  simp only [scalarWithin, solid, unnamed, looks, if_true, middle]

theorem scalarWithin_int (ascii : AsciiDigits text.decimal) {n : Int} (short : text.prints n = true) :
    scalarWithin text (fuel + 1) (intText n) = .int n := by
  rcases shown : intText n with - | ⟨c, cs⟩
  · exact absurd shown (intText_ne_nil n)
  · have first : c.isDigit = true ∨ c = '-' := mem_intText (n := n) (by simp [shown])
    have unnamed : word (c :: cs) = none := by
      apply word_of_head
      rcases first with digit | rfl
      · intro there
        simp only [initials, List.mem_cons, List.not_mem_nil, or_false] at there
        rcases there with rfl | rfl | rfl | rfl | rfl | rfl | rfl | rfl | rfl <;> revert digit <;> decide
      · decide
    have unquoted : looksQuoted (c :: cs) = false := by
      have plain : isQuote c = false := by
        rcases first with digit | rfl
        · by_contra quote
          simp only [isQuote, decide_eq_false_iff_not, not_not] at quote
          rcases quote with rfl | rfl <;> revert digit <;> decide
        · decide
      simp [looksQuoted, plain]
    have no_flow : looksFlow (c :: cs) = false := by
      have plain : c ≠ '[' := by
        rcases first with digit | rfl
        · rintro rfl
          revert digit
          decide
        · decide
      simp [looksFlow, plain]
    have solid := strip_intText n
    have value := int_intText ascii short
    rw [shown] at solid value
    simp [scalarWithin, solid, unnamed, unquoted, no_flow, value]

theorem scalarWithin_plain {inMapping : Bool} {s : List Char} (solid : strip s = s)
    (plain : isPlain text inMapping s = true) :
    scalarWithin text (fuel + 1) s = .str (String.ofList s) := by
  simp only [isPlain, Bool.and_eq_true, Bool.not_eq_true', Option.isNone_iff_eq_none] at plain
  obtain ⟨⟨⟨⟨⟨unnamed, unquoted⟩, no_flow⟩, no_int⟩, no_float⟩, -⟩ := plain
  simp [scalarWithin, solid, unnamed, unquoted, no_flow, no_int, no_float]

theorem scalarWithin_flow {t : List Char} (solid : Solid t) :
    scalarWithin text (fuel + 1) ('[' :: t ++ [']']) =
      .list ((splitFlow t).map (scalarWithin text fuel)) := by
  have whole : strip ('[' :: t ++ [']']) = '[' :: t ++ [']'] :=
    (Solid.enclosed (by decide) (by decide) solid.unbroken).strip_eq
  have unnamed : word ('[' :: t ++ [']']) = none := by
    simp [word, solid.nonempty]
  have unquoted : looksQuoted ('[' :: t ++ [']']) = false := by
    simp [looksQuoted, last_enclosed]
  have looks : looksFlow ('[' :: t ++ [']']) = true := by
    simp [looksFlow, last_enclosed]
  have middle : inside ('[' :: t ++ [']']) = t := by simp [inside]
  simp only [scalarWithin, whole, unnamed, unquoted, looks, if_true, middle, solid.strip_eq,
    if_neg solid.nonempty]
  rfl

/-! Printed lists. A printed item that is not a list of several has no comma outside quotes. -/

/-- A text the flow reader takes whole, outside quotes before it and after it. -/
def Sealed (t : List Char) : Prop :=
  ∀ buf rest, splitFlowFrom buf false false (t ++ rest) = splitFlowFrom (buf ++ t) false false rest

private theorem sealed_append {t u : List Char} (first : Sealed t) (second : Sealed u) :
    Sealed (t ++ u) := by
  intro buf rest
  rw [List.append_assoc, first, second, List.append_assoc]

private theorem sealed_plain {t : List Char} (plain : ∀ c ∈ t, c ∉ [',', '\'', '"']) : Sealed t := by
  induction t with
  | nil => intro buf rest; simp
  | cons c cs ih =>
    intro buf rest
    have here := plain c List.mem_cons_self
    simp only [List.mem_cons, List.not_mem_nil, or_false, not_or] at here
    have later := ih (fun d there => plain d (List.mem_cons_of_mem c there)) (buf ++ [c]) rest
    rw [List.cons_append, splitFlowFrom]
    simp only [here, false_and, if_false, not_false_eq_true, true_and, later, List.append_assoc,
      List.singleton_append]

private theorem splitFlowFrom_quoted {q : Char} {s : List Char} (quote : isQuote q = true)
    (absent : q ∉ s) (buf rest : List Char) :
    splitFlowFrom buf (decide (q = '\'')) (decide (q = '"')) (s ++ q :: rest) =
      splitFlowFrom (buf ++ s ++ [q]) false false rest := by
  simp only [isQuote, decide_eq_true_eq] at quote
  induction s generalizing buf with
  | nil => rcases quote with rfl | rfl <;> simp [splitFlowFrom]
  | cons c cs ih =>
    have other : c ≠ q := fun same => absent (by simp [same])
    have later := ih (fun there => absent (List.mem_cons_of_mem c there)) (buf ++ [c])
    rcases quote with rfl | rfl <;>
      simpa [splitFlowFrom, other] using later

theorem sealed_quoted {q : Char} {s : List Char} (quote : isQuote q = true) (absent : q ∉ s) :
    Sealed (q :: s ++ [q]) := by
  intro buf rest
  have inner := splitFlowFrom_quoted quote absent (buf ++ [q]) rest
  simp only [isQuote, decide_eq_true_eq] at quote
  rcases quote with rfl | rfl <;>
    simpa [splitFlowFrom] using inner

/-- A text as one item of a printed list. -/
structure Item (t : List Char) : Prop where
  solid : Solid t
  sealed : Sealed t

private theorem splitFlowFrom_items {t : List Char} {ts : List (List Char)} (first : Item t)
    (others : ∀ u ∈ ts, Item u) (buf : List Char) (blanks : ∀ c ∈ buf, isSpace c = true) :
    splitFlowFrom buf false false ([',', ' '].intercalate (t :: ts)) = t :: ts := by
  have cut : strip (buf ++ t) = t := by
    rw [strip, TextLines.strip_append_blanks blanks]
    exact first.solid.strip_eq
  induction ts generalizing t buf with
  | nil =>
    have whole := first.sealed buf []
    rw [List.append_nil] at whole
    simp [whole, splitFlowFrom, cut, first.solid.nonempty]
  | cons u ts ih =>
    have next := others u List.mem_cons_self
    have behind : strip ([' '] ++ u) = u := by
      rw [strip, TextLines.strip_append_blanks (List.all_iff_forall_prop.mp (by decide))]
      exact next.solid.strip_eq
    have later := ih next (fun v there => others v (List.mem_cons_of_mem u there))
      [' '] (List.all_iff_forall_prop.mp (by decide)) behind
    rw [List.intercalate_cons_cons, List.append_assoc, first.sealed]
    simp [splitFlowFrom, cut, later]

theorem splitFlow_items {ts : List (List Char)} (some_items : ts ≠ []) (items : ∀ t ∈ ts, Item t) :
    splitFlow ([',', ' '].intercalate ts) = ts := by
  cases ts with
  | nil => exact absurd rfl some_items
  | cons t ts =>
    exact splitFlowFrom_items (items t List.mem_cons_self)
      (fun u there => items u (List.mem_cons_of_mem t there)) [] (by simp)

private theorem mem_intercalate {sep : List Char} {ts : List (List Char)} {c : Char}
    (there : c ∈ sep.intercalate ts) : c ∈ sep ∨ ∃ t ∈ ts, c ∈ t := by
  induction ts with
  | nil => simp at there
  | cons t ts ih =>
    cases ts with
    | nil =>
      rw [List.intercalate_singleton] at there
      exact .inr ⟨t, List.mem_cons_self, there⟩
    | cons u ts =>
      rw [List.intercalate_cons_cons, List.mem_append, List.mem_append] at there
      rcases there with (there | there) | there
      · exact .inr ⟨t, List.mem_cons_self, there⟩
      · exact .inl there
      · exact (ih there).imp_right fun ⟨v, listed, inside_v⟩ =>
          ⟨v, List.mem_cons_of_mem t listed, inside_v⟩

private theorem solid_items {t : List Char} {ts : List (List Char)} (first : Solid t)
    (others : ∀ u ∈ ts, Solid u) : Solid ([',', ' '].intercalate (t :: ts)) := by
  induction ts generalizing t with
  | nil =>
    rw [List.intercalate_singleton]
    exact first
  | cons u ts ih =>
    have later := ih (others u List.mem_cons_self) fun v there =>
      others v (List.mem_cons_of_mem u there)
    rw [List.intercalate_cons_cons, List.append_assoc]
    constructor
    · simp [first.nonempty]
    · apply TextLines.bare_append first.nonempty (by simp) first.bare.1
      intro c there
      rw [List.getLast?_append_of_ne_nil _ later.nonempty] at there
      exact later.bare.2 c there
    · intro c there
      rw [List.mem_append, List.mem_append] at there
      rcases there with there | there | there
      · exact first.unbroken c there
      · simp only [List.mem_cons, List.not_mem_nil, or_false] at there
        rcases there with rfl | rfl <;> decide
      · exact later.unbroken c there

theorem reprItems_eq (items : List PyVal) : reprItems text items = items.map (repr text) := by
  induction items with
  | nil => rfl
  | cons item items ih => rw [reprItems, ih, List.map_cons]

/-- To prove something of every value, prove it of a list from its items and of a mapping from
the values of its entries. -/
theorem value_induction {motive : PyVal → Prop} (none : motive .none) (bool : ∀ b, motive (.bool b))
    (int : ∀ n, motive (.int n)) (float : ∀ x, motive (.float x)) (str : ∀ s, motive (.str s))
    (list : ∀ items, (∀ v ∈ items, motive v) → motive (.list items))
    (dict : ∀ entries : List (PyVal × PyVal), (∀ e ∈ entries, motive e.2) → motive (.dict entries)) :
    ∀ v, motive v
  | .none => none
  | .bool b => bool b
  | .int n => int n
  | .float x => float x
  | .str s => str s
  | .list items => list items fun v _ =>
    value_induction none bool int float str list dict v
  | .dict entries => dict entries fun e _ =>
    value_induction none bool int float str list dict e.2
termination_by v => sizeOf v
decreasing_by
  · have smaller := List.sizeOf_lt_of_mem ‹v ∈ items›
    simp only [PyVal.list.sizeOf_spec]
    omega
  · have smaller := List.sizeOf_lt_of_mem ‹e ∈ entries›
    have part : sizeOf e = 1 + sizeOf e.1 + sizeOf e.2 := by cases e; rfl
    simp only [PyVal.dict.sizeOf_spec]
    omega

/-- A printed item, and what it is read as. -/
structure Flow (text : YamlText) (v : PyVal) : Prop where
  item : Item (repr text v)
  unmarked : ∀ c ∈ repr text v, c ≠ ':' ∧ c ≠ '#'
  value : ∀ fuel, (repr text v).length < fuel → scalarWithin text fuel (repr text v) = v

private theorem flow_word {v : PyVal} {t : List Char} (printed : repr text v = t) (nonempty : t ≠ [])
    (dense : ∀ c ∈ t, isSpace c = false ∧ c ∉ [',', '\'', '"', ':', '#'])
    (value : ∀ fuel, scalarWithin text (fuel + 1) t = v) : Flow text v where
  item := {
    solid := printed ▸ .of_dense nonempty fun c there => (dense c there).1
    sealed := printed ▸ sealed_plain fun c there => by
      have := (dense c there).2
      simp only [List.mem_cons, List.not_mem_nil, or_false, not_or] at this ⊢
      exact ⟨this.1, this.2.1, this.2.2.1⟩ }
  unmarked := fun c there => by
    have := (dense c (printed ▸ there)).2
    simp only [List.mem_cons, List.not_mem_nil, or_false, not_or] at this
    exact this.2.2.2
  value := fun fuel enough => by
    obtain ⟨n, rfl⟩ : ∃ n, fuel = n + 1 := ⟨fuel - 1, by omega⟩
    rw [printed, value n]

private theorem flow_int (ascii : AsciiDigits text.decimal) {n : Int} (short : text.prints n = true) :
    Flow text (.int n) := by
  apply flow_word (t := intText n) (by rw [MiniYaml.repr]) (intText_ne_nil n)
  · intro c there
    refine ⟨not_isSpace_of_mem_intText there, ?_⟩
    rcases mem_intText there with digit | rfl
    · intro listed
      simp only [List.mem_cons, List.not_mem_nil, or_false] at listed
      rcases listed with rfl | rfl | rfl | rfl | rfl <;> revert digit <;> decide
    · decide
  · exact fun _ => scalarWithin_int ascii short

private theorem flow_str {s : String} (legible : legiblePrinted text s.toList = true) :
    Flow text (.str s) := by
  simp only [legiblePrinted, Bool.and_eq_true, List.all_eq_true, decide_eq_true_eq,
    Bool.not_eq_true', Bool.and_eq_false_iff, decide_eq_false_iff_not, List.mem_cons,
    List.not_mem_nil, or_false, not_or] at legible
  obtain ⟨each, kinds⟩ := legible
  obtain ⟨q, kind, absent, printed⟩ := reprText_of_printable text.printable
    (fun c there => ⟨(each c there).1.1, (each c there).2.1⟩)
    (fun both => kinds.elim (fun no => no both.1) fun no => no both.2)
  have quote : isQuote q = true := by simpa [isQuote] using kind
  have solid : Solid (q :: s.toList ++ [q]) := by
    apply Solid.enclosed _ _ fun c there => (each c there).1.2
    all_goals rcases kind with rfl | rfl <;> decide
  have whole : repr text (.str s) = q :: s.toList ++ [q] := by rw [MiniYaml.repr, printed]
  constructor
  · rw [whole]
    exact ⟨solid, sealed_quoted quote absent⟩
  · intro c there
    rw [whole, List.mem_append, List.mem_cons, List.mem_singleton] at there
    rcases there with (rfl | there) | rfl
    · rcases kind with rfl | rfl <;> decide
    · exact (each c there).2.2
    · rcases kind with rfl | rfl <;> decide
  · intro fuel enough
    obtain ⟨n, rfl⟩ : ∃ n, fuel = n + 1 := ⟨fuel - 1, by omega⟩
    rw [whole, scalarWithin_quoted quote solid.strip_eq, String.ofList_toList]

private theorem flow_single {v : PyVal} (flow : Flow text v) : Flow text (.list [v]) := by
  have printed : repr text (.list [v]) = '[' :: repr text v ++ [']'] := by
    simp [MiniYaml.repr, reprItems]
  have bracket (c : Char) (kind : c = '[' ∨ c = ']') : Sealed [c] := by
    apply sealed_plain
    rcases kind with rfl | rfl <;> exact List.all_iff_forall_prop.mp (by decide)
  constructor
  · rw [printed]
    constructor
    · exact Solid.enclosed (by decide) (by decide) flow.item.solid.unbroken
    · exact sealed_append (sealed_append (bracket '[' (.inl rfl)) flow.item.sealed)
        (bracket ']' (.inr rfl))
  · intro c there
    rw [printed, List.mem_append, List.mem_cons, List.mem_singleton] at there
    rcases there with (rfl | there) | rfl
    · decide
    · exact flow.unmarked c there
    · decide
  · intro fuel enough
    rw [printed] at enough ⊢
    simp only [List.length_append, List.length_cons, List.length_nil] at enough
    obtain ⟨n, rfl⟩ : ∃ n, fuel = n + 1 := ⟨fuel - 1, by omega⟩
    have parts : splitFlow ([',', ' '].intercalate [repr text v]) = [repr text v] :=
      splitFlow_items (by simp) (by simpa using flow.item)
    rw [List.intercalate_singleton] at parts
    rw [scalarWithin_flow flow.item.solid, parts, List.map_singleton, flow.value n (by omega)]

theorem flow_of_legible (ascii : AsciiDigits text.decimal) :
    ∀ v, legibleFlow text v = true → Flow text v := by
  apply value_induction
  case none =>
    intro _
    exact flow_word (t := "None".toList) (by rw [MiniYaml.repr]) (by decide)
      (List.all_iff_forall_prop.mp (by decide))
      fun n => scalarWithin_word (by decide) (by simp [word])
  case bool =>
    intro b _
    cases b
    · exact flow_word (t := "False".toList) (by simp [MiniYaml.repr]) (by decide)
        (List.all_iff_forall_prop.mp (by decide))
        fun n => scalarWithin_word (by decide) (by simp [word])
    · exact flow_word (t := "True".toList) (by simp [MiniYaml.repr]) (by decide)
        (List.all_iff_forall_prop.mp (by decide))
        fun n => scalarWithin_word (by decide) (by simp [word])
  case int =>
    intro n legible
    rw [legibleFlow] at legible
    exact flow_int ascii legible
  case float =>
    intro x legible
    simp [legibleFlow] at legible
  case str =>
    intro s legible
    rw [legibleFlow] at legible
    exact flow_str legible
  case list =>
    intro items ih legible
    simp only [legibleFlow, Bool.and_eq_true, decide_eq_true_eq] at legible
    obtain ⟨few, all⟩ := legible
    match items with
    | [] =>
      exact flow_word (t := "[]".toList) (by simp [MiniYaml.repr, reprItems]) (by decide)
        (List.all_iff_forall_prop.mp (by decide))
        fun n => scalarWithin_word (by decide) (by simp [word])
    | [v] =>
      simp only [legibleFlows, Bool.and_true] at all
      exact flow_single (ih v List.mem_cons_self all)
  case dict =>
    intro entries _ legible
    rw [legibleFlow, List.isEmpty_iff] at legible
    subst legible
    exact flow_word (t := "\x7b\x7d".toList) (by simp [MiniYaml.repr, reprEntries]) (by decide)
      (List.all_iff_forall_prop.mp (by decide))
      fun n => scalarWithin_word (by decide) (by simp [word])

/-! What stands on the line of a key or of an item. -/

/-- A written leaf, and what it is read as. -/
structure Leaf (text : YamlText) (inMapping : Bool) (v : PyVal) : Prop where
  solid : Solid (dumpScalar text v)
  value : scalar text (dumpScalar text v) = v
  header : inMapping = true → blockScalarKind (dumpScalar text v) = none
  colon : ':' ∈ dumpScalar text v → (dumpScalar text v).head?.any isQuote = true
  comment : '#' ∈ dumpScalar text v → ∃ s, v = .str s ∧ quotes s.toList = true

private theorem blockScalarKind_of_head {c : Char} {cs : List Char} (solid : Solid (c :: cs))
    (other : c ≠ '|' ∧ c ≠ '>') : blockScalarKind (c :: cs) = none := by
  rw [blockScalarKind, solid.strip_eq]
  split
  · next same => exact absurd (List.cons.inj same).1 other.1
  · next same => exact absurd (List.cons.inj same).1 other.2
  · rfl

private theorem leaf_word {inMapping : Bool} {v : PyVal} {c : Char} {w : List Char}
    (written : dumpScalar text v = c :: w)
    (dense : ∀ d ∈ c :: w, isSpace d = false ∧ d ∉ [':', '#']) (other : c ≠ '|' ∧ c ≠ '>')
    (value : ∀ fuel, scalarWithin text (fuel + 1) (c :: w) = v) : Leaf text inMapping v := by
  have solid : Solid (c :: w) := .of_dense (by simp) fun d there => (dense d there).1
  constructor
  · rw [written]
    exact solid
  · rw [written, scalar, value]
  · intro _
    rw [written]
    exact blockScalarKind_of_head solid other
  · intro there
    rw [written] at there
    exact absurd (by simp) (dense ':' there).2
  · intro there
    rw [written] at there
    exact absurd (by simp) (dense '#' there).2

private theorem leaf_int (ascii : AsciiDigits text.decimal) (inMapping : Bool) {n : Int}
    (short : text.prints n = true) : Leaf text inMapping (.int n) := by
  rcases shown : intText n with - | ⟨c, cs⟩
  · exact absurd shown (intText_ne_nil n)
  · have kind {d : Char} (there : d ∈ c :: cs) : d.isDigit = true ∨ d = '-' :=
      mem_intText (n := n) (shown ▸ there)
    apply leaf_word (c := c) (w := cs)
    · rw [dumpScalar, shown]
    · intro d there
      refine ⟨not_isSpace_of_mem_intText (n := n) (shown ▸ there), ?_⟩
      rcases kind there with digit | rfl
      · intro listed
        simp only [List.mem_cons, List.not_mem_nil, or_false] at listed
        rcases listed with rfl | rfl <;> revert digit <;> decide
      · decide
    · rcases kind List.mem_cons_self with digit | rfl
      · constructor <;> (rintro rfl; revert digit; decide)
      · decide
    · intro fuel
      rw [← shown]
      exact scalarWithin_int ascii short

private theorem leaf_quoted {inMapping : Bool} {s : String} (unbroken : isUnbroken s.toList = true)
    (quoted : quotes s.toList = true) : Leaf text inMapping (.str s) := by
  have written : dumpScalar text (.str s) = '"' :: s.toList ++ ['"'] := by
    rw [dumpScalar, if_pos (by simpa [str] using quoted)]
    · rfl
    all_goals simp
  simp only [isUnbroken, List.all_eq_true, Bool.not_eq_true'] at unbroken
  have solid : Solid ('"' :: s.toList ++ ['"']) := .enclosed (by decide) (by decide) unbroken
  constructor
  · rw [written]
    exact solid
  · rw [written, scalar, scalarWithin_quoted (by decide) solid.strip_eq, String.ofList_toList]
  · intro _
    rw [written]
    exact blockScalarKind_of_head solid (by decide)
  · intro _
    rw [written]
    rfl
  · exact fun _ => ⟨s, rfl, quoted⟩

private theorem leaf_plain {inMapping : Bool} {s : String} (unbroken : isUnbroken s.toList = true)
    (unquoted : quotes s.toList = false) (plain : isPlain text inMapping s.toList = true) :
    Leaf text inMapping (.str s) := by
  have written : dumpScalar text (.str s) = s.toList := by
    rw [dumpScalar, if_neg (by simpa [str] using unquoted)]
    · rfl
    all_goals simp
  simp only [isUnbroken, List.all_eq_true, Bool.not_eq_true'] at unbroken
  simp only [quotes, decide_eq_false_iff_not, not_or, not_not] at unquoted
  obtain ⟨nonempty, no_colon, no_mark, bare⟩ := unquoted
  have solid : Solid s.toList := ⟨nonempty, TextLines.strip_eq_self_iff.mp bare, unbroken⟩
  constructor
  · rw [written]
    exact solid
  · rw [written, scalar, scalarWithin_plain bare plain, String.ofList_toList]
  · intro mapped
    rw [written]
    simp only [isPlain, mapped, Bool.true_and, Bool.and_eq_true, Bool.not_eq_true'] at plain
    have first := plain.2
    rcases shown : s.toList with - | ⟨c, cs⟩
    · exact absurd shown nonempty
    · rw [shown] at solid first
      apply blockScalarKind_of_head solid
      simpa using first
  · intro there
    rw [written] at there
    exact absurd there no_colon
  · intro there
    rw [written] at there
    exact absurd there no_mark

private theorem reprItems_flows {items : List PyVal} (flows : ∀ v ∈ items, Flow text v) {fuel : ℕ}
    (enough : ∀ v ∈ items, (MiniYaml.repr text v).length < fuel) :
    (reprItems text items).map (scalarWithin text fuel) = items := by
  rw [reprItems_eq, List.map_map]
  conv => rhs; rw [← List.map_id items]
  exact List.map_congr_left fun v there => (flows v there).value fuel (enough v there)

private theorem length_le_intercalate {sep : List Char} {ts : List (List Char)} {t : List Char}
    (there : t ∈ ts) : t.length ≤ (sep.intercalate ts).length := by
  induction ts with
  | nil => simp at there
  | cons u ts ih =>
    cases ts with
    | nil =>
      rw [List.mem_singleton] at there
      simp [there]
    | cons w ts =>
      rw [List.intercalate_cons_cons, List.length_append, List.length_append]
      rcases List.mem_cons.mp there with rfl | there
      · omega
      · have := ih there
        omega

/-- A list in a list, printed on its line. -/
private theorem leaf_flow {v : PyVal} {items : List PyVal} (flows : ∀ w ∈ v :: items, Flow text w) :
    Leaf text false (.list (v :: items)) := by
  have listed {t : List Char} (there : t ∈ reprItems text (v :: items)) :
      ∃ w ∈ v :: items, t = MiniYaml.repr text w := by
    rw [reprItems_eq, List.mem_map] at there
    obtain ⟨w, member, same⟩ := there
    exact ⟨w, member, same.symm⟩
  have each : ∀ t ∈ reprItems text (v :: items), Item t := fun t there => by
    obtain ⟨w, member, rfl⟩ := listed there
    exact (flows w member).item
  let body := [',', ' '].intercalate (reprItems text (v :: items))
  have unmarked : ∀ c ∈ body, c ≠ ':' ∧ c ≠ '#' := by
    intro c there
    rcases mem_intercalate there with there | ⟨t, there, inside_t⟩
    · simp only [List.mem_cons, List.not_mem_nil, or_false] at there
      rcases there with rfl | rfl <;> decide
    · obtain ⟨w, member, rfl⟩ := listed there
      exact (flows w member).unmarked c inside_t
  have solid_body : Solid body :=
    solid_items (flows v List.mem_cons_self).item.solid fun u there =>
      (each u (List.mem_cons_of_mem _ there)).solid
  have solid : Solid ('[' :: body ++ [']']) := .enclosed (by decide) (by decide) solid_body.unbroken
  have printed : str text (.list (v :: items)) = '[' :: body ++ [']'] := by
    rw [str, MiniYaml.repr]
    · rfl
    · simp
  have clean (c : Char) (mark : c = ':' ∨ c = '#') : c ∉ '[' :: body ++ [']'] := by
    intro there
    rw [List.mem_append, List.mem_cons, List.mem_singleton] at there
    rcases there with (rfl | there) | rfl
    · revert mark
      decide
    · rcases mark with rfl | rfl
      · exact (unmarked _ there).1 rfl
      · exact (unmarked _ there).2 rfl
    · revert mark
      decide
  have unquoted : quotes ('[' :: body ++ [']']) = false := by
    have no_colon := clean ':' (.inl rfl)
    have no_mark := clean '#' (.inr rfl)
    simp only [quotes, solid.strip_eq, no_colon, no_mark, solid.nonempty, false_or, ne_eq,
      not_true_eq_false, decide_false]
  have written : dumpScalar text (.list (v :: items)) = '[' :: body ++ [']'] := by
    rw [dumpScalar, printed, if_neg (Bool.eq_false_iff.mp unquoted)]
    all_goals simp
  constructor
  · rw [written]
    exact solid
  · have parts : splitFlow body = reprItems text (v :: items) :=
      splitFlow_items (by rw [reprItems_eq]; simp) each
    rw [written, scalar, scalarWithin_flow solid_body, parts, reprItems_flows flows]
    intro w member
    have shorter : (MiniYaml.repr text w).length ≤ body.length := by
      apply length_le_intercalate
      rw [reprItems_eq]
      exact List.mem_map_of_mem member
    simp only [List.length_append, List.length_cons]
    omega
  · exact fun mapped => absurd mapped (by decide)
  · intro there
    rw [written] at there
    exact absurd there (clean ':' (.inl rfl))
  · intro there
    rw [written] at there
    exact absurd there (clean '#' (.inr rfl))

private theorem flows_of_legible (ascii : AsciiDigits text.decimal) {items : List PyVal}
    (legible : legibleFlows text items = true) : ∀ v ∈ items, Flow text v := by
  induction items with
  | nil => simp
  | cons item items ih =>
    rw [legibleFlows, Bool.and_eq_true] at legible
    intro v there
    rcases List.mem_cons.mp there with rfl | there
    · exact flow_of_legible ascii v legible.1
    · exact ih legible.2 v there

/-- Every legible leaf is read back. -/
theorem leaf_of_legible (ascii : AsciiDigits text.decimal) {inMapping : Bool} {v : PyVal}
    (legible : legibleLeaf text inMapping v = true) : Leaf text inMapping v := by
  cases v with
  | none =>
    exact leaf_word (c := 'n') (w := "ull".toList) (by simp [dumpScalar])
      (List.all_iff_forall_prop.mp (by decide)) (by decide)
      fun n => scalarWithin_word (by decide) (by simp [word])
  | bool b =>
    cases b
    · exact leaf_word (c := 'f') (w := "alse".toList) (by simp [dumpScalar])
        (List.all_iff_forall_prop.mp (by decide)) (by decide)
        fun n => scalarWithin_word (by decide) (by simp [word])
    · exact leaf_word (c := 't') (w := "rue".toList) (by simp [dumpScalar])
        (List.all_iff_forall_prop.mp (by decide)) (by decide)
        fun n => scalarWithin_word (by decide) (by simp [word])
  | int n =>
    rw [legibleLeaf] at legible
    exact leaf_int ascii inMapping legible
  | float x => simp [legibleLeaf] at legible
  | str s =>
    simp only [legibleLeaf, legibleText, Bool.and_eq_true, Bool.or_eq_true] at legible
    obtain ⟨unbroken, way⟩ := legible
    by_cases quoted : quotes s.toList = true
    · exact leaf_quoted unbroken quoted
    · exact leaf_plain unbroken (by simpa using quoted) (way.resolve_left quoted)
  | list items =>
    cases items with
    | nil =>
      exact leaf_word (c := '[') (w := [']']) (by simp [dumpScalar, str, MiniYaml.repr, reprItems]; decide)
        (List.all_iff_forall_prop.mp (by decide)) (by decide)
        fun n => scalarWithin_word (by decide) (by simp [word])
    | cons v items =>
      simp only [legibleLeaf, List.isEmpty_cons, Bool.false_or, Bool.and_eq_true,
        Bool.not_eq_true'] at legible
      obtain ⟨rfl, flows⟩ := legible
      exact leaf_flow (flows_of_legible ascii flows)
  | dict entries =>
    rw [legibleLeaf, List.isEmpty_iff] at legible
    subst legible
    exact leaf_word (c := '\x7b') (w := ['\x7d'])
      (by simp [dumpScalar, str, MiniYaml.repr, reprEntries]; decide)
      (List.all_iff_forall_prop.mp (by decide)) (by decide)
      fun n => scalarWithin_word (by decide) (by simp [word])

end DroidOs.Util.Leaves
