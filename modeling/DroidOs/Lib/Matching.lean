/- GID: DroidOs/Lib/Matching
   generality: G
   digest: What one more character at the end of a text changes in its matches. -/

import DroidOs.Lib.Regex

set_option autoImplicit false
set_option relaxedAutoImplicit false

namespace DroidOs.Lib.Regex

namespace Cursor

/-- The same place in a text with one more character. -/
def longer (x : Char) (c : Cursor) : Cursor := { c with rest := c.rest ++ [x] }

@[simp] theorem longer_rest (x : Char) (c : Cursor) : (c.longer x).rest = c.rest ++ [x] := rfl
@[simp] theorem longer_before (x : Char) (c : Cursor) : (c.longer x).before = c.before := rfl
@[simp] theorem longer_groups (x : Char) (c : Cursor) : (c.longer x).groups = c.groups := rfl

/-- Something is left of the text. -/
def more (c : Cursor) : Bool := !c.rest.isEmpty

/-- The place behind the whole rest, which is one more group. -/
def close (c : Cursor) : Cursor :=
  { before := c.rest.reverse ++ c.before, rest := [], groups := c.groups ++ [c.rest] }

/-- Its groups are those before it and the rest. -/
def slots (c : Cursor) : List String := (c.groups ++ [c.rest]).map String.ofList

theorem more_longer (x : Char) (c : Cursor) : (c.longer x).more = true := by
  simp [more]

theorem more_eq_false {c : Cursor} : c.more = false ↔ c.rest = [] := by
  simp [more]

end Cursor

namespace Pattern

variable {isWord : Char → Bool} {same : Char → Char → Bool} {c d : Cursor} {r s : Pattern} {x : Char}

/-! Matching goes forward through the text. -/

/-- The text is the same at both places, and the second is not before the first. -/
def Follows (c d : Cursor) : Prop := ∃ taken, c.rest = taken ++ d.rest ∧ d.before = taken.reverse ++ c.before

theorem Follows.refl (c : Cursor) : Follows c c := ⟨[], rfl, rfl⟩

theorem Follows.trans {e : Cursor} (first : Follows c d) (second : Follows d e) : Follows c e := by
  obtain ⟨u, cut, behind⟩ := first
  obtain ⟨v, cut', behind'⟩ := second
  refine ⟨u ++ v, ?_, ?_⟩
  · rw [cut, cut', List.append_assoc]
  · rw [behind', behind, List.reverse_append, List.append_assoc]

private theorem mem_repeats_succ {greedy : Bool} {step : Cursor → List Cursor} {fuel : Nat}
    (taken : d ∈ repeats greedy step (fuel + 1) c) : d = c ∨ ∃ e ∈ step c, d ∈ repeats greedy step fuel e := by
  have later (more : d ∈ ((step c).filter fun e => e.rest.length < c.rest.length).flatMap
      (repeats greedy step fuel)) : ∃ e ∈ step c, d ∈ repeats greedy step fuel e := by
    obtain ⟨e, first, rest⟩ := List.mem_flatMap.mp more
    exact ⟨e, (List.mem_filter.mp first).1, rest⟩
  unfold repeats at taken
  cases greedy
  · exact (List.mem_cons.mp taken).imp_right later
  · exact (List.mem_append.mp taken).symm.imp List.mem_singleton.mp later

private theorem follows_repeats {greedy : Bool} {step : Cursor → List Cursor}
    (forward : ∀ c, ∀ d ∈ step c, Follows c d) (fuel : Nat) :
    ∀ c, ∀ d ∈ repeats greedy step fuel c, Follows c d := by
  induction fuel with
  | zero =>
    intro c d taken
    obtain rfl := List.mem_singleton.mp taken
    exact .refl d
  | succ fuel ih =>
    intro c d taken
    rcases mem_repeats_succ taken with rfl | ⟨e, first, rest⟩
    · exact .refl d
    · exact (forward c e first).trans (ih e d rest)

theorem follows_run (r : Pattern) : ∀ c, ∀ d ∈ run isWord same r c, Follows c d := by
  induction r with
  | empty =>
    intro c d taken
    obtain rfl := List.mem_singleton.mp taken
    exact .refl d
  | char letter =>
    intro c d taken
    rcases cut : c.rest with _ | ⟨first, rest⟩
    · simp [run, cut] at taken
    · simp only [run, cut] at taken
      split at taken
      · obtain rfl := List.mem_singleton.mp taken
        exact ⟨[first], cut, rfl⟩
      · cases taken
  | dot =>
    intro c d taken
    rcases cut : c.rest with _ | ⟨first, rest⟩
    · simp [run, cut] at taken
    · simp only [run, cut] at taken
      split at taken
      · cases taken
      · obtain rfl := List.mem_singleton.mp taken
        exact ⟨[first], cut, rfl⟩
  | boundary =>
    intro c d taken
    obtain ⟨-, rfl⟩ := mem_run_boundary.mp taken
    exact .refl d
  | seq r s ihr ihs =>
    intro c d taken
    obtain ⟨mid, first, second⟩ := mem_run_seq.mp taken
    exact (ihr c mid first).trans (ihs mid d second)
  | alt r s ihr ihs =>
    intro c d taken
    rcases mem_run_alt.mp taken with first | second
    · exact ihr c d first
    · exact ihs c d second
  | star greedy r ih =>
    intro c d taken
    exact follows_repeats ih _ c d taken
  | group r ih =>
    intro c d taken
    obtain ⟨e, first, rfl⟩ := List.mem_map.mp taken
    exact ih { c with groups := [] } e first

/-- Where nothing is left, nothing is left after more matching. -/
theorem rest_nil_of_follows (follows : Follows c d) (nothing : c.rest = []) : d.rest = [] := by
  obtain ⟨taken, cut, -⟩ := follows
  exact (List.append_eq_nil_iff.mp (cut.symm.trans nothing)).2

/-! One more character. -/

private theorem filter_flatMap_more {step : Cursor → List Cursor} (forward : ∀ c, ∀ d ∈ step c, Follows c d)
    (places : List Cursor) :
    (places.flatMap step).filter Cursor.more = (places.filter Cursor.more).flatMap fun c => (step c).filter Cursor.more := by
  induction places with
  | nil => rfl
  | cons c places ih =>
    rw [List.flatMap_cons, List.filter_append, ih, List.filter_cons]
    cases left : c.more with
    | true => rw [if_pos rfl, List.flatMap_cons]
    | false =>
      have none : (step c).filter Cursor.more = [] := by
        refine List.filter_eq_nil_iff.mpr fun d taken => ?_
        rw [Cursor.more_eq_false.mpr (rest_nil_of_follows (forward c d taken) (Cursor.more_eq_false.mp left))]
        exact Bool.false_ne_true
      rw [none, if_neg Bool.false_ne_true, List.nil_append]

private theorem atBoundary_longer (outside : isWord x = false) (c : Cursor) :
    atBoundary isWord (c.longer x) = atBoundary isWord c := by
  rcases cut : c.rest with _ | ⟨first, rest⟩
  · simp [atBoundary, cut, outside]
  · simp [atBoundary, cut]

private theorem repeats_longer {greedy : Bool} {step : Cursor → List Cursor}
    (forward : ∀ c, ∀ d ∈ step c, Follows c d)
    (agrees : ∀ c, (step (c.longer x)).filter Cursor.more = (step c).map (Cursor.longer x)) (fuel : Nat) :
    ∀ (c : Cursor) (more : Nat), c.rest.length ≤ fuel → c.rest.length + 1 ≤ more →
      (repeats greedy step more (c.longer x)).filter Cursor.more =
        (repeats greedy step fuel c).map (Cursor.longer x) := by
  induction fuel with
  | zero =>
    intro c more short enough
    obtain ⟨more, rfl⟩ : ∃ n, more = n + 1 := ⟨more - 1, by omega⟩
    have nothing : c.rest = [] := List.length_eq_zero_iff.mp (by omega)
    have gone : (((step (c.longer x)).filter fun e => e.rest.length < (c.longer x).rest.length).flatMap
        (repeats greedy step more)).filter Cursor.more = [] := by
      rw [filter_flatMap_more (follows_repeats forward more), List.filter_filter]
      have none : ((step (c.longer x)).filter fun e => e.more && decide (e.rest.length < (c.longer x).rest.length)) = [] := by
        refine List.filter_eq_nil_iff.mpr fun e _ left => ?_
        simp [nothing, Cursor.more] at left
      rw [none]
      rfl
    unfold repeats
    cases greedy
    · simp only [Bool.false_eq_true, if_false, List.filter_cons, Cursor.more_longer, if_true, gone]
      rfl
    · simp only [if_true, List.filter_append, gone, List.nil_append, List.filter_cons, Cursor.more_longer]
      rfl
  | succ fuel ih =>
    intro c more short enough
    obtain ⟨more, rfl⟩ : ∃ n, more = n + 1 := ⟨more - 1, by omega⟩
    have later : (((step (c.longer x)).filter fun e => e.rest.length < (c.longer x).rest.length).flatMap
        (repeats greedy step more)).filter Cursor.more =
          (((step c).filter fun e => e.rest.length < c.rest.length).flatMap (repeats greedy step fuel)).map
            (Cursor.longer x) := by
      rw [filter_flatMap_more (follows_repeats forward more), List.filter_filter]
      have swap : ((step (c.longer x)).filter fun e => e.more && decide (e.rest.length < (c.longer x).rest.length)) =
          ((step c).filter fun e => e.rest.length < c.rest.length).map (Cursor.longer x) := by
        have comm : (fun e : Cursor => e.more && decide (e.rest.length < (c.longer x).rest.length)) =
            fun e => decide (e.rest.length < (c.longer x).rest.length) && e.more := by
          funext e
          exact Bool.and_comm _ _
        rw [comm, ← List.filter_filter, agrees, List.filter_map]
        congr 1
        refine List.filter_congr fun e _ => ?_
        simp
      rw [swap, List.flatMap_map, List.map_flatMap]
      refine List.flatMap_congr fun e shorter => ?_
      have less : e.rest.length < c.rest.length := by simpa using (List.mem_filter.mp shorter).2
      exact ih e more (by omega) (by omega)
    unfold repeats
    cases greedy
    · simp only [Bool.false_eq_true, if_false, List.filter_cons, Cursor.more_longer, if_true, later,
        List.map_cons]
    · simp only [if_true, List.filter_append, later, List.filter_cons, Cursor.more_longer, List.map_append]
      rfl

/-- The matches that leave something of a text with one more character, no word character,
are the matches of the text. -/
theorem run_longer (outside : isWord x = false) (r : Pattern) : ∀ c : Cursor,
    (run isWord same r (c.longer x)).filter Cursor.more = (run isWord same r c).map (Cursor.longer x) := by
  induction r with
  | empty =>
    intro c
    simp [run, Cursor.more_longer]
  | char letter =>
    intro c
    rcases cut : c.rest with _ | ⟨first, rest⟩
    · simp only [run, Cursor.longer_rest, cut, List.nil_append]
      split <;> simp [Cursor.more]
    · simp only [run, Cursor.longer_rest, cut, List.cons_append]
      split <;> simp [Cursor.more, Cursor.longer]
  | dot =>
    intro c
    rcases cut : c.rest with _ | ⟨first, rest⟩
    · simp only [run, Cursor.longer_rest, cut, List.nil_append]
      split <;> simp [Cursor.more]
    · simp only [run, Cursor.longer_rest, cut, List.cons_append]
      split <;> simp [Cursor.more, Cursor.longer]
  | boundary =>
    intro c
    simp only [run, atBoundary_longer outside]
    split <;> simp [Cursor.more_longer]
  | seq r s ihr ihs =>
    intro c
    simp only [run]
    rw [filter_flatMap_more (follows_run s), ihr, List.flatMap_map, List.map_flatMap]
    exact List.flatMap_congr fun d _ => ihs d
  | alt r s ihr ihs =>
    intro c
    simp only [run, List.filter_append, List.map_append, ihr, ihs]
  | star greedy r ih =>
    intro c
    exact repeats_longer (follows_run r) ih _ c _ le_rfl (by simp)
  | group r ih =>
    intro c
    have inner := ih { c with groups := [] }
    simp only [run, List.filter_map]
    refine (congrArg (List.map _) inner).trans ?_
    rw [List.map_map, List.map_map]
    rfl

/-! Searching. -/

/-- The matches anywhere in a text, in order. -/
def found (isWord : Char → Bool) (same : Char → Char → Bool) (r : Pattern) (t : List Char) : List Cursor :=
  (places [] t).flatMap (run isWord same r)

theorem places_longer (x : Char) (before t : List Char) :
    (places before (t ++ [x])).filter Cursor.more = (places before t).map (Cursor.longer x) := by
  induction t generalizing before with
  | nil => rfl
  | cons first t ih =>
    rw [List.cons_append, places, places, List.filter_cons_of_pos (by rfl), ih, List.map_cons]
    rfl

theorem found_longer (outside : isWord x = false) (r : Pattern) (t : List Char) :
    (found isWord same r (t ++ [x])).filter Cursor.more = (found isWord same r t).map (Cursor.longer x) := by
  unfold found
  rw [filter_flatMap_more (follows_run r), places_longer, List.flatMap_map, List.map_flatMap]
  exact List.flatMap_congr fun c _ => run_longer outside r c

/-- A match behind which nothing is left has the end of the text before it. -/
theorem before_of_found {t : List Char} (taken : d ∈ found isWord same r t) (nothing : d.rest = []) :
    d.before = t.reverse := by
  obtain ⟨c, place, taken⟩ := List.mem_flatMap.mp taken
  obtain ⟨skipped, after, cut, rfl⟩ := mem_places.mp place
  obtain ⟨passed, rest, behind⟩ := follows_run r _ d taken
  obtain rfl : after = passed := by simpa [nothing] using rest
  rw [behind, cut, List.reverse_append, List.append_nil]

/-- A match at the end of a text ends in a word character. -/
def Closes (isWord : Char → Bool) (same : Char → Char → Bool) (r : Pattern) : Prop :=
  ∀ c, ∀ d ∈ run isWord same r c, d.rest = [] → wordChar isWord d.before.head? = true

theorem closes_boundary : Closes isWord same .boundary := by
  intro c d taken nothing
  obtain ⟨edge, rfl⟩ := mem_run_boundary.mp taken
  simpa [atBoundary, nothing, wordChar] using edge

theorem Closes.seq (second : Closes isWord same s) (r : Pattern) : Closes isWord same (.seq r s) := by
  intro c d taken nothing
  obtain ⟨mid, -, taken⟩ := mem_run_seq.mp taken
  exact second mid d taken nothing

theorem Closes.last (closes : Closes isWord same r) : Closes isWord same (sequence [r]) := by
  intro c d taken nothing
  obtain ⟨mid, taken, same⟩ := mem_run_seq.mp taken
  obtain rfl := List.mem_singleton.mp same
  exact closes c d taken nothing

theorem Spells.closes {L : Language Char} (spells : Spells isWord r L)
    (ends : ∀ w ∈ L, wordChar isWord w.getLast? = true) : Closes isWord (fun c d => c = d) r := by
  intro c d taken _
  obtain ⟨w, inside, rest, -, rfl⟩ := (spells c d).mp taken
  have ends := ends w inside
  rcases last : w.getLast? with _ | letter
  · rw [last] at ends
    cases ends
  · rw [last] at ends
    simpa [Cursor.past, List.head?_append, List.head?_reverse, last] using ends

/-- A closing pattern is found in a text with one more character, no word character, exactly
if it is found in the text. -/
theorem search_longer (outside : isWord x = false) (closes : Closes isWord same r) {t t' : String}
    (appended : t'.toList = t.toList ++ [x]) :
    (search isWord same r t').isSome = (search isWord same r t).isSome := by
  have within : (found isWord same r t'.toList).filter Cursor.more = found isWord same r t'.toList := by
    refine List.filter_eq_self.mpr fun d taken => ?_
    by_contra nothing
    have nothing : d.rest = [] := Cursor.more_eq_false.mp (Bool.eq_false_iff.mpr nothing)
    have behind := before_of_found taken nothing
    obtain ⟨c, -, taken⟩ := List.mem_flatMap.mp taken
    have word := closes c d taken nothing
    rw [behind, appended] at word
    simp [wordChar, outside] at word
  have every : found isWord same r t'.toList = (found isWord same r t.toList).map (Cursor.longer x) := by
    rw [← within, appended, found_longer outside]
  have count : (search isWord same r t').isSome = (found isWord same r t'.toList).head?.isSome := Option.isSome_map
  rw [count, every, List.head?_map, Option.isSome_map]
  exact Option.isSome_map.symm

/-! Words. -/

/-- The texts of some words. -/
def textsOf (words : List String) : Language Char := {w | w ∈ words.map String.toList}

theorem mem_textsOf {words : List String} {w : List Char} :
    w ∈ textsOf words ↔ ∃ word ∈ words, word.toList = w := List.mem_map

theorem spells_oneOf {words : List String} (some : words ≠ []) : Spells isWord (oneOf words) (textsOf words) := by
  induction words with
  | nil => exact absurd rfl some
  | cons word words ih =>
    have one : Spells isWord (literal word) {word.toList} := spells_literal word
    rcases words with _ | ⟨next, words⟩
    · have only : textsOf [word] = {word.toList} := by
        ext w
        exact List.mem_singleton
      rw [only]
      exact one
    · have either : textsOf (word :: next :: words) = {word.toList} + textsOf (next :: words) := by
        ext w
        exact List.mem_cons
      rw [either]
      exact one.alt (ih (List.cons_ne_nil next words))

theorem Spells.fullMatch {L : Language Char} (spells : Spells isWord r L) (t : String) :
    fullMatch isWord (fun c d => c = d) r t = true ↔ t.toList ∈ L := by
  rw [Pattern.fullMatch, List.any_eq_true]
  constructor
  · rintro ⟨d, taken, nothing⟩
    obtain ⟨w, inside, rest, cut, rfl⟩ := (spells _ d).mp taken
    obtain rfl : rest = [] := List.isEmpty_iff.mp nothing
    have whole : t.toList = w := by simpa using cut
    rw [whole]
    exact inside
  · intro inside
    exact ⟨_, (spells _ _).mpr ⟨_, inside, [], (List.append_nil _).symm, rfl⟩, rfl⟩

/-! Slots: the rest of a line. -/

theorem run_dot_cons {first : Char} (visible : first ≠ '\n') (before rest : List Char) (groups : List (List Char)) :
    run isWord same .dot { before := before, rest := first :: rest, groups := groups } =
      [{ before := first :: before, rest := rest, groups := groups }] := by
  simp only [run, if_neg visible]

private theorem head_repeats_dot (fuel : Nat) (before rest : List Char) (groups : List (List Char))
    (short : rest.length ≤ fuel) (line : '\n' ∉ rest) :
    (repeats true (run isWord same .dot) fuel { before := before, rest := rest, groups := groups }).head? =
      some { before := rest.reverse ++ before, rest := [], groups := groups } := by
  induction fuel generalizing before rest with
  | zero =>
    obtain rfl : rest = [] := List.length_eq_zero_iff.mp (by omega)
    rfl
  | succ fuel ih =>
    rcases rest with _ | ⟨first, rest⟩
    · rfl
    · have visible : first ≠ '\n' := fun same => line (same ▸ List.mem_cons_self)
      have next := ih (first :: before) rest (Nat.le_of_succ_le_succ short)
        fun inside => line (List.mem_cons_of_mem first inside)
      unfold repeats
      rw [run_dot_cons visible, List.filter_cons_of_pos (by simp), List.filter_nil, List.flatMap_singleton,
        if_pos rfl, List.head?_append, next, List.reverse_cons, List.append_assoc]
      rfl

theorem head_run_slot (line : '\n' ∉ c.rest) :
    (run isWord same (.group (plus true .dot)) c).head? = if c.more then some c.close else none := by
  obtain ⟨before, rest, groups⟩ := c
  rcases rest with _ | ⟨first, rest⟩
  · rfl
  · have visible : first ≠ '\n' := fun same => line (same ▸ List.mem_cons_self)
    have behind : (repeats true (run isWord same .dot) rest.length
        { before := first :: before, rest := rest, groups := [] }).head? =
          some { before := rest.reverse ++ first :: before, rest := [], groups := [] } :=
      head_repeats_dot _ _ _ [] le_rfl fun inside => line (List.mem_cons_of_mem first inside)
    have taken : (run isWord same (plus true .dot) { before := before, rest := first :: rest }).head? =
        some { before := rest.reverse ++ first :: before, rest := [] } := by
      change ((run isWord same .dot { before := before, rest := first :: rest }).flatMap _).head? = _
      rw [run_dot_cons visible, List.flatMap_singleton]
      exact behind
    change ((run isWord same (plus true .dot) { before := before, rest := first :: rest }).map _).head? = _
    rw [List.head?_map, taken, Option.map_some, if_pos (show (Cursor.more _) = true from rfl)]
    have cut : rest.reverse ++ first :: before = (rest.reverse ++ [first]) ++ before := by simp
    have long : (rest.reverse ++ first :: before).length - (before.length) = (rest.reverse ++ [first]).length := by
      simp only [List.length_append, List.length_cons, List.length_nil, List.length_reverse]
      omega
    simp only [Cursor.close, long]
    rw [cut, List.take_left]
    simp

theorem run_sequence_append (rs ss : List Pattern) (c : Cursor) : run isWord same (sequence (rs ++ ss)) c =
    (run isWord same (sequence rs) c).flatMap (run isWord same (sequence ss)) := by
  induction rs generalizing c with
  | nil => exact (List.append_nil _).symm
  | cons r rs ih =>
    change (run isWord same r c).flatMap (run isWord same (sequence (rs ++ ss))) =
      ((run isWord same r c).flatMap (run isWord same (sequence rs))).flatMap _
    rw [List.flatMap_assoc]
    exact List.flatMap_congr fun d _ => ih d

theorem run_sequence_single (r : Pattern) (c : Cursor) : run isWord same (sequence [r]) c = run isWord same r c :=
  List.flatMap_singleton' _

/-- A pattern that ends in a slot: its first match takes the rest of the line behind the first place
behind the opening that leaves something. -/
theorem head_run_slotted (rs : List Pattern) (line : '\n' ∉ c.rest) :
    (run isWord same (sequence (rs ++ [.group (plus true .dot)])) c).head? =
      (((run isWord same (sequence rs) c).filter Cursor.more).head?).map Cursor.close := by
  have slots : ∀ d ∈ run isWord same (sequence rs) c,
      (run isWord same (sequence [.group (plus true .dot)]) d).head? = if d.more then some d.close else none := by
    intro d taken
    obtain ⟨passed, cut, -⟩ := follows_run _ c d taken
    rw [run_sequence_single, head_run_slot]
    intro inside
    exact line (cut ▸ List.mem_append_right passed inside)
  rw [run_sequence_append, List.head?_flatMap]
  generalize run isWord same (sequence rs) c = places at slots
  induction places with
  | nil => rfl
  | cons d places ih =>
    have here := slots d List.mem_cons_self
    have later := ih fun e member => slots e (List.mem_cons_of_mem d member)
    rw [List.findSome?_cons, here, List.filter_cons]
    cases d.more with
    | true => rfl
    | false => exact later

theorem matchStart_slotted (rs : List Pattern) {t : String} (line : '\n' ∉ t.toList) :
    matchStart isWord same (sequence (rs ++ [.group (plus true .dot)])) t =
      (((run isWord same (sequence rs) { before := [], rest := t.toList }).filter Cursor.more).head?).map
        Cursor.slots := by
  rw [matchStart, head_run_slotted rs line, Option.map_map]
  rfl

theorem search_slotted (rs : List Pattern) {t : String} (line : '\n' ∉ t.toList) :
    search isWord same (sequence (rs ++ [.group (plus true .dot)])) t =
      (((found isWord same (sequence rs) t.toList).filter Cursor.more).head?).map Cursor.slots := by
  have heads : ∀ c ∈ places [] t.toList, (run isWord same (sequence (rs ++ [.group (plus true .dot)])) c).head? =
      (((run isWord same (sequence rs) c).filter Cursor.more).head?).map Cursor.close := by
    intro c place
    obtain ⟨skipped, after, cut, rfl⟩ := mem_places.mp place
    exact head_run_slotted rs fun inside => line (cut ▸ List.mem_append_right skipped inside)
  have first : ((places [] t.toList).flatMap
      (run isWord same (sequence (rs ++ [.group (plus true .dot)])))).head? =
        (((found isWord same (sequence rs) t.toList).filter Cursor.more).head?).map Cursor.close := by
    unfold found
    generalize places [] t.toList = starts at heads
    induction starts with
    | nil => rfl
    | cons c starts ih =>
      rw [List.flatMap_cons, List.head?_append, heads c List.mem_cons_self,
        ih fun d member => heads d (List.mem_cons_of_mem c member), List.flatMap_cons, List.filter_append,
        List.head?_append]
      rcases ((run isWord same (sequence rs) c).filter Cursor.more).head? with _ | d <;> rfl
  rw [search, first, Option.map_map]
  rfl

theorem run_slot_ne_nil : run isWord same (.group (plus true .dot)) c ≠ [] ↔ ∃ first ∈ c.rest.head?, first ≠ '\n' := by
  obtain ⟨before, rest, groups⟩ := c
  rcases rest with _ | ⟨first, rest⟩
  · simp [plus, run]
  · have dot : run isWord same .dot { before := before, rest := first :: rest } =
        if first = '\n' then [] else [{ before := first :: before, rest := rest }] := rfl
    change ((run isWord same (plus true .dot) { before := before, rest := first :: rest }).map _) ≠ [] ↔ _
    change ((run isWord same .dot { before := before, rest := first :: rest }).flatMap _).map _ ≠ [] ↔ _
    rw [dot]
    by_cases ends : first = '\n'
    · simp [ends]
    · have kept (fuel : Nat) (at_ : Cursor) : repeats true (run isWord same .dot) fuel at_ ≠ [] := by
        cases fuel <;> simp [repeats]
      simp only [if_neg ends, List.flatMap_singleton, ne_eq, List.map_eq_nil_iff]
      exact iff_of_true (kept _ _) ⟨first, rfl, ends⟩

/-! Groups. -/

/-- Every match captures so many groups. -/
def Captures (isWord : Char → Bool) (same : Char → Char → Bool) (k : Nat) (r : Pattern) : Prop :=
  ∀ c, ∀ d ∈ run isWord same r c, d.groups.length = c.groups.length + k

theorem Spells.captures {L : Language Char} (spells : Spells isWord r L) : Captures isWord (fun c d => c = d) 0 r := by
  intro c d taken
  obtain ⟨_, -, _, -, rfl⟩ := (spells c d).mp taken
  rfl

theorem captures_dot : Captures isWord same 0 .dot := by
  intro c d taken
  rcases cut : c.rest with _ | ⟨first, rest⟩
  · simp [run, cut] at taken
  · simp only [run, cut] at taken
    split at taken
    · cases taken
    · obtain rfl := List.mem_singleton.mp taken
      rfl

theorem Captures.seq {k l : Nat} (first : Captures isWord same k r) (second : Captures isWord same l s) :
    Captures isWord same (k + l) (.seq r s) := by
  intro c d taken
  obtain ⟨mid, here, there⟩ := mem_run_seq.mp taken
  rw [second mid d there, first c mid here, Nat.add_assoc]

theorem Captures.star (once : Captures isWord same 0 r) (greedy : Bool) : Captures isWord same 0 (.star greedy r) := by
  have rounds (fuel : Nat) : ∀ c, ∀ d ∈ repeats greedy (run isWord same r) fuel c, d.groups.length = c.groups.length := by
    induction fuel with
    | zero =>
      intro c d taken
      obtain rfl := List.mem_singleton.mp taken
      rfl
    | succ fuel ih =>
      intro c d taken
      rcases mem_repeats_succ taken with rfl | ⟨e, first, rest⟩
      · rfl
      · exact (ih e d rest).trans (once c e first)
  intro c d taken
  exact rounds _ c d taken

theorem Captures.group {k : Nat} (inner : Captures isWord same k r) : Captures isWord same (k + 1) (.group r) := by
  intro c d taken
  obtain ⟨e, first, rfl⟩ := List.mem_map.mp taken
  have count := inner { c with groups := [] } e first
  simp only [List.length_nil, Nat.zero_add] at count
  simp only [List.length_append, List.length_cons, count]

/-! Matches of a growing text. -/

/-- The matches in a text with one more character, no word character, that leave something
are those in the text. -/
def Grows (isWord : Char → Bool) (matches_ : List Char → List Cursor) : Prop :=
  ∀ t x, isWord x = false → (matches_ (t ++ [x])).filter Cursor.more = (matches_ t).map (Cursor.longer x)

theorem grows_run (r : Pattern) : Grows isWord fun t => run isWord same r { before := [], rest := t } :=
  fun t _ outside => run_longer outside r { before := [], rest := t }

theorem grows_found (r : Pattern) : Grows isWord fun t => found isWord same r t :=
  fun t _ outside => found_longer outside r t

section

variable {matches_ : List Char → List Cursor}

/-- The first match that leaves a mark at the end of a text is the first in the text. -/
theorem head_marked (grows : Grows isWord matches_) (outside : isWord x = false) (t : List Char) :
    ((matches_ (t ++ [x])).filter Cursor.more).head? = (matches_ t).head?.map (Cursor.longer x) := by
  rw [grows t x outside, List.head?_map]

/-- If there is no match in the longer text, there is none in the text. -/
theorem matches_nil_of_longer (grows : Grows isWord matches_) (outside : isWord x = false) {t : List Char}
    (none_ : (matches_ (t ++ [x])).head? = none) : matches_ t = [] := by
  rw [List.head?_eq_none_iff] at none_
  have nothing := grows t x outside
  rw [none_] at nothing
  exact List.map_eq_nil_iff.mp nothing.symm

variable (ends : ∀ t, ∀ d ∈ matches_ t, d.rest = [] → t.getLast? = some x)
include ends

/-- Where every match at the end of a text ends in a character that the text does not end in,
every match leaves something. -/
theorem filter_more_eq {t : List Char} (other : t.getLast? ≠ some x) :
    (matches_ t).filter Cursor.more = matches_ t := by
  refine List.filter_eq_self.mpr fun d taken => ?_
  by_contra nothing
  exact other (ends t d taken (Cursor.more_eq_false.mp (Bool.eq_false_iff.mpr nothing)))

/-- If the first match in the longer text leaves something, it is the first in the text. -/
theorem head_of_longer (grows : Grows isWord matches_) (outside : isWord x = false) {t : List Char}
    (other : t.getLast? ≠ some x) (first : (matches_ (t ++ [x])).head? = some c) (left : c.more = true) :
    ∃ d, ((matches_ t).filter Cursor.more).head? = some d ∧ c = d.longer x := by
  have kept : ((matches_ (t ++ [x])).filter Cursor.more).head? = some c := by
    rcases places : matches_ (t ++ [x]) with _ | ⟨e, others⟩
    · rw [places] at first
      cases first
    · rw [places] at first
      obtain rfl := Option.some.inj first
      rw [List.filter_cons_of_pos left, List.head?_cons]
  rw [grows t x outside, List.head?_map] at kept
  obtain ⟨d, here, same⟩ := Option.map_eq_some_iff.mp kept
  exact ⟨d, by rw [filter_more_eq ends other]; exact here, same.symm⟩

end

/-! Literals. -/

/-- Two texts that a literal does not tell apart. -/
def Alike (same : Char → Char → Bool) : List Char → List Char → Prop :=
  List.Forall₂ fun c d => same c d = true

theorem mem_run_literal {w : String} : d ∈ run isWord same (literal w) c ↔
    ∃ taken rest, Alike same w.toList taken ∧ c.rest = taken ++ rest ∧ d = c.past taken rest := by
  unfold literal
  generalize w.toList = letters
  induction letters generalizing c with
  | nil =>
    constructor
    · intro here
      obtain rfl := List.mem_singleton.mp here
      exact ⟨[], d.rest, .nil, rfl, rfl⟩
    · rintro ⟨taken, rest, alike, cut, rfl⟩
      cases alike
      obtain ⟨before, left, groups⟩ := c
      obtain rfl : left = rest := cut
      exact List.mem_singleton.mpr rfl
  | cons letter letters ih =>
    rw [List.foldr_cons, mem_run_seq]
    constructor
    · rintro ⟨mid, first, later⟩
      obtain ⟨taken, rest, alike, cut, rfl⟩ := ih.mp later
      rcases start : c.rest with _ | ⟨next, left⟩
      · simp [run, start] at first
      · simp only [run, start] at first
        split at first
        case isTrue fits =>
          obtain rfl := List.mem_singleton.mp first
          have cut : left = taken ++ rest := cut
          refine ⟨next :: taken, rest, .cons fits alike, by rw [cut]; rfl, ?_⟩
          simp [Cursor.past]
        case isFalse => cases first
    · rintro ⟨taken, rest, alike, cut, rfl⟩
      obtain _ | ⟨fits, alike⟩ := alike
      rename_i next taken
      refine ⟨{ c with before := next :: c.before, rest := taken ++ rest }, ?_, ih.mpr ⟨taken, rest, alike, rfl, ?_⟩⟩
      · simp [run, cut, fits]
      · simp [Cursor.past]

/-- A literal does not stand where another letter stands. -/
theorem run_literal_apart {w : String} {letter other : Char} (first : w.toList.head? = some letter)
    (here : c.rest.head? = some other) (apart : same letter other = false) : run isWord same (literal w) c = [] := by
  refine List.eq_nil_iff_forall_not_mem.mpr fun d taken => ?_
  obtain ⟨taken, rest, alike, cut, -⟩ := mem_run_literal.mp taken
  rcases letters : w.toList with _ | ⟨a, more⟩
  · rw [letters] at first
    cases first
  · rw [letters] at first alike
    obtain rfl := Option.some.inj first
    obtain _ | ⟨fits, -⟩ := alike
    rw [cut] at here
    obtain rfl := Option.some.inj here
    rw [apart] at fits
    cases fits

/-- A literal is tried in one way only. -/
theorem run_literal_self {w : String} (self : ∀ letter ∈ w.toList, same letter letter = true)
    (before rest : List Char) (groups : List (List Char)) :
    run isWord same (literal w) { before := before, rest := w.toList ++ rest, groups := groups } =
      [{ before := w.toList.reverse ++ before, rest := rest, groups := groups }] := by
  unfold literal
  generalize w.toList = letters at self
  induction letters generalizing before with
  | nil => rfl
  | cons letter letters ih =>
    have first : run isWord same (.char letter)
        { before := before, rest := letter :: letters ++ rest, groups := groups } =
          [{ before := letter :: before, rest := letters ++ rest, groups := groups }] := by
      simp [run, self letter List.mem_cons_self]
    rw [List.foldr_cons, run, first, List.flatMap_singleton,
      ih (letter :: before) fun other member => self other (List.mem_cons_of_mem letter member)]
    simp

end Pattern

end DroidOs.Lib.Regex
