/- GID: DroidOs/Util/DroppedLines
   generality: I
   source: src/droidos/util/miniyaml.py
   digest: Which lines of a document that parses are no source of its value. -/

import DroidOs.Util.Sources
import DroidOs.Util.TidyLines

set_option autoImplicit false
set_option relaxedAutoImplicit false

namespace DroidOs.Util.DroppedLines

open DroidOs.Lib DroidOs.Core.Values DroidOs.Util.Characters DroidOs.Util.MiniYaml
  DroidOs.Util.LineRoles DroidOs.Util.Sources DroidOs.Util.TidyLines

variable {text : YamlText} {fuel indent : ℕ} {lines rest : List Numbered}

/-! One step of each reader. -/

private theorem traceMap_cases {result entries : SourcedEntries}
    (traced : traceMap text (fuel + 1) lines indent result = some (entries, rest)) :
    (entries = result ∧ rest = lines ∧ ∀ line ∈ lines.head?, line.2.1 < indent) ∨
      ∃ number content lines' read below, lines = (number, indent, content) :: lines' ∧
        isEntry content = true ∧
          traceEntry text (traceBlock text fuel) lines' indent content = some (read, below) ∧
            traceMap text fuel below indent
              (Dict.set (keyOf content) ⟨read.value, number :: read.lines⟩ result) =
                some (entries, rest) := by
  rcases lines with - | ⟨⟨number, current, content⟩, lines⟩
  · cases traced
    exact .inl ⟨rfl, rfl, by simp⟩
  rw [traceMap] at traced
  split at traced
  · rename_i ended
    cases traced
    exact .inl ⟨rfl, rfl, by simpa using ended⟩
  split at traced
  · cases traced
  rename_i fits
  rw [not_or, not_not, Bool.not_eq_false] at fits
  obtain ⟨rfl, is_entry⟩ := fits
  obtain ⟨⟨read, below⟩, reads, traced⟩ := Option.bind_eq_some_iff.mp traced
  exact .inr ⟨number, content, lines, read, below, rfl, is_entry, reads, traced⟩

private theorem traceList_cases {result items : List Sourced}
    (traced : traceList text (fuel + 1) lines indent result = some (items, rest)) :
    (items = result ∧ rest = lines ∧ ∀ line ∈ lines.head?, line.2.1 ≤ indent) ∨
      ∃ number content lines', lines = (number, indent, content) :: lines' ∧ isItem content = true ∧
        ((startsEntry (itemText content) = true ∧ ∃ entries left,
          traceMap text fuel ((number, indent + 2, itemText content) :: deeperOf indent lines')
            (indent + 2) [] = some (entries, left) ∧
          traceList text fuel (shallowerOf indent lines') indent (result ++ [sourcedMapping entries]) =
            some (items, rest)) ∨
        (startsEntry (itemText content) = false ∧
          traceList text fuel lines' indent
            (result ++ [⟨scalar text (itemText content), [number]⟩]) = some (items, rest))) := by
  rcases lines with - | ⟨⟨number, current, content⟩, lines⟩
  · cases traced
    exact .inl ⟨rfl, rfl, by simp⟩
  rw [traceList] at traced
  split at traced
  · rename_i ended
    cases traced
    refine .inl ⟨rfl, rfl, ?_⟩
    intro line first
    cases first
    show current ≤ indent
    omega
  rename_i goes_on
  split at traced
  · cases traced
  rename_i fits
  obtain rfl := not_not.mp fits
  have item : isItem content = true := by simpa using goes_on
  refine .inr ⟨number, content, lines, rfl, item, ?_⟩
  split at traced
  · rename_i starts
    obtain ⟨⟨entries, left⟩, reads, traced⟩ := Option.bind_eq_some_iff.mp traced
    exact .inl ⟨starts, entries, left, reads, traced⟩
  · rename_i plain
    exact .inr ⟨by simpa using plain, traced⟩

private theorem traceMap_head {result entries : SourcedEntries}
    (traced : traceMap text fuel lines indent result = some (entries, rest)) :
    ∀ line ∈ lines.head?, line.2.1 ≤ indent := by
  cases fuel with
  | zero => exact nomatch traced
  | succ fuel =>
    rcases traceMap_cases traced with ⟨-, -, stops⟩ | ⟨number, content, lines', -, -, rfl, -⟩
    · exact fun line first => (stops line first).le
    · simp

private theorem traceMap_entry {number : ℕ} {content : List Char} {result entries : SourcedEntries}
    (traced : traceMap text fuel ((number, indent, content) :: lines) indent result =
      some (entries, rest)) : isEntry content = true := by
  cases fuel with
  | zero => exact nomatch traced
  | succ fuel =>
    rcases traceMap_cases traced with ⟨-, -, stops⟩ | ⟨_, _, _, _, _, same, is_entry, -⟩
    · exact absurd (stops _ rfl) (Nat.lt_irrefl indent)
    · cases same
      exact is_entry

/-! What a reader keeps of the lines it takes. -/

/-- The lines taken are those that the value keeps and those that get lost. -/
def Account (before taken after lost : List ℕ) : Prop := (after ++ lost).Perm (before ++ taken)

private theorem account_iff {before taken after lost : List ℕ} :
    Account before taken after lost ↔
      ∀ n, after.count n + lost.count n = before.count n + taken.count n := by
  unfold Account
  rw [List.perm_iff_count]
  simp only [List.count_append]

/-- Setting a key loses the sources of the value it had. -/
private theorem set_account {entries : SourcedEntries} (sourced : ∀ e ∈ entries, e.2.lines ≠ [])
    (key : String) (read : Sourced) :
    ∃ old, (old = [] ↔ key ∉ entries.map Prod.fst) ∧
      Account (entryLines entries) read.lines (entryLines (Dict.set key read entries)) old := by
  induction entries with
  | nil => exact ⟨[], by simp, by simp [Account, entryLines, Dict.set]⟩
  | cons entry entries ih =>
    rw [Dict.set]
    by_cases here : entry.1 = key
    · refine ⟨entry.2.lines, ?_, ?_⟩
      · simp [here, sourced entry List.mem_cons_self]
      · rw [if_pos here, account_iff]
        intro n
        simp only [entryLines, List.flatMap_cons, List.count_append]
        omega
    · obtain ⟨old, none_lost, account⟩ := ih fun e there => sourced e (List.mem_cons_of_mem entry there)
      refine ⟨old, ?_, ?_⟩
      · rw [none_lost, List.map_cons, List.mem_cons, not_or]
        exact (and_iff_right (Ne.symm here)).symm
      · rw [if_neg here, account_iff]
        intro n
        have same := account_iff.mp account n
        simp only [entryLines, List.flatMap_cons, List.count_append] at same ⊢
        omega

private theorem fresh_iff (holds : String → Prop) (key : String) (keys : List String) :
    (key ∉ keys ∧ ∀ other ∈ (if key ∈ keys then keys else keys ++ [key]), holds other) ↔
      holds key ∧ ∀ other ∈ keys, key ≠ other ∧ holds other := by
  constructor
  · rintro ⟨fresh, all⟩
    rw [if_neg fresh] at all
    refine ⟨all key (by simp), fun other there => ⟨?_, all other (by simp [there])⟩⟩
    rintro rfl
    exact fresh there
  · rintro ⟨here, all⟩
    have fresh : key ∉ keys := fun there => (all key there).1 rfl
    refine ⟨fresh, ?_⟩
    rw [if_neg fresh]
    intro other there
    rcases List.mem_append.mp there with there | there
    · exact (all other there).2
    · rwa [List.mem_singleton.mp there]

/-- Each reader takes a stretch of the lines, and loses none of them just if they are tidy. -/
structure Keeps (text : YamlText) (fuel : ℕ) : Prop where
  block : ∀ {lines indent read rest}, traceBlock text fuel lines indent = some (read, rest) →
    ∃ used lost, lines = used ++ rest ∧ (∀ line ∈ used, indent ≤ line.2.1) ∧
      Account [] (numbersOf used) read.lines lost ∧ (lost = [] ↔ tidy none (plainLines used) = true)
  map : ∀ {header lines indent result entries rest}, Outside header (plainLines lines) →
    (∀ e ∈ result, e.2.lines ≠ []) →
    traceMap text fuel lines indent result = some (entries, rest) →
      ∃ used lost, lines = used ++ rest ∧ (∀ line ∈ used, indent ≤ line.2.1) ∧
        (∀ line ∈ used.head?, line.2.1 = indent) ∧ (∀ line ∈ rest.head?, line.2.1 < indent) ∧
          Account (entryLines result) (numbersOf used) (entryLines entries) lost ∧
            (lost = [] ↔ tidy header (plainLines used) = true ∧
              ∀ key ∈ result.map Prod.fst, repeats header indent key (plainLines used) = false)
  list : ∀ {header lines indent result items rest}, Outside header (plainLines lines) →
    traceList text fuel lines indent result = some (items, rest) →
      ∃ used lost, lines = used ++ rest ∧ (∀ line ∈ used, indent ≤ line.2.1) ∧
        (∀ line ∈ used.head?, line.2.1 ≤ indent) ∧
          Account (itemLines result) (numbersOf used) (itemLines items) lost ∧
            (lost = [] ↔ tidy header (plainLines used) = true)

private theorem takeWhile_deep (indent : ℕ) (lines : List Numbered) :
    ∀ line ∈ deeperOf indent lines, indent < line.2.1 := by
  intro line there
  have deep := List.mem_takeWhile_imp there
  simpa using deep

private theorem plain_within {P : ℕ → Prop} (within : ∀ line ∈ lines, P line.2.1) :
    ∀ line ∈ plainLines lines, P line.1 := by
  intro line there
  obtain ⟨numbered, listed, rfl⟩ := List.mem_map.mp there
  exact within numbered listed

private theorem plain_head {P : ℕ → Prop} (first : ∀ line ∈ lines.head?, P line.2.1) :
    ∀ line ∈ (plainLines lines).head?, P line.1 := by
  intro line there
  rw [head_plainLines] at there
  obtain ⟨numbered, at_head, rfl⟩ := Option.map_eq_some_iff.mp there
  exact first numbered at_head

private theorem plainLines_append (front back : List Numbered) :
    plainLines (front ++ back) = plainLines front ++ plainLines back := List.map_append

private theorem numbersOf_append (front back : List Numbered) :
    numbersOf (front ++ back) = numbersOf front ++ numbersOf back := List.map_append

private theorem entry_keeps (keeps : Keeps text fuel) {content : List Char} {read : Sourced}
    (traced : traceEntry text (traceBlock text fuel) lines indent content = some (read, rest)) :
    ∃ used lost, lines = used ++ rest ∧ (∀ line ∈ used, indent < line.2.1) ∧
      Account [] (numbersOf used) read.lines lost ∧
        (lost = [] ↔ tidy ((blockScalarKind (restOf content)).map fun _ => indent)
          (plainLines used) = true) := by
  have nothing {header : Option ℕ} : ∃ used lost : List _, lines = used ++ lines ∧
      (∀ line ∈ used, indent < line.2.1) ∧ Account [] (numbersOf used) [] lost ∧
        (lost = [] ↔ tidy header (plainLines used) = true) :=
    ⟨[], [], rfl, by simp, List.Perm.refl _, by simp [plainLines, tidy]⟩
  unfold traceEntry at traced
  cases header : blockScalarKind (restOf content) with
  | some kind =>
    rw [header] at traced
    cases traced
    have body := tidy_body (plain_within (takeWhile_deep indent lines))
    refine ⟨deeperOf indent lines, [], ?_, takeWhile_deep indent lines, ?_, by simp [body.1]⟩
    · exact List.takeWhile_append_dropWhile.symm
    · rw [account_iff]
      simp
  | none =>
    rw [header] at traced
    simp only at traced
    split at traced
    · split at traced
      · rename_i child first
        split at traced
        · rename_i deep
          obtain ⟨used, lost, split, within, account, none_lost⟩ := keeps.block traced
          exact ⟨used, lost, split, fun line there => deep.trans_le (within line there), account,
            none_lost⟩
        · cases traced
          exact nothing
      · cases traced
        exact nothing
    · cases traced
      exact nothing

private theorem outside_none (lines : List Line) : Outside none lines := fun _ _ => rfl

private theorem follow_deep {header : Option ℕ} (content : List Char)
    (outside : inBody header indent = false) : Deep indent (follow header (indent, content)) := by
  rw [follow, outside, if_neg Bool.false_ne_true]
  exact fun outer opens => headerIndent_le opens

private theorem outside_below {header : Option ℕ} {body below : List Numbered}
    (open_deep : Deep indent header) (deep : ∀ line ∈ body, indent < line.2.1)
    (below_le : ∀ line ∈ below.head?, line.2.1 ≤ indent) :
    Outside ((plainLines body).foldl follow header) (plainLines below) := by
  apply outside_of_le
  · exact deep_foldl open_deep (plain_within fun line there => (deep line there).le)
  · exact plain_head (P := (· ≤ indent)) below_le

private theorem map_keeps (keeps : Keeps text fuel) {header : Option ℕ} {result entries : SourcedEntries}
    (outside : Outside header (plainLines lines)) (sourced : ∀ e ∈ result, e.2.lines ≠ [])
    (traced : traceMap text (fuel + 1) lines indent result = some (entries, rest)) :
    ∃ used lost, lines = used ++ rest ∧ (∀ line ∈ used, indent ≤ line.2.1) ∧
      (∀ line ∈ used.head?, line.2.1 = indent) ∧ (∀ line ∈ rest.head?, line.2.1 < indent) ∧
        Account (entryLines result) (numbersOf used) (entryLines entries) lost ∧
          (lost = [] ↔ tidy header (plainLines used) = true ∧
            ∀ key ∈ result.map Prod.fst, repeats header indent key (plainLines used) = false) := by
  rcases traceMap_cases traced with ⟨rfl, rfl, stops⟩ |
    ⟨number, content, lines, read, below, rfl, is_entry, reads, traced_after⟩
  · refine ⟨[], [], rfl, by simp, by simp, stops, by simp [Account, numbersOf], ?_⟩
    simp [plainLines, tidy, repeats]
  obtain ⟨body, lost_in, rfl, deep, account_in, none_lost_in⟩ := entry_keeps keeps reads
  obtain ⟨old, none_old, account_set⟩ := set_account sourced (keyOf content)
    ⟨read.value, number :: read.lines⟩
  let opened := follow header (indent, content)
  have outside_here : inBody header indent = false := outside _ rfl
  have opens : opened = (blockScalarKind (restOf content)).map fun _ => indent := by
    show follow header (indent, content) = _
    rw [follow, outside_here, if_neg Bool.false_ne_true, headerIndent_entry is_entry]
  have outside_after : Outside ((plainLines body).foldl follow opened) (plainLines below) :=
    outside_below (follow_deep content outside_here) deep (traceMap_head traced_after)
  have sourced_after : ∀ e ∈ Dict.set (keyOf content) ⟨read.value, number :: read.lines⟩ result,
      e.2.lines ≠ [] := by
    intro e there
    rcases Dict.mem_of_set there with rfl | there
    · simp
    · exact sourced e there
  obtain ⟨used, lost, rfl, within, first, stops, account, none_lost⟩ :=
    keeps.map outside_after sourced_after traced_after
  refine ⟨(number, indent, content) :: (body ++ used), old ++ lost_in ++ lost, by simp, ?_, by simp,
    stops, ?_, ?_⟩
  · intro line there
    rcases List.mem_cons.mp there with rfl | there
    · exact le_refl indent
    · rcases List.mem_append.mp there with there | there
      · exact (deep line there).le
      · exact within line there
  · rw [account_iff] at account_in account_set account ⊢
    intro n
    have in_body := account_in n
    have in_set := account_set n
    have after := account n
    simp only [numbersOf, List.map_cons, List.map_append, List.count_append, List.count_cons,
      List.count_nil] at in_body in_set after ⊢
    omega
  · have first_le : ∀ line ∈ (plainLines used).head?, line.1 ≤ indent :=
      plain_head (P := (· ≤ indent)) fun line there => (first line there).le
    rw [List.append_eq_nil_iff, List.append_eq_nil_iff, none_old, none_lost_in, none_lost,
      plainLines_cons, plainLines_append,
      tidy_entry is_entry outside_here (plain_within deep) first_le, Dict.keys_set, ← opens]
    simp only [repeats_entry _ outside_here (plain_within deep)]
    have fresh := fresh_iff (fun key =>
      repeats ((plainLines body).foldl follow opened) indent key (plainLines used) = false)
      (keyOf content) (result.map Prod.fst)
    constructor
    · rintro ⟨⟨absent, tidy_in⟩, tidy_after, all⟩
      obtain ⟨alone, others⟩ := fresh.mp ⟨absent, all⟩
      exact ⟨⟨alone, tidy_in, tidy_after⟩, others⟩
    · rintro ⟨⟨alone, tidy_in, tidy_after⟩, others⟩
      obtain ⟨absent, all⟩ := fresh.mpr ⟨alone, others⟩
      exact ⟨⟨absent, tidy_in⟩, tidy_after, all⟩

private theorem shallowerOf_le (indent : ℕ) (lines : List Numbered) :
    ∀ line ∈ (shallowerOf indent lines).head?, line.2.1 ≤ indent := by
  intro line first
  have stops := List.head?_dropWhile_not (fun line : Numbered => decide (indent < line.2.1)) lines
  unfold shallowerOf at first
  rw [Option.mem_def.mp first] at stops
  simpa using stops

private theorem item_keeps (keeps : Keeps text fuel) {number : ℕ} {item : List Char}
    {block left : List Numbered} {entries : SourcedEntries}
    (traced : traceMap text fuel ((number, indent, item) :: block) indent [] = some (entries, left)) :
    ∃ taken lost, block = taken ++ left ∧ isEntry item = true ∧ (∀ line ∈ taken, indent ≤ line.2.1) ∧
      (∀ line ∈ left.head?, line.2.1 < indent) ∧
        Account [] (number :: numbersOf taken) (entryLines entries) lost ∧
          (lost = [] ↔ tidy none ((indent, item) :: plainLines taken) = true) := by
  obtain ⟨used, lost, split, within, -, cut, account, none_lost⟩ :=
    keeps.map (outside_none _) (by simp) traced
  rcases used with - | ⟨line, taken⟩
  · rw [List.nil_append] at split
    rw [← split] at cut
    exact absurd (cut _ rfl) (Nat.lt_irrefl indent)
  obtain ⟨rfl, same⟩ := List.cons.inj split
  refine ⟨taken, lost, same, traceMap_entry traced, ?_, cut, account, by simpa using none_lost⟩
  exact fun line there => within line (List.mem_cons_of_mem _ there)

private theorem list_keeps (keeps : Keeps text fuel) {header : Option ℕ} {result items : List Sourced}
    (outside : Outside header (plainLines lines))
    (traced : traceList text (fuel + 1) lines indent result = some (items, rest)) :
    ∃ used lost, lines = used ++ rest ∧ (∀ line ∈ used, indent ≤ line.2.1) ∧
      (∀ line ∈ used.head?, line.2.1 ≤ indent) ∧
        Account (itemLines result) (numbersOf used) (itemLines items) lost ∧
          (lost = [] ↔ tidy header (plainLines used) = true) := by
  rcases traceList_cases traced with ⟨rfl, rfl, -⟩ | ⟨number, content, lines, rfl, item, ways⟩
  · exact ⟨[], [], rfl, by simp, by simp, by simp [Account, numbersOf], by simp [plainLines, tidy]⟩
  have outside_here : inBody header indent = false := outside _ rfl
  rcases ways with ⟨starts, entries, left, reads, traced_after⟩ | ⟨plain, traced_after⟩
  · obtain ⟨taken, lost_in, block, is_entry, within_in, cut, account_in, none_lost_in⟩ :=
      item_keeps keeps reads
    have deep : ∀ line ∈ taken ++ left, indent < line.2.1 := by
      rw [← block]
      exact takeWhile_deep indent lines
    have deep_left : ∀ line ∈ left, indent < line.2.1 := fun line there =>
      deep line (List.mem_append_right taken there)
    have outside_after := outside_below (follow_deep content outside_here) deep
      (shallowerOf_le indent lines)
    obtain ⟨used, lost, below, within, first, account, none_lost⟩ := keeps.list outside_after traced_after
    have whole : lines = (taken ++ left) ++ (used ++ rest) := by
      rw [← block, ← below]
      exact List.takeWhile_append_dropWhile.symm
    refine ⟨(number, indent, content) :: ((taken ++ left) ++ used), lost_in ++ numbersOf left ++ lost,
      by simp [whole], ?_, by simp, ?_, ?_⟩
    · intro line there
      rcases List.mem_cons.mp there with rfl | there
      · exact le_refl indent
      · rcases List.mem_append.mp there with there | there
        · exact (deep line there).le
        · exact within line there
    · rw [account_iff] at account_in account ⊢
      intro n
      have in_item := account_in n
      have after := account n
      simp only [itemLines, sourcedMapping, numbersOf, List.map_cons, List.map_append,
        List.flatMap_append, List.flatMap_cons, List.flatMap_nil, List.count_append, List.count_cons,
        List.count_nil] at in_item after ⊢
      omega
    · have nothing_left : numbersOf left = [] ↔ left = [] := List.map_eq_nil_iff
      have left_nil : plainLines left = [] ↔ left = [] := List.map_eq_nil_iff
      have whole_item := tidy_item item starts is_entry outside_here
        (plain_within (P := (indent + 2 ≤ ·)) within_in) (plain_within (P := (indent < ·)) deep_left)
        (plain_head (P := (· < indent + 2)) cut) (plain_head (P := (· ≤ indent)) first)
      rw [List.append_eq_nil_iff, List.append_eq_nil_iff, none_lost_in, none_lost, nothing_left,
        plainLines_cons, plainLines_append (taken ++ left), plainLines_append taken, whole_item, left_nil]
      constructor
      · rintro ⟨⟨alone, rfl⟩, tidy_below⟩
        exact ⟨rfl, alone, by simpa [plainLines] using tidy_below⟩
      · rintro ⟨rfl, alone, tidy_below⟩
        exact ⟨⟨alone, rfl⟩, by simpa [plainLines] using tidy_below⟩
  · have closed : follow header (indent, content) = none := by
      simp [follow, outside_here, headerIndent, entryText, item, plain]
    obtain ⟨used, lost, rfl, within, -, account, none_lost⟩ :=
      keeps.list (outside_none _) traced_after
    refine ⟨(number, indent, content) :: used, lost, rfl, ?_, by simp, ?_, ?_⟩
    · intro line there
      rcases List.mem_cons.mp there with rfl | there
      · exact le_refl indent
      · exact within line there
    · rw [account_iff] at account ⊢
      intro n
      have after := account n
      simp only [itemLines, numbersOf, List.map_cons, List.flatMap_append, List.flatMap_cons,
        List.flatMap_nil, List.count_append, List.count_cons, List.count_nil] at after ⊢
      omega
    · rw [none_lost, plainLines_cons, tidy, closed, outside_here]
      simp [tidyEntry, entryText, item, plain]

private theorem block_keeps (keeps : Keeps text fuel) {read : Sourced}
    (traced : traceBlock text (fuel + 1) lines indent = some (read, rest)) :
    ∃ used lost, lines = used ++ rest ∧ (∀ line ∈ used, indent ≤ line.2.1) ∧
      Account [] (numbersOf used) read.lines lost ∧
        (lost = [] ↔ tidy none (plainLines used) = true) := by
  rw [traceBlock] at traced
  split at traced
  · obtain ⟨⟨items, left⟩, reads, traced⟩ := Option.bind_eq_some_iff.mp traced
    cases traced
    obtain ⟨used, lost, split, within, -, account, none_lost⟩ :=
      keeps.list (outside_none _) reads
    exact ⟨used, lost, split, within, account, none_lost⟩
  · obtain ⟨⟨entries, left⟩, reads, traced⟩ := Option.bind_eq_some_iff.mp traced
    cases traced
    obtain ⟨used, lost, split, within, -, -, account, none_lost⟩ :=
      keeps.map (outside_none _) (by simp) reads
    exact ⟨used, lost, split, within, account, by simpa using none_lost⟩

theorem keeps (text : YamlText) (fuel : ℕ) : Keeps text fuel := by
  induction fuel with
  | zero =>
    constructor
    · intro _ _ _ _ traced
      exact nomatch traced
    · intro _ _ _ _ _ _ _ _ traced
      exact nomatch traced
    · intro _ _ _ _ _ _ _ traced
      exact nomatch traced
  | succ fuel ih => exact ⟨block_keeps ih, map_keeps ih, list_keeps ih⟩

end DroidOs.Util.DroppedLines
