/- GID: DroidOs/Util/Parsed
   generality: I
   source: src/droidos/util/miniyaml.py
   digest: The parser comes to an end on every text, and what a file loads as. -/

import DroidOs.Util.MiniYaml

set_option autoImplicit false
set_option relaxedAutoImplicit false

namespace DroidOs.Util.Parsed

open DroidOs.Lib DroidOs.Core.Values DroidOs.Util.Characters DroidOs.Util.MiniYaml

variable {text : YamlText}

/-! The fuel of a scalar is enough: a part of a flow list is shorter than the list. -/

theorem length_strip (s : List Char) : (strip s).length ≤ s.length := by
  have cut := (List.rdropWhile_prefix (p := isSpace) (l := s.dropWhile isSpace)).length_le
  exact Nat.le_trans cut (List.dropWhile_suffix isSpace).length_le

private theorem splitFlowFrom_step (buf cs : List Char) (inSingle inDouble : Bool) (c : Char) :
    ∃ inSingle' inDouble', splitFlowFrom buf inSingle inDouble (c :: cs) =
        strip buf :: splitFlowFrom [] inSingle' inDouble' cs ∨
      splitFlowFrom buf inSingle inDouble (c :: cs) = splitFlowFrom (buf ++ [c]) inSingle' inDouble' cs := by
  rw [splitFlowFrom]
  exact ⟨_, _, ite_eq_or_eq _ _ _⟩

theorem length_part {t buf cs : List Char} {inSingle inDouble : Bool}
    (part : t ∈ splitFlowFrom buf inSingle inDouble cs) : t.length ≤ buf.length + cs.length := by
  induction cs generalizing buf inSingle inDouble with
  | nil =>
    rw [splitFlowFrom] at part
    split at part
    · cases part
    · rw [List.mem_singleton.mp part]
      exact length_strip buf
  | cons c cs ih =>
    rw [List.length_cons]
    obtain ⟨inSingle', inDouble', cut | kept⟩ := splitFlowFrom_step buf cs inSingle inDouble c
    · rw [cut, List.mem_cons] at part
      rcases part with rfl | later
      · exact Nat.le_trans (length_strip buf) (by omega)
      · exact Nat.le_trans (ih later) (by rw [List.length_nil]; omega)
    · rw [kept] at part
      have later := ih part
      rw [List.length_append, List.length_singleton] at later
      omega

theorem length_inner {token : List Char} (flow : looksFlow token = true) :
    (strip (inside token)).length + 2 ≤ token.length := by
  simp only [looksFlow, decide_eq_true_eq] at flow
  have cut := length_strip (inside token)
  rw [inside, List.length_dropLast, List.length_tail] at cut
  rw [inside]
  omega

/-- More fuel than characters makes no difference. -/
theorem scalarWithin_eq {token : List Char} {fuel more : ℕ} (enough : token.length < fuel)
    (enough_more : token.length < more) : scalarWithin text fuel token = scalarWithin text more token := by
  induction fuel generalizing token more with
  | zero => omega
  | succ fuel ih =>
    obtain ⟨more, rfl⟩ : ∃ n, more = n + 1 := ⟨more - 1, by omega⟩
    have short := length_strip token
    have parts (flow : looksFlow (strip token) = true) :
        (splitFlow (strip (inside (strip token)))).map (scalarWithin text fuel) =
          (splitFlow (strip (inside (strip token)))).map (scalarWithin text more) := by
      have inner := length_inner flow
      apply List.map_congr_left
      intro t part
      have shorter := length_part part
      rw [List.length_nil] at shorter
      exact ih (by omega) (by omega)
    simp only [scalarWithin]
    by_cases flow : looksFlow (strip token) = true
    · rw [parts flow]
    · simp only [if_neg flow]

/-! The fuel of a parse is enough: each level and each line uses up to three units of it. -/

/-- Fuel is left, and at most `bound` lines follow. -/
private def Ends {α : Type} (bound : ℕ) : Except Stop (α × List Line) → Prop
  | .ok (_, rest) => rest.length ≤ bound
  | .error stop => stop ≠ .outOfFuel

private theorem Ends.bind {α β : Type} {x : Except Stop (α × List Line)}
    {f : α × List Line → Except Stop (β × List Line)} {m n : ℕ} (first : Ends m x)
    (next : ∀ a rest, rest.length ≤ m → Ends n (f (a, rest))) : Ends n (x >>= f) := by
  rcases x with stop | ⟨a, rest⟩
  · exact first
  · exact next a rest first

private theorem Ends.le {α : Type} {x : Except Stop (α × List Line)} {m n : ℕ} (ends : Ends m x)
    (le : m ≤ n) : Ends n x := by
  rcases x with stop | ⟨a, rest⟩
  · exact ends
  · exact Nat.le_trans ends le

private theorem ends_error {α : Type} {n : ℕ} (message : String) :
    Ends n (.error (.miniYamlError message) : Except Stop (α × List Line)) := by
  intro same
  cases same

private theorem length_below (lines : List Line) (indent : ℕ) :
    (lines.dropWhile fun line => indent < line.1).length ≤ lines.length :=
  (List.dropWhile_suffix _).length_le

private theorem length_inside (lines : List Line) (indent : ℕ) :
    (lines.takeWhile fun line => indent < line.1).length ≤ lines.length :=
  (List.takeWhile_prefix _).length_le

/-- The three parsers end with this much fuel. -/
private structure Suffices (text : YamlText) (fuel : ℕ) : Prop where
  block : ∀ lines indent, 3 * lines.length + 3 ≤ fuel →
    Ends lines.length (parseBlock text fuel lines indent)
  map : ∀ lines indent result, 3 * lines.length + 1 ≤ fuel →
    Ends lines.length (parseMap text fuel lines indent result)
  list : ∀ lines indent result, 3 * lines.length + 2 ≤ fuel →
    Ends lines.length (parseList text fuel lines indent result)

private theorem block_ends {fuel : ℕ} (smaller : Suffices text fuel) (lines : List Line)
    (indent : ℕ) (enough : 3 * lines.length + 3 ≤ fuel + 1) :
    Ends lines.length (parseBlock text (fuel + 1) lines indent) := by
  rw [parseBlock]
  split
  · exact (smaller.list lines indent [] (by omega)).bind fun _ _ shorter => shorter
  · exact (smaller.map lines indent [] (by omega)).bind fun _ _ shorter => shorter

private theorem map_ends {fuel : ℕ} (smaller : Suffices text fuel) (lines : List Line)
    (indent : ℕ) (result : Entries) (enough : 3 * lines.length + 1 ≤ fuel + 1) :
    Ends lines.length (parseMap text (fuel + 1) lines indent result) := by
  cases lines with
  | nil =>
    rw [parseMap]
    exact Nat.le_refl 0
  | cons line lines =>
    obtain ⟨current, content⟩ := line
    rw [List.length_cons] at enough ⊢
    have later (below : List Line) (shorter : below.length ≤ lines.length) (entries : Entries) :
        Ends (lines.length + 1) (parseMap text fuel below indent entries) :=
      (smaller.map below indent entries (by omega)).le (by omega)
    rw [parseMap]
    split
    · exact Nat.le_refl _
    split
    · exact ends_error _
    split
    · exact ends_error _
    split
    · exact ends_error _
    dsimp only
    split
    next block _ => exact later _ (length_below lines indent) _
    next =>
      split
      next =>
        split
        next child _ =>
          split
          · exact (smaller.block lines child.1 (by omega)).bind fun _ below shorter =>
              later below shorter _
          · exact later lines (Nat.le_refl _) _
        next => exact later lines (Nat.le_refl _) _
      next => exact later lines (Nat.le_refl _) _

private theorem list_ends {fuel : ℕ} (smaller : Suffices text fuel) (lines : List Line)
    (indent : ℕ) (result : List PyVal) (enough : 3 * lines.length + 2 ≤ fuel + 1) :
    Ends lines.length (parseList text (fuel + 1) lines indent result) := by
  cases lines with
  | nil =>
    rw [parseList]
    exact Nat.le_refl 0
  | cons line lines =>
    obtain ⟨current, content⟩ := line
    rw [List.length_cons] at enough ⊢
    have later (below : List Line) (shorter : below.length ≤ lines.length) (items : List PyVal) :
        Ends (lines.length + 1) (parseList text fuel below indent items) :=
      (smaller.list below indent items (by omega)).le (by omega)
    rw [parseList]
    split
    · exact Nat.le_refl _
    split
    · exact ends_error _
    dsimp only
    split
    · have few := length_inside lines indent
      refine (smaller.map _ (indent + 2) [] ?_).bind fun _ _ _ => later _ (length_below lines indent) _
      rw [List.length_cons]
      omega
    · exact later lines (Nat.le_refl _) _

private theorem suffices_all (text : YamlText) (fuel : ℕ) : Suffices text fuel := by
  induction fuel with
  | zero => constructor <;> (intros; omega)
  | succ fuel ih => exact ⟨block_ends ih, map_ends ih, list_ends ih⟩

private theorem bind_congr_ends {α β : Type} {x y : Except Stop (α × List Line)}
    {f g : α × List Line → Except Stop (β × List Line)} {n : ℕ} (first : x = y) (ends : Ends n y)
    (next : ∀ a rest, rest.length ≤ n → f (a, rest) = g (a, rest)) : x >>= f = y >>= g := by
  subst first
  rcases x with stop | ⟨a, rest⟩
  · rfl
  · exact next a rest ends

/-- With this much fuel one more unit makes no difference to the three parsers. -/
private structure Steady (text : YamlText) (fuel : ℕ) : Prop where
  block : ∀ lines indent, 3 * lines.length + 3 ≤ fuel →
    parseBlock text (fuel + 1) lines indent = parseBlock text fuel lines indent
  map : ∀ lines indent result, 3 * lines.length + 1 ≤ fuel →
    parseMap text (fuel + 1) lines indent result = parseMap text fuel lines indent result
  list : ∀ lines indent result, 3 * lines.length + 2 ≤ fuel →
    parseList text (fuel + 1) lines indent result = parseList text fuel lines indent result

private theorem block_steady {fuel : ℕ} (smaller : Steady text fuel) (lines : List Line) (indent : ℕ)
    (enough : 3 * lines.length + 3 ≤ fuel + 1) :
    parseBlock text (fuel + 2) lines indent = parseBlock text (fuel + 1) lines indent := by
  rw [parseBlock, parseBlock, smaller.list lines indent [] (by omega),
    smaller.map lines indent [] (by omega)]

private theorem map_steady {fuel : ℕ} (smaller : Steady text fuel) (lines : List Line) (indent : ℕ)
    (result : Entries) (enough : 3 * lines.length + 1 ≤ fuel + 1) :
    parseMap text (fuel + 2) lines indent result = parseMap text (fuel + 1) lines indent result := by
  cases lines with
  | nil => rw [parseMap, parseMap]
  | cons line lines =>
    obtain ⟨current, content⟩ := line
    rw [List.length_cons] at enough
    have later (below : List Line) (shorter : below.length ≤ lines.length) (entries : Entries) :
        parseMap text (fuel + 1) below indent entries = parseMap text fuel below indent entries :=
      smaller.map below indent entries (by omega)
    have same := later lines (Nat.le_refl _)
    have folded (block : Bool × Bool) := later (parseBlockScalar lines indent block).2 (length_below lines indent)
    have nested (child : Line) (key : String) :
        (parseBlock text (fuel + 1) lines child.1 >>= fun x =>
          parseMap text (fuel + 1) x.2 indent (Dict.set key x.1 result)) =
        parseBlock text fuel lines child.1 >>= fun x =>
          parseMap text fuel x.2 indent (Dict.set key x.1 result) :=
      bind_congr_ends (smaller.block lines child.1 (by omega))
        ((suffices_all text fuel).block lines child.1 (by omega)) fun _ below shorter => later below shorter _
    rw [parseMap, parseMap]
    dsimp only
    simp only [same, folded, nested]

private theorem list_steady {fuel : ℕ} (smaller : Steady text fuel) (lines : List Line) (indent : ℕ)
    (result : List PyVal) (enough : 3 * lines.length + 2 ≤ fuel + 1) :
    parseList text (fuel + 2) lines indent result = parseList text (fuel + 1) lines indent result := by
  cases lines with
  | nil => rw [parseList, parseList]
  | cons line lines =>
    obtain ⟨current, content⟩ := line
    rw [List.length_cons] at enough
    have later (below : List Line) (shorter : below.length ≤ lines.length) (items : List PyVal) :
        parseList text (fuel + 1) below indent items = parseList text fuel below indent items :=
      smaller.list below indent items (by omega)
    have same := later lines (Nat.le_refl _)
    have below := later _ (length_below lines indent)
    have inner (entry : List Char) := smaller.map
      ((indent + 2, entry) :: lines.takeWhile fun line => indent < line.1) (indent + 2) [] (by
        have few := length_inside lines indent
        rw [List.length_cons]
        omega)
    rw [parseList, parseList]
    dsimp only
    simp only [same, below, inner]

private theorem steady_all (text : YamlText) (fuel : ℕ) : Steady text fuel := by
  induction fuel with
  | zero => constructor <;> (intros; omega)
  | succ fuel ih => exact ⟨block_steady ih, map_steady ih, list_steady ih⟩

/-- More fuel than three units for each line makes no difference. -/
theorem parseBlock_eq (lines : List Line) (indent : ℕ) {fuel : ℕ} (enough : 3 * lines.length + 3 ≤ fuel) :
    parseBlock text fuel lines indent = parseBlock text (3 * lines.length + 3) lines indent := by
  induction fuel, enough using Nat.le_induction with
  | base => rfl
  | succ fuel enough ih => exact ((steady_all text fuel).block lines indent enough).trans ih

/-- A parse returns, or raises a `MiniYamlError`. -/
theorem parse_ends (document : List Char) : parse text document ≠ .error .outOfFuel := by
  rw [parse]
  split
  · intro same
    cases same
  next line lines _ =>
    have ends := (suffices_all text (3 * (line :: lines).length + 3)).block
      (line :: lines) line.1 (Nat.le_refl _)
    rcases run : parseBlock text (3 * (line :: lines).length + 3) (line :: lines) line.1
      with stop | ⟨value, _ | ⟨⟨_, content⟩, rest⟩⟩ <;> rw [run] at ends
    · intro same
      exact ends (Except.error.inj same)
    · intro same
      cases same
    · intro same
      cases same

/-! Files. -/

/-- The exception a parse stops with. -/
def Stop.exn : Stop → Exn
  | .miniYamlError message => ⟨.other "MiniYamlError", message⟩
  | .outOfFuel => ⟨.other "RecursionError", ""⟩

/-- `load`. -/
def load (text : YamlText) (document : List Char) : Except Exn PyVal :=
  (parse text document).mapError Stop.exn

end DroidOs.Util.Parsed
