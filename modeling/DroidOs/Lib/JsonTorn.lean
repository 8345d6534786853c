/- GID: DroidOs/Lib/JsonTorn
   generality: G
   digest: The decoder refuses a JSON document that is broken off, whatever other documents' texts follow. -/

import DroidOs.Lib.JsonDumps
import Mathlib.Data.List.DropRight

set_option autoImplicit false
set_option relaxedAutoImplicit false

namespace DroidOs.Lib.JsonTorn

open DroidOs.Lib.Json DroidOs.Lib.JsonText DroidOs.Lib.JsonLoads DroidOs.Lib.JsonDumps

/-! Fronts. -/

/-- A part of a text that more follows. -/
def Front {α : Type} (p w : List α) : Prop := ∃ t, t ≠ [] ∧ w = p ++ t

theorem front_cons {α : Type} {p w : List α} {c : α} :
    Front p (c :: w) ↔ p = [] ∨ ∃ q, p = c :: q ∧ Front q w := by
  constructor
  · rintro ⟨t, some_text, whole⟩
    cases p with
    | nil => exact .inl rfl
    | cons d q =>
      obtain ⟨rfl, rfl⟩ := List.cons.inj whole
      exact .inr ⟨q, rfl, t, some_text, rfl⟩
  · rintro (rfl | ⟨q, rfl, t, some_text, rfl⟩)
    · exact ⟨c :: w, List.cons_ne_nil c w, rfl⟩
    · exact ⟨t, some_text, rfl⟩

theorem front_nil {α : Type} {p : List α} : ¬ Front p [] := by
  rintro ⟨t, some_text, whole⟩
  exact some_text (List.append_eq_nil_iff.mp whole.symm).2

theorem front_single {α : Type} {p : List α} {c : α} (front : Front p [c]) : p = [] := by
  rcases front_cons.mp front with rfl | ⟨q, -, later⟩
  · rfl
  · exact absurd later front_nil

theorem front_append {α : Type} {p v w : List α} (front : Front p (v ++ w)) :
    Front p v ∨ ∃ q, p = v ++ q ∧ Front q w := by
  induction v generalizing p with
  | nil => exact .inr ⟨p, rfl, front⟩
  | cons c v ih =>
    rcases front_cons.mp front with rfl | ⟨q, rfl, later⟩
    · exact .inl (front_cons.mpr (.inl rfl))
    · rcases ih later with inner | ⟨r, rfl, behind⟩
      · exact .inl (front_cons.mpr (.inr ⟨q, rfl, inner⟩))
      · exact .inr ⟨r, rfl, behind⟩

theorem front_subset {α : Type} {p w : List α} (front : Front p w) : ∀ c ∈ p, c ∈ w := by
  obtain ⟨t, -, rfl⟩ := front
  exact fun c inside => List.mem_append_left t inside

/-! Places at which no list goes on. -/

/-- No comma, colon or closing mark comes next. -/
def Broken (rest : Text) : Prop :=
  ∀ c ∈ (skipBlanks rest).head?, c ≠ .char ',' ∧ c ≠ .char ':' ∧ c ≠ .char '\x7d' ∧ c ≠ .char ']'

theorem broken_cons {c : Code} (visible : isBlank c = false)
    (other : c ≠ .char ',' ∧ c ≠ .char ':' ∧ c ≠ .char '\x7d' ∧ c ≠ .char ']') (l : Text) : Broken (c :: l) := by
  intro d here
  rw [skipBlanks, List.dropWhile_cons_of_neg (by rw [visible]; exact Bool.false_ne_true)] at here
  obtain rfl := Option.some.inj here
  exact other

private theorem broken_solid {c : Code} (solid : Solid c) (l : Text) : Broken (c :: l) :=
  broken_cons solid.1 ⟨solid.2.2.2.2.2.2.1, solid.2.2.2.2.2.2.2, solid.2.2.2.1, solid.2.2.2.2.2.1⟩ l

theorem Broken.more {rest after : Text} {closing : Char} {another : Bool} (broken : Broken rest)
    (mark : closing = ']' ∨ closing = '\x7d') : more closing rest ≠ .ok (another, after) := by
  intro reads
  unfold Json.more at reads
  split at reads
  · rename_i d tail skipped
    obtain ⟨no_comma, -, no_brace, no_bracket⟩ := broken d (by rw [skipped]; exact rfl)
    rw [if_neg no_comma, if_neg] at reads
    · cases reads
    · rcases mark with rfl | rfl
      · exact no_bracket
      · exact no_brace
  · cases reads

theorem Broken.expect {rest after : Text} (broken : Broken rest) : expect ':' rest ≠ .ok after := by
  intro reads
  unfold Json.expect at reads
  split at reads
  · rename_i d tail skipped
    obtain ⟨-, no_colon, -⟩ := broken d (by rw [skipped]; exact rfl)
    rw [if_neg no_colon] at reads
    cases reads
  · cases reads

variable {ν : Type} (N : Numerals ν)

/-- What may stand behind a torn document: nothing, or a brace, from which no string and no value leads
to a place at which a list goes on. -/
structure Follows (s : Text) : Prop where
  brace : s = [] ∨ ∃ l, s = .char '\x7b' :: l
  string : ∀ pieces rest, readPieces s = .ok (pieces, rest) → Broken rest
  value : ∀ fuel v rest, readValue N.number fuel s = .ok (v, rest) → Broken rest

variable {N}

section

variable {s : Text} (follows : Follows N s)

include follows

private theorem Follows.broken : Broken s := by
  rcases follows.brace with rfl | ⟨l, rfl⟩
  · exact fun c inside => (by cases inside)
  · exact broken_cons rfl (by decide) l

private theorem Follows.ended : Ended s := by
  rcases follows.brace with rfl | ⟨l, rfl⟩
  · exact fun c inside => (by cases inside)
  · intro c here
    obtain rfl := Option.some.inj here
    rfl

private theorem Follows.skipBlanks : skipBlanks s = s := by
  rcases follows.brace with rfl | ⟨l, rfl⟩
  · rfl
  · rfl

/-! Torn strings. -/

private theorem torn_escape : readPieces (.char '\\' :: s) = .error .malformed := by
  rcases follows.brace with rfl | ⟨l, rfl⟩
  · rfl
  · rw [readPieces.eq_4 _ _ fun a b c d rest same => (by cases same)]
    rfl

omit follows in
private theorem hexNumber_brace {a b c d : Code} (inside : .char '\x7b' ∈ [a, b, c, d]) :
    hexNumber a b c d = none := by
  by_contra number
  obtain ⟨n, number⟩ := Option.ne_none_iff_exists'.mp number
  unfold hexNumber at number
  obtain ⟨p, first, number⟩ := Option.bind_eq_some_iff.mp number
  obtain ⟨q, second, number⟩ := Option.bind_eq_some_iff.mp number
  obtain ⟨r, third, number⟩ := Option.bind_eq_some_iff.mp number
  obtain ⟨t, fourth, -⟩ := Option.bind_eq_some_iff.mp number
  simp only [List.mem_cons, List.not_mem_nil, or_false] at inside
  rcases inside with rfl | rfl | rfl | rfl
  · cases first
  · cases second
  · cases third
  · cases fourth

private theorem torn_unit {digits : Text} (short : digits.length < 4) :
    readPieces (.char '\\' :: .char 'u' :: (digits ++ s)) = .error .malformed := by
  by_cases whole : ∃ a b c d rest, digits ++ s = a :: b :: c :: d :: rest
  · obtain ⟨a, b, c, d, rest, four⟩ := whole
    rw [four, readPieces, hexNumber_brace]
    have first : (digits ++ s).take 4 = [a, b, c, d] := by rw [four]; rfl
    have count : 4 ≤ (digits ++ s).length := by
      rw [four]
      exact Nat.le_add_left 4 _
    rcases follows.brace with rfl | ⟨l, rfl⟩
    · rw [List.append_nil] at count
      omega
    · rw [← first, List.take_append]
      refine List.mem_append_right _ ?_
      obtain ⟨k, here⟩ : ∃ k, 4 - digits.length = k + 1 := ⟨3 - digits.length, by omega⟩
      rw [here, List.take_succ_cons]
      exact List.mem_cons_self
  · rw [readPieces.eq_4 _ _ fun a b c d rest _ four => whole ⟨a, b, c, d, rest, four⟩]
    rfl

private theorem torn_pieces {ps : List Piece} (written : ∀ p ∈ ps, Written p) {p : Text}
    (front : Front p (ps.flatMap pieceText ++ [.char '"'])) {pieces : List Piece} {rest : Text}
    (reads : readPieces (p ++ s) = .ok (pieces, rest)) : Broken rest := by
  induction ps generalizing p pieces with
  | nil =>
    rw [front_single front] at reads
    exact follows.string _ _ reads
  | cons q ps ih =>
    rw [List.flatMap_cons, List.append_assoc] at front
    rcases front_append front with inner | ⟨p', rfl, later⟩
    · match q, written q List.mem_cons_self with
      | .plain (.char c), _ =>
        rw [pieceText] at inner
        split at inner
        · rcases front_cons.mp inner with rfl | ⟨p', rfl, behind⟩
          · exact follows.string _ _ reads
          · rw [front_single behind, List.singleton_append, torn_escape follows] at reads
            cases reads
        · rw [front_single inner] at reads
          exact follows.string _ _ reads
      | .unit n, _ =>
        rw [pieceText] at inner
        rcases front_cons.mp inner with rfl | ⟨p', rfl, behind⟩
        · exact follows.string _ _ reads
        rcases front_cons.mp behind with rfl | ⟨digits, rfl, ⟨t, some_text, whole⟩⟩
        · rw [List.singleton_append, torn_escape follows] at reads
          cases reads
        · have short : digits.length < 4 := by
            have count := congrArg List.length whole
            have some_text := List.length_pos_of_ne_nil some_text
            simp only [List.length_cons, List.length_nil, List.length_append] at count
            omega
          rw [List.cons_append, List.cons_append, torn_unit follows short] at reads
          cases reads
    · rw [List.append_assoc, readPieces_piece (written q List.mem_cons_self)] at reads
      obtain ⟨⟨inner, after⟩, inside, gives⟩ := bind_ok reads
      cases gives
      exact ih (fun r there => written r (List.mem_cons_of_mem q there)) later inside

private theorem torn_string {key : Text} (unpaired : Unpaired key) {p : Text} (front : Front p (dumpString key))
    {found rest : Text} (reads : readString (p ++ s) = .ok (found, rest)) : Broken rest := by
  obtain ⟨⟨pieces, after⟩, inside, gives⟩ := bind_ok reads
  cases gives
  exact torn_pieces follows (piecesOf_written unpaired) front inside

/-! Torn values. -/

omit follows in
/-- A value that is read in front of a place where no list goes on is the last thing read. -/
private theorem items_inverted {number : Text → Option ν} {fuel : ℕ} {l : Text} {result : List (Value ν) × Text}
    (reads : readItems number fuel l = .ok result) : ∃ inner v rest another after, fuel = inner + 1 ∧
      readValue number inner l = .ok (v, rest) ∧ more ']' rest = .ok (another, after) ∧
        (another = true → ∃ result', readItems number inner after = .ok result') := by
  cases fuel with
  | zero =>
    rw [readItems] at reads
    cases reads
  | succ fuel =>
    rw [readItems] at reads
    obtain ⟨⟨v, rest⟩, value, reads⟩ := bind_ok reads
    obtain ⟨⟨another, after⟩, mark, reads⟩ := bind_ok reads
    refine ⟨fuel, v, rest, another, after, rfl, value, mark, ?_⟩
    rintro rfl
    obtain ⟨result', later, -⟩ := bind_ok reads
    exact ⟨result', later⟩

omit follows in
private theorem members_inverted {number : Text → Option ν} {fuel : ℕ} {l : Text}
    {result : List (Text × Value ν) × Text} (reads : readMembers number fuel l = .ok result) :
    ∃ inner l₁ key l₂ l₃ v l₄ another l₅, fuel = inner + 1 ∧ l = .char '"' :: l₁ ∧ readString l₁ = .ok (key, l₂) ∧
      expect ':' l₂ = .ok l₃ ∧ readValue number inner (Json.skipBlanks l₃) = .ok (v, l₄) ∧
        more '\x7d' l₄ = .ok (another, l₅) ∧
          (another = true → ∃ result', readMembers number inner l₅ = .ok result') := by
  cases fuel with
  | zero =>
    rw [readMembers] at reads
    cases reads
  | succ fuel =>
    by_cases quote : ∃ l₁, l = .char '"' :: l₁
    · obtain ⟨l₁, rfl⟩ := quote
      rw [readMembers] at reads
      obtain ⟨⟨key, l₂⟩, string, reads⟩ := bind_ok reads
      obtain ⟨l₃, colon, reads⟩ := bind_ok reads
      obtain ⟨⟨v, l₄⟩, value, reads⟩ := bind_ok reads
      obtain ⟨⟨another, l₅⟩, mark, reads⟩ := bind_ok reads
      refine ⟨fuel, l₁, key, l₂, l₃, v, l₄, another, l₅, rfl, rfl, string, colon, value, mark, ?_⟩
      rintro rfl
      obtain ⟨result', later, -⟩ := bind_ok reads
      exact ⟨result', later⟩
    · rw [readMembers.eq_3 _ _ _ fun l₁ here => quote ⟨l₁, here⟩] at reads
      cases reads

/-- Wherever the text of a value is torn, no list goes on behind what is read. -/
private def CutsOff (N : Numerals ν) (s : Text) (v : Value ν) : Prop := ∀ p, Front p (dumps N v) →
  ∀ fuel u rest, readValue N.number fuel (p ++ s) = .ok (u, rest) → Broken rest

private theorem no_items (fuel : ℕ) (result : List (Value ν) × Text) :
    readItems N.number fuel s ≠ .ok result := by
  intro reads
  obtain ⟨inner, v, rest, another, after, -, value, mark, -⟩ := items_inverted reads
  exact (follows.value _ _ _ value).more (.inl rfl) mark

private theorem no_members (fuel : ℕ) (result : List (Text × Value ν) × Text) :
    readMembers N.number fuel s ≠ .ok result := by
  intro reads
  obtain ⟨inner, l₁, key, l₂, l₃, v, l₄, another, l₅, -, quote, -⟩ := members_inverted reads
  rcases follows.brace with rfl | ⟨l, rfl⟩
  · cases quote
  · cases (List.cons.inj quote).1

private theorem scalar_cutsOff {v : Value ν} (solid : ∀ c ∈ dumps N v, Solid c) : CutsOff N s v := by
  intro p front fuel u rest reads
  have plain (c : Code) (inside : c ∈ p) : Solid c := solid c (front_subset front c inside)
  cases p with
  | nil => exact follows.value _ _ _ reads
  | cons c p =>
    have first := plain c List.mem_cons_self
    have other {d : Char} (apart : c ≠ .char d) (l : List Code) : (c :: p) ++ s ≠ .char d :: l :=
      fun same => apart (List.cons.inj same).1
    cases fuel with
    | zero =>
      rw [readValue] at reads
      cases reads
    | succ fuel =>
      rw [readValue.eq_5 _ _ _ (other first.2.1) (other first.2.2.1) (other first.2.2.2.2.1)] at reads
      obtain ⟨-, read, whole, own⟩ := cut_readScalar reads
      rcases List.append_eq_append_iff.mp whole with ⟨beyond, rfl, behind⟩ | ⟨left, same, rfl⟩
      · rcases beyond with _ | ⟨d, beyond⟩
        · obtain rfl : s = rest := behind
          exact follows.broken
        · exfalso
          rcases follows.brace with rfl | ⟨l, rfl⟩
          · cases behind
          · obtain ⟨rfl, -⟩ := List.cons.inj behind
            have no_brace := (own (.char '\x7b') (by simp)).2.2.1
            exact no_brace rfl
      · rcases left with _ | ⟨d, left⟩
        · exact follows.broken
        · exact broken_solid (plain d (by rw [same]; simp)) _

private theorem skipBlanks_front (v : Value ν) {w p : Text} (front : Front p (dumps N v ++ w)) :
    Json.skipBlanks (p ++ s) = p ++ s ∧ ∀ l, p ++ s ≠ .char ']' :: l := by
  obtain ⟨c, l, own, visible, no_end, -⟩ := dumps_head (N := N) v
  rw [own, List.cons_append] at front
  rcases front_cons.mp front with rfl | ⟨q, rfl, -⟩
  · refine ⟨follows.skipBlanks, fun l same => ?_⟩
    rcases follows.brace with rfl | ⟨l, rfl⟩
    · cases same
    · cases (List.cons.inj same).1
  · refine ⟨?_, fun l same => no_end (List.cons.inj same).1⟩
    rw [Json.skipBlanks, List.cons_append, List.dropWhile_cons_of_neg (by rw [visible]; exact Bool.false_ne_true)]

omit follows in
private theorem array_inverted {number : Text → Option ν} {fuel : ℕ} {l rest : Text} {v : Value ν}
    (reads : readValue number fuel (.char '[' :: l) = .ok (v, rest)) :
    (∃ after, Json.skipBlanks l = .char ']' :: after) ∨
      ∃ inner result, readItems number inner (Json.skipBlanks l) = .ok result := by
  cases fuel with
  | zero =>
    rw [readValue] at reads
    cases reads
  | succ fuel =>
    rw [readValue] at reads
    split at reads
    · rename_i after ends
      exact .inl ⟨after, ends⟩
    · obtain ⟨result, items, -⟩ := bind_ok reads
      exact .inr ⟨fuel, result, items⟩

omit follows in
private theorem object_inverted {number : Text → Option ν} {fuel : ℕ} {l rest : Text} {v : Value ν}
    (reads : readValue number fuel (.char '\x7b' :: l) = .ok (v, rest)) :
    (∃ after, Json.skipBlanks l = .char '\x7d' :: after) ∨
      ∃ inner result, readMembers number inner (Json.skipBlanks l) = .ok result := by
  cases fuel with
  | zero =>
    rw [readValue] at reads
    cases reads
  | succ fuel =>
    rw [readValue] at reads
    split at reads
    · rename_i after ends
      exact .inl ⟨after, ends⟩
    · obtain ⟨result, members, -⟩ := bind_ok reads
      exact .inr ⟨fuel, result, members⟩

/-- The text of members behind the opening brace. -/
private def membersText (N : Numerals ν) (key : Text) (v : Value ν) (members : List (Text × Value ν)) : Text :=
  .char '"' :: (dumpString key ++ .char ':' :: .char ' ' :: (dumps N v ++ dumpMembers N members))

private theorem skipBlanks_members {key : Text} {v : Value ν} {members : List (Text × Value ν)} {p : Text}
    (front : Front p (membersText N key v members)) :
    Json.skipBlanks (p ++ s) = p ++ s ∧ ∀ l, p ++ s ≠ .char '\x7d' :: l := by
  rcases front_cons.mp front with rfl | ⟨q, rfl, -⟩
  · refine ⟨follows.skipBlanks, fun l same => ?_⟩
    rcases follows.brace with rfl | ⟨l, rfl⟩
    · cases same
    · cases (List.cons.inj same).1
  · exact ⟨rfl, fun l same => by cases (List.cons.inj same).1⟩

omit follows in
private theorem back_eq {v u : Value ν} {w rest : Text} (back : ReadsBack N v) (ended : Ended w) {fuel : ℕ}
    (reads : readValue N.number fuel (dumps N v ++ w) = .ok (u, rest)) : rest = w := by
  rcases back fuel w ended with read | out
  · rw [read] at reads
    exact (congrArg Prod.snd (Except.ok.inj reads)).symm
  · rw [out] at reads
    cases reads

private theorem ended_front {c : Char} (other : isNumeral (.char c) = false) {p w : Text}
    (front : Front p (.char c :: w)) : Ended (p ++ s) := by
  rcases front_cons.mp front with rfl | ⟨q, rfl, -⟩
  · exact follows.ended
  · intro d here
    obtain rfl := Option.some.inj here
    exact other

/-- Torn items are refused, if the first of them is read back and cut off. -/
private theorem torn_items {v : Value ν} (back : ReadsBack N v) (cut : CutsOff N s v)
    {items : List (Value ν)}
    (others : ∀ w rest, items = w :: rest → ∀ p, Front p (dumps N w ++ dumpItems N rest) →
      ∀ fuel result, readItems N.number fuel (p ++ s) ≠ .ok result)
    {p : Text} (front : Front p (dumps N v ++ dumpItems N items)) (fuel : ℕ)
    (result : List (Value ν) × Text) : readItems N.number fuel (p ++ s) ≠ .ok result := by
  intro reads
  obtain ⟨inner, u, rest, another, after, rfl, value, mark, later⟩ := items_inverted reads
  rcases front_append front with inside | ⟨q, rfl, behind⟩
  · exact (cut p inside inner u rest value).more (.inl rfl) mark
  rw [List.append_assoc] at value
  have silent {after' : Text} {another' : Bool} : more ']' s ≠ .ok (another', after') := follows.broken.more (.inl rfl)
  cases items with
  | nil =>
    rw [dumpItems] at behind
    obtain rfl := back_eq back (ended_front follows (by decide) behind) value
    rw [front_single behind] at mark
    exact silent mark
  | cons w items =>
    rw [dumpItems] at behind
    obtain rfl := back_eq back (ended_front follows (by decide) behind) value
    rcases front_cons.mp behind with rfl | ⟨q, rfl, next_item⟩
    · exact silent mark
    have next : more ']' (.char ',' :: (q ++ s)) = .ok (true, Json.skipBlanks (q ++ s)) := rfl
    rw [List.cons_append, next] at mark
    cases mark
    obtain ⟨result', later⟩ := later rfl
    rcases front_cons.mp next_item with rfl | ⟨q, rfl, item⟩
    · rw [List.nil_append, follows.skipBlanks] at later
      exact no_items follows _ _ later
    · have bare : Json.skipBlanks (.char ' ' :: q ++ s) = q ++ s := (skipBlanks_front follows w item).1
      rw [bare] at later
      exact others w items rfl q item _ _ later

/-- Torn members are refused, if the value of the first is read back and cut off. -/
private theorem torn_members {key : Text} (unpaired : Unpaired key) {v : Value ν} (back : ReadsBack N v)
    (cut : CutsOff N s v) {members : List (Text × Value ν)}
    (others : ∀ key' w rest, members = (key', w) :: rest → ∀ p, Front p (membersText N key' w rest) →
      ∀ fuel result, readMembers N.number fuel (p ++ s) ≠ .ok result)
    {p : Text} (front : Front p (membersText N key v members)) (fuel : ℕ)
    (result : List (Text × Value ν) × Text) : readMembers N.number fuel (p ++ s) ≠ .ok result := by
  intro reads
  have silent {after : Text} {another : Bool} : more '\x7d' s ≠ .ok (another, after) := follows.broken.more (.inr rfl)
  rcases front_cons.mp front with rfl | ⟨p, rfl, from_key⟩
  · exact no_members follows _ _ reads
  obtain ⟨inner, l₁, found, l₂, l₃, u, l₄, another, l₅, rfl, quote, string, colon, value, mark, later⟩ :=
    members_inverted reads
  obtain ⟨-, rfl⟩ := List.cons.inj quote
  rcases front_append from_key with inside | ⟨p, rfl, from_colon⟩
  · exact (torn_string follows unpaired inside string).expect colon
  change readString ((dumpString key ++ p) ++ s) = .ok (found, l₂) at string
  rw [List.append_assoc, readString_dumpString unpaired] at string
  cases string
  rcases front_cons.mp from_colon with rfl | ⟨p, rfl, from_blank⟩
  · exact follows.broken.expect colon
  have own : expect ':' (.char ':' :: (p ++ s)) = .ok (p ++ s) := rfl
  rw [List.cons_append, own] at colon
  cases colon
  rcases front_cons.mp from_blank with rfl | ⟨p, rfl, from_value⟩
  · rw [List.nil_append, follows.skipBlanks] at value
    exact (follows.value _ _ _ value).more (.inr rfl) mark
  have bare : Json.skipBlanks (.char ' ' :: p ++ s) = p ++ s := (skipBlanks_front follows v from_value).1
  rw [bare] at value
  rcases front_append from_value with inside | ⟨p, rfl, behind⟩
  · exact (cut p inside _ _ _ value).more (.inr rfl) mark
  rw [List.append_assoc] at value
  match members with
  | [] =>
    rw [dumpMembers] at behind
    obtain rfl := back_eq back (ended_front follows (by decide) behind) value
    rw [front_single behind] at mark
    exact silent mark
  | (key', w) :: members =>
    rw [dumpMembers] at behind
    obtain rfl := back_eq back (ended_front follows (by decide) behind) value
    rcases front_cons.mp behind with rfl | ⟨p, rfl, from_space⟩
    · exact silent mark
    have next : more '\x7d' (.char ',' :: (p ++ s)) = .ok (true, Json.skipBlanks (p ++ s)) := rfl
    rw [List.cons_append, next] at mark
    cases mark
    obtain ⟨result', later⟩ := later rfl
    rcases front_cons.mp from_space with rfl | ⟨p, rfl, member⟩
    · rw [List.nil_append, follows.skipBlanks] at later
      exact no_members follows _ _ later
    · have bare : Json.skipBlanks (.char ' ' :: p ++ s) = p ++ s := (skipBlanks_members follows member).1
      rw [bare] at later
      exact others key' w members rfl p member _ _ later

/-- A torn object is refused, if its members are. -/
private theorem torn_object {key : Text} {v : Value ν} {members : List (Text × Value ν)}
    (refused : ∀ p, Front p (membersText N key v members) →
      ∀ fuel result, readMembers N.number fuel (p ++ s) ≠ .ok result)
    {p : Text} (front : Front p (membersText N key v members)) (fuel : ℕ) (result : Value ν × Text) :
    readValue N.number fuel (.char '\x7b' :: (p ++ s)) ≠ .ok result := by
  intro reads
  obtain ⟨bare, no_end⟩ := skipBlanks_members follows front
  rcases object_inverted reads with ⟨after, ends⟩ | ⟨inner, result', items⟩
  · exact no_end after (bare.symm.trans ends)
  · rw [bare] at items
    exact refused p front _ _ items

mutual

private theorem cutsOff : (v : Value ν) → Legible v → CutsOff N s v
  | .null, _ => scalar_cutsOff follows (by rw [dumps]; decide)
  | .bool true, _ => scalar_cutsOff follows (by rw [dumps]; decide)
  | .bool false, _ => scalar_cutsOff follows (by rw [dumps]; decide)
  | .num x, _ => scalar_cutsOff follows fun c inside => by
    rw [dumps] at inside
    exact solid_of_numeral (N.chars x c inside)
  | .str text, unpaired => by
    intro p front fuel u rest reads
    rw [dumps] at front
    rcases front_cons.mp front with rfl | ⟨p, rfl, inner⟩
    · exact follows.value _ _ _ reads
    cases fuel with
    | zero =>
      rw [readValue] at reads
      cases reads
    | succ fuel =>
      rw [List.cons_append, readValue] at reads
      obtain ⟨⟨found, after⟩, string, gives⟩ := bind_ok reads
      cases gives
      exact torn_string follows unpaired inner string
  | .arr [], _ => by
    intro p front fuel u rest reads
    rw [dumps] at front
    rcases front_cons.mp front with rfl | ⟨p, rfl, inner⟩
    · exact follows.value _ _ _ reads
    rw [front_single inner, List.singleton_append] at reads
    exfalso
    rcases array_inverted reads with ⟨after, ends⟩ | ⟨fuel', result, items⟩
    · rw [follows.skipBlanks] at ends
      rcases follows.brace with rfl | ⟨l, rfl⟩
      · cases ends
      · cases (List.cons.inj ends).1
    · rw [follows.skipBlanks] at items
      exact no_items follows _ _ items
  | .arr (v :: items), legible => by
    intro p front fuel u rest reads
    rw [dumps] at front
    rcases front_cons.mp front with rfl | ⟨p, rfl, inner⟩
    · exact follows.value _ _ _ reads
    exfalso
    obtain ⟨bare, no_end⟩ := skipBlanks_front follows v inner
    rcases array_inverted reads with ⟨after, ends⟩ | ⟨fuel', result, read⟩
    · exact no_end after (bare.symm.trans ends)
    · have read : readItems N.number fuel' (p ++ s) = .ok result := bare ▸ read
      exact torn_items follows (readValue_dumps v legible.1) (cutsOff v legible.1)
        (itemsTorn items legible.2) inner _ _ read
  | .obj [], _ => by
    intro p front fuel u rest reads
    rw [dumps] at front
    rcases front_cons.mp front with rfl | ⟨p, rfl, inner⟩
    · exact follows.value _ _ _ reads
    rw [front_single inner, List.singleton_append] at reads
    exfalso
    rcases object_inverted reads with ⟨after, ends⟩ | ⟨fuel', result, members⟩
    · rw [follows.skipBlanks] at ends
      rcases follows.brace with rfl | ⟨l, rfl⟩
      · cases ends
      · cases (List.cons.inj ends).1
    · rw [follows.skipBlanks] at members
      exact no_members follows _ _ members
  | .obj ((key, v) :: members), legible => by
    intro p front fuel u rest reads
    rw [dumps] at front
    rcases front_cons.mp front with rfl | ⟨p, rfl, inner⟩
    · exact follows.value _ _ _ reads
    · refine absurd reads (torn_object follows (fun q front => ?_) inner _ _)
      exact torn_members follows legible.1 (readValue_dumps v legible.2.1) (cutsOff v legible.2.1)
        (membersTorn members legible.2.2) front

private theorem itemsTorn : (items : List (Value ν)) → LegibleItems items → ∀ w rest, items = w :: rest →
    ∀ p, Front p (dumps N w ++ dumpItems N rest) →
      ∀ fuel result, readItems N.number fuel (p ++ s) ≠ .ok result
  | [], _ => by
    intro w rest same
    cases same
  | v :: items, legible => by
    intro w rest same p front
    obtain ⟨rfl, rfl⟩ := List.cons.inj same
    exact torn_items follows (readValue_dumps v legible.1) (cutsOff v legible.1) (itemsTorn items legible.2) front

private theorem membersTorn : (members : List (Text × Value ν)) → LegibleMembers members → ∀ key w rest,
    members = (key, w) :: rest → ∀ p, Front p (membersText N key w rest) →
      ∀ fuel result, readMembers N.number fuel (p ++ s) ≠ .ok result
  | [], _ => by
    intro key w rest same
    cases same
  | (key', v) :: members, legible => by
    intro key w rest same p front
    obtain ⟨first, rfl⟩ := List.cons.inj same
    obtain ⟨rfl, rfl⟩ := Prod.mk.inj first
    exact torn_members follows legible.1 (readValue_dumps v legible.2.1) (cutsOff v legible.2.1)
      (membersTorn members legible.2.2) front

end

end

/-! Documents one behind the other. -/

/-- An object that can be read back, whose first key begins with a letter. -/
structure Document (v : Value ν) : Prop where
  legible : Legible v
  distinct : Distinct v
  named : ∃ c key w members, v = .obj ((.char c :: key, w) :: members) ∧ Solid (.char c) ∧
    shortEscape c = none ∧ isShown c = true

/-- What is left of some documents' texts, one behind the other: of each a part from its beginning on. -/
inductive Scraps (N : Numerals ν) : Text → Prop
  | nil : Scraps N []
  | cons {v : Value ν} {piece rest : Text} (document : Document v) (some_text : piece ≠ [])
      (part : piece <+: dumps N v) (others : Scraps N rest) : Scraps N (piece ++ rest)

private theorem Document.text {v : Value ν} (document : Document v) :
    ∃ c l, Solid (.char c) ∧ dumps N v = .char '\x7b' :: .char '"' :: .char c :: l := by
  obtain ⟨c, key, w, members, rfl, solid, bare, shown⟩ := document.named
  have own : piecesOf (.char c) = [.plain (.char c)] := if_pos (by rw [bare, shown]; rfl)
  have piece : pieceText (.plain (.char c)) = [.char c] := by rw [pieceText, bare]
  have string : dumpString (.char c :: key) = .char c :: dumpString key := by
    rw [dumpString, List.flatMap_cons, own, List.singleton_append, List.flatMap_cons, piece]
    rfl
  refine ⟨c, dumpString key ++ .char ':' :: .char ' ' :: (dumps N w ++ dumpMembers N members), solid, ?_⟩
  rw [dumps, string]
  rfl

theorem Scraps.brace {s : Text} (scraps : Scraps N s) : s = [] ∨ ∃ l, s = .char '\x7b' :: l := by
  cases scraps with
  | nil => exact .inl rfl
  | cons document some_text part others =>
    obtain ⟨c, l, -, own⟩ := document.text (N := N)
    obtain ⟨d, piece, rfl⟩ := List.exists_cons_of_ne_nil some_text
    rw [own, List.cons_prefix_cons] at part
    exact .inr ⟨_, by rw [part.1]; rfl⟩

/-- A document of which something is missing is refused. -/
private theorem torn_document {s : Text} (follows : Follows N s) {v : Value ν} (document : Document v)
    {piece : Text} (some_text : piece ≠ []) (front : Front piece (dumps N v)) (fuel : ℕ)
    (result : Value ν × Text) : readValue N.number fuel (piece ++ s) ≠ .ok result := by
  obtain ⟨c, key, w, members, rfl, -⟩ := document.named
  obtain ⟨unpaired, legible, others⟩ := document.legible
  rw [dumps] at front
  rcases front_cons.mp front with rfl | ⟨p, rfl, inner⟩
  · exact absurd rfl some_text
  · refine torn_object follows (fun q inside => ?_) inner _ _
    exact torn_members follows unpaired (readValue_dumps w legible) (cutsOff follows w legible)
      (membersTorn follows members others) inside

theorem Scraps.follows {s : Text} (scraps : Scraps N s) : Follows N s := by
  induction scraps with
  | nil =>
    refine ⟨.inl rfl, ?_, ?_⟩
    · intro pieces rest reads
      cases reads
    · intro fuel v rest reads
      cases fuel with
      | zero =>
        rw [readValue] at reads
        cases reads
      | succ fuel => cases reads
  | @cons v piece rest document some_text part others ih =>
    refine ⟨(Scraps.cons document some_text part others).brace, ?_, ?_⟩
    · intro pieces after reads
      obtain ⟨c, l, solid, own⟩ := document.text (N := N)
      obtain ⟨d, piece, rfl⟩ := List.exists_cons_of_ne_nil some_text
      rw [own, List.cons_prefix_cons] at part
      obtain ⟨rfl, part⟩ := part
      have brace : shortEscape '\x7b' = none := rfl
      rw [List.cons_append, readPieces_shown brace rfl] at reads
      obtain ⟨⟨inner, after'⟩, inside, gives⟩ := bind_ok reads
      cases gives
      cases piece with
      | nil => exact ih.string _ _ inside
      | cons e piece =>
        rw [List.cons_prefix_cons] at part
        obtain ⟨rfl, part⟩ := part
        cases inside
        cases piece with
        | nil => exact ih.broken
        | cons e piece =>
          rw [List.cons_prefix_cons] at part
          obtain ⟨rfl, -⟩ := part
          exact broken_solid solid _
    · intro fuel u after reads
      obtain ⟨t, whole⟩ := part
      by_cases complete : t = []
      · rw [complete, List.append_nil] at whole
        rw [whole] at reads
        rw [back_eq (readValue_dumps v document.legible) ih.ended reads]
        exact ih.broken
      · exact absurd reads (torn_document ih document some_text ⟨t, complete, whole.symm⟩ _ _)

/-- The decoder refuses what is left of documents, unless it is one whole document. -/
theorem scraps_refused {v : Value ν} (document : Document v) {piece rest : Text} (some_text : piece ≠ [])
    (part : piece <+: dumps N v) (others : Scraps N rest)
    (torn : piece = dumps N v → rest ≠ []) (u : Value ν) : loads N.number (piece ++ rest) ≠ .ok u := by
  intro read
  have follows := others.follows
  obtain ⟨raw, after, value, ends, -⟩ := loads_reads read
  have bare : skipBlanks (piece ++ rest) = piece ++ rest := by
    rcases (Scraps.cons document some_text part others).brace with empty | ⟨l, own⟩
    · rw [empty]
      rfl
    · rw [own]
      rfl
  rw [bare] at value
  obtain ⟨t, whole⟩ := part
  by_cases complete : t = []
  · rw [complete, List.append_nil] at whole
    rw [whole] at value
    rw [back_eq (readValue_dumps v document.legible) follows.ended value, follows.skipBlanks] at ends
    exact torn whole ends
  · exact torn_document follows document some_text ⟨t, complete, whole.symm⟩ _ _ value

private theorem rdropWhile_append {α : Type} (blank : α → Bool) (l m : List α) : (l ++ m).rdropWhile blank =
    if m.rdropWhile blank = [] then l.rdropWhile blank else l ++ m.rdropWhile blank := by
  simp only [List.rdropWhile, List.reverse_append, List.dropWhile_append, List.reverse_eq_nil_iff, List.isEmpty_iff]
  split
  · rfl
  · rw [List.reverse_append, List.reverse_reverse]

/-- Without blanks at the end it is still what is left of some documents. -/
theorem Scraps.trim {blank : Code → Bool} (visible : blank (.char '\x7b') = false) {s : Text}
    (scraps : Scraps N s) : Scraps N (s.rdropWhile blank) ∧ (s ≠ [] → s.rdropWhile blank ≠ []) := by
  have solid {p : Text} (brace : .char '\x7b' ∈ p) : p.rdropWhile blank ≠ [] := by
    intro empty
    have shown := List.rdropWhile_eq_nil_iff.mp empty _ brace
    rw [visible] at shown
    cases shown
  induction scraps with
  | nil => exact ⟨.nil, fun some_text => absurd rfl some_text⟩
  | @cons v piece rest document some_text part others ih =>
    have brace : .char '\x7b' ∈ piece := by
      rcases (Scraps.cons document some_text part .nil).brace with empty | ⟨l, own⟩
      · exact absurd (List.append_eq_nil_iff.mp empty).1 some_text
      · rw [List.append_nil] at own
        rw [own]
        exact List.mem_cons_self
    rw [rdropWhile_append]
    split
    · have trimmed := Scraps.cons document (solid brace) ((List.rdropWhile_prefix blank piece).trans part) .nil
      rw [List.append_nil] at trimmed
      exact ⟨trimmed, fun _ => solid brace⟩
    · exact ⟨.cons document some_text part ih.1, fun _ empty => some_text (List.append_eq_nil_iff.mp empty).1⟩

/-- The same without blanks at the end. -/
theorem trimmed_refused {blank : Code → Bool} (visible : blank (.char '\x7b') = false) {v : Value ν}
    (document : Document v) {piece rest : Text} (some_text : piece ≠ []) (part : piece <+: dumps N v)
    (others : Scraps N rest) (torn : piece = dumps N v → rest ≠ []) (u : Value ν) :
    loads N.number ((piece ++ rest).rdropWhile blank) ≠ .ok u := by
  obtain ⟨trimmed, solid⟩ := others.trim visible
  rw [rdropWhile_append]
  split
  · rename_i empty
    have nothing : rest = [] := by
      by_contra some_rest
      exact solid some_rest empty
    obtain ⟨-, solid⟩ := (Scraps.cons document some_text part .nil).trim visible
    rw [List.append_nil] at solid
    have shorter := List.rdropWhile_prefix blank piece
    have refused := scraps_refused document (solid some_text) (shorter.trans part) .nil (fun whole => ?_) u
    · rwa [List.append_nil] at refused
    · have same : piece = dumps N v := part.eq_of_length_le (by rw [← whole]; exact shorter.length_le)
      exact absurd nothing (torn same)
  · rename_i some_rest
    exact scraps_refused document some_text part trimmed (fun _ => some_rest) u

end DroidOs.Lib.JsonTorn
