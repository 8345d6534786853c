/- GID: DroidOs/Lib/JsonLoads
   generality: G
   digest: The JSON decoder never lacks fuel, and returns a text's own members where none repeats. -/

import DroidOs.Lib.JsonText

set_option autoImplicit false
set_option relaxedAutoImplicit false

namespace DroidOs.Lib.JsonLoads

open DroidOs.Lib DroidOs.Lib.Json DroidOs.Lib.JsonText

variable {ν : Type} {number : Text → Option ν} {l rest : Text}

/-! The fuel that suffices. -/

/-- No part of the decoder runs out of fuel on a text that is short enough. -/
structure Fed (number : Text → Option ν) (fuel : ℕ) : Prop where
  value : ∀ {l}, 2 * l.length < fuel → readValue number fuel l ≠ .error .outOfFuel
  members : ∀ {l}, 2 * l.length < fuel → readMembers number fuel l ≠ .error .outOfFuel
  items : ∀ {l}, 2 * l.length + 1 < fuel → readItems number fuel l ≠ .error .outOfFuel

private theorem readPieces_fed (l : Text) : readPieces l ≠ .error .outOfFuel := by
  intro runs_out
  induction l using readPieces.induct with
  | case1 => cases runs_out
  | case2 after => cases runs_out
  | case3 a b c d after no_number =>
    rw [readPieces, no_number] at runs_out
    cases runs_out
  | case4 a b c d after n number ih =>
    rw [readPieces, number] at runs_out
    rcases bind_error runs_out with inner | ⟨pieces, -, gives⟩
    · exact ih inner
    · cases gives
  | case5 e after no_unit unknown =>
    rw [readPieces.eq_4 _ _ no_unit, unknown] at runs_out
    cases runs_out
  | case6 e after no_unit c escapes ih =>
    rw [readPieces.eq_4 _ _ no_unit, escapes] at runs_out
    rcases bind_error runs_out with inner | ⟨pieces, -, gives⟩
    · exact ih inner
    · cases gives
  | case7 c after no_quote no_unit no_escape refused =>
    rw [readPieces.eq_5 _ _ no_quote no_unit no_escape, if_pos refused] at runs_out
    cases runs_out
  | case8 c after no_quote no_unit no_escape taken ih =>
    rw [readPieces.eq_5 _ _ no_quote no_unit no_escape, if_neg taken] at runs_out
    rcases bind_error runs_out with inner | ⟨pieces, -, gives⟩
    · exact ih inner
    · cases gives

private theorem readString_fed (l : Text) : readString l ≠ .error .outOfFuel := by
  intro runs_out
  rcases bind_error runs_out with inner | ⟨pieces, -, gives⟩
  · exact readPieces_fed l inner
  · exact nomatch gives

private theorem readScalar_fed (l : Text) :
    readScalar number l ≠ .error .outOfFuel := by
  unfold readScalar
  split
  · exact nofun
  · exact nofun
  · exact nofun
  · split
    · exact nofun
    · split <;> exact nofun

private theorem readString_shorter {s : Text} (reads : readString l = .ok (s, rest)) :
    rest.length < l.length := by
  obtain ⟨⟨pieces, last⟩, reads_pieces, gives⟩ := bind_ok reads
  cases gives
  obtain ⟨front, rfl, quoted⟩ := readPieces_quoted reads_pieces
  cases front with
  | nil => exact nomatch quoted 0 0
  | cons c front =>
    rw [List.length_append, List.length_cons]
    omega

private theorem more_shorter {closing : Char} {another : Bool}
    (reads : more closing l = .ok (another, rest)) : rest.length < l.length := by
  have blanks := (takes_skipBlanks l).length_le
  unfold more at reads
  split at reads
  · rename_i d after skipped
    have others := (takes_skipBlanks after).length_le
    rw [skipped, List.length_cons] at blanks
    split_ifs at reads
    · cases reads
      omega
    · cases reads
      omega
  · exact nomatch reads

private theorem expect_fed (c : Char) (l : Text) : expect c l ≠ .error .outOfFuel := by
  unfold expect
  split
  · split_ifs <;> exact nofun
  · exact nofun

private theorem more_fed (closing : Char) (l : Text) : more closing l ≠ .error .outOfFuel := by
  unfold more
  split
  · split_ifs <;> exact nofun
  · exact nofun

private theorem readValue_fed {fuel : ℕ} (inner : Fed number fuel)
    (short : 2 * l.length < fuel + 1) : readValue number (fuel + 1) l ≠ .error .outOfFuel := by
  intro runs_out
  by_cases quote : ∃ after, l = .char '"' :: after
  · obtain ⟨after, rfl⟩ := quote
    rcases bind_error runs_out with string | ⟨s, -, gives⟩
    · exact readString_fed after string
    · cases gives
  by_cases brace : ∃ after, l = .char '{' :: after
  · obtain ⟨after, rfl⟩ := brace
    have shorter := (takes_skipBlanks after).length_le
    rw [List.length_cons] at short
    rw [readValue] at runs_out
    split at runs_out
    · cases runs_out
    · rcases bind_error runs_out with members | ⟨members, -, gives⟩
      · exact inner.members (by omega) members
      · cases gives
  by_cases bracket : ∃ after, l = .char '[' :: after
  · obtain ⟨after, rfl⟩ := bracket
    have shorter := (takes_skipBlanks after).length_le
    rw [List.length_cons] at short
    rw [readValue] at runs_out
    split at runs_out
    · cases runs_out
    · rcases bind_error runs_out with items | ⟨items, -, gives⟩
      · exact inner.items (by omega) items
      · cases gives
  · rw [readValue.eq_5 _ _ _ (fun after here => quote ⟨after, here⟩)
      (fun after here => brace ⟨after, here⟩) (fun after here => bracket ⟨after, here⟩)] at runs_out
    exact readScalar_fed l runs_out

private theorem readMembers_fed {fuel : ℕ} (inner : Fed number fuel)
    (short : 2 * l.length < fuel + 1) : readMembers number (fuel + 1) l ≠ .error .outOfFuel := by
  intro runs_out
  by_cases quote : ∃ after, l = .char '"' :: after
  · obtain ⟨after, rfl⟩ := quote
    rw [readMembers] at runs_out
    rw [List.length_cons] at short
    rcases bind_error runs_out with string | ⟨⟨key, l₁⟩, reads_key, runs_out⟩
    · exact readString_fed after string
    rcases bind_error runs_out with colon | ⟨l₂, reads_colon, runs_out⟩
    · exact expect_fed _ l₁ colon
    have to_key := readString_shorter reads_key
    have to_colon := (takes_expect (by decide) reads_colon).length_le
    have to_value := (takes_skipBlanks l₂).length_le
    rcases bind_error runs_out with value | ⟨⟨v, l₃⟩, reads_value, runs_out⟩
    · exact inner.value (by omega) value
    have value_taken := ((sound number fuel).value reads_value).length_le
    rcases bind_error runs_out with mark | ⟨⟨another, l₄⟩, reads_mark, runs_out⟩
    · exact more_fed _ l₃ mark
    have mark_taken := more_shorter reads_mark
    cases another with
    | true =>
      rcases bind_error runs_out with others | ⟨others, -, gives⟩
      · exact inner.members (by omega) others
      · cases gives
    | false => cases runs_out
  · rw [readMembers.eq_3 _ _ _ fun after here => quote ⟨after, here⟩] at runs_out
    cases runs_out

private theorem readItems_fed {fuel : ℕ} (inner : Fed number fuel)
    (short : 2 * l.length + 1 < fuel + 1) : readItems number (fuel + 1) l ≠ .error .outOfFuel := by
  intro runs_out
  rw [readItems] at runs_out
  rcases bind_error runs_out with value | ⟨⟨v, l₁⟩, reads_value, runs_out⟩
  · exact inner.value (by omega) value
  have value_taken := ((sound number fuel).value reads_value).length_le
  rcases bind_error runs_out with mark | ⟨⟨another, l₂⟩, reads_mark, runs_out⟩
  · exact more_fed _ l₁ mark
  have mark_taken := more_shorter reads_mark
  cases another with
  | true =>
    rcases bind_error runs_out with others | ⟨others, -, gives⟩
    · exact inner.items (by omega) others
    · cases gives
  | false => cases runs_out

theorem fed (number : Text → Option ν) (fuel : ℕ) : Fed number fuel := by
  induction fuel with
  | zero => exact ⟨fun short => by omega, fun short => by omega, fun short => by omega⟩
  | succ fuel ih => exact ⟨readValue_fed ih, readMembers_fed ih, readItems_fed ih⟩

/-- The decoder's answer is never for want of fuel. -/
theorem loads_fed (number : Text → Option ν) (l : Text) :
    loads number l ≠ .error .outOfFuel := by
  intro runs_out
  unfold loads at runs_out
  split_ifs at runs_out
  · exact nomatch runs_out
  rcases bind_error runs_out with value | ⟨⟨v, rest⟩, -, gives⟩
  · exact (fed number _).value (Nat.lt_succ_self _) value
  · dsimp only at gives
    split_ifs at gives
    · exact nomatch gives
    · exact nomatch gives

/-! Members as dictionaries. -/

mutual

/-- Each object, at every depth, writes each of its keys once. -/
def Distinct : Value ν → Prop
  | .arr items => DistinctItems items
  | .obj members => (members.map Prod.fst).Nodup ∧ DistinctMembers members
  | .null => True
  | .bool _ => True
  | .num _ => True
  | .str _ => True

def DistinctItems : List (Value ν) → Prop
  | [] => True
  | v :: rest => Distinct v ∧ DistinctItems rest

def DistinctMembers : List (Text × Value ν) → Prop
  | [] => True
  | (_, v) :: rest => Distinct v ∧ DistinctMembers rest

end

mutual

theorem merged_distinct : (v : Value ν) → Distinct v → v.merged = v
  | .arr items, distinct => by
    rw [Value.merged, mergedItems_distinct items distinct]
  | .obj members, distinct => by
    have collected : Dict.update [] members = members := Dict.update_of_distinct distinct.1
    rw [Value.merged, mergedMembers_distinct members distinct.2]
    exact congrArg Value.obj collected
  | .null, _ => rfl
  | .bool _, _ => rfl
  | .num _, _ => rfl
  | .str _, _ => rfl

private theorem mergedItems_distinct :
    (items : List (Value ν)) → DistinctItems items → mergedItems items = items
  | [], _ => rfl
  | v :: rest, distinct => by
    rw [mergedItems, merged_distinct v distinct.1, mergedItems_distinct rest distinct.2]

private theorem mergedMembers_distinct :
    (members : List (Text × Value ν)) → DistinctMembers members → mergedMembers members = members
  | [], _ => rfl
  | (key, v) :: rest, distinct => by
    rw [mergedMembers, merged_distinct v distinct.1, mergedMembers_distinct rest distinct.2]

end

private theorem strings_set (key : Text) (v : Value ν) (d : List (Text × Value ν)) :
    stringsOfMembers (Dict.set key v d) ≤ 1 + stringsOf v + stringsOfMembers d := by
  induction d with
  | nil => simp [Dict.set, stringsOfMembers]
  | cons m d ih =>
    obtain ⟨key', v'⟩ := m
    rw [Dict.set, stringsOfMembers]
    split_ifs
    · rw [stringsOfMembers]
      omega
    · rw [stringsOfMembers]
      omega

private theorem strings_collect (done members : List (Text × Value ν)) :
    stringsOfMembers (members.foldl (fun d m => Dict.set m.1 m.2 d) done) ≤
      stringsOfMembers done + stringsOfMembers members := by
  induction members generalizing done with
  | nil => simp [stringsOfMembers]
  | cons m members ih =>
    have one := strings_set m.1 m.2 done
    have others := ih (Dict.set m.1 m.2 done)
    have parts : stringsOfMembers (m :: members) =
        1 + stringsOf m.2 + stringsOfMembers members := rfl
    rw [List.foldl_cons, parts]
    omega

mutual

/-- Repeated keys only lose strings. -/
theorem strings_merged : (v : Value ν) → stringsOf v.merged ≤ stringsOf v
  | .arr items => by
    rw [Value.merged, stringsOf, stringsOf]
    exact stringsItems_merged items
  | .obj members => by
    have collected := strings_collect [] (mergedMembers members)
    have inner := stringsMembers_merged members
    have none_there : stringsOfMembers ([] : List (Text × Value ν)) = 0 := rfl
    rw [Value.merged, stringsOf, stringsOf]
    omega
  | .null => le_rfl
  | .bool _ => le_rfl
  | .num _ => le_rfl
  | .str _ => le_rfl

private theorem stringsItems_merged :
    (items : List (Value ν)) → stringsOfItems (mergedItems items) ≤ stringsOfItems items
  | [] => le_rfl
  | v :: rest => by
    have first := strings_merged v
    have others := stringsItems_merged rest
    rw [mergedItems, stringsOfItems, stringsOfItems]
    omega

private theorem stringsMembers_merged : (members : List (Text × Value ν)) →
    stringsOfMembers (mergedMembers members) ≤ stringsOfMembers members
  | [] => le_rfl
  | (key, v) :: rest => by
    have first := strings_merged v
    have others := stringsMembers_merged rest
    rw [mergedMembers, stringsOfMembers, stringsOfMembers]
    omega

end

/-! What a text that is read looks like. -/

theorem loads_reads {v : Value ν} (reads : loads number l = .ok v) :
    ∃ raw rest, readValue number (fuelFor (skipBlanks l)) (skipBlanks l) = .ok (raw, rest) ∧
      skipBlanks rest = [] ∧ v = raw.merged := by
  unfold loads at reads
  split_ifs at reads
  obtain ⟨⟨raw, rest⟩, value, gives⟩ := bind_ok reads
  dsimp only at gives
  split_ifs at gives with done
  cases gives
  exact ⟨raw, rest, value, done, rfl⟩

theorem skipBlanks_brace (l : Text) : skipBlanks (.char '{' :: l) = .char '{' :: l := rfl

/-- An object that is the whole of a text is the text's value. -/
theorem loads_object {v : Value ν} (distinct : Distinct v)
    (reads : readValue number (fuelFor (.char '{' :: l)) (.char '{' :: l) = .ok (v, [])) :
    loads number (.char '{' :: l) = .ok v := by
  have no_mark : (.char '{' :: l : Text).head? ≠ some byteOrderMark := by
    simp [byteOrderMark]
  rw [loads, if_neg no_mark, skipBlanks_brace, reads]
  show Except.ok v.merged = .ok v
  rw [merged_distinct v distinct]

private theorem closed_blanks (blank : skipBlanks l = []) : Closed l 0 := by
  obtain ⟨front, whole, closed⟩ := takes_skipBlanks l
  rw [blank, List.append_nil] at whole
  exact whole ▸ closed

/-- A text of an object is closed, and no string of its value is missing from its quotes. -/
theorem loads_closed {v : Value ν} (reads : loads number (.char '{' :: l) = .ok v) :
    ∃ n, Closed (.char '{' :: l) n ∧ 2 * stringsOf v ≤ n := by
  obtain ⟨raw, rest, value, blank, rfl⟩ := loads_reads reads
  rw [skipBlanks_brace] at value
  obtain ⟨front, whole, closed⟩ := (sound number _).value value
  rw [whole]
  exact ⟨_, closed.append (closed_blanks blank), Nat.mul_le_mul_left 2 (strings_merged raw)⟩

theorem loads_body {v : Value ν} (reads : loads number (.char '{' :: l) = .ok v) :
    ∃ body rest n, l = body ++ .char '}' :: rest ∧ Closed body n := by
  obtain ⟨raw, rest, value, -, -⟩ := loads_reads reads
  rw [skipBlanks_brace] at value
  obtain ⟨body, whole, closed⟩ := takes_object (sound number _) value
  exact ⟨body, rest, _, whole, closed⟩

/-- What is read from an opening brace is an object. -/
theorem loads_members {v : Value ν} (reads : loads number (.char '{' :: l) = .ok v) : ∃ members, v = .obj members := by
  obtain ⟨raw, rest, value, -, rfl⟩ := loads_reads reads
  rw [skipBlanks_brace, fuelFor, readValue] at value
  split at value
  · cases value
    exact ⟨_, rfl⟩
  · obtain ⟨⟨members, last⟩, -, gives⟩ := bind_ok value
    cases gives
    exact ⟨_, rfl⟩

/-- After the brace of an object come its end or its first key. -/
theorem object_start {fuel : ℕ} {v : Value ν}
    (reads : readValue number (fuel + 1) (.char '{' :: l) = .ok (v, rest)) :
    ∃ blanks after, l = blanks ++ after ∧ (∀ c ∈ blanks, isBlank c = true) ∧
      (after = .char '}' :: rest ∨ ∃ key, after = .char '"' :: key) := by
  refine ⟨l.takeWhile isBlank, skipBlanks l, List.takeWhile_append_dropWhile.symm,
    fun c there => List.mem_takeWhile_imp there, ?_⟩
  rw [readValue] at reads
  split at reads
  · rename_i skipped
    cases reads
    exact .inl skipped
  · obtain ⟨⟨members, last⟩, reads_members, -⟩ := bind_ok reads
    right
    by_contra no_key
    have refused : readMembers number fuel (skipBlanks l) ≠ .ok (members, last) := by
      cases fuel with
      | zero =>
        intro same
        cases same
      | succ fuel =>
        rw [readMembers.eq_3 _ _ _ fun key here => no_key ⟨key, here⟩]
        intro same
        cases same
    exact refused reads_members

end DroidOs.Lib.JsonLoads
