/- GID: DroidOs/Core/AuditFile
   generality: I
   source: src/droidos/core/logging.py
   digest: What load_history finds in an audit file that several processes append to and may break off in. -/

import DroidOs.Lib.JsonTorn
import DroidOs.Lib.TextLines

set_option autoImplicit false
set_option relaxedAutoImplicit false

namespace DroidOs.Core.AuditFile

open DroidOs.Lib DroidOs.Lib.Json DroidOs.Lib.JsonLoads DroidOs.Lib.JsonDumps DroidOs.Lib.JsonTorn

variable {ν : Type}

/-! Records. -/

/-- A text without surrogates that JSON would join. -/
abbrev Str : Type := { s : Text // Unpaired s }

/-- A dictionary of JSON data. -/
abbrev Items (ν : Type) : Type := { d : List (Text × Value ν) // Legible (.obj d) ∧ Distinct (.obj d) }

/-- `AuditRecord`. -/
structure AuditRecord (ν : Type) where
  kind : Str
  stamp : ν
  user : Option Str := none
  requestText : Option Str := none
  intent : Option Str := none
  arguments : Option (Items ν) := none
  approval : Option Str := none
  reason : Option Str := none
  taskId : Option Str := none
  outcome : Option Str := none
  safetyState : Option Str := none
  detail : Option (Items ν) := none

private def text (s : Option Str) : Option (Value ν) := s.map fun s => .str s.1

private def items (d : Option (Items ν)) : Option (Value ν) := d.map fun d => .obj d.1

/-- The fields that may be `None`. -/
def AuditRecord.optional (r : AuditRecord ν) : List (String × Option (Value ν)) :=
  [("user", text r.user), ("request_text", text r.requestText), ("intent", text r.intent),
    ("arguments", items r.arguments), ("approval", text r.approval), ("reason", text r.reason),
    ("task_id", text r.taskId), ("outcome", text r.outcome), ("safety_state", text r.safetyState),
    ("detail", items r.detail)]

def key (name : String) : Text := Text.ofChars name.toList

/-- `to_dict`. -/
def AuditRecord.toDict (r : AuditRecord ν) : Value ν :=
  .obj ((key "kind", .str r.kind.1) :: (key "stamp", .num r.stamp) ::
    r.optional.filterMap fun entry => entry.2.map fun v => (key entry.1, v))

/-! The file. -/

variable (N : Numerals ν)

/-- A call of `record` by some process. One that crashes leaves so many characters of its line. -/
inductive Call (ν : Type)
  | completed (r : AuditRecord ν)
  | crashed (r : AuditRecord ν) (left : ℕ)

def AuditRecord.json (r : AuditRecord ν) : Text := dumps N r.toDict

/-- What a call appends. Without its break a line is not complete. -/
def Call.appended : Call ν → Text
  | .completed r => r.json N ++ [.char '\n']
  | .crashed r left => (r.json N).take left

/-- The file after one more call, which creates it if need be. -/
def record (file : Option Text) (call : Call ν) : Option Text := some (file.getD [] ++ call.appended N)

/-- The file after some calls. -/
def fileAfter (calls : List (Call ν)) : Option Text := calls.foldl (record N) none

/-- The records of the calls that complete. -/
def written (calls : List (Call ν)) : List (Value ν) := calls.filterMap fun
  | .completed r => some r.toDict
  | .crashed _ _ => none

/-! The reader. -/

/-- The breaks of a file that is opened as text. -/
def isBreak : Code → Bool
  | .char c => c = '\n' || c = '\r'
  | .surrogate _ => false

def isCrLf : Code → Code → Bool
  | .char c, .char d => c = '\r' && d = '\n'
  | _, _ => false

/-- `str.isspace`, of a character. -/
def isSpace : Code → Bool
  | .char c => c ∈ ['\t', '\n', '\x0b', '\x0c', '\r', '\x1c', '\x1d', '\x1e', '\x1f', ' ', '\x85', '\xa0', '\u1680',
      '\u2000', '\u2001', '\u2002', '\u2003', '\u2004', '\u2005', '\u2006', '\u2007', '\u2008', '\u2009', '\u200a',
      '\u2028', '\u2029', '\u202f', '\u205f', '\u3000']
  | .surrogate _ => false

/-- The loop of `load_history`, with what it has so far. The flag tells that no line stopped it. -/
def readLines : List Text → List (Value ν) → List (Value ν) × Bool
  | [], out => (out, true)
  | line :: rest, out =>
    let line := TextLines.strip isSpace line
    if line.isEmpty then readLines rest out
    else match loads N.number line with
      | .ok v => readLines rest (out ++ [v])
      | .error _ => (out, false)

/-- `out[-limit:]`. -/
def latest {α : Type} (limit : ℤ) (out : List α) : List α :=
  if 0 < limit then out.drop (out.length - limit.toNat) else out.drop (-limit).toNat

/-- `load_history`. A line that is no JSON ends it at once. -/
def loadHistory (limit : ℤ) (file : Option Text) : List (Value ν) :=
  match file with
  | none => []
  | some content =>
    let (out, finished) := readLines N (TextLines.splitLines isBreak isCrLf content) []
    if finished then latest limit out else out

/-! When it finds what was written. -/

/-- The last `limit` of the records that were written completely. -/
def lastWritten (limit : ℕ) (calls : List (Call ν)) : List (Value ν) :=
  (written calls).drop ((written calls).length - limit)

/-- Whether a call leaves a part of its line. -/
def Call.tears : Call ν → Bool
  | .completed _ => false
  | .crashed _ left => left ≠ 0

/-- The record of a call. -/
def Call.dict : Call ν → Value ν
  | .completed r => r.toDict
  | .crashed r _ => r.toDict

def beforeTear (calls : List (Call ν)) : List (Call ν) := calls.takeWhile fun call => !call.tears

def fromTear (calls : List (Call ν)) : List (Call ν) := calls.dropWhile fun call => !call.tears

/-- The torn line is the last one, and lacks its break only. -/
def lacksBreak (tear : Call ν) (later : List (Call ν)) : Bool :=
  tear.appended N = dumps N tear.dict && later.all fun call => (call.appended N).isEmpty

/-- The calls do no harm to a reader with this limit. Nothing is torn, and the limit is not zero unless
nothing is written. Or the records before the first torn line are also the last ones, as many as asked
for or all. Where that line is read for a record, the last records must all be the same as it. -/
def Spared (limit : ℕ) (calls : List (Call ν)) : Prop :=
  match fromTear calls with
  | [] => limit ≠ 0 ∨ written calls = []
  | tear :: later =>
    if lacksBreak N tear later then
      0 < limit ∧ limit ≤ (written calls).length ∧ ∀ v ∈ lastWritten limit calls, v = tear.dict
    else written (beforeTear calls) <:+ written calls ∧
      (limit = (written (beforeTear calls)).length ∨
        written later = [] ∧ (written (beforeTear calls)).length ≤ limit)

variable {N}

/-! Records are documents. -/

private theorem legibleMembers_of_forall {members : List (Text × Value ν)}
    (each : ∀ m ∈ members, Unpaired m.1 ∧ Legible m.2) : LegibleMembers members := by
  induction members with
  | nil => trivial
  | cons m members ih =>
    have first := each m List.mem_cons_self
    exact ⟨first.1, first.2, ih fun m' inside => each m' (List.mem_cons_of_mem m inside)⟩

private theorem distinctMembers_of_forall {members : List (Text × Value ν)} (each : ∀ m ∈ members, Distinct m.2) :
    DistinctMembers members := by
  induction members with
  | nil => trivial
  | cons m members ih =>
    exact ⟨each m List.mem_cons_self, ih fun m' inside => each m' (List.mem_cons_of_mem m inside)⟩

private theorem unpaired_chars (l : List Char) : Unpaired (Text.ofChars l) := by
  induction l with
  | nil => trivial
  | cons c l ih => exact ih

private theorem optional_sound (r : AuditRecord ν) {name : String} {v : Value ν} (inside : (name, some v) ∈ r.optional) :
    Legible v ∧ Distinct v := by
  have of_text {s : Option Str} (own : some v = text s) : Legible v ∧ Distinct v := by
    obtain ⟨s, -, rfl⟩ := Option.map_eq_some_iff.mp own.symm
    exact ⟨s.2, trivial⟩
  have of_items {d : Option (Items ν)} (own : some v = items d) : Legible v ∧ Distinct v := by
    obtain ⟨d, -, rfl⟩ := Option.map_eq_some_iff.mp own.symm
    exact d.2
  simp only [AuditRecord.optional, List.mem_cons, List.not_mem_nil, or_false, Prod.mk.injEq] at inside
  rcases inside with ⟨-, own⟩ | ⟨-, own⟩ | ⟨-, own⟩ | ⟨-, own⟩ | ⟨-, own⟩ | ⟨-, own⟩ | ⟨-, own⟩ | ⟨-, own⟩ | ⟨-, own⟩ |
    ⟨-, own⟩
  · exact of_text own
  · exact of_text own
  · exact of_text own
  · exact of_items own
  · exact of_text own
  · exact of_text own
  · exact of_text own
  · exact of_text own
  · exact of_text own
  · exact of_items own

private theorem keys_sublist (entries : List (String × Option (Value ν))) :
    ((entries.filterMap fun entry => entry.2.map fun v => (key entry.1, v)).map Prod.fst).Sublist
      (entries.map fun entry => key entry.1) := by
  induction entries with
  | nil => exact List.Sublist.refl _
  | cons entry entries ih =>
    obtain ⟨name, value⟩ := entry
    cases value with
    | none => exact List.Sublist.cons _ ih
    | some v => exact List.Sublist.cons_cons _ ih

theorem AuditRecord.document (r : AuditRecord ν) : Document r.toDict := by
  have each (m : Text × Value ν) (inside : m ∈ r.optional.filterMap fun entry => entry.2.map fun v => (key entry.1, v)) :
      Unpaired m.1 ∧ Legible m.2 ∧ Distinct m.2 := by
    obtain ⟨⟨name, value⟩, listed, shown⟩ := List.mem_filterMap.mp inside
    obtain ⟨v, rfl, rfl⟩ := Option.map_eq_some_iff.mp shown
    exact ⟨unpaired_chars _, optional_sound r listed⟩
  refine ⟨?_, ?_, ?_⟩
  · refine ⟨unpaired_chars _, r.kind.2, unpaired_chars _, trivial, legibleMembers_of_forall fun m inside => ?_⟩
    exact ⟨(each m inside).1, (each m inside).2.1⟩
  · refine ⟨?_, trivial, trivial, distinctMembers_of_forall fun m inside => (each m inside).2.2⟩
    have names : (key "kind" :: key "stamp" :: r.optional.map fun entry => key entry.1).Nodup := by
      simp only [AuditRecord.optional, List.map_cons, List.map_nil]
      decide
    exact names.sublist (List.Sublist.cons_cons _ (List.Sublist.cons_cons _ (keys_sublist r.optional)))
  · exact ⟨'k', _, _, _, rfl, by decide, rfl, rfl⟩

/-! Lines. -/

private theorem isBreak_of_isCrLf (c d : Code) (pair : isCrLf c d = true) : isBreak c = true := by
  unfold isCrLf at pair
  split at pair
  · simp only [Bool.and_eq_true, decide_eq_true_eq] at pair
    simp [isBreak, pair.1]
  · cases pair

private theorem not_isCrLf_newline (c : Code) : isCrLf (.char '\n') c = false := by
  cases c with
  | char c => rfl
  | surrogate n => rfl

private theorem unbroken_shown {c : Code} (shown : Shown c) : isBreak c = false := by
  cases c with
  | surrogate n => rfl
  | char c =>
    simp only [Shown, isShown, Bool.and_eq_true, decide_eq_true_eq] at shown
    have apart (d : Char) (under : d < ' ') : c ≠ d := by
      rintro rfl
      exact Char.not_lt.mpr shown.1 under
    simp [isBreak, apart '\n' (by decide), apart '\r' (by decide)]

private theorem unbroken_json (r : AuditRecord ν) : ∀ c ∈ r.json N, isBreak c = false :=
  fun c inside => unbroken_shown (dumps_shown r.toDict r.document.legible c inside)

private theorem json_brace (r : AuditRecord ν) : ∃ l, r.json N = .char '\x7b' :: l :=
  dumps_object _

private theorem json_ends (r : AuditRecord ν) : (r.json N).getLast? = some (.char '\x7d') :=
  dumps_object_last _

private theorem strip_json (r : AuditRecord ν) : TextLines.strip isSpace (r.json N) = r.json N := by
  refine TextLines.strip_of_bare ⟨?_, ?_⟩
  · intro c here
    obtain ⟨l, own⟩ := json_brace (N := N) r
    rw [own] at here
    obtain rfl := Option.some.inj here
    decide
  · intro c here
    rw [json_ends] at here
    obtain rfl := Option.some.inj here
    decide

private theorem loads_json (r : AuditRecord ν) : loads N.number (r.json N) = .ok r.toDict :=
  loads_dumps r.document.legible r.document.distinct

/-- The text of some calls. -/
def texts (N : Numerals ν) (calls : List (Call ν)) : Text := calls.flatMap (Call.appended N)

private theorem fold_record (calls : List (Call ν)) (content : Text) :
    calls.foldl (record N) (some content) = some (content ++ texts N calls) := by
  induction calls generalizing content with
  | nil => exact congrArg some (List.append_nil content).symm
  | cons call calls ih =>
    rw [List.foldl_cons]
    refine (ih _).trans (congrArg some ?_)
    exact List.append_assoc content (call.appended N) (texts N calls)

theorem loadHistory_fileAfter (limit : ℤ) (calls : List (Call ν)) :
    loadHistory N limit (fileAfter N calls) = loadHistory N limit (some (texts N calls)) := by
  cases calls with
  | nil => simp [fileAfter, loadHistory, texts, TextLines.splitLines, readLines, latest]
  | cons call calls =>
    rw [fileAfter, List.foldl_cons]
    exact congrArg (loadHistory N limit) (fold_record calls _)

/-! What is read. -/

private theorem readLines_json (r : AuditRecord ν) (rest : List Text) (out : List (Value ν)) :
    readLines N (r.json N :: rest) out = readLines N rest (out ++ [r.toDict]) := by
  have some_text : (r.json N).isEmpty = false := by
    obtain ⟨l, own⟩ := json_brace (N := N) r
    rw [own]
    rfl
  rw [readLines, strip_json, some_text, if_neg Bool.false_ne_true, loads_json]

private theorem splitLines_complete (r : AuditRecord ν) (front rest : Text) (unbroken : ∀ c ∈ front, isBreak c = false) :
    TextLines.splitLines isBreak isCrLf (front ++ r.json N ++ .char '\n' :: rest) =
      (front ++ r.json N) :: TextLines.splitLines isBreak isCrLf rest := by
  refine TextLines.splitLines_line rfl not_isCrLf_newline isBreak_of_isCrLf ?_ rest
  intro c inside
  rcases List.mem_append.mp inside with here | there
  · exact unbroken c here
  · exact unbroken_json r c there

private theorem appended_quiet {call : Call ν} (quiet : call.tears = false) :
    (∃ r, call = .completed r) ∨ (call.appended N = [] ∧ written [call] = []) := by
  cases call with
  | completed r => exact .inl ⟨r, rfl⟩
  | crashed r left =>
    rw [Call.tears, decide_eq_false_iff_not, not_not] at quiet
    subst quiet
    exact .inr ⟨by rw [Call.appended, List.take_zero], rfl⟩

private theorem written_cons (call : Call ν) (calls : List (Call ν)) :
    written (call :: calls) = written [call] ++ written calls := by
  cases call with
  | completed r => rfl
  | crashed r left => rfl

theorem written_append (calls later : List (Call ν)) : written (calls ++ later) = written calls ++ written later :=
  List.filterMap_append

/-- Up to the first torn line, each record is read. -/
private theorem readLines_quiet {calls : List (Call ν)} (quiet : ∀ call ∈ calls, call.tears = false) (rest : Text)
    (out : List (Value ν)) :
    readLines N (TextLines.splitLines isBreak isCrLf (texts N calls ++ rest)) out =
      readLines N (TextLines.splitLines isBreak isCrLf rest) (out ++ written calls) := by
  induction calls generalizing out with
  | nil => rw [show written ([] : List (Call ν)) = [] from rfl, List.append_nil]; rfl
  | cons call calls ih =>
    have later := ih fun other inside => quiet other (List.mem_cons_of_mem call inside)
    have own : texts N (call :: calls) ++ rest = call.appended N ++ (texts N calls ++ rest) :=
      List.append_assoc _ _ _
    rw [written_cons, own]
    rcases appended_quiet (N := N) (quiet call List.mem_cons_self) with ⟨r, rfl⟩ | ⟨nothing, none_written⟩
    · have line := splitLines_complete (N := N) r [] (texts N calls ++ rest) fun c inside => (by cases inside)
      rw [List.nil_append] at line
      rw [Call.appended, List.append_assoc, List.singleton_append, line, readLines_json, later, List.append_assoc]
      rfl
    · rw [nothing, none_written, List.nil_append, List.nil_append, later]

/-- The line with the first torn piece goes on with what is left of other records. -/
private theorem splitLines_torn (later : List (Call ν)) {piece : Text} (some_text : piece ≠ [])
    (unbroken : ∀ c ∈ piece, isBreak c = false) : ∃ rest lines,
      TextLines.splitLines isBreak isCrLf (piece ++ texts N later) = (piece ++ rest) :: lines ∧
        Scraps N rest ∧ (rest = [] ↔ ∀ call ∈ later, call.appended N = []) ∧ (rest = [] → lines = []) := by
  induction later generalizing piece with
  | nil =>
    have last := TextLines.splitLines_last some_text isBreak_of_isCrLf unbroken
    refine ⟨[], [], ?_, .nil, iff_of_true rfl (fun call inside => (by cases inside)), fun _ => rfl⟩
    rw [List.append_nil]
    exact (congrArg _ (List.append_nil piece)).trans last
  | cons call later ih =>
    have own : piece ++ texts N (call :: later) = piece ++ call.appended N ++ texts N later :=
      (List.append_assoc _ _ _).symm
    rw [own]
    cases call with
    | completed r =>
      obtain ⟨l, json⟩ := json_brace (N := N) r
      have some_json : r.json N ≠ [] := by
        rw [json]
        exact List.cons_ne_nil _ _
      refine ⟨r.json N, TextLines.splitLines isBreak isCrLf (texts N later), ?_, ?_, ?_, ?_⟩
      · rw [Call.appended, ← List.append_assoc piece, List.append_assoc (piece ++ r.json N), List.singleton_append]
        exact splitLines_complete r piece _ unbroken
      · have scraps := Scraps.cons (N := N) r.document some_json (List.prefix_refl _) .nil
        rwa [List.append_nil] at scraps
      · refine iff_of_false some_json fun silent => ?_
        have nothing := silent _ List.mem_cons_self
        exact some_json (List.append_eq_nil_iff.mp nothing).1
      · exact fun nothing => absurd nothing some_json
    | crashed r left =>
      have part : (r.json N).take left <+: r.json N := List.take_prefix _ _
      by_cases nothing : (r.json N).take left = []
      · obtain ⟨rest, lines, split, scraps, silent, last⟩ := ih some_text unbroken
        refine ⟨rest, lines, ?_, scraps, ?_, last⟩
        · rw [Call.appended, nothing, List.append_nil]
          exact split
        · rw [silent, List.forall_mem_cons]
          exact (and_iff_right nothing).symm
      · have unbroken' : ∀ c ∈ piece ++ (r.json N).take left, isBreak c = false := by
          intro c inside
          rcases List.mem_append.mp inside with here | there
          · exact unbroken c here
          · exact unbroken_json r c (part.subset there)
        have some_text' : piece ++ (r.json N).take left ≠ [] :=
          fun empty => some_text (List.append_eq_nil_iff.mp empty).1
        obtain ⟨rest, lines, split, scraps, silent, last⟩ := ih some_text' unbroken'
        refine ⟨(r.json N).take left ++ rest, lines, ?_, .cons r.document nothing part scraps, ?_, ?_⟩
        · rw [← List.append_assoc]
          exact split
        · refine iff_of_false (fun empty => nothing (List.append_eq_nil_iff.mp empty).1) fun silent => ?_
          exact nothing (silent _ List.mem_cons_self)
        · exact fun empty => absurd (List.append_eq_nil_iff.mp empty).1 nothing

private theorem tear_left {call : Call ν} (tears : call.tears = true) :
    ∃ r left, call = .crashed r left ∧ call.appended N ≠ [] ∧ call.appended N <+: dumps N call.dict ∧
      ∀ c ∈ call.appended N, isBreak c = false := by
  cases call with
  | completed r => cases tears
  | crashed r left =>
    have part : (r.json N).take left <+: r.json N := List.take_prefix _ _
    refine ⟨r, left, rfl, ?_, part, fun c inside => unbroken_json r c (part.subset inside)⟩
    obtain ⟨l, json⟩ := json_brace (N := N) r
    rw [Call.tears, decide_eq_true_eq] at tears
    obtain ⟨k, rfl⟩ := Nat.exists_eq_succ_of_ne_zero tears
    rw [Call.appended, json, List.take_succ_cons]
    exact List.cons_ne_nil _ _

private theorem dict_document (call : Call ν) : Document call.dict := by
  cases call with
  | completed r => exact r.document
  | crashed r left => exact r.document

/-- From the first torn line on, nothing is read, unless it lacks its break only and nothing follows. -/
private theorem readLines_torn {tear : Call ν} (tears : tear.tears = true) (later : List (Call ν))
    (out : List (Value ν)) :
    readLines N (TextLines.splitLines isBreak isCrLf (texts N (tear :: later))) out =
      if lacksBreak N tear later then (out ++ [tear.dict], true) else (out, false) := by
  obtain ⟨r, left, rfl, some_text, part, unbroken⟩ := tear_left (N := N) tears
  obtain ⟨rest, lines, split, scraps, silent, last⟩ := splitLines_torn (N := N) later some_text unbroken
  have visible : isSpace (.char '\x7b') = false := by decide
  have own : texts N (.crashed r left :: later) = Call.appended N (.crashed r left) ++ texts N later := rfl
  have all_silent : (later.all fun call => (call.appended N).isEmpty) = true ↔ rest = [] := by
    simp only [silent, List.all_eq_true, List.isEmpty_iff]
  rw [own, split]
  by_cases whole : Call.appended N (.crashed r left) = dumps N (Call.dict (.crashed r left)) ∧ rest = []
  · have lacks : lacksBreak N (.crashed r left) later = true := by
      rw [lacksBreak, Bool.and_eq_true, decide_eq_true_eq]
      exact ⟨whole.1, all_silent.mpr whole.2⟩
    rw [if_pos lacks, last whole.2, whole.2, List.append_nil, whole.1]
    exact readLines_json r [] out
  · have lacks : ¬ lacksBreak N (.crashed r left) later = true := by
      rw [lacksBreak, Bool.and_eq_true, decide_eq_true_eq]
      exact fun both => whole ⟨both.1, all_silent.mp both.2⟩
    have refused (u : Value ν) := trimmed_refused visible (dict_document (.crashed r left)) some_text part scraps
      (fun same nothing => whole ⟨same, nothing⟩) u
    have front : (Call.appended N (.crashed r left) ++ rest).dropWhile isSpace =
        Call.appended N (.crashed r left) ++ rest := by
      rcases (Scraps.cons (dict_document (.crashed r left)) some_text part scraps).brace with empty | ⟨l, brace⟩
      · exact absurd (List.append_eq_nil_iff.mp empty).1 some_text
      · rw [brace, List.dropWhile_cons_of_neg (by rw [visible]; exact Bool.false_ne_true)]
    have solid := ((Scraps.cons (dict_document (.crashed r left)) some_text part scraps).trim visible).2
      fun empty => some_text (List.append_eq_nil_iff.mp empty).1
    rw [if_neg lacks, readLines, TextLines.strip, front]
    rw [if_neg (by rwa [List.isEmpty_iff])]
    split
    · rename_i u loaded
      exact absurd loaded (refused u)
    · rfl

/-! The result. -/

private theorem beforeTear_quiet (calls : List (Call ν)) : ∀ call ∈ beforeTear calls, call.tears = false := by
  intro call inside
  have quiet := List.mem_takeWhile_imp inside
  rwa [Bool.not_eq_true'] at quiet

private theorem beforeTear_append (calls : List (Call ν)) : beforeTear calls ++ fromTear calls = calls :=
  List.takeWhile_append_dropWhile

private theorem fromTear_tears {calls later : List (Call ν)} {tear : Call ν} (torn : fromTear calls = tear :: later) :
    tear.tears = true := by
  have first := List.head?_dropWhile_not (fun call : Call ν => !call.tears) calls
  rw [show calls.dropWhile (fun call => !call.tears) = tear :: later from torn] at first
  simpa using first

/-- What `load_history` finds. -/
theorem loadHistory_eq (limit : ℤ) (calls : List (Call ν)) : loadHistory N limit (fileAfter N calls) =
    match fromTear calls with
    | [] => latest limit (written calls)
    | tear :: later =>
      if lacksBreak N tear later then latest limit (written (beforeTear calls) ++ [tear.dict])
      else written (beforeTear calls) := by
  have split : texts N calls = texts N (beforeTear calls) ++ texts N (fromTear calls) := by
    conv => lhs; rw [← beforeTear_append calls]
    exact List.flatMap_append
  have quiet := readLines_quiet (N := N) (beforeTear_quiet calls) (texts N (fromTear calls)) []
  rw [loadHistory_fileAfter, loadHistory, split, quiet, List.nil_append]
  cases torn : fromTear calls with
  | nil =>
    have all : beforeTear calls = calls := by
      conv => rhs; rw [← beforeTear_append calls, torn, List.append_nil]
    rw [all]
    rfl
  | cons tear later =>
    rw [readLines_torn (fromTear_tears torn)]
    dsimp only
    cases lacksBreak N tear later <;> rfl

/-! The result and what was written. -/

private theorem latest_zero {α : Type} (out : List α) : latest ((0 : ℕ) : ℤ) out = out := rfl

private theorem latest_pos {α : Type} {limit : ℕ} (some_limit : limit ≠ 0) (out : List α) :
    latest limit out = out.drop (out.length - limit) := by
  rw [latest, if_pos (by omega), Int.toNat_natCast]

private theorem latest_iff {α : Type} (limit : ℕ) (out : List α) :
    latest limit out = out.drop (out.length - limit) ↔ limit ≠ 0 ∨ out = [] := by
  by_cases zero : limit = 0
  · subst zero
    rw [latest_zero, Nat.sub_zero, List.drop_length]
    exact ⟨.inr, fun empty => empty.resolve_left (absurd rfl)⟩
  · exact iff_of_true (latest_pos zero out) (.inl zero)

/-- A front of a list is its last part of some length exactly if it is a suffix with that length, or all. -/
private theorem front_iff {α : Type} (limit : ℕ) (front rest : List α) :
    front = (front ++ rest).drop ((front ++ rest).length - limit) ↔
      front <:+ front ++ rest ∧ (limit = front.length ∨ rest = [] ∧ front.length ≤ limit) := by
  constructor
  · intro same
    have suffix := List.drop_suffix ((front ++ rest).length - limit) (front ++ rest)
    rw [← same] at suffix
    have count := congrArg List.length same
    rw [List.length_drop, List.length_append] at count
    refine ⟨suffix, ?_⟩
    by_cases nothing : rest = []
    · rw [nothing, List.length_nil] at count
      exact .inr ⟨nothing, by omega⟩
    · have some_rest := List.length_pos_of_ne_nil nothing
      exact .inl (by omega)
  · rintro ⟨suffix, asked | ⟨rfl, enough⟩⟩
    · rw [asked]
      exact List.suffix_iff_eq_drop.mp suffix
    · rw [List.append_nil, Nat.sub_eq_zero_of_le enough, List.drop_zero]

private theorem shift_iff {α : Type} {l : List α} (some_item : l ≠ []) (a : α) :
    l.tail ++ [a] = l ↔ ∀ b ∈ l, b = a := by
  induction l with
  | nil => exact absurd rfl some_item
  | cons b l ih =>
    cases l with
    | nil => simp [eq_comm]
    | cons c l =>
      have inner := ih (List.cons_ne_nil c l)
      rw [List.tail_cons] at inner ⊢
      rw [List.forall_mem_cons, ← inner]
      constructor
      · intro same
        obtain ⟨rfl, later⟩ := List.cons.inj same
        exact ⟨(inner.mp later) _ List.mem_cons_self, later⟩
      · rintro ⟨rfl, later⟩
        have first := inner.mp later _ List.mem_cons_self
        rw [first] at later ⊢
        exact congrArg _ later

/-- With one more item behind, the last part of a list is the same exactly if all of it is that item. -/
private theorem extended_iff {α : Type} (limit : ℕ) (out : List α) (a : α) :
    latest limit (out ++ [a]) = out.drop (out.length - limit) ↔
      0 < limit ∧ limit ≤ out.length ∧ ∀ b ∈ out.drop (out.length - limit), b = a := by
  by_cases zero : limit = 0
  · subst zero
    rw [latest_zero, Nat.sub_zero, List.drop_length]
    exact iff_of_false (fun same => by simp at same) fun ⟨some_limit, _⟩ => absurd some_limit (lt_irrefl 0)
  rw [latest_pos zero]
  by_cases enough : limit ≤ out.length
  · have count : (out ++ [a]).length - limit = out.length - limit + 1 := by
      rw [List.length_append, List.length_singleton]
      omega
    have within : out.length - limit + 1 ≤ out.length := by omega
    have some_item : out.drop (out.length - limit) ≠ [] := by
      rw [ne_eq, List.drop_eq_nil_iff]
      omega
    rw [count, List.drop_append_of_le_length within, ← List.tail_drop, shift_iff some_item]
    exact ⟨fun same => ⟨Nat.pos_of_ne_zero zero, enough, same⟩, fun ⟨_, _, same⟩ => same⟩
  · refine iff_of_false (fun same => ?_) fun ⟨_, within, _⟩ => enough within
    have count := congrArg List.length same
    rw [List.length_drop, List.length_drop, List.length_append, List.length_singleton] at count
    omega

private theorem written_crashed (r : AuditRecord ν) (left : ℕ) (later : List (Call ν)) :
    written (.crashed r left :: later) = written later := rfl

/-- Calls that append nothing write no record. -/
private theorem written_silent {calls : List (Call ν)} (silent : ∀ call ∈ calls, call.appended N = []) :
    written calls = [] := by
  induction calls with
  | nil => rfl
  | cons call calls ih =>
    have first := silent call List.mem_cons_self
    cases call with
    | completed r => exact absurd (List.append_eq_nil_iff.mp first).2 (List.cons_ne_nil _ _)
    | crashed r left => exact ih fun other inside => silent other (List.mem_cons_of_mem _ inside)

/-- `load_history` returns the last of the records that were written completely exactly if the calls do
it no harm. -/
theorem loadHistory_iff (calls : List (Call ν)) (limit : ℕ) :
    loadHistory N limit (fileAfter N calls) = lastWritten limit calls ↔ Spared N limit calls := by
  rw [loadHistory_eq, Spared]
  cases torn : fromTear calls with
  | nil => exact latest_iff limit (written calls)
  | cons tear later =>
    obtain ⟨r, left, rfl, -⟩ := tear_left (N := N) (fromTear_tears torn)
    have whole : written calls = written (beforeTear calls) ++ written later := by
      conv => lhs; rw [← beforeTear_append calls, torn, written_append, written_crashed]
    dsimp only
    by_cases lacks : lacksBreak N (.crashed r left) later = true
    · have silent : ∀ call ∈ later, call.appended N = [] := by
        rw [lacksBreak, Bool.and_eq_true, List.all_eq_true] at lacks
        exact fun call inside => List.isEmpty_iff.mp (lacks.2 call inside)
      rw [written_silent silent, List.append_nil] at whole
      rw [if_pos lacks, if_pos lacks, lastWritten, whole]
      exact extended_iff limit _ _
    · rw [if_neg lacks, if_neg lacks, lastWritten, whole]
      exact front_iff limit _ _

/-! A torn line. -/

private theorem zero_literal (rest : Text) (ended : ∀ c ∈ rest.head?, isNumeral c = false) :
    (firstWord numberWords (key "0.0" ++ rest) <|> readNumber (key "0.0" ++ rest)) = some (key "0.0", rest) := by
  have no_word : firstWord numberWords (key "0.0" ++ rest) = none := rfl
  have digits : (.char '0' :: rest : Text).span isDigit = ([.char '0'], rest) := by
    rw [List.span_eq_takeWhile_dropWhile, List.takeWhile_cons_of_pos rfl, List.dropWhile_cons_of_pos rfl]
    cases rest with
    | nil => rfl
    | cons c rest =>
      have no_digit : ¬ isDigit c = true := by
        have other := ended c rfl
        cases c with
        | surrogate n => exact Bool.false_ne_true
        | char c =>
          rw [isNumeral, Bool.or_eq_false_iff] at other
          rw [other.1]
          exact Bool.false_ne_true
      rw [List.takeWhile_cons_of_neg no_digit, List.dropWhile_cons_of_neg no_digit]
  have fraction : readFraction (.char '.' :: .char '0' :: rest) = ([.char '.', .char '0'], rest) := by
    rw [readFraction, digits]
  have no_exponent : readExponent rest = ([], rest) := by
    cases rest with
    | nil => rfl
    | cons c rest =>
      have other := ended c rfl
      have apart (d : Char) (letter : isNumeral (.char d) = true) : c ≠ .char d := by
        rintro rfl
        rw [letter] at other
        cases other
      rw [readExponent, if_neg (not_or.mpr ⟨apart 'e' (by decide), apart 'E' (by decide)⟩)]
  have whole : readNumber (key "0.0" ++ rest) = some (key "0.0", rest) := by
    change (some ([.char '0'] ++ (readFraction (.char '.' :: .char '0' :: rest)).1 ++
      (readExponent (readFraction (.char '.' :: .char '0' :: rest)).2).1,
      (readExponent (readFraction (.char '.' :: .char '0' :: rest)).2).2) : Option (Text × Text)) = _
    rw [fraction, no_exponent]
    rfl
  rw [no_word, whole]
  rfl

/-- A single number, zero. -/
private def zero : Numerals Unit where
  numeral _ := key "0.0"
  convert _ := ()
  chars _ := by decide
  literal _ := zero_literal
  converts _ := rfl

private def stopped : AuditRecord Unit where
  kind := ⟨key "safety", unpaired_chars _⟩
  stamp := ()

/-- One character of a line that a process leaves hides the record that another one writes next. -/
theorem torn_hides : lastWritten 500 [.crashed stopped 1, .completed stopped] = [stopped.toDict] ∧
    loadHistory zero 500 (fileAfter zero [.crashed stopped 1, .completed stopped]) = [] := by
  refine ⟨rfl, ?_⟩
  have first : fromTear [.crashed stopped 1, .completed stopped] = [.crashed stopped 1, .completed stopped] := rfl
  have goes_on : lacksBreak zero (.crashed stopped 1) [.completed stopped] = false := by
    rw [lacksBreak, Bool.and_eq_false_iff]
    refine .inr ?_
    rw [List.all_cons, Bool.and_eq_false_iff]
    exact .inl (Bool.eq_false_iff.mpr fun empty =>
      List.append_ne_nil_of_right_ne_nil _ (List.cons_ne_nil _ _) (List.isEmpty_iff.mp empty))
  rw [loadHistory_eq, first]
  dsimp only
  rw [goes_on]
  rfl

end DroidOs.Core.AuditFile
