/- GID: DroidOs/Language/PlaceNames
   generality: I
   source: src/droidos/language/offline_parser.py, src/droidos/services/world_model.py
   digest: When a request to go to a stored place leads there. -/

import DroidOs.Language.BrokenOff
import DroidOs.Services.WorldModel

set_option autoImplicit false
set_option relaxedAutoImplicit false

namespace DroidOs.Language.PlaceNames

open DroidOs.Lib.Regex DroidOs.Lib.Regex.Pattern
open DroidOs.Core.Values DroidOs.Core.Values.PyText DroidOs.Core.Words
open DroidOs.Services DroidOs.Services.WorldModel
open Intent OfflineParser Rules Slots Punctuation

variable (text : PyText)

/-- One or more words in small letters with single blanks between them. -/
def PlaceName (name : String) : Prop :=
  (∃ words, words ≠ [] ∧ (∀ w ∈ words, w ≠ [] ∧ ∀ c ∈ w, text.isWord c = true) ∧
    name.toList = [' '].intercalate words) ∧ text.lower name = name

/-- A request that moves the droid to the place of that name: to a destination that resolves to it,
or to charge if that is the name. -/
def GoesTo (w : WorldData) (name : String) (place : Place) (request : StructuredIntent) : Prop :=
  (∃ destination, meaning request = ("navigation.navigate_to", .dict [(.str "destination", destination)]) ∧
    norm text destination = name ∧ w.resolve text destination = some { x := place.x, y := place.y }) ∨
  request.intent = "navigation.go_charge" ∧ name = "charging station"

/-- No article at the beginning. -/
def articleless (name : String) : Prop := ∀ article ∈ ["the ", "a ", "an "], ¬ article.toList <+: name.toList

variable {text} {name : String}

/-! Names. -/

theorem PlaceName.phrase (laws : text.Lawful) (named : PlaceName text name) : Phrase text name := by
  obtain ⟨⟨words, some_word, letters, joined⟩, -⟩ := named
  refine ⟨words, some_word, fun w inside => ⟨(letters w inside).1, fun c letter => ?_⟩, joined⟩
  exact laws.words c ((letters w inside).2 c letter)

/-- The last character of a name is a word character. -/
private theorem PlaceName.last (laws : text.Lawful) (named : PlaceName text name) : ∃ last,
    name.toList.getLast? = some last ∧ text.isWord last = true := by
  have phrase := named.phrase laws
  obtain ⟨⟨words, -, letters, joined⟩, -⟩ := named
  have ends := List.getLast?_eq_getLast_of_ne_nil (phrase.ne_nil laws)
  refine ⟨_, ends, ?_⟩
  have inside : ∀ c ∈ name.toList, c ∈ [' '].intercalate words := fun c member => joined ▸ member
  rcases mem_intercalate (inside _ (List.getLast_mem (phrase.ne_nil laws))) with blank | ⟨w, member, letter⟩
  · have visible := phrase.last laws _ ends
    rw [blank, laws.blank] at visible
    cases visible
  · exact (letters w member).2 _ letter

/-- A name is its own key. -/
theorem PlaceName.norm_eq (laws : text.Lawful) (named : PlaceName text name) : norm text (.str name) = name := by
  have lowered := named.2
  rw [WorldModel.norm, laws.str, (named.phrase laws).strip_eq laws, lowered]
  refine String.toList_inj.mp ?_
  rw [normalize_toList, (named.phrase laws).normal laws]

/-- Without an article at its beginning, a name is another key. -/
private theorem PlaceName.norm_rest (laws : text.Lawful) (named : PlaceName text name) {article : String}
    (listed : article ∈ ["the ", "a ", "an "]) {rest : List Char} (cut : name.toList = article.toList ++ rest) :
    norm text (.str (String.ofList rest)) ≠ name := by
  intro same
  have words : ∃ w, article.toList = w ++ [' '] ∧ w ≠ [] ∧ ∀ c ∈ w, c.isAlpha = true := by
    simp only [List.mem_cons, List.not_mem_nil, or_false] at listed
    rcases listed with rfl | rfl | rfl
    · exact ⟨['t', 'h', 'e'], rfl, by decide, by decide⟩
    · exact ⟨['a'], rfl, by decide, by decide⟩
    · exact ⟨['a', 'n'], rfl, by decide, by decide⟩
  obtain ⟨w, split, letters, alpha⟩ := words
  have visible : ∀ c ∈ w, text.isSpace c = false := fun c inside => laws.words c (laws.letters c (alpha c inside))
  have small : ∀ article ∈ ["the ", "a ", "an "], ∀ c ∈ article.toList, plain c = true := by decide
  have plainly := small article listed
  have article_name : name = article ++ String.ofList rest := by
    refine String.toList_inj.mp ?_
    rw [cut, String.toList_append, String.toList_ofList]
  have lowered : text.lower (String.ofList rest) = String.ofList rest := by
    have whole := named.2
    rw [article_name, laws.lower_phrase _ _ plainly (by rw [split, List.getLast?_concat])] at whole
    have tails := congrArg String.toList whole
    rw [String.toList_append, String.toList_append] at tails
    exact String.toList_inj.mp (List.append_cancel_left tails)
  have key : (norm text (.str (String.ofList rest))).toList = text.normalChars rest := by
    rw [WorldModel.norm, laws.str, laws.lower_strip, lowered, PyText.normalize, text.split_strip, ← PyText.normalize,
      normalize_toList, String.toList_ofList]
  have count := congrArg List.length (splitChars_blank laws.blank letters visible rest)
  have whole : w ++ ' ' :: rest = name.toList := by
    rw [cut, split, List.append_assoc]
    rfl
  rw [whole, ← same, key, splitChars_normalChars laws.blank, List.length_cons] at count
  omega

/-! What is said. -/

private theorem said_normal (laws : text.Lawful) (named : PlaceName text name) :
    normalized text ("go to the " ++ name) = "go to the " ++ name ∧
      text.strip ("go to the " ++ name) = "go to the " ++ name := by
  have phrase : Phrase text ("go to the " ++ name) := by
    obtain ⟨words, some_word, visible, joined⟩ := named.phrase laws
    obtain ⟨first, words, rfl⟩ := List.exists_cons_of_ne_nil some_word
    refine ⟨"go".toList :: "to".toList :: "the".toList :: first :: words, List.cons_ne_nil _ _, ?_, ?_⟩
    · intro w inside
      rcases List.mem_cons.mp inside with rfl | inside
      · exact ⟨by decide, fun c letter => laws.words c (laws.letters c (by revert c; decide))⟩
      rcases List.mem_cons.mp inside with rfl | inside
      · exact ⟨by decide, fun c letter => laws.words c (laws.letters c (by revert c; decide))⟩
      rcases List.mem_cons.mp inside with rfl | inside
      · exact ⟨by decide, fun c letter => laws.words c (laws.letters c (by revert c; decide))⟩
      exact visible w inside
    · rw [String.toList_append, joined, List.intercalate_cons_cons, List.intercalate_cons_cons,
        List.intercalate_cons_cons]
      rfl
  refine ⟨?_, phrase.strip_eq laws⟩
  rw [normalized, phrase.strip_eq laws, laws.lower_phrase _ _ (by decide) (by decide), named.2]
  refine String.toList_inj.mp ?_
  rw [normalize_toList, phrase.normal laws]

private theorem said_line (laws : text.Lawful) (named : PlaceName text name) : '\n' ∉ ("go to the " ++ name).toList := by
  rw [← (said_normal laws named).1]
  exact normalized_line laws _

private theorem said_remember (laws : text.Lawful) (name : String) :
    startIgnoringCase text rememberPattern ("go to the " ++ name) = none := by
  have apart : ∀ c ∈ ['p', 'r'], text.sameIgnoringCase c 'g' = false := by
    intro c inside
    rw [laws.same_letters c 'g' (by revert c; decide) rfl]
    revert c
    decide
  have begins : ("go to the " ++ name).toList.head? = some 'g' := by
    rw [String.toList_append]
    rfl
  have polite : run text.isWord text.sameIgnoringCase (literal "please ")
      { before := [], rest := ("go to the " ++ name).toList } = [] :=
    run_literal_apart rfl begins (apart 'p' (by decide))
  have verb : run text.isWord text.sameIgnoringCase (literal "remember ")
      { before := [], rest := ("go to the " ++ name).toList } = [] :=
    run_literal_apart rfl begins (apart 'r' (by decide))
  have none_ : run text.isWord text.sameIgnoringCase rememberPattern
      { before := [], rest := ("go to the " ++ name).toList } = [] := by
    refine List.eq_nil_iff_forall_not_mem.mpr fun d taken => ?_
    obtain ⟨mid, first, taken⟩ := mem_run_seq.mp taken
    obtain ⟨next, second, -⟩ := mem_run_seq.mp taken
    rcases mem_run_alt.mp first with asks | bare
    · rw [polite] at asks
      cases asks
    · obtain rfl := List.mem_singleton.mp bare
      rw [verb] at second
      cases second
  rw [startIgnoringCase, matchStart, none_]
  rfl

private theorem said_others (name : String) : start text forgetPattern ("go to the " ++ name) = none ∧
    start text inspectPattern ("go to the " ++ name) = none := by
  rw [start, start, matchStart, matchStart, String.toList_append]
  exact ⟨rfl, rfl⟩

private theorem said_navigate (laws : text.Lawful) (named : PlaceName text name) :
    start text navigatePattern ("go to the " ++ name) = some [name] := by
  have places : atStart text navigateOpening ("go to the ".toList ++ name.toList) =
      { before := " eht ot og".toList, rest := name.toList } ::
        { before := " ot og".toList, rest := "the ".toList ++ name.toList } ::
          [{ before := " og".toList, rest := "to the ".toList ++ name.toList }] := rfl
  obtain ⟨c, rest, letters⟩ := List.exists_cons_of_ne_nil ((named.phrase laws).ne_nil laws)
  rw [navigatePattern_eq, start_heard _ (said_line laws named), heard, String.toList_append, places,
    List.filter_cons_of_pos (by simp [Cursor.more, letters]), List.head?_cons, Option.map_some, Cursor.slots]
  simp [String.ofList_toList]

private theorem dropArticle_cases (lowered : text.lower name = name) (articles : List String) :
    ((∀ article ∈ articles, ¬ article.toList <+: name.toList) ∧ dropArticle text name articles = name) ∨
      ∃ article ∈ articles, ∃ rest, name.toList = article.toList ++ rest ∧
        dropArticle text name articles = String.ofList rest := by
  induction articles with
  | nil => exact .inl ⟨fun _ inside => (by cases inside), rfl⟩
  | cons article articles ih =>
    rw [dropArticle, lowered]
    split
    case isTrue begins =>
      obtain ⟨rest, cut⟩ := List.isPrefixOf_iff_prefix.mp begins
      refine .inr ⟨article, List.mem_cons_self, rest, cut.symm, ?_⟩
      rw [← cut, ← String.length_toList, List.drop_left]
    case isFalse other =>
      have other : ¬ article.toList <+: name.toList := fun begins => other (List.isPrefixOf_iff_prefix.mpr begins)
      rcases ih with ⟨none_, same⟩ | ⟨further, inside, rest, cut, same⟩
      · refine .inl ⟨fun a inside => ?_, same⟩
        rcases List.mem_cons.mp inside with rfl | inside
        · exact other
        · exact none_ a inside
      · exact .inr ⟨further, List.mem_cons_of_mem article inside, rest, cut, same⟩

/-- The destination has the key of the name exactly if the name has no article. -/
private theorem destination_iff (laws : text.Lawful) (named : PlaceName text name) :
    norm text (.str (clean text name)) = name ↔ articleless name := by
  obtain ⟨last, ends, word⟩ := named.last laws
  have mark : last ∉ closers := by
    intro inside
    have marks : ∀ c ∈ closers, c ∈ [' ', '.', '!', '?', ','] := by decide
    rw [laws.marks last (marks last inside)] at word
    cases word
  have cleaned : clean text name = dropArticle text name ["the ", "a ", "an "] := by
    have keep : name.toList.dropWhile text.isSpace = name.toList := by
      rcases letters : name.toList with _ | ⟨c, rest⟩
      · rfl
      · have visible := (named.phrase laws).first c (by rw [letters]; rfl)
        rw [List.dropWhile_cons_of_neg (by rw [visible]; exact Bool.false_ne_true)]
    have whole := clean_word ends (laws.words last word) mark
    rwa [keep, String.ofList_toList] at whole
  rw [cleaned]
  rcases dropArticle_cases named.2 ["the ", "a ", "an "] with ⟨none_, same⟩ | ⟨article, listed, rest, cut, same⟩
  · rw [same]
    exact iff_of_true (named.norm_eq laws) none_
  · rw [same]
    refine iff_of_false (named.norm_rest laws listed cut) fun none_ => none_ article listed ?_
    rw [cut]
    exact List.prefix_append _ _

private theorem hears_stairs {t : String} (climbs : hears text stairsPattern t = true) :
    mentions text ["walk", "climb"] t = true := by
  obtain ⟨c, place, d, taken⟩ := search_isSome.mp climbs
  obtain ⟨mid, first, -⟩ := mem_run_seq.mp taken
  exact search_isSome.mpr ⟨c, place, mid, first⟩

private theorem not_stairs (laws : text.Lawful) (climbs : hears text stairsPattern ("go to the " ++ name) = true)
    (same : norm text (.str "stairs") = name) : False := by
  have stairs : PlaceName text "stairs" := by
    refine ⟨⟨["stairs".toList], List.cons_ne_nil _ _, ?_, rfl⟩, laws.lower_plain _ (by decide)⟩
    intro w inside
    obtain rfl := List.mem_singleton.mp inside
    exact ⟨by decide, fun c letter => laws.letters c (by revert c; decide)⟩
  rw [stairs.norm_eq laws] at same
  subst same
  have calm : ∀ word ∈ ["walk", "climb"], containsText word ("go to the " ++ "stairs") = false := by decide +kernel
  obtain ⟨word, listed, within⟩ := mentions_infix (List.cons_ne_nil _ _) (hears_stairs climbs)
  rw [calm word listed] at within
  cases within

private def yard : WorldData := { defaultWorld with places := ("loading dock", ⟨8, 3, .str "room"⟩) :: defaultWorld.places }

private theorem placeName_loading_dock : PlaceName .ascii "loading dock" :=
  ⟨⟨["loading".toList, "dock".toList], List.cons_ne_nil _ _, by decide, rfl⟩, rfl⟩

end DroidOs.Language.PlaceNames
