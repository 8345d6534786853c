/- GID: DroidOs/Core/Config
   generality: I
   source: src/droidos/core/config.py
   digest: The configuration: the document of its file laid over the built-in settings. -/

import DroidOs.Core.Context
import DroidOs.Util.Parsed

set_option autoImplicit false
set_option relaxedAutoImplicit false

namespace DroidOs.Core.Config

open DroidOs.Lib
open DroidOs.Core.Values DroidOs.Core.Context
open DroidOs.Util.Characters (YamlText)
open DroidOs.Util.MiniYaml

/-! The source's functions. -/

/-- `DEFAULT_SYSTEM_CONFIG`. -/
def defaultSystemConfig : Items :=
  [(.str "identity", .dict [
      (.str "name", .str "IG-12"), (.str "model_family", .str "assassin_droid"),
      (.str "voice_profile", .str "mechanical_01"), (.str "personality_profile", .str "dry_literal"),
      (.str "verbosity", .str "concise"), (.str "wake_names", .list [.str "IG-12", .str "droid"])]),
    (.str "language", .dict [
      (.str "primary_provider", .str "offline"), (.str "fallback_provider", .str "offline"),
      (.str "providers", .dict [
        (.str "offline", .dict [(.str "type", .str "offline")]),
        (.str "local", .dict [
          (.str "type", .str "llama_cpp"), (.str "endpoint", .str "unix:///run/droidos/llm.sock"),
          (.str "model", .str "/var/lib/droidos/models/default.gguf")])])]),
    (.str "safety", .dict [
      (.str "battery_motion_minimum_percent", .float (.fin 20)), (.str "motor_warn_temp_c", .float (.fin 70)),
      (.str "motor_fault_temp_c", .float (.fin 85))]),
    (.str "default_user", .str "operator")]

/-- `d[key] = value`. Every key of a document is a text. -/
def assign (key value : PyVal) : Items → Items
  | [] => [(key, value)]
  | item :: rest =>
    if (match key with | .str name => item.1.isKey name | _ => false) then (item.1, value) :: rest
    else item :: assign key value rest

/-- `d.get(key)`. -/
def under (key : PyVal) (d : Items) : Option PyVal :=
  match key with
  | .str name => PyVal.lookup name d
  | _ => none

mutual

/-- The value that replaces the one that stood under its key. -/
def overlay (before : Option PyVal) : PyVal → PyVal
  | .dict override =>
    match before with
    | some (.dict base) => .dict (deepMerge base override)
    | _ => .dict override
  | .none => .none
  | .bool b => .bool b
  | .int n => .int n
  | .float x => .float x
  | .str s => .str s
  | .list items => .list items

/-- `_deep_merge`. -/
def deepMerge (out : Items) : Items → Items
  | [] => out
  | (key, value) :: rest => deepMerge (assign key (overlay (under key out) value) out) rest

end

/-- The settings, with what was loaded laid over them. -/
def settings : PyVal → Except Exn Items
  | .dict loaded => .ok (deepMerge defaultSystemConfig loaded)
  | _ => .error ⟨.configError, "droidos.yaml must be a mapping"⟩

/-- `Config.load`. `file` is the text of `droidos.yaml`, if there is one. -/
def load (text : YamlText) (file : Option (List Char)) : Except Exn Items :=
  match file with
  | none => .ok defaultSystemConfig
  | some document => do settings ((← Util.Parsed.load text document).orElse (.dict []))

/-- The value at the end of the keys. -/
def walk : PyVal → List String → Option PyVal
  | v, [] => some v
  | .dict items, key :: keys => (PyVal.lookup key items).bind fun v => walk v keys
  | _, _ :: _ => none

/-- `Config.get`. -/
def get (data : Items) (keys : List String) (default : PyVal) : PyVal := (walk (.dict data) keys).getD default

/-! What a document gives. -/

/-- Each dictionary that is reached through dictionaries has texts as its keys, each once. -/
inductive Keyed : PyVal → Prop
  | plain {v : PyVal} (other : ∀ items, v ≠ .dict items) : Keyed v
  | mapping {entries : Entries} (distinct : (entries.map Prod.fst).Nodup) (inner : ∀ e ∈ entries, Keyed e.2) :
      Keyed (mapping entries)

/-- A value that is no dictionary stands where the keys lead through. -/
def hides : PyVal → List String → Bool
  | _, [] => false
  | .dict items, key :: keys => (PyVal.lookup key items).any fun v => hides v keys
  | _, _ :: _ => true

variable {out : Items} {entries : Entries} {name : String}

theorem lookup_mapping (entries : Entries) (name : String) :
    PyVal.lookup name (entries.map fun e => (.str e.1, e.2)) = Dict.get name entries := by
  induction entries with
  | nil => rfl
  | cons e entries ih =>
    rw [Dict.get_cons, ← ih, List.map_cons]
    unfold PyVal.lookup
    rw [List.find?_cons]
    by_cases here : e.1 = name <;> simp [PyVal.isKey, here]

theorem lookup_assign (key : String) (value : PyVal) (d : Items) (name : String) :
    PyVal.lookup name (assign (.str key) value d) = if key = name then some value else PyVal.lookup name d := by
  induction d with
  | nil =>
    by_cases here : key = name <;> simp [assign, PyVal.lookup, PyVal.isKey, here]
  | cons item rest ih =>
    unfold assign
    dsimp only
    split_ifs with same here here
    · subst here
      simp [PyVal.lookup, same]
    · have other : item.1.isKey name = false := by
        cases held : item.1 with
        | str s =>
          rw [held] at same
          simp only [PyVal.isKey, decide_eq_true_eq] at same
          simp [PyVal.isKey, same, here]
        | _ => rfl
      simp [PyVal.lookup, other]
    · subst here
      rw [if_pos rfl] at ih
      simpa [PyVal.lookup, same] using ih
    · rw [if_neg here] at ih
      unfold PyVal.lookup at ih ⊢
      rw [List.find?_cons, List.find?_cons]
      cases item.1.isKey name with
      | true => rfl
      | false => exact ih

/-- Each key of the document has its own value laid over what stood there, and each other key keeps its value. -/
theorem lookup_deepMerge (distinct : (entries.map Prod.fst).Nodup) (out : Items) (name : String) :
    PyVal.lookup name (deepMerge out (entries.map fun e => (.str e.1, e.2))) =
      (Dict.get name entries).elim (PyVal.lookup name out) fun v => some (overlay (PyVal.lookup name out) v) := by
  induction entries generalizing out with
  | nil => rfl
  | cons e entries ih =>
    obtain ⟨absent, distinct⟩ := List.nodup_cons.mp distinct
    rw [List.map_cons, deepMerge, ih distinct, lookup_assign, Dict.get_cons]
    by_cases here : e.1 = name
    · subst here
      rw [Dict.get_of_absent absent, if_pos rfl, if_pos rfl]
      rfl
    · rw [if_neg here, if_neg here]

theorem overlay_none (v : PyVal) : overlay none v = v := by
  cases v <;> rfl

/-- A value read through both. -/
theorem walk_overlay {v : PyVal} (keyed : Keyed v) (before : PyVal) (keys : List String) :
    walk (overlay (some before) v) keys =
      (walk v keys).elim (if hides v keys then none else walk before keys)
        fun w => some (overlay (walk before keys) w) := by
  induction keys generalizing v before with
  | nil => rfl
  | cons key keys ih =>
    cases keyed with
    | plain other =>
      cases v with
      | dict items => exact absurd rfl (other items)
      | _ => rfl
    | @mapping entries distinct inner =>
      have alone (r : Option PyVal) (hidden : Bool) :
          r = r.elim (if hidden then none else none) fun w => some (overlay none w) := by
        cases r with
        | none => simp
        | some w => exact congrArg some (overlay_none w).symm
      unfold mapping
      cases before with
      | dict base =>
        rw [overlay, walk, lookup_deepMerge distinct]
        simp only [walk, hides, lookup_mapping]
        cases found : Dict.get key entries with
        | none => rfl
        | some v =>
          dsimp only [Option.bind, Option.any, Option.elim_some]
          cases stood : PyVal.lookup key base with
          | none =>
            rw [overlay_none]
            exact alone _ _
          | some b => exact ih (inner _ (Dict.mem_of_get found)) b
      | _ => exact alone _ _

/-! What the parser gives is keyed. -/

/-- Distinct keys, and keyed values. -/
structure Clean (entries : Entries) : Prop where
  distinct : (entries.map Prod.fst).Nodup
  inner : ∀ e ∈ entries, Keyed e.2

private theorem Clean.set (clean : Clean entries) (key : String) {value : PyVal} (keyed : Keyed value) :
    Clean (Dict.set key value entries) := by
  constructor
  · rw [Dict.keys_set]
    split_ifs with there
    · exact clean.distinct
    · exact List.nodup_append.mpr ⟨clean.distinct, List.nodup_singleton key, by
        intro a inside b last
        obtain rfl := List.mem_singleton.mp last
        rintro rfl
        exact there inside⟩
  · intro e inside
    rcases Dict.mem_of_set inside with rfl | old
    · exact keyed
    · exact clean.inner e old

private theorem keyed_empty : Keyed (.dict []) :=
  @Keyed.mapping [] List.nodup_nil fun _ inside => absurd inside List.not_mem_nil

variable {text : YamlText}

private theorem keyed_word {token : List Char} {v : PyVal} (found : word token = some v) : Keyed v := by
  unfold word at found
  split_ifs at found
  all_goals cases found
  · exact .plain fun items same => by cases same
  · exact .plain fun items same => by cases same
  · exact .plain fun items same => by cases same
  · exact .plain fun items same => by cases same
  · exact keyed_empty

private theorem keyed_scalar (token : List Char) : Keyed (scalar text token) := by
  unfold scalar scalarWithin
  dsimp only
  split
  · rename_i value found
    exact keyed_word found
  split_ifs
  · exact .plain fun items same => by cases same
  · exact .plain fun items same => by cases same
  · exact .plain fun items same => by cases same
  · split
    · exact .plain fun items same => by cases same
    · split
      · exact .plain fun items same => by cases same
      · exact .plain fun items same => by cases same

/-- What the parser gives within this fuel is keyed. -/
structure Gives (text : YamlText) (fuel : ℕ) : Prop where
  block : ∀ {lines rest : List Line} {indent : ℕ} {v : PyVal},
    parseBlock text fuel lines indent = .ok (v, rest) → Keyed v
  map : ∀ {lines rest : List Line} {indent : ℕ} {result entries : Entries},
    parseMap text fuel lines indent result = .ok (entries, rest) → Clean result → Clean entries

private theorem map_clean {fuel : ℕ} (smaller : Gives text fuel) {lines rest : List Line} {indent : ℕ}
    {result entries : Entries} (parses : parseMap text (fuel + 1) lines indent result = .ok (entries, rest))
    (clean : Clean result) : Clean entries := by
  cases lines with
  | nil =>
    rw [parseMap] at parses
    cases parses
    exact clean
  | cons line lines =>
    obtain ⟨current, content⟩ := line
    rw [parseMap] at parses
    split_ifs at parses
    · cases parses
      exact clean
    dsimp only at parses
    split at parses
    · exact smaller.map parses (clean.set _ (.plain fun items same => by cases same))
    split_ifs at parses
    · split at parses
      · split_ifs at parses
        · rcases inner : parseBlock text fuel lines _ with e | ⟨value, below⟩
          · rw [inner] at parses
            cases parses
          · rw [inner] at parses
            exact smaller.map parses (clean.set _ (smaller.block inner))
        · exact smaller.map parses (clean.set _ (.plain fun items same => by cases same))
      · exact smaller.map parses (clean.set _ (.plain fun items same => by cases same))
    · exact smaller.map parses (clean.set _ (keyed_scalar _))

private theorem gives (text : YamlText) (fuel : ℕ) : Gives text fuel := by
  induction fuel with
  | zero =>
    constructor
    · intro lines rest indent v parses
      rw [parseBlock] at parses
      cases parses
    · intro lines rest indent result entries parses
      rw [parseMap] at parses
      cases parses
  | succ fuel ih =>
    constructor
    · intro lines rest indent v parses
      rw [parseBlock] at parses
      split_ifs at parses
      · rcases inner : parseList text fuel lines indent [] with e | ⟨items, below⟩
        · rw [inner] at parses
          cases parses
        · rw [inner] at parses
          cases parses
          exact .plain fun items same => by cases same
      · rcases inner : parseMap text fuel lines indent [] with e | ⟨entries, below⟩
        · rw [inner] at parses
          cases parses
        · rw [inner] at parses
          cases parses
          have clean := ih.map inner ⟨List.nodup_nil, fun e inside => absurd inside List.not_mem_nil⟩
          exact .mapping clean.distinct clean.inner
    · exact map_clean ih

theorem parse_keyed {document : List Char} {v : PyVal} (parses : parse text document = .ok v) : Keyed v := by
  unfold parse at parses
  split at parses
  · cases parses
    exact .plain fun items same => by cases same
  · rename_i line lines _
    rcases inner : parseBlock text (3 * (line :: lines).length + 3) (line :: lines) line.1 with e | ⟨value, rest⟩
    · rw [inner] at parses
      cases parses
    · rw [inner] at parses
      cases rest with
      | nil =>
        cases parses
        exact (gives text _).block inner
      | cons line lines => cases parses

/-! The configuration. -/

/-- For every text of the file: either it is no document, or a document other than a mapping that is not
empty, and loading it raises; or every value is found where the document has it, else, unless the document
has something other than a mapping on the way there, where the built-in settings have it. -/
theorem configured (text : YamlText) (document : List Char) :
    (∀ stop, parse text document = .error stop → load text (some document) = .error (Util.Parsed.Stop.exn stop)) ∧
    ∀ v, parse text document = .ok v →
      (v.truthy = true → (∀ items, v ≠ .dict items) →
        load text (some document) = .error ⟨.configError, "droidos.yaml must be a mapping"⟩) ∧
      ((v.truthy = true → ∃ items, v = .dict items) → ∃ data, load text (some document) = .ok data ∧
        ∀ keys default, get data keys default =
          (walk (v.orElse (.dict [])) keys).elim
            (if hides (v.orElse (.dict [])) keys then default else get defaultSystemConfig keys default)
            (overlay (walk (.dict defaultSystemConfig) keys))) := by
  have loaded : load text (some document) =
      ((parse text document).mapError Util.Parsed.Stop.exn >>= fun v => settings (v.orElse (.dict []))) := rfl
  constructor
  · intro stop parses
    rw [loaded, parses]
    rfl
  intro v parses
  have given : load text (some document) = settings (v.orElse (.dict [])) := by
    rw [loaded, parses]
    rfl
  rw [given]
  constructor
  · intro holds other
    have kept : v.orElse (.dict []) = v := if_pos holds
    rw [kept]
    cases v with
    | dict items => exact absurd rfl (other items)
    | _ => rfl
  · intro shape
    have keyed : Keyed (v.orElse (.dict [])) := by
      unfold PyVal.orElse
      split_ifs
      · exact parse_keyed parses
      · exact keyed_empty
    obtain ⟨items, mapped⟩ : ∃ items, v.orElse (.dict []) = .dict items := by
      unfold PyVal.orElse
      split_ifs with holds
      · exact shape holds
      · exact ⟨[], rfl⟩
    rw [mapped] at keyed ⊢
    refine ⟨deepMerge defaultSystemConfig items, rfl, fun keys default => ?_⟩
    have both := walk_overlay keyed (.dict defaultSystemConfig) keys
    rw [overlay] at both
    unfold get
    rw [both]
    cases walk (.dict items) keys with
    | none =>
      dsimp only [Option.elim_none]
      split_ifs <;> rfl
    | some w => rfl

end DroidOs.Core.Config
