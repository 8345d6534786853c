/- GID: DroidOs/Language/Users
   generality: I
   source: src/droidos/language/auth.py
   digest: The users that the document of `users.yaml` names, and who has which role. -/

import DroidOs.Core.Config
import DroidOs.Core.Keys
import DroidOs.Language.Intent

set_option autoImplicit false
set_option relaxedAutoImplicit false

namespace DroidOs.Language.Users

open DroidOs.Lib.LooseKeys
open DroidOs.Core.Values DroidOs.Core.Context DroidOs.Core.Keys
open DroidOs.Util.Characters (YamlText)
open DroidOs.Util.MiniYaml (parse)
open Intent

/-! The source's functions. -/

/-- `User`. -/
structure User where
  name : PyVal
  role : Role
  displayName : PyVal

abbrev Table := List (PyVal × User)

/-- `Role(value)`, or the role of a guest when there is no such role. -/
def roleOf : PyVal → Role
  | .str "operator" => .operator
  | .str "service_technician" => .serviceTechnician
  | .str "owner" => .owner
  | _ => .guest

/-- The user that an entry makes, and its name. -/
def entryUser (entry : PyVal) : Except Exn User := do
  let role ← entry.get "role" (.str "guest")
  match entry with
  | .dict items =>
    match PyVal.lookup "name" items with
    | none => .error ⟨.keyError, "'name'"⟩
    | some name =>
      let displayName ← entry.get "display_name" (.str "")
      if name.hashable then return { name := name, role := roleOf role, displayName := displayName }
      else .error ⟨.typeError, "unhashable type"⟩
  | _ => .error ⟨.attributeError, "object has no attribute 'get'"⟩

def addEntries : List PyVal → Table → Except Exn Table
  | [], table => .ok table
  | entry :: rest, table => do
    let user ← entryUser entry
    addEntries rest (put sameKey user.name user table)

/-- `data.get("users", []) if isinstance(data, dict) else []`, as something to iterate over. -/
def listing : PyVal → Except Exn (List PyVal)
  | .dict items => ((PyVal.lookup "users" items).getD (.list [])).toList
  | _ => .ok []

/-- The identity of a canonical role. -/
def canonical (role : Role) : User where
  name := .str role.value
  role := role
  displayName := .str (match role with
    | .guest => "Guest"
    | .operator => "Operator"
    | .serviceTechnician => "Service_Technician"
    | .owner => "Owner")

/-- `users.setdefault(role.value, ...)`. -/
def setDefault (table : Table) (role : Role) : Table :=
  if (find sameKey (.str role.value) table).isSome then table else table ++ [(.str role.value, canonical role)]

def roles : List Role := [.guest, .operator, .serviceTechnician, .owner]

/-- What `users.yaml` holds, if there is such a file. -/
def dataOf (text : YamlText) : Option (List Char) → Except Exn PyVal
  | none => .ok (.dict [])
  | some document => (Util.Parsed.load text document).map fun v => v.orElse (.dict [])

/-- `Authorizer._load`. -/
def load (text : YamlText) (file : Option (List Char)) : Except Exn Table := do
  let data ← dataOf text file
  let entries ← listing data
  let table ← addEntries entries []
  return roles.foldl setDefault table

/-- `Authorizer.resolve`, with the `default_user` of the configuration. -/
def resolve (table : Table) (default : PyVal) (name : Option String) : Except Exn User :=
  match (name.filter (· ≠ "")).bind fun n => find sameKey (.str n) table with
  | some user => .ok user
  | none =>
    if default.hashable then
      .ok ((find sameKey default table).getD { name := .str "operator", role := .operator, displayName := .str "" })
    else .error ⟨.typeError, "unhashable type"⟩

/-! What the entries say. -/

/-- The name of an entry. -/
def nameOf : PyVal → Option PyVal
  | .dict items => PyVal.lookup "name" items
  | _ => none

/-- The role that an entry gives. -/
def statedRole : PyVal → Role
  | .dict items => roleOf ((PyVal.lookup "role" items).getD (.str "guest"))
  | _ => .guest

/-- An entry that makes a user. -/
def Named (entry : PyVal) : Prop := ∃ name, nameOf entry = some name ∧ name.hashable = true

/-- The role under a key: that of the last entry with this name, else the canonical role of this name. -/
def roleFor (entries : List PyVal) (key : PyVal) : Option Role :=
  ((entries.reverse.find? fun e => (nameOf e).any fun name => sameKey name key).map statedRole).or
    (roles.find? fun role => sameKey (.str role.value) key)

theorem entryUser_spec {entry : PyVal} {user : User} (made : entryUser entry = .ok user) :
    nameOf entry = some user.name ∧ user.name.hashable = true ∧ user.role = statedRole entry := by
  cases entry with
  | dict items =>
    cases named : PyVal.lookup "name" items with
    | none => simp [entryUser, PyVal.get, named, bind, Except.bind] at made
    | some name =>
      simp only [entryUser, PyVal.get, named, bind, Except.bind] at made
      split_ifs at made with hashes
      cases made
      exact ⟨named, hashes, rfl⟩
  | _ => cases made

theorem entryUser_iff {entry : PyVal} : (∃ user, entryUser entry = .ok user) ↔ Named entry := by
  constructor
  · rintro ⟨user, made⟩
    obtain ⟨named, hashes, -⟩ := entryUser_spec made
    exact ⟨user.name, named, hashes⟩
  · rintro ⟨name, named, hashes⟩
    cases entry with
    | dict items =>
      change PyVal.lookup "name" items = some name at named
      simp only [entryUser, PyVal.get, named, bind, Except.bind, hashes, if_true]
      exact ⟨_, rfl⟩
    | _ => cases named

/-- The entries make a table unless one of them makes no user. -/
theorem addEntries_iff (entries : List PyVal) (table : Table) :
    (∃ table', addEntries entries table = .ok table') ↔ ∀ e ∈ entries, Named e := by
  induction entries generalizing table with
  | nil => exact ⟨fun _ e inside => absurd inside List.not_mem_nil, fun _ => ⟨table, rfl⟩⟩
  | cons entry rest ih =>
    rw [List.forall_mem_cons, ← entryUser_iff]
    rcases made : entryUser entry with e | user
    · constructor
      · rintro ⟨table', adds⟩
        rw [addEntries, made] at adds
        cases adds
      · rintro ⟨⟨user, found⟩, -⟩
        cases found
    · have step : addEntries (entry :: rest) table = addEntries rest (put sameKey user.name user table) := by
        rw [addEntries, made]
        rfl
      rw [step, ih]
      exact ⟨fun others => ⟨⟨user, rfl⟩, others⟩, fun both => both.2⟩

/-- The last entry of a name counts. -/
theorem find_addEntries {entries : List PyVal} {table table' : Table} (adds : addEntries entries table = .ok table')
    (key : PyVal) : (find sameKey key table').map User.role =
      ((entries.reverse.find? fun e => (nameOf e).any fun name => sameKey name key).map statedRole).or
        ((find sameKey key table).map User.role) := by
  induction entries generalizing table with
  | nil =>
    cases adds
    rfl
  | cons entry rest ih =>
    rcases made : entryUser entry with e | user
    · rw [addEntries, made] at adds
      cases adds
    · rw [addEntries, made] at adds
      obtain ⟨named, -, role⟩ := entryUser_spec made
      rw [ih adds, find_put sameKey_compares, List.reverse_cons, List.find?_append, List.find?_singleton, named]
      simp only [Option.any_some]
      by_cases here : sameKey user.name key = true
      · rw [if_pos here, if_pos here]
        generalize rest.reverse.find? (fun e => (nameOf e).any fun name => sameKey name key) = found
        cases found with
        | none => simp [role]
        | some e => rfl
      · rw [if_neg here, if_neg here, Option.or_none]

private theorem find_snoc (key name : PyVal) (user : User) (table : Table) :
    find sameKey key (table ++ [(name, user)]) =
      (find sameKey key table).or (if sameKey name key then some user else none) := by
  induction table with
  | nil =>
    rw [List.nil_append, find_cons]
    rfl
  | cons item table ih =>
    rw [List.cons_append, find_cons, find_cons, ih]
    split_ifs <;> rfl

private theorem find_setDefault (table : Table) (role : Role) (key : PyVal) :
    (find sameKey key (setDefault table role)).map User.role =
      ((find sameKey key table).map User.role).or (if sameKey (.str role.value) key then some role else none) := by
  unfold setDefault
  split_ifs with taken matches_key matches_key
  · have equal : find sameKey key table = find sameKey (.str role.value) table := by
      unfold find
      congr 2
      funext item
      rw [Bool.eq_iff_iff]
      exact ⟨fun first => sameKey_compares.trans _ _ _ first (sameKey_compares.symm _ _ matches_key),
        fun first => sameKey_compares.trans _ _ _ first matches_key⟩
    rw [equal]
    obtain ⟨user, found⟩ := Option.isSome_iff_exists.mp taken
    rw [found]
    rfl
  · rw [Option.or_none]
  · rw [find_snoc, if_pos matches_key]
    cases find sameKey key table <;> rfl
  · rw [find_snoc, if_neg matches_key, Option.or_none, Option.or_none]

private theorem find_setDefaults (rs : List Role) (table : Table) (key : PyVal) :
    (find sameKey key (rs.foldl setDefault table)).map User.role =
      ((find sameKey key table).map User.role).or (rs.find? fun role => sameKey (.str role.value) key) := by
  induction rs generalizing table with
  | nil => rw [List.foldl_nil, List.find?_nil, Option.or_none]
  | cons role rs ih =>
    rw [List.foldl_cons, ih, find_setDefault, Option.or_assoc, List.find?_cons]
    cases sameKey (.str role.value) key <;> rfl

/-! The roles. -/

private theorem load_parsed {text : YamlText} {document : List Char} {v : PyVal}
    (parses : parse text document = .ok v) : load text (some document) = (listing (v.orElse (.dict [])) >>=
      fun entries => addEntries entries [] >>= fun table => .ok (roles.foldl setDefault table)) := by
  have held : dataOf text (some document) = .ok (v.orElse (.dict [])) := by
    rw [dataOf, Util.Parsed.load, parses]
    rfl
  rw [load, held]
  rfl

theorem find_loaded {text : YamlText} {document : List Char} {v : PyVal} {entries : List PyVal} {table : Table}
    (parses : parse text document = .ok v) (lists : listing (v.orElse (.dict [])) = .ok entries)
    (loads : load text (some document) = .ok table) (key : PyVal) :
    (find sameKey key table).map User.role = roleFor entries key := by
  rw [load_parsed parses, lists] at loads
  change (addEntries entries [] >>= _) = _ at loads
  rcases adds : addEntries entries [] with e | listed
  · rw [adds] at loads
    cases loads
  · rw [adds] at loads
    cases loads
    have nobody : find sameKey key ([] : Table) = none := rfl
    rw [find_setDefaults, find_addEntries adds, nobody, Option.map_none, Option.or_none]
    rfl

theorem resolve_role {entries : List PyVal} {table : Table}
    (found : ∀ key, (find sameKey key table).map User.role = roleFor entries key) (default : PyVal)
    (name : Option String) : (resolve table default name).map User.role =
      ((name.filter (· ≠ "")).bind fun n => roleFor entries (.str n)).elim
        (if default.hashable then .ok ((roleFor entries default).getD .operator)
          else .error ⟨.typeError, "unhashable type"⟩) .ok := by
  have by_default : (if default.hashable then
      .ok ((find sameKey default table).getD { name := .str "operator", role := .operator, displayName := .str "" })
      else .error ⟨.typeError, "unhashable type"⟩ : Except Exn User).map User.role =
        if default.hashable then .ok ((roleFor entries default).getD .operator)
        else .error ⟨.typeError, "unhashable type"⟩ := by
    rw [← found default]
    split_ifs
    · cases find sameKey default table <;> rfl
    · rfl
  have known : ((name.filter (· ≠ "")).bind fun n => find sameKey (.str n) table).map User.role =
      (name.filter (· ≠ "")).bind fun n => roleFor entries (.str n) := by
    cases name.filter (· ≠ "") with
    | none => rfl
    | some n => exact found (.str n)
  unfold resolve
  rw [← known]
  cases (name.filter (· ≠ "")).bind fun n => find sameKey (.str n) table with
  | none => exact by_default
  | some user => rfl

/-- The user of an entry whose name is a text. -/
def textual (entry : PyVal) : Option (String × Intent.User) :=
  match nameOf entry with
  | some (.str n) => some (n, { name := n, role := statedRole entry })
  | _ => none

/-- The users as a table of roles by name, the last entry first. -/
def authorizer (entries : List PyVal) (default : String) : Authorizer where
  users := entries.reverse.filterMap textual
  defaultUser := default

private theorem textual_of_text {entry : PyVal} {m : String} (named : nameOf entry = some (.str m)) :
    textual entry = some (m, { name := m, role := statedRole entry }) := by
  rw [textual, named]

private theorem textual_of_other {entry : PyVal} (other : ∀ m, nameOf entry ≠ some (.str m)) :
    textual entry = none := by
  unfold textual
  split
  · rename_i m named
    exact absurd named (other m)
  · rfl

private theorem named_iff {entry : PyVal} {n : String} :
    ((nameOf entry).any fun name => sameKey name (.str n)) = true ↔ nameOf entry = some (.str n) := by
  rw [Option.any_eq_true]
  constructor
  · rintro ⟨name, named, same⟩
    rw [named, sameKey_text.mp same]
  · intro named
    exact ⟨.str n, named, sameKey_text.mpr rfl⟩

private theorem lookup_entries (entries : List PyVal) (n : String) :
    ((entries.filterMap textual).lookup n).map Intent.User.role =
      (entries.find? fun e => (nameOf e).any fun name => sameKey name (.str n)).map statedRole := by
  induction entries with
  | nil => rfl
  | cons entry rest ih =>
    rw [List.find?_cons]
    by_cases written : ∃ m, nameOf entry = some (.str m)
    · obtain ⟨m, named⟩ := written
      rw [List.filterMap_cons_some (textual_of_text named), List.lookup_cons]
      by_cases same : n = m
      · rw [same, beq_self_eq_true, named_iff.mpr named]
        rfl
      · have different : ((nameOf entry).any fun name => sameKey name (.str n)) = false := by
          rw [Bool.eq_false_iff]
          intro here
          rw [named_iff.mp here] at named
          exact same (PyVal.str.inj (Option.some.inj named))
        rw [beq_false_of_ne same, different]
        exact ih
    · have nobody : ((nameOf entry).any fun name => sameKey name (.str n)) = false :=
        Bool.eq_false_iff.mpr fun here => written ⟨n, named_iff.mp here⟩
      rw [List.filterMap_cons_none (textual_of_other fun m named => written ⟨m, named⟩), nobody]
      exact ih

private theorem lookup_canonical (rs : List Role) (n : String) :
    ((rs.map fun role => (role.value, ({ name := role.value, role := role } : Intent.User))).lookup n).map
      Intent.User.role = rs.find? fun role => sameKey (.str role.value) (.str n) := by
  induction rs with
  | nil => rfl
  | cons role rs ih =>
    rw [List.map_cons, List.lookup_cons, List.find?_cons]
    by_cases same : n = role.value
    · rw [same, beq_self_eq_true, sameKey_text.mpr rfl]
      rfl
    · rw [beq_false_of_ne same, Bool.eq_false_iff.mpr fun equal => same (PyVal.str.inj (sameKey_text.mp equal)).symm]
      exact ih

theorem lookup_authorizer (entries : List PyVal) (default n : String) :
    ((authorizer entries default).lookup n).map Intent.User.role = roleFor entries (.str n) := by
  rw [Authorizer.lookup, List.lookup_append, Option.map_or, roleFor]
  exact congrArg₂ Option.or (lookup_entries entries.reverse n) (lookup_canonical roles n)

theorem resolve_authorizer (entries : List PyVal) (default : String) (name : Option String) :
    ((authorizer entries default).resolve name).role =
      ((name.filter (· ≠ "")).bind fun n => roleFor entries (.str n)).elim
        ((roleFor entries (.str default)).getD .operator) id := by
  have by_default : (((authorizer entries default).lookup default).getD
      { name := "operator", role := .operator }).role = (roleFor entries (.str default)).getD .operator := by
    rw [← lookup_authorizer entries default default]
    cases (authorizer entries default).lookup default <;> rfl
  cases name with
  | none => exact by_default
  | some n =>
    by_cases empty : n = ""
    · rw [Authorizer.resolve, if_pos empty, empty]
      exact by_default
    · have asked : (some n).filter (· ≠ "") = some n := by
        rw [Option.filter_some, if_pos (decide_eq_true empty)]
      rw [Authorizer.resolve, if_neg empty, asked, Option.bind_some, ← lookup_authorizer entries default n]
      cases (authorizer entries default).lookup n with
      | none => exact by_default
      | some user => rfl

/-- For every text of `users.yaml`: it is loaded just when it can be parsed and each of its users is a mapping
with a name that can be a key. Then a name has the role that its last entry gives, where an unknown role is
that of a guest, else the role it is the name of itself; and who has none, or gives no name, has the role that
the name of the default user has, else that of an operator. So `Authorizer` has the same roles. -/
theorem users_law (text : YamlText) (document : List Char) :
    (∀ stop, parse text document = .error stop → load text (some document) = .error (Util.Parsed.Stop.exn stop)) ∧
    ∀ v, parse text document = .ok v →
      ((∃ table, load text (some document) = .ok table) ↔
        ∃ entries, listing (v.orElse (.dict [])) = .ok entries ∧ ∀ e ∈ entries, Named e) ∧
      ∀ entries table, listing (v.orElse (.dict [])) = .ok entries → load text (some document) = .ok table →
        (∀ default name, (resolve table default name).map User.role =
          ((name.filter (· ≠ "")).bind fun n => roleFor entries (.str n)).elim
            (if default.hashable then .ok ((roleFor entries default).getD .operator)
              else .error ⟨.typeError, "unhashable type"⟩) .ok) ∧
        ∀ default name, (resolve table (.str default) name).map User.role =
          .ok ((authorizer entries default).resolve name).role := by
  refine ⟨fun stop parses => ?_, fun v parses => ⟨?_, fun entries table lists loads => ?_⟩⟩
  · have held : dataOf text (some document) = .error (Util.Parsed.Stop.exn stop) := by
      rw [dataOf, Util.Parsed.load, parses]
      rfl
    rw [load, held]
    rfl
  · rw [load_parsed parses]
    constructor
    · rintro ⟨table, loads⟩
      rcases lists : listing (v.orElse (.dict [])) with e | entries
      · rw [lists] at loads
        cases loads
      · rw [lists] at loads
        refine ⟨entries, rfl, (addEntries_iff entries []).mp ?_⟩
        rcases adds : addEntries entries [] with e | listed
        · change (addEntries entries [] >>= _) = _ at loads
          rw [adds] at loads
          cases loads
        · exact ⟨listed, rfl⟩
    · rintro ⟨entries, lists, named⟩
      obtain ⟨listed, adds⟩ := (addEntries_iff entries []).mpr named
      refine ⟨roles.foldl setDefault listed, ?_⟩
      rw [lists]
      change (addEntries entries [] >>= _) = _
      rw [adds]
      rfl
  · have found := find_loaded parses lists loads
    refine ⟨resolve_role found, fun default name => ?_⟩
    have hashes : (PyVal.str default).hashable = true := rfl
    rw [resolve_role found, resolve_authorizer, if_pos hashes]
    cases (name.filter (· ≠ "")).bind fun n => roleFor entries (.str n) <;> rfl

end DroidOs.Language.Users
