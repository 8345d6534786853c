/- GID: DroidOs/Body/SelectionFile
   generality: I
   source: src/droidos/body/loader.py, src/droidos/util/miniyaml.py
   digest: Documents, and with them the body selection, come back from the text they are written as. -/

import DroidOs.Body.Selection
import DroidOs.Util.RoundTrip

set_option autoImplicit false
set_option relaxedAutoImplicit false

namespace DroidOs.Body.SelectionFile

open DroidOs.Lib DroidOs.Lib.Procedure DroidOs.Core.Values DroidOs.Body.Selection
  DroidOs.Util.Characters DroidOs.Util.MiniYaml DroidOs.Util.Legible DroidOs.Util.RoundTrip

variable (text : YamlText) (manager : BodyManager)

/-- What `selection` makes of a parsed selection file. -/
def fromDocument : PyVal → Option Selection
  | .dict entries => some (named entries)
  | _ => none

/-- `selection`, from the text of the selection file. -/
def selectionAt : Option (List Char) → Except Stop Selection
  | none => .ok (manager.selection none)
  | some file => do
    let document ← parse text file
    return manager.selection (fromDocument document)

/-- The text `set_active` writes to the selection file. -/
def fileText (selected : Selection) : List Char := dump text 0 (mapping selected)

variable {text manager}

private theorem selection_extends (file : Option Selection) :
    Dict.Extends defaultSelection (manager.selection file) := by
  have base : Dict.Extends defaultSelection defaultSelection := ⟨List.prefix_rfl, by decide⟩
  unfold BodyManager.selection
  split
  next data _ => exact base.update data
  next => exact base

/-- What `set_active` returns: the selection before, with the body that is installed. -/
private theorem setActive_ok {bodyId backend : PyVal} {file after : Option Selection} {selected : Selection}
    (returns : manager.setActive text.toPyText bodyId backend file = (.ok selected, after)) :
    (∃ name ∈ manager.available, bodyId.isKey name = true) ∧
      selected = if backend.truthy
        then Dict.set "backend" backend (Dict.set "body_id" bodyId (manager.selection file))
        else Dict.set "body_id" bodyId (manager.selection file) := by
  by_cases installed : (manager.available.any fun name => bodyId.isKey name) = true
  · have listed := List.any_eq_true.mp installed
    refine ⟨listed, ?_⟩
    simp only [BodyManager.setActive, installed, Bool.not_true, Bool.false_eq_true, if_false] at returns
    by_cases refused : (backend.truthy && !(backend.isKey "simulation" || backend.isKey "physical")) = true
    · rw [bind_run, reads_run] at returns
      simp only [if_pos refused] at returns
      simp [bind_run] at returns
    · rw [bind_run, reads_run] at returns
      simp only [if_neg refused] at returns
      rw [bind_run, ofExcept_run] at returns
      split at returns
      next => exact (Except.ok.inj (congrArg Prod.fst returns)).symm
      next => cases congrArg Prod.fst returns
  · simp [BodyManager.setActive, bind_run, installed] at returns

private theorem selected_extends {bodyId backend : PyVal} {file after : Option Selection}
    {selected : Selection}
    (returns : manager.setActive text.toPyText bodyId backend file = (.ok selected, after)) :
    Dict.Extends defaultSelection selected := by
  have base : Dict.Extends defaultSelection (manager.selection file) := selection_extends file
  have body := base.set "body_id" bodyId
  rw [(setActive_ok returns).2]
  split
  · exact body.set "backend" backend
  · exact body

private theorem selected_names {bodyId backend : PyVal} {file after : Option Selection}
    {selected : Selection} (named : "" ∉ manager.available)
    (returns : manager.setActive text.toPyText bodyId backend file = (.ok selected, after)) :
    BodyManager.names selected = true := by
  obtain ⟨⟨name, listed, key⟩, result⟩ := setActive_ok returns
  have body : Dict.get "body_id" selected = some bodyId := by
    rw [result]
    split
    · rw [Dict.get_set_of_ne _ _ (by decide), Dict.get_set_self]
    · exact Dict.get_set_self _ _ _
  rw [BodyManager.names, body, Option.getD_some]
  cases bodyId with
  | str s =>
    have same : s = name := by simpa [PyVal.isKey] using key
    have some_name : s ≠ "" := fun empty => named (empty ▸ same ▸ listed)
    simpa [PyVal.truthy] using some_name
  | _ => simp [PyVal.isKey] at key

private theorem named_mapping (selected : Selection) :
    named (selected.map fun e => (PyVal.str e.1, e.2)) = selected := by
  rw [named, List.map_map]
  conv => rhs; rw [← List.map_id selected]
  rfl

private theorem selectionAt_fileText (ascii : AsciiDigits text.decimal) {selected : Selection}
    (extends_default : Dict.Extends defaultSelection selected)
    (names_body : BodyManager.names selected = true)
    (sound : built (mapping selected) = true) (readable : legible text (mapping selected) = true) :
    selectionAt text manager (some (fileText text selected)) = .ok selected := by
  have block : nested (mapping selected) = true := by
    cases selected with
    | nil => cases names_body
    | cons e selected => rfl
  have parsed := parse_dump_of_legible ascii block sound readable
  have merged : manager.selection (some selected) = selected := by
    have first : ([some selected, manager.shipped].filterMap id).find? BodyManager.names = some selected := by
      simp [names_body]
    rw [BodyManager.selection, first]
    exact extends_default.update_self
  rw [selectionAt, fileText]
  simp only [parsed]
  show Except.ok (manager.selection (some (named _))) = _
  rw [named_mapping, merged]

/-- A legible document comes back from its text. So does a legible selection that `set_active`
has written, at the next boot. -/
theorem round_trip (ascii : AsciiDigits text.decimal) :
    (∀ v, nested v = true → built v = true → legible text v = true → parse text (dump text 0 v) = .ok v) ∧
      ∀ (manager : BodyManager) (bodyId backend : PyVal) (file after : Option Selection)
        (selected : Selection), "" ∉ manager.available →
        manager.setActive text.toPyText bodyId backend file = (.ok selected, after) →
        built (mapping selected) = true → legible text (mapping selected) = true →
        selectionAt text manager (some (fileText text selected)) = .ok selected := by
  constructor
  · intro v block sound readable
    exact parse_dump_of_legible ascii block sound readable
  · intro manager bodyId backend file after selected named returns sound readable
    exact selectionAt_fileText ascii (selected_extends returns) (selected_names named returns) sound readable

/-- A body directory that is named by a number is selected, and read back as the number. -/
private def numbered : Selection := Dict.set "body_id" (.str "007") defaultSelection

private def numberedManager : BodyManager where
  available := ["007"]
  load := fun _ _ => .ok ()

/-- A fleet's document with a list of mappings and quoted texts. -/
private def fleet : PyVal :=
  .dict [(.str "site", .str "dock: 3"),
    (.str "bodies", .list [.dict [(.str "id", .str "ig-mk1"), (.str "spare", .bool false)],
      .dict [(.str "id", .str "ig mk2"), (.str "ports", .list [.int 4, .int (-1), .none])]]),
    (.str "notes", .dict [])]

private def installed : Selection := Dict.set "body_id" (.str "ig-mk2") defaultSelection

private def installedManager : BodyManager where
  available := ["ig-mk1", "ig-mk2"]
  load := fun _ _ => .ok ()

theorem round_trip_fleet :
    parse YamlText.ascii (dump YamlText.ascii 0 fleet) = .ok fleet ∧
      selectionAt YamlText.ascii installedManager (some (fileText YamlText.ascii installed)) =
        .ok installed :=
  ⟨(round_trip asciiDigits_ascii).1 fleet rfl (by decide +kernel) (by decide +kernel),
    (round_trip asciiDigits_ascii).2 installedManager (.str "ig-mk2") .none none _ installed
      (by decide) rfl (by decide +kernel) (by decide +kernel)⟩

/-- The body selected under the name 007 is body 7 at the next boot. -/
theorem numbered_body_misread :
    numberedManager.setActive YamlText.ascii.toPyText (.str "007") .none none =
        (.ok numbered, some numbered) ∧
      built (mapping numbered) = true ∧
      selectionAt YamlText.ascii numberedManager (some (fileText YamlText.ascii numbered)) ≠
        .ok numbered := by
  refine ⟨rfl, by decide +kernel, fun same => ?_⟩
  have read := congrArg (fun outcome : Except Stop Selection => match outcome with
    | .ok selected => ((Dict.get "body_id" selected).getD .none).isKey "007"
    | .error _ => true) same
  revert read
  decide +kernel

end DroidOs.Body.SelectionFile
