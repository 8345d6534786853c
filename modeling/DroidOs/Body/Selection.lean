/- GID: DroidOs/Body/Selection
   generality: I
   source: src/droidos/body/loader.py
   digest: The persisted selection of a body package. -/

import DroidOs.Core.Values
import DroidOs.Lib.Dict

set_option autoImplicit false
set_option relaxedAutoImplicit false

namespace DroidOs.Body.Selection

open DroidOs.Lib DroidOs.Lib.Procedure
open DroidOs.Core.Values

/-- A mapping with text keys, as a selection file holds it. -/
abbrev Selection := List (String × PyVal)

/-- `DEFAULT_BODY_SELECTION`. -/
def defaultSelection : Selection :=
  [("body_id", .str "ig-mk1"), ("backend", .str "simulation"), ("simulation_engine", .str "mujoco"),
    ("hardware_profile", .str "canfd-v1")]

/-- The bodies directory and the selection file that is shipped with it. `load` is
`BodyManager.load` as far as it can fail. -/
structure BodyManager where
  available : List String
  load : PyVal → PyVal → Except Exn Unit
  shipped : Option Selection := none

namespace BodyManager

variable (text : PyText) (manager : BodyManager)

/-- `data.get("body_id")` is given. -/
def names (data : Selection) : Bool := ((Dict.get "body_id" data).getD .none).truthy

/-- `selection`: the first file that names a body, over the defaults. -/
def selection (file : Option Selection) : Selection :=
  match ([file, manager.shipped].filterMap id).find? names with
  | some data => data.foldl (fun merged item => Dict.set item.1 item.2 merged) defaultSelection
  | none => defaultSelection

def unknownBody (bodyId : PyVal) : Exn :=
  let names := if manager.available.isEmpty then "none" else ", ".intercalate manager.available
  ⟨.bodyError, "unknown body " ++ text.repr bodyId ++ "; available: " ++ names⟩

/-- `set_active`, on the contents of the selection file. -/
def setActive (bodyId backend : PyVal) : Proc (Option Selection) Exn Selection := do
  if !manager.available.any fun name => bodyId.isKey name then raise (manager.unknownBody text bodyId)
  let selected ← reads manager.selection
  let selected := Dict.set "body_id" bodyId selected
  if backend.truthy && !(backend.isKey "simulation" || backend.isKey "physical") then
    raise ⟨.bodyError, "backend must be 'simulation' or 'physical', got " ++ text.repr backend⟩
  let selected := if backend.truthy then Dict.set "backend" backend selected else selected
  ofExcept (manager.load bodyId ((Dict.get "backend" selected).getD .none))
  modify fun _ => some selected
  return selected

end BodyManager

end DroidOs.Body.Selection
