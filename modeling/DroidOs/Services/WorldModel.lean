/- GID: DroidOs/Services/WorldModel
   generality: I
   source: src/droidos/services/world_model.py, src/droidos/services/navigation.py
   digest: Named places, restricted areas and observations, and what navigation makes of them. -/

import DroidOs.Body.Package
import DroidOs.Lib.Dict
import DroidOs.Services.Memory

set_option autoImplicit false
set_option relaxedAutoImplicit false

namespace DroidOs.Services.WorldModel

open DroidOs.Lib DroidOs.Lib.Procedure
open DroidOs.Core.Values
open DroidOs.Body.Package
open Memory (StateFile)

/-- A place as its writer described it; the kind may be any JSON value. -/
structure Place where
  x : PyFloat
  y : PyFloat
  kind : PyVal

structure Sighting where
  x : PyFloat
  y : PyFloat
  confidence : PyFloat

/-- `data`, without time stamps. -/
structure WorldData where
  places : List (String × Place)
  restricted : List String := []
  obstacles : List (PyFloat × PyFloat) := []
  lastSeen : List (String × Sighting) := []

/-- `DEFAULT_WORLD`. -/
def defaultWorld : WorldData where
  places := [("charging station", ⟨0, 0, .str "charge"⟩), ("hallway", ⟨2, 0, .str "passage"⟩),
    ("workshop", ⟨4, 1, .str "room"⟩), ("stairs", ⟨3, -2, .str "stairs"⟩)]

/-- `data` of one process, and world_model.json. -/
structure WorldStore where
  data : WorldData := defaultWorld
  file : StateFile WorldData := .missing

variable (text : PyText)

/-- `_on_configure`. A file that is no text makes it raise. -/
def configure : Proc WorldStore Exn Unit := do
  match ← reads WorldStore.file with
  | .missing | .broken => pure ()
  | .undecodable => raise ⟨.other "UnicodeDecodeError", "'utf-8' codec can't decode byte"⟩
  | .document data => modify fun s => { s with data := data }

/-- Change the data and write it to the file. -/
def rewrite (f : WorldData → WorldData) : Proc WorldStore Exn Unit :=
  modify fun s => { data := f s.data, file := .document (f s.data) }

/-- `_norm`. -/
def norm (name : PyVal) : String := text.normalize (text.lower (text.strip (text.str name)))

/-! Places. -/

/-- `sorted(places.keys())`. -/
def WorldData.placeNames (w : WorldData) : List String :=
  (w.places.map Prod.fst).mergeSort fun a b => decide (a ≤ b)

/-- `get_place`. -/
def WorldData.getPlace (w : WorldData) (name : PyVal) : Option Place := Dict.get (norm text name) w.places

/-- `add_place`, for coordinates that are numbers. -/
def addPlace (name : PyVal) (x y : PyFloat) (kind : PyVal) : Proc WorldStore Exn Unit :=
  rewrite fun w => { w with places := Dict.set (norm text name) ⟨x, y, kind⟩ w.places }

/-- `remove_place`. -/
def removePlace (name : PyVal) : Proc WorldStore Exn Bool := do
  if ← reads fun s => (s.data.getPlace text name).isSome then
    rewrite fun w => { w with places := Dict.erase (norm text name) w.places }
    return true
  else return false

/-- `is_restricted`. -/
def WorldData.isRestricted (w : WorldData) (name : PyVal) : Bool :=
  decide (norm text name ∈ w.restricted.map fun r => norm text (.str r))

/-- `add_restricted`. -/
def addRestricted (name : PyVal) : Proc WorldStore Exn Unit :=
  rewrite fun w => { w with restricted := w.restricted ++ [norm text name] }

/-! Observations. -/

/-- `note_object`. -/
def noteObject (label : String) (x y confidence : PyFloat) : Proc WorldStore Exn Unit :=
  rewrite fun w => { w with lastSeen := Dict.set label ⟨x, y, confidence⟩ w.lastSeen }

/-- `set_obstacle`. -/
def setObstacle (x y : PyFloat) : Proc WorldStore Exn Unit :=
  rewrite fun w => { w with obstacles := w.obstacles ++ [(x, y)] }

/-- `clear_obstacles`. -/
def clearObstacles : Proc WorldStore Exn Unit := rewrite fun w => { w with obstacles := [] }

/-! Navigation. -/

/-- `Navigation.resolve`. -/
def WorldData.resolve (w : WorldData) (name : PyVal) : Option Pose :=
  (w.getPlace text name).map fun place => { x := place.x, y := place.y }

/-- `Navigation.traversable`: reachability for this body. -/
def WorldData.traversable (body : LoadedBody) (w : WorldData) (name : PyVal) :
    Except Exn (Bool × String) := do
  if !(← body.capabilities.supportsMotion) then return (false, "this body cannot move")
  if w.isRestricted text name then return (false, text.str name ++ " is a restricted area")
  match w.getPlace text name with
  | none => return (false, text.repr name ++ " is not a known destination")
  | some place =>
    if place.kind.isKey "stairs" then
      if !(← body.capabilities.can "stairs") then return (false, "this body cannot traverse stairs")
    return (true, "reachable")

/-! What an operation leaves. -/

variable {text}

theorem rewrite_run (f : WorldData → WorldData) (w : WorldStore) :
    (rewrite f w).2 = { data := f w.data, file := .document (f w.data) } := rfl

theorem removePlace_known {name : PyVal} {w : WorldStore}
    (known : (w.data.getPlace text name).isSome = true) :
    (removePlace text name w).2 =
      (rewrite (fun w => { w with places := Dict.erase (norm text name) w.places }) w).2 := by
  unfold removePlace
  rw [reads_bind, known]
  rfl

theorem removePlace_unknown {name : PyVal} {w : WorldStore}
    (unknown : (w.data.getPlace text name).isSome = false) : (removePlace text name w).2 = w := by
  unfold removePlace
  rw [reads_bind, unknown]
  rfl

/-! What can be reached. -/

/-- A place that the body can be sent to: it is known and not restricted, and stairs are
for a body that can climb them. -/
structure Reachable (text : PyText) (body : LoadedBody) (w : WorldData) (name : PyVal) (place : Place) : Prop where
  known : w.getPlace text name = some place
  unrestricted : w.isRestricted text name = false
  climbs : place.kind.isKey "stairs" = true → body.capabilities.can "stairs" = .ok true

theorem traversable_reachable {body : LoadedBody} {w : WorldData} {name : PyVal} {why : String}
    (traversable : w.traversable text body name = .ok (true, why)) :
    body.capabilities.supportsMotion = .ok true ∧ ∃ place, Reachable text body w name place := by
  unfold WorldData.traversable at traversable
  rcases moves : body.capabilities.supportsMotion with e | able <;> rw [moves] at traversable
  · cases traversable
  cases able with
  | false => cases traversable
  | true =>
    refine ⟨rfl, ?_⟩
    simp only [bind, Except.bind, pure, Except.pure, Bool.not_true, Bool.false_eq_true, if_false] at traversable
    cases restricted : w.isRestricted text name with
    | true => simp [restricted] at traversable
    | false =>
      simp only [restricted, Bool.false_eq_true, if_false] at traversable
      cases known : w.getPlace text name with
      | none => simp [known] at traversable
      | some place =>
        refine ⟨place, known, restricted, fun stairs => ?_⟩
        simp only [known, stairs, if_true] at traversable
        rcases climbs : body.capabilities.can "stairs" with e | able <;> rw [climbs] at traversable
        · cases traversable
        · cases able with
          | false => cases traversable
          | true => rfl

end DroidOs.Services.WorldModel
