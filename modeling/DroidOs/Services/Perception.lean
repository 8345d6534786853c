/- GID: DroidOs/Services/Perception
   generality: I
   source: src/droidos/services/perception.py, src/droidos/backends/simulation.py
   digest: The simulated scene, its description and the inspection of a target. -/

import DroidOs.Backends.Simulation

set_option autoImplicit false
set_option relaxedAutoImplicit false

namespace DroidOs.Services.Perception

open DroidOs.Core.Values DroidOs.Core.Context
open DroidOs.Body.Package DroidOs.Backends.Simulation

structure SceneObject where
  label : String
  distanceM : PyFloat
  indicators : Option Items := none
  openCabinetDoor : Option Bool := none

def SceneObject.items (o : SceneObject) : Items :=
  [(.str "label", .str o.label), (.str "distance_m", .float o.distanceM)] ++
  (o.indicators.map fun i => (PyVal.str "indicators", PyVal.dict i)).toList ++
  (o.openCabinetDoor.map fun d => (PyVal.str "open_cabinet_door", PyVal.bool d)).toList

structure Scene where
  cameraOk : Bool
  objects : List SceneObject := []
  people : List PyFloat := []
  confidence : PyFloat := 0

/-- `describe_scene` of the simulated body. -/
def describeScene (b : SimulationBackend) : Scene :=
  if b.droppedOut "camera/front" then { cameraOk := false }
  else {
    cameraOk := true
    objects := [{ label := "workbench", distanceM := .fin (12 / 10) },
      { label := "two monitors", distanceM := .fin (15 / 10) },
      { label := "closed door", distanceM := .fin (41 / 10) },
      { label := "server rack", distanceM := .fin (24 / 10),
        indicators := some [(.str "green", .int 8), (.str "amber", .int 1), (.str "red", .int 0)],
        openCabinetDoor := some true }]
    people := [3]
    confidence := .fin (87 / 100) }

variable (text : PyText) (body : LoadedBody)

/-- `has_camera`. -/
def hasCamera : Except Exn Bool := body.capabilities.hasPerception "front_camera"

private def personItems (distance : PyFloat) : PyVal := .dict [(.str "distance_m", .float distance)]

/-- What is said about the people in view. -/
def peopleSummary (people : List PyFloat) : String :=
  match people with
  | [] => ""
  | first :: rest => "; " ++ toString people.length ++ " person(s), nearest ~" ++
      text.fixed 1 (rest.foldl PyFloat.min first) ++ " m"

/-- `describe`. -/
def describe (b : SimulationBackend) : Except Exn Items := do
  if !(← hasCamera body) then
    return [(.str "camera_ok", .bool false), (.str "summary", .str "this body has no camera"),
      (.str "objects", .list [])]
  let scene := describeScene b
  if !scene.cameraOk then
    return [(.str "camera_ok", .bool false), (.str "summary", .str "front camera is not responding"),
      (.str "objects", .list []), (.str "confidence", .float 0)]
  let summary := if scene.objects.isEmpty then "nothing identifiable"
    else ", ".intercalate (scene.objects.map SceneObject.label)
  return [(.str "camera_ok", .bool true),
    (.str "summary", .str (summary ++ peopleSummary text scene.people)),
    (.str "objects", .list (scene.objects.map fun o => .dict o.items)),
    (.str "people", .list (scene.people.map personItems)),
    (.str "confidence", .float scene.confidence)]

/-- `target.lower()`. -/
private def lowered (target : PyVal) : Except Exn String :=
  match target with
  | .str s => .ok (text.lower s)
  | _ => .error ⟨.attributeError, "object has no attribute 'lower'"⟩

/-- `inspect`. -/
def inspect (b : SimulationBackend) (target : PyVal) : Except Exn Items := do
  if !(← hasCamera body) then
    .error ⟨.droidError, "this body has no camera; cannot inspect a visual target"⟩
  let scene := describeScene b
  if !scene.cameraOk then
    .error ⟨.droidError, "front camera is not responding; cannot verify the target"⟩
  let wanted ← lowered text target
  match scene.objects.find? fun o => containsText wanted (text.lower o.label) with
  | none => return [(.str "found", .bool false), (.str "target", target),
      (.str "confidence", .float scene.confidence),
      (.str "note", .str (text.repr target ++ " not currently in view"))]
  | some o => return [(.str "found", .bool true), (.str "target", .str o.label),
      (.str "distance_m", .float o.distanceM), (.str "confidence", .float scene.confidence)] ++
      o.items.filter fun item => item.1.isKey "indicators" || item.1.isKey "open_cabinet_door"

end DroidOs.Services.Perception
