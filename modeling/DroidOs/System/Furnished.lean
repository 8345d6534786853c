/- GID: DroidOs/System/Furnished
   generality: I
   source: src/droidos/system.py, src/droidos/services/navigation.py
   digest: The simulated system with the stores of its memory, world model and update services. -/

import DroidOs.Executive.Tools
import DroidOs.System.Boot
import DroidOs.System.Simulated

set_option autoImplicit false
set_option relaxedAutoImplicit false

namespace DroidOs.System.Furnished

open DroidOs.Lib.Procedure
open DroidOs.Core.Values DroidOs.Core.Context
open DroidOs.Backends.Simulation DroidOs.Gait.Policy
open DroidOs.Executive.Tools
open DroidOs.Services DroidOs.Services.Supervisor
open Boot Simulated TaskLaw

/-- What a droid is built from beside the equipment of its handlers. -/
structure Site where
  math : Libm
  droidName : String
  gaitFiles : String → Option PolicyFile
  equipment : Equipment

/-- `_on_configure` of the services that keep a store. -/
def configureStore (name : String) : Proc Stores Exn Unit :=
  if name = "world_model" then onWorld WorldModel.configure
  else if name = "memory" then onMemory Memory.configure
  else if name = "update" then onUpdate (modify Update.UpdateStore.load)
  else pure ()

/-- The world model answers what navigation asks it, and the log keeps every record. -/
def furnished (s : Site) : Surroundings Stores where
  text := s.equipment.text
  math := s.math
  droidName := s.droidName
  body := s.equipment.body
  gaitFiles := s.gaitFiles
  resolve := fun dest => reads fun st => st.world.data.resolve s.equipment.text dest
  knownPlaces := reads fun st => st.world.data.placeNames
  traversable := fun dest st =>
    (st.world.data.traversable s.equipment.text s.equipment.body dest, st)
  setObstacle := fun x y => onWorld (WorldModel.setObstacle x y)
  inspect := fun b target =>
    ofExcept (Perception.inspect s.equipment.text s.equipment.body b target)
  tool := fun b name arguments => tool s.equipment b name arguments
  configure := configureStore
  emit := fun r st => { st with audit := st.audit ++ [r] }
  publish := fun _ st => st

variable {s : Site} {α : Type}

/-- What only reads leaves the world as it is. -/
theorem reading_same {p : Proc (SimWorld Stores) Exn α} (call : ReadCall (simulated (furnished s)) p)
    (w : SimWorld Stores) : (p w).2 = w := by
  cases call with
  | battery => rfl
  | readAllActuators => rfl
  | readSensor id => rfl
  | busOnline online =>
    simp only [simulated] at online
    split at online
    · cases online
    · cases online
      rfl
  | resolve dest => rfl
  | knownPlaces => rfl
  | traversable dest => rfl

theorem seen_reads (w : SimWorld Stores) : Reads (simulated (furnished s)) fun rt => rt.env = w where
  reading call := keeps_iff.mpr fun rt holds => by
    rw [outside_run, reading_same call]
    exact holds
  status := keeps_iff.mpr fun _ holds => holds
  heartbeat := keeps_iff.mpr fun _ holds => holds

/-- What the stores hold, but for the log. -/
structure SameStores (st st' : Stores) : Prop where
  memory : st'.memory = st.memory
  world : st'.world = st.world
  update : st'.update = st.update
  selection : st'.selection = st.selection

theorem SameStores.rfl {st : Stores} : SameStores st st :=
  ⟨by rfl, by rfl, by rfl, by rfl⟩

/-! A wheeled droid that knows the places it is shipped with. -/

def wheeledSite : Site where
  math := straightAhead
  droidName := "R2"
  gaitFiles := fun _ => none
  equipment :=
    { text := .ascii
      body := wheeled
      manager := { available := ["r2-mk1"], load := fun _ _ => .ok () }
      bundles := fun _ => .unreadable "no such file"
      digest := fun _ => ""
      diagnose := fun _ _ => .ok [] }

/-- It has been booted and has nothing to do. -/
def parked : Brain (SimWorld Stores) :=
  booted (simulated (furnished wheeledSite))
    (newRuntime 0 .missing { backend := SimulationBackend.new wheeled, store := {} })

end DroidOs.System.Furnished
