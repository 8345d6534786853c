/- GID: DroidOs/System/SharedFiles
   generality: I
   source: src/droidos/services/memory.py, src/droidos/services/world_model.py
   digest: What several processes that share memory.json and world_model.json keep of each other's updates. -/

import DroidOs.Lib.History
import DroidOs.Services.WorldModel

set_option autoImplicit false
set_option relaxedAutoImplicit false

namespace DroidOs.System.SharedFiles

open DroidOs.Lib DroidOs.Lib.Procedure DroidOs.Lib.History
open DroidOs.Core.Values
open DroidOs.Services DroidOs.Services.Memory DroidOs.Services.WorldModel

/-! A state directory and its processes. -/

/-- What one process holds of the two files. -/
structure Process where
  entries : List Entry := []
  data : WorldData := defaultWorld

structure Directory where
  memoryFile : StateFile (List Entry) := .missing
  worldFile : StateFile WorldData := .missing
  processes : List Process := []

/-- What a fresh boot loads. -/
def Directory.booted (d : Directory) : Process where
  entries := d.memoryFile.loaded []
  data := d.worldFile.loaded defaultWorld

/-- The operations that change one of the two files. -/
inductive Update
  | remember (said : PyVal) (category : String) (info : PyVal)
  | forget (query : PyVal)
  | addPlace (name : PyVal) (x y : PyFloat) (kind : PyVal)
  | removePlace (name : PyVal)
  | addRestricted (name : PyVal)
  | noteObject (label : String) (x y confidence : PyFloat)
  | setObstacle (x y : PyFloat)
  | clearObstacles

variable (text : PyText)

/-- The copy of memory.json after an operation, and the file. -/
def runMemory (m : MemoryStore) : Update → MemoryStore
  | .remember said category info => (remember text said category info m).2
  | .forget query => (forget text query m).2
  | _ => m

/-- The copy of world_model.json after an operation, and the file. -/
def runWorld (w : WorldStore) : Update → WorldStore
  | .addPlace name x y kind => (addPlace text name x y kind w).2
  | .removePlace name => (removePlace text name w).2
  | .addRestricted name => (addRestricted text name w).2
  | .noteObject label x y confidence => (noteObject label x y confidence w).2
  | .setObstacle x y => (setObstacle x y w).2
  | .clearObstacles => (clearObstacles w).2
  | _ => w

/-- A process boots, or one of the processes completes an operation. -/
inductive Event
  | boot
  | act (process : Nat) (op : Update)

def Directory.act (d : Directory) (i : Nat) (op : Update) : Directory :=
  match d.processes[i]? with
  | none => d
  | some p =>
    let m := runMemory text { entries := p.entries, file := d.memoryFile } op
    let w := runWorld text { data := p.data, file := d.worldFile } op
    { memoryFile := m.file, worldFile := w.file,
      processes := d.processes.set i { entries := m.entries, data := w.data } }

def Directory.step (d : Directory) : Event → Directory
  | .boot => { d with processes := d.processes ++ [d.booted] }
  | .act i op => d.act text i op

def Directory.run (d : Directory) (events : List Event) : Directory := events.foldl (Directory.step text) d

@[simp] theorem run_snoc (d : Directory) (events : List Event) (e : Event) :
    d.run text (events ++ [e]) = (d.run text events).step text e := by
  simp [Directory.run]

/-! What has to survive. -/

/-- The event remembers this entry. -/
def Remembers (d : Directory) (entry : Entry) : Event → Prop
  | .act i (.remember said category info) =>
      i < d.processes.length ∧ newEntry text said category info = .ok entry
  | _ => False

/-- The event asks to forget what matches this entry. -/
def Forgets (entry : Entry) : Event → Prop
  | .act _ (.forget query) => ∃ q, searched text query = .ok q ∧ entry.contains text q = true
  | _ => False

/-- The event adds this place under this name. -/
def Adds (d : Directory) (key : String) (place : Place) : Event → Prop
  | .act i (.addPlace name x y kind) =>
      i < d.processes.length ∧ norm text name = key ∧ (⟨x, y, kind⟩ : Place) = place
  | _ => False

/-- The event removes the place under this name, which its process knows. -/
def Removes (d : Directory) (key : String) : Event → Prop
  | .act i (.removePlace name) => norm text name = key ∧
      ∃ p, d.processes[i]? = some p ∧ (p.data.getPlace text name).isSome = true
  | _ => False

/-- The event adds this name to the restricted areas. -/
def Restricts (d : Directory) (key : String) : Event → Prop
  | .act i (.addRestricted name) => i < d.processes.length ∧ norm text name = key
  | _ => False

/-- The event asks to place or to remove something under this name. -/
def Touches (key : String) : Event → Prop
  | .act _ (.addPlace name _ _ _) => norm text name = key
  | .act _ (.removePlace name) => norm text name = key
  | _ => False

/-- The event places something under this name. -/
def Replaces (key : String) : Event → Prop
  | .act _ (.addPlace name _ _ _) => norm text name = key
  | _ => False

/-- After these events from this directory, a fresh boot loads every entry remembered and
not forgotten since and every place added and not touched since, finds no place that was
removed and not added since, and knows every restricted area that was added. -/
structure Survives (start : Directory) (events : List Event) : Prop where
  entries : ∀ entry, Since (fun past => Remembers text (start.run text past) entry)
    (Forgets text entry) events → entry ∈ (start.run text events).booted.entries
  added : ∀ key place, Since (fun past => Adds text (start.run text past) key place)
    (Touches text key) events → Dict.get key (start.run text events).booted.data.places = some place
  removed : ∀ key, Since (fun past => Removes text (start.run text past) key)
    (Replaces text key) events → Dict.get key (start.run text events).booted.data.places = none
  restricted : ∀ key, Since (fun past => Restricts text (start.run text past) key)
    (fun _ => False) events → key ∈ (start.run text events).booted.data.restricted

/-- The operation writes memory.json from a copy with these entries. -/
def SavesMemory (entries : List Entry) : Update → Prop
  | .remember said category info => ∃ entry, newEntry text said category info = .ok entry
  | .forget query => ∃ q, searched text query = .ok q ∧ ∃ e ∈ entries, e.contains text q = true
  | _ => False

/-- The operation writes world_model.json from a copy with these data. -/
def SavesWorld (data : WorldData) : Update → Prop
  | .remember _ _ _ | .forget _ => False
  | .removePlace name => (data.getPlace text name).isSome = true
  | _ => True

/-- Whoever writes one of the files holds what it says. -/
def UpToDate (d : Directory) : Event → Prop
  | .boot => True
  | .act i op => ∀ p, d.processes[i]? = some p →
      (SavesMemory text p.entries op → p.entries = d.booted.entries) ∧
      (SavesWorld text p.data op → p.data = d.booted.data)

/-! The effect of one operation on the files. -/

variable {text}

/-- What an operation that saves makes of the entries. -/
def memoryChange (text : PyText) (op : Update) (entries : List Entry) : List Entry :=
  match op with
  | .remember said category info => match newEntry text said category info with
    | .ok entry => entries ++ [entry]
    | .error _ => entries
  | .forget query => match searched text query with
    | .ok q => entries.filter fun e => !e.contains text q
    | .error _ => entries
  | _ => entries

/-- What an operation that saves makes of the world. -/
def worldChange (text : PyText) (op : Update) (w : WorldData) : WorldData :=
  match op with
  | .addPlace name x y kind => { w with places := Dict.set (norm text name) ⟨x, y, kind⟩ w.places }
  | .removePlace name => { w with places := Dict.erase (norm text name) w.places }
  | .addRestricted name => { w with restricted := w.restricted ++ [norm text name] }
  | .noteObject label x y confidence =>
    { w with lastSeen := Dict.set label ⟨x, y, confidence⟩ w.lastSeen }
  | .setObstacle x y => { w with obstacles := w.obstacles ++ [(x, y)] }
  | .clearObstacles => { w with obstacles := [] }
  | _ => w

private theorem runMemory_saved {m : MemoryStore} {op : Update} (saves : SavesMemory text m.entries op) :
    (runMemory text m op).file = .document (memoryChange text op m.entries) := by
  cases op with
  | remember said category info =>
    obtain ⟨entry, made⟩ := saves
    simp only [runMemory, remember_run, memoryChange, made]
  | forget query =>
    obtain ⟨q, asked, e, member, found⟩ := saves
    simp only [runMemory, forget_some asked member found, memoryChange, asked]
  | _ => cases saves

private theorem runMemory_unsaved {m : MemoryStore} {op : Update}
    (unsaved : ¬ SavesMemory text m.entries op) : (runMemory text m op).file = m.file := by
  cases op with
  | remember said category info =>
    simp only [runMemory, remember_run]
    rcases made : newEntry text said category info with e | entry
    · rfl
    · exact absurd ⟨entry, made⟩ unsaved
  | forget query =>
    have nothing : (forget text query m).2 = m := by
      refine forget_nothing fun q asked e member => ?_
      by_contra found
      exact unsaved ⟨q, asked, e, member, by simpa using found⟩
    simp only [runMemory, nothing]
  | _ => rfl

private theorem runWorld_saved {w : WorldStore} {op : Update} (saves : SavesWorld text w.data op) :
    (runWorld text w op).file = .document (worldChange text op w.data) := by
  cases op with
  | removePlace name =>
    simp only [runWorld, removePlace_known saves]
    rfl
  | remember said category info => cases saves
  | forget query => cases saves
  | _ => rfl

private theorem runWorld_unsaved {w : WorldStore} {op : Update}
    (unsaved : ¬ SavesWorld text w.data op) : (runWorld text w op).file = w.file := by
  cases op with
  | removePlace name =>
    have unknown : (w.data.getPlace text name).isSome = false := by
      simpa [SavesWorld] using unsaved
    simp only [runWorld, removePlace_unknown unknown]
  | remember said category info => rfl
  | forget query => rfl
  | _ => exact absurd trivial unsaved

/-- An up-to-date operation changes what a boot loads as it changes its process's copy,
if it saves, and not at all if it does not. -/
private theorem booted_act {d : Directory} {i : Nat} {op : Update} {p : Process}
    (running : d.processes[i]? = some p) (current : UpToDate text d (.act i op)) :
    (SavesMemory text p.entries op →
      (d.act text i op).booted.entries = memoryChange text op d.booted.entries) ∧
    (¬ SavesMemory text p.entries op → (d.act text i op).booted.entries = d.booted.entries) ∧
    (SavesWorld text p.data op →
      (d.act text i op).booted.data = worldChange text op d.booted.data) ∧
    (¬ SavesWorld text p.data op → (d.act text i op).booted.data = d.booted.data) := by
  obtain ⟨memory, world⟩ := current p running
  simp only [Directory.act, running, Directory.booted]
  refine ⟨fun saves => ?_, fun unsaved => ?_, fun saves => ?_, fun unsaved => ?_⟩
  · rw [runMemory_saved saves]
    exact congrArg (memoryChange text op) (memory saves)
  · rw [runMemory_unsaved unsaved]
  · rw [runWorld_saved saves]
    exact congrArg (worldChange text op) (world saves)
  · rw [runWorld_unsaved unsaved]

/-! What each operation keeps. -/

private theorem keeps_entry {d : Directory} {e : Event} (current : UpToDate text d e) {entry : Entry}
    (known : entry ∈ d.booted.entries) (kept : ¬ Forgets text entry e) :
    entry ∈ (d.step text e).booted.entries := by
  cases e with
  | boot => exact known
  | act i op =>
    rcases running : d.processes[i]? with _ | p
    · simpa only [Directory.step, Directory.act, running] using known
    obtain ⟨saved, unsaved, -, -⟩ := booted_act running current
    by_cases saves : SavesMemory text p.entries op
    · rw [Directory.step, saved saves]
      cases op with
      | remember said category info =>
        obtain ⟨other, made⟩ := saves
        simp only [memoryChange, made]
        exact List.mem_append_left _ known
      | forget query =>
        obtain ⟨q, asked, -⟩ := saves
        simp only [memoryChange, asked]
        refine List.mem_filter.mpr ⟨known, ?_⟩
        by_contra found
        exact kept ⟨q, asked, by simpa using found⟩
      | _ => cases saves
    · rw [Directory.step, unsaved saves]
      exact known

private theorem adds_entry {d : Directory} {e : Event} (current : UpToDate text d e) {entry : Entry}
    (remembers : Remembers text d entry e) : entry ∈ (d.step text e).booted.entries := by
  cases e with
  | boot => cases remembers
  | act i op =>
    cases op with
    | remember said category info =>
      obtain ⟨inside, made⟩ := remembers
      have running : d.processes[i]? = some d.processes[i] := List.getElem?_eq_getElem inside
      rw [Directory.step, (booted_act running current).1 ⟨entry, made⟩]
      simp only [memoryChange, made]
      exact List.mem_append_right _ (List.mem_singleton_self entry)
    | _ => cases remembers

/-- A name that is not touched keeps its place, or its absence. -/
private theorem keeps_place {d : Directory} {e : Event} (current : UpToDate text d e) {key : String}
    (untouched : ¬ Touches text key e) :
    Dict.get key (d.step text e).booted.data.places = Dict.get key d.booted.data.places := by
  cases e with
  | boot => rfl
  | act i op =>
    rcases running : d.processes[i]? with _ | p
    · simp only [Directory.step, Directory.act, running]
    obtain ⟨-, -, saved, unsaved⟩ := booted_act running current
    by_cases saves : SavesWorld text p.data op
    · rw [Directory.step, saved saves]
      cases op with
      | addPlace name x y kind => exact Dict.get_set_of_ne _ _ (Ne.symm untouched)
      | removePlace name => exact Dict.get_erase_of_ne _ (Ne.symm untouched)
      | _ => rfl
    · rw [Directory.step, unsaved saves]

private theorem adds_place {d : Directory} {e : Event} (current : UpToDate text d e) {key : String}
    {place : Place} (adds : Adds text d key place e) :
    Dict.get key (d.step text e).booted.data.places = some place := by
  cases e with
  | boot => cases adds
  | act i op =>
    cases op with
    | addPlace name x y kind =>
      obtain ⟨inside, rfl, rfl⟩ := adds
      have running : d.processes[i]? = some d.processes[i] := List.getElem?_eq_getElem inside
      rw [Directory.step, (booted_act running current).2.2.1 trivial]
      exact Dict.get_set_self _ _ _
    | _ => cases adds

private theorem removes_place {d : Directory} {e : Event} (current : UpToDate text d e) {key : String}
    (removes : Removes text d key e) : Dict.get key (d.step text e).booted.data.places = none := by
  cases e with
  | boot => cases removes
  | act i op =>
    cases op with
    | removePlace name =>
      obtain ⟨rfl, p, running, known⟩ := removes
      rw [Directory.step, (booted_act running current).2.2.1 known]
      exact Dict.get_erase_self _ _
    | _ => cases removes

/-- Only an addition under the name ends its absence. -/
private theorem keeps_absence {d : Directory} {e : Event} (current : UpToDate text d e) {key : String}
    (absent : Dict.get key d.booted.data.places = none) (unplaced : ¬ Replaces text key e) :
    Dict.get key (d.step text e).booted.data.places = none := by
  by_cases touched : Touches text key e
  · cases e with
    | boot => cases touched
    | act i op =>
      rcases running : d.processes[i]? with _ | p
      · simpa only [Directory.step, Directory.act, running] using absent
      obtain ⟨-, -, saved, unsaved⟩ := booted_act running current
      cases op with
      | removePlace name =>
        by_cases saves : SavesWorld text p.data (.removePlace name)
        · have same : norm text name = key := touched
          rw [Directory.step, saved saves, ← same]
          exact Dict.get_erase_self _ _
        · rw [Directory.step, unsaved saves]
          exact absent
      | addPlace name x y kind => exact absurd touched unplaced
      | _ => cases touched
  · rw [keeps_place current touched]
    exact absent

private theorem keeps_restricted {d : Directory} {e : Event} (current : UpToDate text d e)
    {key : String} (known : key ∈ d.booted.data.restricted) :
    key ∈ (d.step text e).booted.data.restricted := by
  cases e with
  | boot => exact known
  | act i op =>
    rcases running : d.processes[i]? with _ | p
    · simpa only [Directory.step, Directory.act, running] using known
    obtain ⟨-, -, saved, unsaved⟩ := booted_act running current
    by_cases saves : SavesWorld text p.data op
    · rw [Directory.step, saved saves]
      cases op with
      | addRestricted name => exact List.mem_append_left _ known
      | _ => exact known
    · rw [Directory.step, unsaved saves]
      exact known

private theorem adds_restricted {d : Directory} {e : Event} (current : UpToDate text d e)
    {key : String} (restricts : Restricts text d key e) :
    key ∈ (d.step text e).booted.data.restricted := by
  cases e with
  | boot => cases restricts
  | act i op =>
    cases op with
    | addRestricted name =>
      obtain ⟨inside, rfl⟩ := restricts
      have running : d.processes[i]? = some d.processes[i] := List.getElem?_eq_getElem inside
      rw [Directory.step, (booted_act running current).2.2.1 trivial]
      exact List.mem_append_right _ (List.mem_singleton_self _)
    | _ => cases restricts

/-! Runs. -/

private theorem survives_nil (start : Directory) : Survives text start [] where
  entries _ since := absurd since (since_nil _ _)
  added _ _ since := absurd since (since_nil _ _)
  removed _ since := absurd since (since_nil _ _)
  restricted _ since := absurd since (since_nil _ _)

/-- One more up-to-date operation undoes nothing. -/
private theorem survives_step {start : Directory} {events : List Event}
    (survives : Survives text start events) {e : Event}
    (current : UpToDate text (start.run text events) e) : Survives text start (events ++ [e]) := by
  refine ⟨fun entry since => ?_, fun key place since => ?_, fun key since => ?_, fun key since => ?_⟩
  · rw [run_snoc]
    rcases (since_snoc _ _ _ _).mp since with remembers | ⟨before, kept⟩
    · exact adds_entry current remembers
    · exact keeps_entry current (survives.entries entry before) kept
  · rw [run_snoc]
    rcases (since_snoc _ _ _ _).mp since with adds | ⟨before, untouched⟩
    · exact adds_place current adds
    · rw [keeps_place current untouched]
      exact survives.added key place before
  · rw [run_snoc]
    rcases (since_snoc _ _ _ _).mp since with removes | ⟨before, unplaced⟩
    · exact removes_place current removes
    · exact keeps_absence current (survives.removed key before) unplaced
  · rw [run_snoc]
    rcases (since_snoc _ _ _ _).mp since with restricts | ⟨before, -⟩
    · exact adds_restricted current restricts
    · exact keeps_restricted current (survives.restricted key before)

/-- In every run whose saving operations are made from copies that are up to date, every
completed update survives. -/
theorem updates_survive (text : PyText) (start : Directory) (events : List Event)
    (current : Throughout (fun past e => UpToDate text (start.run text past) e) events) :
    Survives text start events :=
  throughout_of_invariant (I := Survives text start) (survives_nil start)
    (fun _ _ survives current => survives_step survives current) current

/-! A session and a second command. -/

def remembers (i : Nat) (said : String) : Event := .act i (.remember (.str said) "fact" .none)

def milkEntry : Entry := { text := "milk", category := "fact", info := .dict [] }

/-- Both processes boot, and each remembers something. -/
def twoRemember : List Event := [.boot, .boot, remembers 0 "milk", remembers 1 "bread"]

/-- The second process writes the file from a copy without the first one's entry. -/
theorem remembered_entry_lost : ¬ Survives .ascii {} twoRemember := by
  intro survives
  have since : Since (fun past => Remembers .ascii (Directory.run .ascii {} past) milkEntry)
      (Forgets .ascii milkEntry) twoRemember := by
    refine ⟨[.boot, .boot], remembers 0 "milk", [remembers 1 "bread"], rfl, ⟨by decide, rfl⟩, ?_⟩
    intro later member
    obtain rfl := List.mem_singleton.mp member
    exact fun forgets => forgets
  have loaded := survives.entries milkEntry since
  have texts : (Directory.run .ascii {} twoRemember).booted.entries.map Entry.text = ["bread"] := by
    decide +kernel
  have member := List.mem_map_of_mem (f := Entry.text) loaded
  rw [texts] at member
  simp [milkEntry] at member

/-- A command that boots after the session's last write is up to date. -/
theorem updates_survive_in_turn :
    Survives .ascii {} [.boot, remembers 0 "milk", .boot, remembers 1 "bread"] := by
  refine updates_survive .ascii {} _ ?_
  refine (throughout_snoc _ [Event.boot, remembers 0 "milk", .boot] _).mpr ⟨?_, ?_⟩
  · refine (throughout_snoc _ [Event.boot, remembers 0 "milk"] _).mpr ⟨?_, trivial⟩
    refine (throughout_snoc _ [Event.boot] _).mpr ⟨(throughout_snoc _ [] _).mpr ⟨throughout_nil _, trivial⟩, ?_⟩
    intro p running
    obtain rfl := Option.some.inj running
    exact ⟨fun _ => rfl, fun saves => absurd saves id⟩
  · intro p running
    obtain rfl := Option.some.inj running
    exact ⟨fun _ => rfl, fun saves => absurd saves id⟩

end DroidOs.System.SharedFiles
