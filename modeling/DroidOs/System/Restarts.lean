/- GID: DroidOs/System/Restarts
   generality: I
   source: src/droidos/services/world_model.py, src/droidos/services/memory.py, src/droidos/services/update.py
   digest: What a restart between two operations changes for the three services that keep files. -/

import DroidOs.Lib.Restart
import DroidOs.Services.Update
import DroidOs.Services.WorldModel

set_option autoImplicit false
set_option relaxedAutoImplicit false

namespace DroidOs.System.Restarts

open DroidOs.Lib.Procedure DroidOs.Lib.Restart
open DroidOs.Core.Values
open DroidOs.Services DroidOs.Services.Memory DroidOs.Services.WorldModel DroidOs.Services.Update

/-! The state directory. -/

/-- What world_model.json may hold: any of the sections. -/
structure Sections where
  places : Option (List (String × Place)) := none
  restricted : Option (List String) := none
  obstacles : Option (List (PyFloat × PyFloat)) := none
  lastSeen : Option (List (String × Sighting)) := none

/-- `self.data.update(loaded)`. -/
def Sections.merge (loaded : Sections) (data : WorldData) : WorldData where
  places := loaded.places.getD data.places
  restricted := loaded.restricted.getD data.restricted
  obstacles := loaded.obstacles.getD data.obstacles
  lastSeen := loaded.lastSeen.getD data.lastSeen

/-- What `_save` writes. -/
def written (data : WorldData) : Sections where
  places := some data.places
  restricted := some data.restricted
  obstacles := some data.obstacles
  lastSeen := some data.lastSeen

/-- Every section is written, so that nothing of the data that a fresh process starts with
comes back. -/
theorem merge_written (data before : WorldData) : (written data).merge before = data := rfl

/-- What a fresh process would read, whatever the file holds. -/
def mapped {α β : Type} (f : α → β) : StateFile α → StateFile β
  | .missing => .missing
  | .broken => .broken
  | .undecodable => .undecodable
  | .document content => .document (f content)

/-- The three files as a process may find them. -/
structure Directory where
  world : StateFile Sections := .missing
  memory : StateFile (List Entry) := .missing
  update : StateFile UpdateInfo := .missing

/-! A brain. -/

/-- The three services. The copy of world_model.json is kept as what loading it into
fresh data gives. -/
structure Brain where
  world : WorldStore
  memory : MemoryStore
  update : UpdateStore

/-- The objects are discarded, and fresh ones configured. -/
def Brain.restart (b : Brain) : Brain where
  world := (WorldModel.configure { file := b.world.file }).2
  memory := (Memory.configure { file := b.memory.file }).2
  update := UpdateStore.load { file := b.update.file }

/-- The brain that boots from a directory. -/
def Directory.boot (d : Directory) : Brain :=
  let found : Brain :=
    { world := { file := mapped (fun loaded => loaded.merge defaultWorld) d.world }
      memory := { file := d.memory }
      update := { file := match d.update with
        | .document uinfo => some uinfo
        | _ => none } }
  found.restart

/-! Operations and queries. -/

inductive Operation
  | addPlace (name x y kind : PyVal)
  | removePlace (name : PyVal)
  | addRestricted (name : PyVal)
  | noteObject (label : String) (x y confidence : PyFloat)
  | setObstacle (x y : PyFloat)
  | clearObstacles
  | getPlace (name : PyVal)
  | isRestricted (name : PyVal)
  | placeNames
  | remember (said : PyVal) (category : String) (info : PyVal)
  | forget (query : PyVal)
  | recallEntries (query : PyVal) (limit : Int)
  | install (file : BundleFile)
  | confirmBootHealth (healthy : Bool)
  | rollback
  | status

inductive Answer
  | done
  | flag (b : Bool)
  | place (p : Option Place)
  | names (ns : List String)
  | entry (e : Entry)
  | entries (es : List Entry)
  | count (n : Nat)
  | result (r : Result)

/-- `items[-limit:]`. -/
def lastItems (limit : Int) (items : List Entry) : List Entry :=
  if 0 < limit then items.drop (items.length - limit.toNat) else items.drop (-limit).toNat

variable (text : PyText) (digest : PyVal → String)

/-- `recall`. -/
def recallEntries (query : PyVal) (limit : Int) : Proc MemoryStore Exn (List Entry) := do
  let q ← ofExcept (searched text query)
  let entries ← reads MemoryStore.entries
  let items := if q = "" then entries else entries.filter fun e => e.contains text q
  return lastItems limit items

def onWorld (p : Proc WorldStore Exn Answer) : Proc Brain Exn Answer :=
  zoom Brain.world (fun world b => { b with world := world }) p

def onMemory (p : Proc MemoryStore Exn Answer) : Proc Brain Exn Answer :=
  zoom Brain.memory (fun memory b => { b with memory := memory }) p

def onUpdate (p : Proc UpdateStore Exn Answer) : Proc Brain Exn Answer :=
  zoom Brain.update (fun update b => { b with update := update }) p

/-- One call of a service, and what it returns or raises. -/
def perform : Operation → Proc Brain Exn Answer
  | .addPlace name x y kind => onWorld do
    let x ← ofExcept (text.float x)
    let y ← ofExcept (text.float y)
    addPlace text name x y kind
    return .done
  | .removePlace name => onWorld (.flag <$> removePlace text name)
  | .addRestricted name => onWorld do
    addRestricted text name
    return .done
  | .noteObject label x y confidence => onWorld do
    noteObject label x y confidence
    return .done
  | .setObstacle x y => onWorld do
    setObstacle x y
    return .done
  | .clearObstacles => onWorld do
    clearObstacles
    return .done
  | .getPlace name => onWorld (.place <$> reads fun w => w.data.getPlace text name)
  | .isRestricted name => onWorld (.flag <$> reads fun w => w.data.isRestricted text name)
  | .placeNames => onWorld (.names <$> reads fun w => w.data.placeNames)
  | .remember said category info => onMemory (.entry <$> remember text said category info)
  | .forget query => onMemory (.count <$> forget text query)
  | .recallEntries query limit => onMemory (.entries <$> recallEntries text query limit)
  | .install file => onUpdate (.result <$> install text digest file)
  | .confirmBootHealth healthy => onUpdate (.result <$> confirmBootHealth healthy)
  | .rollback => onUpdate (.result <$> rollback)
  | .status => onUpdate (.result <$> reads fun u => u.uinfo.status)

/-! What a process holds is what it would load. -/

theorem configure_world (file : StateFile WorldData) : (WorldModel.configure { file := file }).2 =
    { data := file.loaded defaultWorld, file := file } := by
  cases file <;> rfl

theorem configure_memory (file : StateFile (List Entry)) : (Memory.configure { file := file }).2 =
    { entries := file.loaded [], file := file } := by
  cases file <;> rfl

def WorldSettled (w : WorldStore) : Prop := w.data = w.file.loaded defaultWorld

def MemorySettled (m : MemoryStore) : Prop := m.entries = m.file.loaded []

def UpdateSettled (u : UpdateStore) : Prop := u.uinfo = u.file.getD {}

/-- The data of each service is what a fresh object would load. -/
structure Settled (b : Brain) : Prop where
  world : WorldSettled b.world
  memory : MemorySettled b.memory
  update : UpdateSettled b.update

theorem restart_settled (b : Brain) : Settled b.restart where
  world := by
    show WorldSettled (WorldModel.configure _).2
    rw [configure_world]
    rfl
  memory := by
    show MemorySettled (Memory.configure _).2
    rw [configure_memory]
    rfl
  update := rfl

/-- A restart finds everything again. -/
theorem restart_same {b : Brain} (settled : Settled b) : b.restart = b := by
  obtain ⟨world, memory, update⟩ := b
  have sameWorld : (WorldModel.configure { file := world.file }).2 = world := by
    rw [configure_world, ← show world.data = _ from settled.world]
  have sameMemory : (Memory.configure { file := memory.file }).2 = memory := by
    rw [configure_memory, ← show memory.entries = _ from settled.memory]
  have sameUpdate : UpdateStore.load { file := update.file } = update := by
    show ({ uinfo := update.file.getD {}, file := update.file } : UpdateStore) = update
    rw [← show update.uinfo = _ from settled.update]
  show (⟨_, _, _⟩ : Brain) = ⟨_, _, _⟩
  rw [sameWorld, sameMemory, sameUpdate]

/-! Every operation saves what it changes. -/

section

variable {text : PyText} {digest : PyVal → String}

private theorem keeps_map {σ α β : Type} {I : σ → Prop} {p : Proc σ Exn α} (keeps : Keeps I p) (f : α → β) :
    Keeps I (f <$> p) :=
  keeps_bind keeps fun _ => keeps_pure _

theorem keeps_rewrite (f : WorldData → WorldData) : Keeps WorldSettled (rewrite f) :=
  keeps_modify fun _ _ => rfl

theorem keeps_removePlace (name : PyVal) : Keeps WorldSettled (removePlace text name) := by
  apply keeps_iff.mpr
  intro w settled
  cases known : (w.data.getPlace text name).isSome with
  | true =>
    rw [removePlace_known known]
    rfl
  | false =>
    rw [removePlace_unknown known]
    exact settled

theorem keeps_remember (said : PyVal) (category : String) (info : PyVal) :
    Keeps MemorySettled (remember text said category info) := by
  apply keeps_iff.mpr
  intro m settled
  rw [remember_run]
  cases newEntry text said category info with
  | ok entry => rfl
  | error e => exact settled

theorem keeps_forget (query : PyVal) : Keeps MemorySettled (forget text query) := by
  apply keeps_iff.mpr
  intro m settled
  by_cases found : ∃ q, searched text query = .ok q ∧ ∃ e ∈ m.entries, e.contains text q = true
  · obtain ⟨q, asked, e, member, contains⟩ := found
    rw [forget_some asked member contains]
    rfl
  · have nothing : ∀ q, searched text query = .ok q → ∀ e ∈ m.entries, e.contains text q = false := by
      intro q asked e member
      by_contra contains
      exact found ⟨q, asked, e, member, Bool.eq_true_of_not_eq_false contains⟩
    rw [forget_nothing nothing]
    exact settled

theorem keeps_install (file : BundleFile) : Keeps UpdateSettled (install text digest file) := by
  apply keeps_iff.mpr
  intro u settled
  have spec := @install_spec text digest file u
  cases accepted : bundleVersion digest file with
  | some version =>
    rw [accepted] at spec
    rw [spec]
    rfl
  | none =>
    rw [accepted] at spec
    rcases spec with ⟨e, raised⟩ | ⟨reason, refused⟩
    · rw [raised]
      exact settled
    · rw [refused]
      rfl

theorem keeps_rollback : Keeps UpdateSettled rollback := by
  apply keeps_iff.mpr
  intro u settled
  cases alternative : (u.uinfo.slots u.uinfo.inactive).version.truthy with
  | true =>
    rw [rollback_taken alternative]
    rfl
  | false =>
    rw [rollback_refused alternative]
    exact settled

private theorem settled_onWorld {p : Proc WorldStore Exn Answer} (keeps : Keeps WorldSettled p) :
    Keeps Settled (onWorld p) :=
  keeps_zoom fun _ settled => ⟨keeps.after settled.world, settled.memory, settled.update⟩

private theorem settled_onMemory {p : Proc MemoryStore Exn Answer} (keeps : Keeps MemorySettled p) :
    Keeps Settled (onMemory p) :=
  keeps_zoom fun _ settled => ⟨settled.world, keeps.after settled.memory, settled.update⟩

private theorem settled_onUpdate {p : Proc UpdateStore Exn Answer} (keeps : Keeps UpdateSettled p) :
    Keeps Settled (onUpdate p) :=
  keeps_zoom fun _ settled => ⟨settled.world, settled.memory, keeps.after settled.update⟩

/-- After every operation the data are what a fresh object would load. -/
theorem keeps_perform (op : Operation) : Keeps Settled (perform text digest op) := by
  cases op with
  | addPlace name x y kind =>
    apply settled_onWorld
    apply keeps_bind (keeps_ofExcept _)
    intro x
    apply keeps_bind (keeps_ofExcept _)
    intro y
    exact keeps_bind (keeps_rewrite _) fun _ => keeps_pure _
  | removePlace name => exact settled_onWorld (keeps_map (keeps_removePlace name) _)
  | addRestricted name => exact settled_onWorld (keeps_bind (keeps_rewrite _) fun _ => keeps_pure _)
  | noteObject label x y confidence =>
    exact settled_onWorld (keeps_bind (keeps_rewrite _) fun _ => keeps_pure _)
  | setObstacle x y => exact settled_onWorld (keeps_bind (keeps_rewrite _) fun _ => keeps_pure _)
  | clearObstacles => exact settled_onWorld (keeps_bind (keeps_rewrite _) fun _ => keeps_pure _)
  | getPlace name => exact settled_onWorld (keeps_map (keeps_reads _) _)
  | isRestricted name => exact settled_onWorld (keeps_map (keeps_reads _) _)
  | placeNames => exact settled_onWorld (keeps_map (keeps_reads _) _)
  | remember said category info => exact settled_onMemory (keeps_map (keeps_remember said category info) _)
  | forget query => exact settled_onMemory (keeps_map (keeps_forget query) _)
  | recallEntries query limit =>
    apply settled_onMemory
    apply keeps_map
    apply keeps_bind (keeps_ofExcept _)
    intro q
    exact keeps_bind (keeps_reads _) fun _ => keeps_pure _
  | install file => exact settled_onUpdate (keeps_map (keeps_install file) _)
  | confirmBootHealth healthy =>
    apply settled_onUpdate
    apply keeps_map
    exact keeps_iff.mpr fun u _ => by rw [confirmBootHealth_run]; rfl
  | rollback => exact settled_onUpdate (keeps_map keeps_rollback _)
  | status => exact settled_onUpdate (keeps_map (keeps_reads _) _)

end

/-! Runs. -/

/-- Wherever the brain is restarted between its operations, each operation and each query
returns or raises what it does without the restarts. -/
theorem restarts_unnoticed (d : Directory) (events : List (Event Operation)) :
    answers (perform text digest) Brain.restart events d.boot =
      answers (perform text digest) Brain.restart (uninterrupted events) d.boot :=
  answers_uninterrupted (fun _ settled => restart_same settled)
    (fun op _ settled => (keeps_perform op).after settled) events (restart_settled _)

/-- A place of the default world that was removed does not come back. -/
example : (perform .ascii (fun _ => "") (.getPlace (.str "Hallway"))
    (perform .ascii (fun _ => "") (.removePlace (.str "hallway")) ({} : Directory).boot).2.restart).1 =
      .ok (.place none) := by rfl

end DroidOs.System.Restarts
