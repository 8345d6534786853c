/- GID: DroidOs/Services/Update
   generality: I
   source: src/droidos/services/update.py
   digest: The two update slots, bundle verification, installation, health reports and rollback. -/

import DroidOs.Core.Values

set_option autoImplicit false
set_option relaxedAutoImplicit false

namespace DroidOs.Services.Update

open DroidOs.Lib.Procedure
open DroidOs.Core.Values

inductive Slot
  | a | b
  deriving DecidableEq

namespace Slot

def name : Slot → String
  | a => "A"
  | b => "B"

def other : Slot → Slot
  | a => b
  | b => a

@[simp] theorem other_other (s : Slot) : s.other.other = s := by
  cases s <;> rfl

@[simp] theorem other_ne (s : Slot) : s.other ≠ s := by
  cases s <;> decide

@[simp] theorem ne_other (s : Slot) : s ≠ s.other := (other_ne s).symm

/-- There are two slots only. -/
theorem ne_iff {s t : Slot} : s ≠ t ↔ s = t.other := by
  cases s <;> cases t <;> decide

end Slot

/-- One entry of `slots`. A bundle may give any JSON value as its version. -/
structure SlotEntry where
  version : PyVal
  healthy : Bool

/-- `__version__`. -/
def builtinVersion : PyVal := .str "1.0.0"

/-- `uinfo`; without arguments `_default_state()`. -/
structure UpdateInfo where
  runningVersion : PyVal := builtinVersion
  activeSlot : Slot := .a
  slots : Slot → SlotEntry := fun
    | .a => { version := builtinVersion, healthy := true }
    | .b => { version := .none, healthy := false }
  nextBoot : Slot := .a
  lastResult : String := "none"

/-- The service's record and what update.json holds, if it exists. -/
structure UpdateStore where
  uinfo : UpdateInfo := {}
  file : Option UpdateInfo := none

/-- `_load`, for a new process. -/
def UpdateStore.load (u : UpdateStore) : UpdateStore := { u with uinfo := u.file.getD {} }

def save : Proc UpdateStore Exn Unit := modify fun u => { u with file := some u.uinfo }

def change (f : UpdateInfo → UpdateInfo) : Proc UpdateStore Exn Unit :=
  modify fun u => { u with uinfo := f u.uinfo }

/-- `_inactive`. -/
def UpdateInfo.inactive (i : UpdateInfo) : Slot := i.activeSlot.other

def UpdateInfo.setSlot (i : UpdateInfo) (s : Slot) (entry : SlotEntry) : UpdateInfo :=
  { i with slots := Function.update i.slots s entry }

/-! Bundles. -/

/-- What opening, reading and decoding a bundle gives. -/
inductive BundleFile
  | unreadable (msg : String)
  | undecodable (msg : String)
  | document (doc : PyVal)
  | raises (e : Exn)

variable (text : PyText) (digest : PyVal → String)

/-- `v not in (None, digest)`. -/
def mismatches (digest : String) : PyVal → Bool
  | .none => false
  | v => !v.isKey digest

/-- `verify_bundle`. `digest` is the checksum of a payload's canonical text. -/
def verifyBundle : BundleFile → Except Exn (Bool × PyVal × String)
  | .raises e => .error e
  | .unreadable msg => .ok (false, .dict [], "cannot read bundle: " ++ msg)
  | .undecodable msg => .ok (false, .dict [], "bundle is not a valid DroidOS bundle: " ++ msg)
  | .document doc => do
    if !(← doc.get "compatible" .none).isKey "droidos" then
      return (false, .dict [], "bundle is not compatible with DroidOS")
    let payload ← doc.get "payload" (.dict [])
    if mismatches (digest payload) (← doc.get "payload_checksum" .none) then
      return (false, doc, "bundle checksum mismatch")
    if !(← doc.get "signature" .none).truthy then return (false, doc, "bundle is not signed")
    return (true, doc, "verified")

/-! Operations; each returns the dictionary that the source returns. -/

abbrev Result := List (PyVal × PyVal)

def refusedResult (reason : String) : Result :=
  [(.str "ok", .bool false), (.str "reason", .str reason)]

def installedResult (s : Slot) (version : PyVal) : Result :=
  [(.str "ok", .bool true), (.str "slot", .str s.name), (.str "version", version),
    (.str "reboot_required", .bool true)]

/-- Write the bundle's version into the inactive slot and make it the next to boot. -/
def placeBundle (version : PyVal) (i : UpdateInfo) : UpdateInfo :=
  { i.setSlot i.inactive { version := version, healthy := false } with
    nextBoot := i.inactive
    lastResult := "installed:" ++ text.str version ++ "->" ++ i.inactive.name }

def install (file : BundleFile) : Proc UpdateStore Exn Result := do
  let (ok, doc, reason) ← ofExcept (verifyBundle digest file)
  if !ok then
    change fun i => { i with lastResult := "verify_failed: " ++ reason }
    save
    return refusedResult reason
  let target ← reads fun u => u.uinfo.inactive
  let version ← ofExcept (doc.get "version" (.str "unknown"))
  change (placeBundle text version)
  save
  return installedResult target version

/-- The slot that was booted is healthy and becomes the active one. -/
def acceptBoot (i : UpdateInfo) : UpdateInfo :=
  let booted := i.nextBoot
  { i.setSlot booted { i.slots booted with healthy := true } with
    activeSlot := booted
    runningVersion := (i.slots booted).version.orElse builtinVersion
    lastResult := "boot_ok:" ++ booted.name }

/-- Automatic rollback to the slot that was not booted. -/
def revertBoot (i : UpdateInfo) : UpdateInfo :=
  { i with
    nextBoot := i.nextBoot.other
    activeSlot := i.nextBoot.other
    lastResult := "rolled_back_from:" ++ i.nextBoot.name }

def confirmBootHealth (healthy : Bool) : Proc UpdateStore Exn Result := do
  let booted ← reads fun u => u.uinfo.nextBoot
  change (if healthy then acceptBoot else revertBoot)
  save
  return if healthy then [(.str "ok", .bool true), (.str "active_slot", .str booted.name)]
    else [(.str "ok", .bool false), (.str "rolled_back_to", .str booted.other.name)]

/-- Manual rollback to the inactive slot. -/
def switchBack (i : UpdateInfo) : UpdateInfo :=
  { i with
    activeSlot := i.inactive
    nextBoot := i.inactive
    runningVersion := (i.slots i.inactive).version
    lastResult := "manual_rollback:" ++ i.inactive.name }

def rollback : Proc UpdateStore Exn Result := do
  let i ← reads UpdateStore.uinfo
  if !(i.slots i.inactive).version.truthy then
    return refusedResult "no alternative slot to roll back to"
  change switchBack
  save
  return [(.str "ok", .bool true), (.str "active_slot", .str i.inactive.name)]

/-- `status`. -/
def UpdateInfo.status (i : UpdateInfo) : Result :=
  let entry := fun (s : Slot) => (PyVal.str s.name,
    PyVal.dict [(.str "version", (i.slots s).version), (.str "healthy", .bool (i.slots s).healthy)])
  [(.str "running_version", i.runningVersion), (.str "active_slot", .str i.activeSlot.name),
    (.str "inactive_slot", .str i.inactive.name), (.str "next_boot", .str i.nextBoot.name),
    (.str "slots", .dict [entry .a, entry .b]), (.str "update_available", .bool false),
    (.str "last_result", .str i.lastResult)]

/-! What an operation leaves. -/

/-- The version that an accepted bundle carries. -/
def bundleVersion (file : BundleFile) : Option PyVal :=
  match verifyBundle digest file with
  | .ok (true, doc, _) => (doc.get "version" (.str "unknown")).toOption
  | _ => none

variable {text digest}

/-- A document that verifies is a mapping. -/
private theorem verified_get {file : BundleFile} {doc : PyVal} {reason : String}
    (verified : verifyBundle digest file = .ok (true, doc, reason)) :
    ∃ items, doc = .dict items := by
  cases file with
  | unreadable msg => cases verified
  | undecodable msg => cases verified
  | raises e => cases verified
  | document v =>
    cases v with
    | dict items =>
      simp only [verifyBundle, PyVal.get, bind, Except.bind, pure, Except.pure] at verified
      split at verified
      · cases verified
      split at verified
      · cases verified
      split at verified
      · cases verified
      · cases verified
        exact ⟨items, rfl⟩
    | _ => cases verified

/-- A bundle that verifies carries a version. -/
theorem bundleVersion_of_verified {file : BundleFile} {doc : PyVal} {reason : String}
    (verified : verifyBundle digest file = .ok (true, doc, reason)) :
    ∃ version, bundleVersion digest file = some version := by
  obtain ⟨items, rfl⟩ := verified_get verified
  unfold bundleVersion
  rw [verified]
  exact ⟨_, rfl⟩

/-- A bundle that is accepted goes into the inactive slot and says so; one that is
not changes the last result at most. -/
theorem install_spec (file : BundleFile) (u : UpdateStore) :
    match bundleVersion digest file with
    | some version => install text digest file u =
        (.ok (installedResult u.uinfo.inactive version),
          { uinfo := placeBundle text version u.uinfo, file := some (placeBundle text version u.uinfo) })
    | none => (∃ e, install text digest file u = (.error e, u)) ∨
        ∃ reason, install text digest file u = (.ok (refusedResult reason),
          { uinfo := { u.uinfo with lastResult := "verify_failed: " ++ reason },
            file := some { u.uinfo with lastResult := "verify_failed: " ++ reason } }) := by
  unfold bundleVersion install
  rcases verified : verifyBundle digest file with e | ⟨ok, doc, reason⟩
  · exact Or.inl ⟨e, rfl⟩
  cases ok with
  | false => exact Or.inr ⟨reason, rfl⟩
  | true =>
    obtain ⟨items, rfl⟩ := verified_get verified
    rfl

theorem confirmBootHealth_run (healthy : Bool) (u : UpdateStore) :
    (confirmBootHealth healthy u).2 =
      { uinfo := (if healthy then acceptBoot else revertBoot) u.uinfo,
        file := some ((if healthy then acceptBoot else revertBoot) u.uinfo) } := rfl

theorem rollback_taken {u : UpdateStore}
    (alternative : (u.uinfo.slots u.uinfo.inactive).version.truthy = true) :
    (rollback u).2 = { uinfo := switchBack u.uinfo, file := some (switchBack u.uinfo) } := by
  unfold rollback
  rw [reads_bind, alternative]
  rfl

theorem rollback_refused {u : UpdateStore}
    (absent : (u.uinfo.slots u.uinfo.inactive).version.truthy = false) : (rollback u).2 = u := by
  unfold rollback
  rw [reads_bind, absent]
  rfl

end DroidOs.Services.Update
