/- GID: DroidOs/Core/Events
   generality: I
   source: src/droidos/core/events.py, src/droidos/core/logging.py
   digest: The event bus with callbacks that may raise, and the audit log with a file that may fail. -/

import DroidOs.Core.Context

set_option autoImplicit false
set_option relaxedAutoImplicit false

namespace DroidOs.Core.Events

open DroidOs.Lib.Procedure
open Values Context

variable {δ : Type}

/-- A callback. Subscribers keep data of their own, `δ`, and may raise after changing it. -/
abbrev Subscriber (δ : Type) := Event → Proc δ Exn Unit

structure EventBus (δ : Type) where
  subs : String → List (Subscriber δ) := fun _ => []
  log : List Event := []
  logLimit : Nat := 2000

/-- Add to the subscribers of a topic. -/
def EventBus.subscribe (topic : String) (callback : Subscriber δ) (bus : EventBus δ) : EventBus δ :=
  { bus with subs := Function.update bus.subs topic (bus.subs topic ++ [callback]) }

/-- Append to the log, which keeps the latest events only. -/
def EventBus.logEvent (event : Event) (bus : EventBus δ) : EventBus δ :=
  { bus with log := (bus.log ++ [event]).drop ((bus.log ++ [event]).length - bus.logLimit) }

/-- The callbacks that an event reaches, in the order of their calls. -/
def EventBus.listeners (event : Event) (bus : EventBus δ) : List (Subscriber δ) :=
  bus.subs event.topic ++ bus.subs "*"

/-- The calls of a published event; the first callback that raises ends them. -/
def deliver (event : Event) (callbacks : List (Subscriber δ)) : Proc δ Exn Unit :=
  forEach callbacks fun callback => callback event

/-- Each callback returns when its turn comes. -/
def Quiet (event : Event) : List (Subscriber δ) → δ → Prop
  | [], _ => True
  | callback :: callbacks, own =>
    (callback event own).1 = .ok () ∧ Quiet event callbacks (callback event own).2

theorem deliver_returns_iff {event : Event} {callbacks : List (Subscriber δ)} {own : δ} :
    (deliver event callbacks own).1 = .ok () ↔ Quiet event callbacks own := by
  induction callbacks generalizing own with
  | nil => exact iff_of_true rfl trivial
  | cons callback callbacks ih =>
    change ((callback event >>= fun _ => deliver event callbacks) own).1 = .ok () ↔ _
    rw [bind_returns_iff, ih]
    exact ⟨fun ⟨_, returns, rest⟩ => ⟨returns, rest⟩, fun ⟨returns, rest⟩ => ⟨(), returns, rest⟩⟩

/-- The audit log. `file` holds the lines of the file at `path`, absent without a path;
`writable` tells whether opening and writing succeed. -/
structure AuditLog where
  records : List AuditRecord := []
  file : Option (List AuditRecord) := none
  writable : Bool := true

/-- `record`: an OSError of the file is swallowed. -/
def AuditLog.record (rec : AuditRecord) (log : AuditLog) : AuditLog where
  records := log.records ++ [rec]
  file := if log.writable then log.file.map (· ++ [rec]) else log.file
  writable := log.writable

end DroidOs.Core.Events
