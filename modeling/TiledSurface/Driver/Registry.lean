import TiledSurface.Driver.Basic

namespace TiledSurface

/-- What a surface holds that has to be given back. -/
structure Holdings where
  slot : Option Slot := none
  window : Option Region := none
  mapping : Option DeviceMapping := none

def Surface.holdings (s : Surface) : Holdings := ⟨s.slot?, s.window?, s.mapping?⟩

namespace Driver

def put (d : Driver) (handle : Handle) (surface : Surface) : Driver :=
  { d with surfaces := d.surfaces.insert handle surface }

def releaseSlot (d : Driver) : Option Slot → Driver
  | some slot => { d with slots := d.slots.release slot }
  | none => d

/-- The buffer's own pages are mapped again before the window goes back to the pool, which
happens also when the mapping is turned down. -/
def releaseWindow (d : Driver) (handle : Handle) : Option Region → Driver
  | some window =>
    { d with
      buffers := (d.buffers.map handle .linear).2
      pool := (d.pool.release window.base window.size).2 }
  | none => d

def releaseMapping (d : Driver) (handle : Handle) : Option DeviceMapping → Driver
  | some _ => { d with buffers := d.buffers.detach handle }
  | none => d

def release (d : Driver) (handle : Handle) (held : Holdings) : Driver :=
  ((d.releaseSlot held.slot).releaseWindow handle held.window).releaseMapping handle held.mapping

def bringOnline (d : Driver) : Except Error Unit × Driver :=
  if d.online then (.ok (), d)
  else match d.hotplug.bringOnline d.config.pool with
    | (.error cause, hotplug) => (.error (.failed (.bringOnline cause)), { d with hotplug })
    | (.ok (), hotplug) =>
      (.ok (), { d with
        hotplug
        online := true
        stats := { d.stats with onlines := d.stats.onlines + 1 } })

/-- Takes the window addresses offline when no surface is left. If that fails they stay online,
and nobody is told. -/
def takeOffline (d : Driver) : Driver :=
  if d.surfaces.isEmpty ∧ d.online then
    match d.hotplug.takeOffline d.config.pool with
    | (.ok (), hotplug) =>
      { d with
        hotplug
        online := false
        stats := { d.stats with offlines := d.stats.offlines + 1 } }
    | (.error _, hotplug) =>
      { d with
        hotplug
        stats := { d.stats with offlineFailures := d.stats.offlineFailures + 1 } }
  else d

def track (d : Driver) (handle : Handle) : Except Error Unit × Driver :=
  match d.surfaces.find? handle with
  | some _ => (.error (.alreadyExists handle), d)
  | none =>
    match d.bringOnline with
    | (.error error, d) => (.error error, d)
    | (.ok (), d) =>
      (.ok (), { d.put handle {} with stats := { d.stats with tracked := d.stats.tracked + 1 } })

def attributes (d : Driver) (handle : Handle) : Except Error Attributes :=
  match d.surfaces.find? handle with
  | none => .error (.invalid .unknownBuffer)
  | some surface =>
    match surface.attributes? with
    | none => .error .notSet
    | some a => .ok a

end Driver

end TiledSurface
