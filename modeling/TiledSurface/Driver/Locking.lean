import TiledSurface.Driver.Registry

/-!
Locking a surface opens its window to the processor, and the last unlock closes it. A surface
needs a descriptor slot while it is locked and keeps it afterwards if its translation is
permanent.
-/

namespace TiledSurface.Driver

/-- Why a request that may end a session fails. Where cleaning does not come to its end, the caller
gets no answer, and the session goes on. -/
inductive Failure where
  | refused (error : Error)
  | broken (why : Cache.Break)
  deriving DecidableEq

/-- Writes the descriptor of a layout into a slot and programs the engine's window for it. -/
def program (d : Driver) (slot : Slot) (layout : Tiled) : Driver :=
  { d with
    slots := d.slots.write slot layout.descriptor.encode
    engine := d.engine.setWindow slot layout.window
    stats := { d.stats with programmed := d.stats.programmed + 1 } }

/-- A programmed slot for a layout: the one that it holds, or the lowest free one. -/
def bindSlot (d : Driver) (layout : Tiled) : Except Error Slot × Driver :=
  match layout.binding with
  | .locked slot _ | .kept slot true => (.ok slot, d)
  | .kept slot false => (.ok slot, d.program slot layout)
  | .unbound =>
    match d.slots.claim with
    | (.error error, slots) => (.error error, { d with slots })
    | (.ok slot, slots) => (.ok slot, { d with slots }.program slot layout)

/-- Takes note of a flush. The engine's delay is counted and goes no further. -/
def noteFlush (d : Driver) : Except Engine.Fault Unit × Engine → Driver
  | (.ok (), engine) => { d with engine }
  | (.error _, engine) =>
    { d with
      engine
      stats := { d.stats with flushFailures := d.stats.flushFailures + 1 } }

def openWindow (d : Driver) (slot : Slot) (window : Region) (direction : Direction) : Driver :=
  let d := d.noteFlush (d.engine.enableWindow slot).flush
  if direction.reads then { d with cache := d.cache ++ [⟨.invalidate, window⟩] } else d

/-- Cleans the cache over the window of a slot and ends its use. -/
def closeWindow (d : Driver) (slot : Slot) (window : Region) : Except Cache.Break Unit × Driver :=
  match d.recipe.clean window with
  | (.error why, ops) => (.error why, { d with cache := d.cache ++ ops })
  | (.ok (), ops) =>
    let d := { d with cache := d.cache ++ ops }
    (.ok (), d.noteFlush (d.engine.disableWindow slot))

def endSession (d : Driver) (slot : Slot) (window : Region) (permanent : Bool) :
    Except Cache.Break Binding × Driver :=
  match d.closeWindow slot window with
  | (.error why, d) => (.error why, d)
  | (.ok (), d) =>
    if permanent then (.ok (.kept slot true), d) else (.ok .unbound, d.releaseSlot (some slot))

def rebind (d : Driver) (handle : Handle) (surface : Surface) (layout : Tiled)
    (binding : Binding) : Driver :=
  d.put handle { surface with setup := .tiled { layout with binding } }

/-- Locks a surface. A lock on a locked surface is only counted, whatever its direction. -/
def lock (d : Driver) (handle : Handle) (direction : Direction) : Except Error Unit × Driver :=
  match d.surfaces.find? handle with
  | none => (.error (.invalid .unknownBuffer), d)
  | some surface =>
    match surface.setup with
    | .unconfigured => (.error (.invalid .attributesUnset), d)
    | .linear _ => (.error (.invalid .linearSurface), d)
    | .tiled layout =>
      match layout.binding with
      | .locked slot session =>
        if session.count < Session.maxCount then
          let session := { session with nested := session.nested + 1 }
          (.ok (), { d.rebind handle surface layout (.locked slot session) with
            stats := { d.stats with locks := d.stats.locks + 1 } })
        else (.error (.invalid .lockCountOverflow), d)
      | _ =>
        match d.bindSlot layout with
        | (.error error, d) => (.error error, d)
        | (.ok slot, d) =>
          let d := d.openWindow slot layout.window direction
          (.ok (), { d.rebind handle surface layout (.locked slot { direction }) with
            stats := { d.stats with locks := d.stats.locks + 1 } })

/-- Takes one lock away, in whatever direction. Every unlock lets fault reporting start
afresh. -/
def unlock (d : Driver) (handle : Handle) (_direction : Direction) :
    Except Failure Unit × Driver :=
  match d.surfaces.find? handle with
  | none => (.error (.refused (.invalid .unknownBuffer)), d)
  | some surface =>
    match surface.setup with
    | .tiled layout =>
      match layout.binding with
      | .locked slot session =>
        let d := { d with faults := d.faults.rearm }
        match session.nested with
        | nested + 1 =>
          (.ok (), { d.rebind handle surface layout (.locked slot { session with nested }) with
            stats := { d.stats with unlocks := d.stats.unlocks + 1 } })
        | 0 =>
          match d.endSession slot layout.window surface.permanent with
          | (.error why, d) => (.error (.broken why), d)
          | (.ok binding, d) =>
            (.ok (), { d.rebind handle surface layout binding with
              stats := { d.stats with unlocks := d.stats.unlocks + 1 } })
      | _ => (.error (.refused (.invalid .notLocked)), d)
    | _ => (.error (.refused (.invalid .notLocked)), d)

/-- Says whether a surface keeps its slot between lockings. A slot that is held for no other
reason is given back. -/
def setPermanent (d : Driver) (handle : Handle) (on : Bool) : Except Error Unit × Driver :=
  match d.surfaces.find? handle with
  | none => (.error (.invalid .unknownBuffer), d)
  | some surface =>
    let surface := { surface with permanent := on }
    match on, surface.setup with
    | false, .tiled layout =>
      match layout.binding with
      | .kept slot _ =>
        (.ok (), (d.releaseSlot (some slot)).rebind handle surface layout .unbound)
      | _ => (.ok (), d.put handle surface)
    | _, _ => (.ok (), d.put handle surface)

/-- Ends the session of a surface that is about to go, if there is one. -/
def forceUnlock (d : Driver) (surface : Surface) : Except Cache.Break Unit × Driver :=
  match surface.tiled? with
  | some layout =>
    match layout.binding with
    | .locked slot _ => d.closeWindow slot layout.window
    | _ => (.ok (), d)
  | none => (.ok (), d)

/-- Stops tracking a buffer. A locked surface is unlocked first, and all it holds is given
back. -/
def untrack (d : Driver) (handle : Handle) : Except Failure Unit × Driver :=
  match d.surfaces.find? handle with
  | none => (.error (.refused (.invalid .unknownBuffer)), d)
  | some surface =>
    match d.forceUnlock surface with
    | (.error why, d) => (.error (.broken why), d)
    | (.ok (), d) =>
      let d := d.release handle surface.holdings
      let d := { d with surfaces := d.surfaces.erase handle }.takeOffline
      (.ok (), { d with stats := { d.stats with untracked := d.stats.untracked + 1 } })

end TiledSurface.Driver
