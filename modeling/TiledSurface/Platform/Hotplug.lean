import TiledSurface.Error
import TiledSurface.Window.Region

namespace TiledSurface

structure Hotplug.Event where
  online : Bool
  region : Region
  deriving DecidableEq

structure Hotplug where
  online : Bool := false
  failingOnlines : Nat := 0
  failingOfflines : Nat := 0
  events : List Hotplug.Event := []

namespace Hotplug

def bringOnline (h : Hotplug) (region : Region) : Except PlatformError Unit × Hotplug :=
  match h.failingOnlines with
  | failures + 1 => (.error (.rejected .online), { h with failingOnlines := failures })
  | 0 => (.ok (), { h with online := true, events := h.events ++ [⟨true, region⟩] })

def takeOffline (h : Hotplug) (region : Region) : Except PlatformError Unit × Hotplug :=
  match h.failingOfflines with
  | failures + 1 => (.error (.rejected .offline), { h with failingOfflines := failures })
  | 0 => (.ok (), { h with online := false, events := h.events ++ [⟨false, region⟩] })

def onlines (h : Hotplug) : Nat := h.events.countP (·.online)

def offlines (h : Hotplug) : Nat := h.events.countP fun event => !event.online

end Hotplug

end TiledSurface
