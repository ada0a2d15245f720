import TiledSurface.Engine.Command
import TiledSurface.Platform.Buffers
import TiledSurface.Platform.Cache
import TiledSurface.Platform.Hotplug

/-!
All that a driver works on: the engine, the shared buffers, the hot-plug service and the log of
cache maintenance. Commands stand for what others than the driver do to them, and for failures
that are about to happen.
-/

namespace TiledSurface

structure Platform where
  engine : Engine
  buffers : Buffers := {}
  hotplug : Hotplug := {}
  cache : List Cache.Op := []

namespace Platform

inductive Command where
  | engine (command : Engine.Command)
  | register (handle : Handle) (length : Nat)
  | failMaps (count : Nat)
  | failAttaches (count : Nat)
  | failOnlines (count : Nat)
  | failOfflines (count : Nat)
  | attach (handle : Handle)
  | detach (handle : Handle)
  | map (handle : Handle) (cpu : CpuMapping)
  | bringOnline (region : Region)
  | takeOffline (region : Region)
  | maintain (op : Cache.Op)

inductive Outcome where
  | engine (outcome : Engine.Outcome)
  | done
  | refused (error : PlatformError)
  | attached (mapping : DeviceMapping)

def Outcome.ofUnit : Except PlatformError Unit → Outcome
  | .ok () => .done
  | .error error => .refused error

def Outcome.ofAttach : Except PlatformError DeviceMapping → Outcome
  | .ok mapping => .attached mapping
  | .error error => .refused error

def step (p : Platform) : Command → Outcome × Platform
  | .engine command =>
    let (outcome, engine) := p.engine.step command
    (.engine outcome, { p with engine })
  | .register handle length => (.done, { p with buffers := p.buffers.register handle length })
  | .failMaps count => (.done, { p with buffers := { p.buffers with failingMaps := count } })
  | .failAttaches count =>
    (.done, { p with buffers := { p.buffers with failingAttaches := count } })
  | .failOnlines count => (.done, { p with hotplug := { p.hotplug with failingOnlines := count } })
  | .failOfflines count =>
    (.done, { p with hotplug := { p.hotplug with failingOfflines := count } })
  | .attach handle =>
    let (result, buffers) := p.buffers.attach handle
    (.ofAttach result, { p with buffers })
  | .detach handle => (.done, { p with buffers := p.buffers.detach handle })
  | .map handle cpu =>
    let (result, buffers) := p.buffers.map handle cpu
    (.ofUnit result, { p with buffers })
  | .bringOnline region =>
    let (result, hotplug) := p.hotplug.bringOnline region
    (.ofUnit result, { p with hotplug })
  | .takeOffline region =>
    let (result, hotplug) := p.hotplug.takeOffline region
    (.ofUnit result, { p with hotplug })
  | .maintain op => (.done, { p with cache := p.cache ++ [op] })

/-- The platform with empty logs of engine events and cache maintenance. Hot-plug transitions
stay, because their numbers are part of the state. -/
def clearLogs (p : Platform) : Platform :=
  { p with engine := p.engine.takeLog.2, cache := [] }

end Platform

end TiledSurface
