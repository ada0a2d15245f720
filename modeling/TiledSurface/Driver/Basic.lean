import TiledSurface.Config
import TiledSurface.Driver.Stats
import TiledSurface.Platform.Basic
import TiledSurface.Surface.Basic

namespace TiledSurface

structure Driver extends Platform where
  config : Config
  surfaces : OrderedMap Surface := .empty
  /-- The window addresses have been brought online. -/
  online : Bool := false
  pool : WindowPool
  slots : SlotTable := .fresh
  faults : FaultMonitor
  stats : Stats := {}

namespace Driver

def lengthUnit (d : Driver) : LengthUnit := .ofVersion d.engine.version

def recipe (d : Driver) : Cache.Recipe := d.config.recipe d.engine.version

def switchInterrupts (e : Engine) (on : Bool) : Engine :=
  FaultKind.all.foldl (fun e kind => e.enableInterrupt kind on) e

/-- Checks the configuration and the engine's revision, then installs the descriptor table and
enables the fault interrupts. A refusal leaves the platform as the second component says. -/
def bringUp (config : Config) (platform : Platform) : Except (Error × Platform) Driver :=
  match config.check with
  | .error fault => .error (.invalidConfig fault, platform)
  | .ok () =>
    if platform.engine.version.major = 0 then
      .error (.unsupportedHardware platform.engine.version, platform)
    else
      match WindowPool.ofRegion config.pool with
      | .error error => .error (error, platform)
      | .ok pool =>
        let engine := platform.engine.setTable config.tableBase.toNat blockSize
        .ok { platform with
          engine := switchInterrupts engine true
          config
          pool
          faults := {
            lines := config.lines
            limit := config.reportLimit
            depth := config.queueDepth.toNat } }

/-- Disables the interrupts and takes the descriptor table away. What is left is the platform. -/
def shutDown (d : Driver) : Platform :=
  { d.toPlatform with engine := (switchInterrupts d.engine false).setTable 0 0 }

/-- Serves an interrupt on one of the engine's lines. -/
def interrupt (d : Driver) (line : UInt32) : Option FaultKind × Driver :=
  let (kind, faults, engine) := d.faults.interrupt d.engine line
  (kind, { d with faults, engine })

def takeReports (d : Driver) : List FaultReport × Driver :=
  let (reports, faults) := d.faults.takeReports
  (reports, { d with faults })

end Driver

end TiledSurface
