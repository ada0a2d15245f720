import TiledSurface.Fault.Monitor
import TiledSurface.Platform.Cache
import TiledSurface.Window.Pool

namespace TiledSurface

/-- How windows are cleaned: as the engine's revision suggests, or as the name says. -/
inductive CleaningPolicy where
  | auto | bulk | perLine
  deriving DecidableEq

namespace CleaningPolicy

def all : List CleaningPolicy := [.auto, .bulk, .perLine]

def name : CleaningPolicy → String
  | .auto => "auto"
  | .bulk => "bulk"
  | .perLine => "per_line"

def ofName? (name : String) : Option CleaningPolicy := all.find? (·.name == name)

/-- Engines of major revision 1 want windows cleaned line by line. -/
def isPerLine (version : Version) : CleaningPolicy → Bool
  | .auto => version.major = 1
  | .bulk => false
  | .perLine => true

end CleaningPolicy

structure Config where
  poolBase : UInt64 := 0x100000000
  poolSize : UInt64 := 0x40000000
  /-- The device address of the descriptor table. -/
  tableBase : UInt64 := 0x80000000
  /-- The faults reported between two unlocks. -/
  reportLimit : UInt32 := 21
  /-- The fault reports kept until they are fetched. -/
  queueDepth : UInt64 := 64
  cleaning : CleaningPolicy := .auto
  cacheLineBytes : UInt64 := 64
  /-- The pause after each line, in microseconds. -/
  lineDelay : UInt64 := 89
  lines : InterruptLines := .standard
  deriving DecidableEq

namespace Config

def pool (c : Config) : Region := ⟨c.poolBase.toNat, c.poolSize.toNat⟩

/-- A condition on configurations, with the fault of those that break it. -/
structure Rule where
  fault : ConfigFault
  holds : Config → Bool

/-- The rules in the order in which they are tried. -/
def rules : List Rule :=
  [⟨.poolShape, fun c => c.poolSize ≠ 0 ∧ c.poolBase.toNat % pageSize = 0 ∧
      c.poolSize.toNat % pageSize = 0⟩,
    ⟨.poolWraps, fun c => c.pool.stop < Word.limit⟩,
    ⟨.tableAddress, fun c => c.tableBase ≠ 0⟩,
    ⟨.cacheLine, fun c => c.cacheLineBytes ≠ 0⟩,
    ⟨.sharedLines, fun c =>
      [c.lines.read, c.lines.write, c.lines.encode, c.lines.decode].Nodup⟩]

/-- Accepts a configuration that meets every rule, or gives the fault of the first one broken. -/
def check (c : Config) : Except ConfigFault Unit :=
  match rules.find? (fun rule => !rule.holds c) with
  | some rule => .error rule.fault
  | none => .ok ()

def recipe (c : Config) (version : Version) : Cache.Recipe :=
  if c.cleaning.isPerLine version then .perLine c.cacheLineBytes c.lineDelay else .bulk

end Config

end TiledSurface
