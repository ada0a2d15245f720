import TiledSurface.Descriptor.Table
import TiledSurface.Platform.Buffers
import TiledSurface.Surface.Direction

/-!
Surfaces: buffers that the driver tracks. A surface is unconfigured, linear or tiled, and only a
tiled one holds a window, a device mapping and perhaps a descriptor slot.
-/

namespace TiledSurface

/-- One locking of a surface, from the first lock to the last unlock. -/
structure Session where
  /-- The direction of the first lock. -/
  direction : Direction
  /-- The locks still held besides one. -/
  nested : Nat := 0
  deriving DecidableEq

namespace Session

def count (s : Session) : Nat := s.nested + 1

/-- Lock counts fit 32 bits. -/
def maxCount : Nat := UInt32.size - 1

end Session

/-- How a tiled surface holds a descriptor slot. -/
inductive Binding where
  | unbound
  /-- The slot is held while the surface is not locked. It is programmed if its block and its
  window in the engine are those of the present layout. -/
  | kept (slot : Slot) (programmed : Bool)
  | locked (slot : Slot) (session : Session)
  deriving DecidableEq

namespace Binding

def slot? : Binding → Option Slot
  | .unbound => none
  | .kept slot _ => some slot
  | .locked slot _ => some slot

def session? : Binding → Option Session
  | .locked _ session => some session
  | _ => none

end Binding

/-- The layout of a tiled surface, and what it holds. -/
structure Tiled where
  attributes : Attributes
  format : TileFormat
  footprint : Footprint
  descriptor : Descriptor
  window : Region
  mapping : DeviceMapping
  binding : Binding
  deriving DecidableEq

inductive Setup where
  | unconfigured
  | linear (attributes : Attributes)
  | tiled (layout : Tiled)
  deriving DecidableEq

structure Surface where
  setup : Setup := .unconfigured
  /-- The descriptor slot stays bound between lockings. -/
  permanent : Bool := false
  deriving DecidableEq

namespace Surface

def tiled? (s : Surface) : Option Tiled :=
  match s.setup with
  | .tiled layout => some layout
  | _ => none

def attributes? (s : Surface) : Option Attributes :=
  match s.setup with
  | .unconfigured => none
  | .linear attributes => some attributes
  | .tiled layout => some layout.attributes

def footprint? (s : Surface) : Option Footprint := s.tiled?.map (·.footprint)

def descriptor? (s : Surface) : Option Descriptor := s.tiled?.map (·.descriptor)

def window? (s : Surface) : Option Region := s.tiled?.map (·.window)

def mapping? (s : Surface) : Option DeviceMapping := s.tiled?.map (·.mapping)

def slot? (s : Surface) : Option Slot := s.tiled?.bind (·.binding.slot?)

def session? (s : Surface) : Option Session := s.tiled?.bind (·.binding.session?)

def lockCount (s : Surface) : Nat := (s.session?.map (·.count)).getD 0

end Surface

end TiledSurface
