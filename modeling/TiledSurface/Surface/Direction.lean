import TiledSurface.Error

namespace TiledSurface

inductive Direction where
  | bidirectional | write | read
  deriving DecidableEq

namespace Direction

/-- The directions have the numbers that are customary for transfers. -/
def ofCode? : Nat → Except Error Direction
  | 0 => .ok .bidirectional
  | 1 => .ok .write
  | 2 => .ok .read
  | _ => .error (.invalid .unknownDirection)

def code : Direction → Nat
  | .bidirectional => 0
  | .write => 1
  | .read => 2

def name : Direction → String
  | .bidirectional => "Bidirectional"
  | .write => "Write"
  | .read => "Read"

/-- Whether the processor reads what the device produced. -/
def reads : Direction → Bool
  | .write => false
  | .bidirectional | .read => true

end Direction

end TiledSurface
