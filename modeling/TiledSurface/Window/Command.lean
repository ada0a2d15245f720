import TiledSurface.Window.Pool

namespace TiledSurface.WindowPool

inductive Command where
  | reserve (size : Nat)
  | release (base size : Nat)
  | resize (base oldSize newSize : Nat)

inductive Outcome where
  | reserved (base : Nat)
  | released
  | refused (error : Error)

def Outcome.ofBase : Except Error Nat → Outcome
  | .ok base => .reserved base
  | .error error => .refused error

def Outcome.ofUnit : Except Error Unit → Outcome
  | .ok () => .released
  | .error error => .refused error

def step (pool : WindowPool) : Command → Outcome × WindowPool
  | .reserve size =>
    let (result, pool) := pool.reserve size
    (.ofBase result, pool)
  | .release base size =>
    let (result, pool) := pool.release base size
    (.ofUnit result, pool)
  | .resize base oldSize newSize =>
    let (result, pool) := pool.resize base oldSize newSize
    (.ofBase result, pool)

def run (pool : WindowPool) (commands : List Command) : WindowPool :=
  commands.foldl (fun pool command => (pool.step command).2) pool

end TiledSurface.WindowPool
