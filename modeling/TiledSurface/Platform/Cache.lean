import TiledSurface.Window.Region
import TiledSurface.Word

namespace TiledSurface

namespace Cache

/-- Invalidation drops lines so that later reads see the device's data; cleaning writes dirty
lines back. -/
inductive Action where
  | invalidate | clean
  deriving DecidableEq

structure Op where
  action : Action
  region : Region
  deriving DecidableEq

/-- How a window is cleaned when its last lock is released. -/
inductive Recipe where
  | bulk
  | perLine (lineBytes delay : UInt64)
  deriving DecidableEq

/-- What keeps cleaning from coming to its end: a sum that does not fit 64 bits, or lines of no
bytes. -/
inductive Break where
  | overflow | endless
  deriving DecidableEq

/-- Cleans line by line from `start` on until `stop` is reached, with the last line cut there. The
address of the next line is computed behind the last one too. What is done already is listed latest
first. -/
def sweep (line stop start : Nat) (done : List Op) : Except Break Unit × List Op :=
  if start < stop then
    if line = 0 then (.error .endless, done.reverse)
    else
      let done := ⟨.clean, ⟨start, min line (stop - start)⟩⟩ :: done
      if start + line < Word.limit then sweep line stop (start + line) done
      else (.error .overflow, done.reverse)
  else (.ok (), done.reverse)
termination_by stop - start
decreasing_by omega

/-- Cleans a region, all of it at once or line by line. -/
def Recipe.clean (region : Region) : Recipe → Except Break Unit × List Op
  | .bulk => (.ok (), [⟨.clean, region⟩])
  | .perLine line _ =>
    if region.stop < Word.limit then sweep line.toNat region.stop region.base []
    else (.error .overflow, [])

/-- `count` operations of one kind and size, each starting where the one before ends. -/
structure Run where
  action : Action
  region : Region
  count : Nat
  deriving DecidableEq

namespace Run

def Continues (run : Run) (op : Op) : Prop :=
  op.action = run.action ∧ op.region.size = run.region.size ∧
    op.region.base = run.region.base + run.region.size * run.count

instance (run : Run) (op : Op) : Decidable (run.Continues op) :=
  inferInstanceAs (Decidable (_ ∧ _ ∧ _))

/-- Adds an operation to runs that are listed latest first. -/
def add (runs : List Run) (op : Op) : List Run :=
  match runs with
  | run :: earlier =>
    if run.Continues op then { run with count := run.count + 1 } :: earlier
    else ⟨op.action, op.region, 1⟩ :: runs
  | [] => [⟨op.action, op.region, 1⟩]

def ofOps (ops : List Op) : List Run := (ops.foldl add []).reverse

end Run

end Cache

end TiledSurface
