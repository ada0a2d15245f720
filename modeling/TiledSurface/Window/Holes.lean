/-!
Free space as a list of holes in ascending order, none of them empty and no two of them touching.
Giving a range back merges it with every hole that it touches or overlaps.
-/

namespace TiledSurface

/-- The addresses from `start` up to, but not including, `stop`. -/
structure Hole where
  start : Nat
  stop : Nat
  deriving DecidableEq

namespace Hole

def size (h : Hole) : Nat := h.stop - h.start

def Contains (h : Hole) (address : Nat) : Prop := h.start ≤ address ∧ address < h.stop

/-- The least hole that covers both. -/
def hull (h k : Hole) : Hole := ⟨min h.start k.start, max h.stop k.stop⟩

end Hole

abbrev Holes : Type := List Hole

namespace Holes

/-- Holes that end before the new one stay as they are, holes that reach it are absorbed. -/
def add (new : Hole) : Holes → Holes
  | [] => [new]
  | hole :: rest =>
    if hole.stop < new.start then hole :: add new rest
    else if hole.start ≤ new.stop then add (hole.hull new) rest
    else new :: hole :: rest

/-- Takes `size` bytes from the start of the lowest hole that has as many. -/
def carve? (size : Nat) : Holes → Option (Nat × Holes)
  | [] => none
  | hole :: rest =>
    if size ≤ hole.size then
      let left : Hole := ⟨hole.start + size, hole.stop⟩
      some (hole.start, if left.start = left.stop then rest else left :: rest)
    else
      (carve? size rest).map fun (start, rest') => (start, hole :: rest')

def total : Holes → Nat
  | [] => 0
  | hole :: rest => hole.size + total rest

end Holes

end TiledSurface
