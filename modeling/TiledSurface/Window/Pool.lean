import TiledSurface.Error
import TiledSurface.OrderedMap
import TiledSurface.Window.Holes
import TiledSurface.Window.Region
import TiledSurface.Word

/-!
The pool of window addresses. Reservations are whole pages, taken from the lowest hole that is
large enough and given back only in exactly the extent in which they were taken.
-/

namespace TiledSurface

structure WindowPool where
  holes : Holes
  /-- The length of each reservation under its first address. -/
  reserved : OrderedMap Nat

namespace WindowPool

/-- A pool in which all of the region is free. -/
def spanning (region : Region) : WindowPool where
  holes := Holes.add ⟨region.base, region.stop⟩ []
  reserved := .empty

/-- The pool over a region of whole pages that stays inside 64 bits. -/
def ofRegion (region : Region) : Except Error WindowPool :=
  if region.size = 0 ∨ region.base % pageSize ≠ 0 ∨ region.size % pageSize ≠ 0 then
    .error (.invalidConfig .poolShape)
  else if Word.limit ≤ region.stop then
    .error (.invalidConfig .poolWraps)
  else .ok (spanning region)

/-- A request in whole pages. A size that cannot be rounded fits no pool. -/
def wholePages (size : Nat) : Except Error Nat :=
  if size = 0 then .error (.invalid .zeroSized)
  else match Word.roundUp? size pageSize with
    | some length => .ok length
    | none => .error (.outOfSpace size)

/-- Reserves room for `size` bytes at the lowest address where there is enough of it. -/
def reserve (pool : WindowPool) (size : Nat) : Except Error Nat × WindowPool :=
  match wholePages size with
  | .error error => (.error error, pool)
  | .ok length =>
    match pool.holes.carve? length with
    | none => (.error (.outOfSpace length), pool)
    | some (base, holes) => (.ok base, ⟨holes, pool.reserved.insert base length⟩)

/-- Gives a reservation back. The address and the rounded size must be those of a live one. -/
def release (pool : WindowPool) (base size : Nat) : Except Error Unit × WindowPool :=
  match wholePages size with
  | .error error => (.error error, pool)
  | .ok length =>
    if pool.reserved.find? base = some length then
      (.ok (), ⟨pool.holes.add ⟨base, base + length⟩, pool.reserved.erase base⟩)
    else (.error (.invalid .notReserved), pool)

/-- Exchanges a reservation for one of another size. An equal size keeps the address. Otherwise
the old range is given back first, so that the new one may use it, and stays given back when
there is no room. No old size means that there is no old reservation. -/
def resize (pool : WindowPool) (base oldSize newSize : Nat) : Except Error Nat × WindowPool :=
  if oldSize = 0 then pool.reserve newSize
  else if oldSize = newSize then (.ok base, pool)
  else match pool.release base oldSize with
    | (.error error, unchanged) => (.error error, unchanged)
    | (.ok (), emptied) => emptied.reserve newSize

def available (pool : WindowPool) : Nat := pool.holes.total

def reservations (pool : WindowPool) : List Region :=
  pool.reserved.entries.map fun (base, size) => ⟨base, size⟩

end WindowPool

end TiledSurface
