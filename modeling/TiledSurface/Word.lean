/-!
Sizes and addresses are natural numbers that have to fit 64 bits. Sums, products and roundings
that leave that range answer `none`.
-/

namespace TiledSurface

/-- Planes, windows and reservations take whole pages. -/
def pageSize : Nat := 4096

/-- The engine knows strides and fault addresses by cache lines of this many bytes. -/
def cacheLineSize : Nat := 64

namespace Word

/-- The first number that does not fit 64 bits. -/
abbrev limit : Nat := UInt64.size

/-- The number itself, if it fits 64 bits. -/
def fit? (n : Nat) : Option Nat :=
  if n < limit then some n else none

def add? (a b : Nat) : Option Nat := fit? (a + b)

def mul? (a b : Nat) : Option Nat := fit? (a * b)

/-- The number of pieces of size `d` that cover `n`. -/
def ceilDiv (n d : Nat) : Nat := (n + (d - 1)) / d

/-- What is missing from `value` to a multiple of `alignment`. -/
def padding (value alignment : Nat) : Nat := (alignment - value % alignment) % alignment

/-- The least multiple of `alignment` from `value` on. The alignment need not be a power of two,
and zero has no multiple to offer. -/
def roundUp? (value alignment : Nat) : Option Nat :=
  if alignment = 0 then none else fit? (value + padding value alignment)

theorem fit?_eq_some_iff {n m : Nat} : fit? n = some m ↔ n < limit ∧ n = m := by
  simp [fit?]

theorem fit?_eq_none_iff {n : Nat} : fit? n = none ↔ limit ≤ n := by
  simp [fit?]

end Word

end TiledSurface
