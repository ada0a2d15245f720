namespace TiledSurface

structure Region where
  base : Nat
  size : Nat
  deriving DecidableEq

namespace Region

/-- The first address past the range. -/
def stop (r : Region) : Nat := r.base + r.size

def Contains (r : Region) (address : Nat) : Prop := r.base ≤ address ∧ address < r.stop

instance (r : Region) (address : Nat) : Decidable (r.Contains address) :=
  inferInstanceAs (Decidable (_ ∧ _))

end Region

end TiledSurface
