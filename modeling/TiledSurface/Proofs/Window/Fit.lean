import TiledSurface.Proofs.Window.Pool

namespace TiledSurface.WindowPool

variable {pool : WindowPool} {region : Region} {own : Option Region} {size base : Nat}

/-- A range lies in the region and meets no reservation but one's own. -/
def Free (pool : WindowPool) (region : Region) (own : Option Region) (r : Region) : Prop :=
  ∀ address, r.Contains address → region.Contains address ∧
    ∀ live, pool.Reserves live → own ≠ some live → ¬ live.Contains address

def Lowest (pool : WindowPool) (region : Region) (own : Option Region) (size base : Nat) :
    Prop :=
  pool.Free region own ⟨base, size⟩ ∧ ∀ other, pool.Free region own ⟨other, size⟩ → base ≤ other

/-- Where a reservation of this size goes in exchange for one's own. -/
def Placed (pool : WindowPool) (region : Region) (own : Option Region) (size base : Nat) : Prop :=
  own = some ⟨base, size⟩ ∨
    (∀ other, own ≠ some ⟨other, size⟩) ∧ pool.Lowest region own size base

theorem Lowest.unique {base' : Nat} (one : pool.Lowest region own size base)
    (two : pool.Lowest region own size base') : base = base' :=
  Nat.le_antisymm (one.2 base' two.1) (two.2 base one.1)

theorem Placed.unique {base' : Nat} (one : pool.Placed region own size base)
    (two : pool.Placed region own size base') : base = base' := by
  rcases one with mine | ⟨other, one⟩ <;> rcases two with mine' | ⟨other', two⟩
  · cases mine.symm.trans mine'
    rfl
  · exact absurd mine (other' base)
  · exact absurd mine' (other base')
  · exact one.unique two

theorem Sound.free_iff (sound : pool.Sound region) {r : Region} :
    pool.Free region none r ↔ ∀ address, r.Contains address → pool.holes.Covers address := by
  refine forall₂_congr fun address _ => ?_
  rw [sound.covers]
  constructor
  · intro free
    obtain ⟨covered | ⟨live, reserved, inside⟩, others⟩ := free
    · exact covered
    · exact absurd inside (others live reserved nofun)
  · intro covered
    exact ⟨.inl covered, fun live reserved _ inside =>
      sound.taken live address reserved inside covered⟩

/-- A request in whole pages is granted at the lowest address, or there is no room for it. -/
theorem Sound.reserve_fits (sound : pool.Sound region) (whole : WholePages size) :
    (∃ base pool', pool.reserve size = (.ok base, pool') ∧ pool.Lowest region none size base) ∨
      pool.reserve size = (.error (.outOfSpace size), pool) ∧
        ∀ base, ¬ pool.Free region none ⟨base, size⟩ := by
  have located : ∀ base, pool.Free region none ⟨base, size⟩ →
      ∃ hole ∈ pool.holes, hole.start ≤ base ∧ base + size ≤ hole.stop := by
    intro base free
    exact Holes.hole_of_covers sound.canonical whole.1 fun address low high =>
      sound.free_iff.mp free address ⟨low, high⟩
  unfold WindowPool.reserve
  rw [whole.exact]
  dsimp only
  cases carved : pool.holes.carve? size with
  | none =>
    refine .inr ⟨rfl, fun base free => ?_⟩
    obtain ⟨hole, member, low, high⟩ := located base free
    have small := Holes.carve?_eq_none.mp carved hole member
    simp only [Hole.size] at small
    omega
  | some found =>
    obtain ⟨base, holes⟩ := found
    refine .inl ⟨base, _, rfl, ?_, fun other free => ?_⟩
    · exact sound.free_iff.mpr fun _ inside => Holes.covers_of_carve? carved inside.1 inside.2
    · obtain ⟨hole, member, low, high⟩ := located other free
      have room : size ≤ hole.stop - hole.start := by omega
      exact Nat.le_trans (Holes.carve?_lowest sound.canonical carved member room) low

theorem free_emptied {emptied : WindowPool} {r : Region}
    (gone : Exchange pool.Reserves emptied.Reserves (some r) none) {s : Region} :
    emptied.Free region none s ↔ pool.Free region (some r) s := by
  refine forall₂_congr fun address _ => and_congr_right fun _ => ?_
  simp only [gone.taken_iff, reduceCtorEq, or_false]
  constructor
  · intro others live reserved other
    exact others live ⟨reserved, other⟩ nofun
  · intro others live reserved _
    exact others live reserved.1 reserved.2

/-- One's own reservation counts as free, so it is exchanged for one at the place that there is
for the new size, and lost only for want of room. -/
theorem Sound.resize_fits (sound : pool.Sound region) {r : Region} (live : pool.Reserves r)
    (whole : WholePages size) :
    (∃ base pool', pool.resize r.base r.size size = (.ok base, pool') ∧
        pool.Placed region (some r) size base) ∨
      ∃ pool', pool.resize r.base r.size size = (.error (.outOfSpace size), pool') ∧
        ∀ base, ¬ pool.Free region (some r) ⟨base, size⟩ := by
  have positive := (sound.pages r live).1
  by_cases same : r.size = size
  · subst same
    exact .inl ⟨r.base, pool, resize_same positive r.base, .inl rfl⟩
  · obtain ⟨emptied, released, sound', gone⟩ := sound.release live
    have other : ∀ base, some r ≠ some ⟨base, size⟩ := by
      rintro base ⟨⟩
      exact same rfl
    rw [resize_released positive (Ne.symm same) released]
    rcases sound'.reserve_fits whole with ⟨base, pool', granted, free, lowest⟩ | ⟨refused, full⟩
    · refine .inl ⟨base, pool', granted, .inr ⟨other, (free_emptied gone).mp free, ?_⟩⟩
      exact fun base' free' => lowest base' ((free_emptied gone).mpr free')
    · exact .inr ⟨emptied, refused, fun base free => full base ((free_emptied gone).mpr free)⟩

theorem Sound.placed_free (sound : pool.Sound region)
    (live : ∀ r, own = some r → pool.Reserves r) (placed : pool.Placed region own size base) :
    pool.Free region own ⟨base, size⟩ := by
  rcases placed with mine | ⟨_, lowest⟩
  · intro address inside
    refine ⟨sound.contains (live _ mine) inside, fun r reserved other inside' => ?_⟩
    have different : (⟨base, size⟩ : Region) ≠ r := fun same => other (same ▸ mine)
    exact sound.disjoint _ r (live _ mine) reserved different address inside inside'
  · exact lowest.1

end TiledSurface.WindowPool
