import Mathlib.Algebra.GroupWithZero.Nat
import Mathlib.Order.Interval.Finset.Nat
import TiledSurface.Proofs.Window.Pool
import TiledSurface.Window.Command

namespace TiledSurface

namespace Region

def addresses : List Region → Finset Nat
  | [] => ∅
  | r :: rest => Finset.Ico r.base r.stop ∪ addresses rest

theorem mem_addresses {regions : List Region} {address : Nat} :
    address ∈ addresses regions ↔ ∃ r ∈ regions, r.Contains address := by
  induction regions with
  | nil => simp [addresses]
  | cons r rest ih => simp [addresses, ih, Contains]

theorem card_addresses {regions : List Region} (disjoint : regions.Pairwise Disjoint) :
    (addresses regions).card = (regions.map size).sum := by
  induction regions with
  | nil => rfl
  | cons r rest ih =>
    have ⟨apart, later⟩ := List.pairwise_cons.mp disjoint
    have none : ∀ ⦃address⦄, address ∈ Finset.Ico r.base r.stop → address ∉ addresses rest := by
      intro address inside inside'
      obtain ⟨s, member, contains⟩ := mem_addresses.mp inside'
      exact apart s member address (Finset.mem_Ico.mp inside) contains
    rw [addresses, Finset.card_union_of_disjoint (Finset.disjoint_left.mpr none), ih later,
      Nat.card_Ico, stop, Nat.add_sub_cancel_left, List.map_cons, List.sum_cons]

theorem sum_size {region : Region} {regions : List Region} (disjoint : regions.Pairwise Disjoint)
    (covers : ∀ address, region.Contains address ↔ ∃ r ∈ regions, r.Contains address) :
    (regions.map size).sum = region.size := by
  have same : addresses regions = Finset.Ico region.base region.stop := by
    ext address
    rw [mem_addresses, ← covers, Finset.mem_Ico, Contains]
  rw [← card_addresses disjoint, same, Nat.card_Ico, stop, Nat.add_sub_cancel_left]

end Region

/-- A hole by its start and its length. -/
def Hole.region (h : Hole) : Region := ⟨h.start, h.size⟩

theorem Hole.contains_region {h : Hole} {address : Nat} :
    h.region.Contains address ↔ h.Contains address := by
  simp only [region, Region.Contains, Region.stop, Contains, size]
  omega

theorem Holes.Canonical.alone {holes : Holes} (canonical : Canonical holes) {h k : Hole}
    {address : Nat} (free : h ∈ holes) (free' : k ∈ holes) (inside : h.Contains address)
    (inside' : k.Contains address) : h = k := by
  by_contra different
  have symm : Std.Symm fun h k : Hole => h.stop < k.start ∨ k.stop < h.start :=
    ⟨fun _ _ => Or.symm⟩
  have ordered : holes.Pairwise fun h k => h.stop < k.start ∨ k.stop < h.start :=
    canonical.apart.imp Or.inl
  have apart := ordered.forall free free' different
  simp only [Hole.Contains] at inside inside'
  omega

theorem Holes.total_eq_sum (holes : Holes) :
    holes.total = ((holes.map Hole.region).map Region.size).sum := by
  induction holes with
  | nil => rfl
  | cons hole rest ih => rw [total, ih, List.map_cons, List.map_cons, List.sum_cons, Hole.region]

namespace WindowPool

structure Partitioned (pool : WindowPool) (region : Region) : Prop where
  pages : ∀ r ∈ pool.reservations, 0 < r.size ∧ pageSize ∣ r.base ∧ pageSize ∣ r.size
  disjoint : pool.reservations.Pairwise Region.Disjoint
  nonempty : ∀ hole ∈ pool.holes, hole.start < hole.stop
  /-- The holes are in ascending order, and no two of them touch. -/
  apart : pool.holes.Pairwise fun h k => h.stop < k.start
  reservationsInside : ∀ r ∈ pool.reservations, region.base ≤ r.base ∧ r.stop ≤ region.stop
  holesInside : ∀ hole ∈ pool.holes, region.base ≤ hole.start ∧ hole.stop ≤ region.stop
  /-- Each address is free or reserved, and that once. -/
  once : ∀ address, region.Contains address →
    (∃! hole, hole ∈ pool.holes ∧ hole.Contains address) ∧
        (∀ r ∈ pool.reservations, ¬ r.Contains address) ∨
      (∃! r, r ∈ pool.reservations ∧ r.Contains address) ∧
        ∀ hole ∈ pool.holes, ¬ hole.Contains address
  total : pool.available + (pool.reservations.map Region.size).sum = region.size

variable {pool : WindowPool} {region : Region}

namespace Sound

theorem apart (sound : pool.Sound region) {hole : Hole} {r : Region} {address : Nat}
    (free : hole ∈ pool.holes) (live : r ∈ pool.reservations) (inside : hole.Contains address) :
    ¬ r.Contains address :=
  fun inside' => sound.taken r address (mem_reservations.mp live) inside' ⟨hole, free, inside⟩

theorem alone (sound : pool.Sound region) {r s : Region} {address : Nat}
    (live : r ∈ pool.reservations) (live' : s ∈ pool.reservations) (inside : r.Contains address)
    (inside' : s.Contains address) : r = s := by
  by_contra different
  exact sound.disjoint r s (mem_reservations.mp live) (mem_reservations.mp live') different
    address inside inside'

theorem once (sound : pool.Sound region) {address : Nat} (contains : region.Contains address) :
    (∃! hole, hole ∈ pool.holes ∧ hole.Contains address) ∧
        (∀ r ∈ pool.reservations, ¬ r.Contains address) ∨
      (∃! r, r ∈ pool.reservations ∧ r.Contains address) ∧
        ∀ hole ∈ pool.holes, ¬ hole.Contains address := by
  rcases (sound.covers address).mp contains with ⟨hole, free, inside⟩ | ⟨r, reserved, inside⟩
  · refine .inl ⟨⟨hole, ⟨free, inside⟩, ?_⟩, fun r live => sound.apart free live inside⟩
    intro other given
    exact sound.canonical.alone given.1 free given.2 inside
  · have live := mem_reservations.mpr reserved
    refine .inr ⟨⟨r, ⟨live, inside⟩, ?_⟩, fun hole free inside' =>
      sound.apart free live inside' inside⟩
    intro other given
    exact sound.alone given.1 live given.2 inside

/-- The sizes of all holes and reservations are those of disjoint regions that share the pool's
region out. -/
theorem total (sound : pool.Sound region) :
    pool.available + (pool.reservations.map Region.size).sum = region.size := by
  have disjoint :
      (pool.holes.map Hole.region ++ pool.reservations).Pairwise Region.Disjoint := by
    refine List.pairwise_append.mpr ⟨List.pairwise_map.mpr ?_, sound.pairwise_disjoint, ?_⟩
    · refine sound.canonical.apart.imp ?_
      intro hole later before address inside inside'
      have below := (Hole.contains_region.mp inside).2
      have above := (Hole.contains_region.mp inside').1
      omega
    · intro free member r live address inside
      obtain ⟨hole, found, rfl⟩ := List.mem_map.mp member
      exact sound.apart found live (Hole.contains_region.mp inside)
  have covers : ∀ address, region.Contains address ↔
      ∃ r ∈ pool.holes.map Hole.region ++ pool.reservations, r.Contains address := by
    intro address
    rw [sound.covers address]
    constructor
    · intro either
      rcases either with ⟨hole, free, inside⟩ | ⟨r, live, inside⟩
      · have member : hole.region ∈ pool.holes.map Hole.region := List.mem_map_of_mem free
        exact ⟨hole.region, List.mem_append_left _ member, Hole.contains_region.mpr inside⟩
      · exact ⟨r, List.mem_append_right _ (mem_reservations.mpr live), inside⟩
    · intro given
      obtain ⟨r, member, inside⟩ := given
      rcases List.mem_append.mp member with free | live
      · obtain ⟨hole, found, rfl⟩ := List.mem_map.mp free
        exact .inl ⟨hole, found, Hole.contains_region.mp inside⟩
      · exact .inr ⟨r, mem_reservations.mp live, inside⟩
  have sum := Region.sum_size disjoint covers
  rwa [List.map_append, List.sum_append, ← Holes.total_eq_sum] at sum

theorem ends {start stop : Nat} (nonempty : start < stop)
    (contains : ∀ address, start ≤ address → address < stop → region.Contains address) :
    region.base ≤ start ∧ stop ≤ region.stop := by
  have first := (contains start (Nat.le_refl _) nonempty).1
  have last := (contains (stop - 1) (by omega) (by omega)).2
  exact ⟨first, by omega⟩

theorem partitioned (sound : pool.Sound region) : pool.Partitioned region where
  pages := fun r live => sound.pages r (mem_reservations.mp live)
  disjoint := sound.pairwise_disjoint
  nonempty := sound.canonical.nonempty
  apart := sound.canonical.apart
  reservationsInside := by
    intro r member
    have live := mem_reservations.mp member
    have positive := (sound.pages r live).1
    refine ends (by simp only [Region.stop]; omega) fun address above below => ?_
    exact sound.contains live ⟨above, below⟩
  holesInside := by
    intro hole member
    refine ends (sound.canonical.nonempty hole member) fun address above below => ?_
    exact (sound.covers address).mpr (.inl ⟨hole, member, above, below⟩)
  once := fun _ contains => sound.once contains
  total := sound.total

end Sound

theorem release_rounded {size length : Nat} (rounded : wholePages size = .ok length)
    (base : Nat) : pool.release base size = pool.release base length := by
  simp only [release, rounded, (wholePages_eq_ok rounded).exact]

namespace Sound

theorem release_cases (sound : pool.Sound region) (base size : Nat) :
    (∃ error, pool.release base size = (.error error, pool)) ∨
      ∃ length pool', wholePages size = .ok length ∧ pool.Reserves ⟨base, length⟩ ∧
        pool.release base size = (.ok (), pool') ∧ pool'.Sound region ∧
        Exchange pool.Reserves pool'.Reserves (some ⟨base, length⟩) none := by
  cases rounded : wholePages size with
  | error error => exact .inl ⟨error, by simp only [WindowPool.release, rounded]⟩
  | ok length =>
    by_cases live : pool.Reserves ⟨base, length⟩
    · obtain ⟨pool', released, rest⟩ := sound.release live
      exact .inr ⟨length, pool', rfl, live, (release_rounded rounded base).trans released, rest⟩
    · refine .inl ⟨.invalid .notReserved, ?_⟩
      rw [Reserves] at live
      simp only [WindowPool.release, rounded, if_neg live]

theorem reserve_sound (sound : pool.Sound region) (size : Nat) :
    (pool.reserve size).2.Sound region := by
  rcases sound.reserve size with ⟨error, refused⟩ | ⟨_, _, pool', _, granted, sound', _⟩
  · rw [refused]
    exact sound
  · rw [granted]
    exact sound'

theorem release_sound (sound : pool.Sound region) (base size : Nat) :
    (pool.release base size).2.Sound region := by
  rcases sound.release_cases base size with ⟨error, refused⟩ | ⟨_, pool', _, _, done, sound', _⟩
  · rw [refused]
    exact sound
  · rw [done]
    exact sound'

/-- A resize is a release, a reservation, both, or nothing. -/
theorem step (sound : pool.Sound region) (command : Command) :
    (pool.step command).2.Sound region := by
  cases command with
  | reserve size => exact sound.reserve_sound size
  | release base size => exact sound.release_sound base size
  | resize base oldSize newSize =>
    dsimp only [WindowPool.step]
    unfold WindowPool.resize
    split
    · exact sound.reserve_sound newSize
    · split
      · exact sound
      · have sound' := sound.release_sound base oldSize
        split
        · rename_i released
          rw [released] at sound'
          exact sound'
        · rename_i emptied released
          rw [released] at sound'
          exact sound'.reserve_sound newSize

theorem run (sound : pool.Sound region) (commands : List Command) :
    (pool.run commands).Sound region := by
  induction commands generalizing pool with
  | nil => exact sound
  | cons command rest ih => exact ih (sound.step command)

end Sound

/-- After any requests to a pool that was made for a region, holes and reservations share that
region out. -/
theorem run_partitioned (made : ofRegion region = .ok pool) (commands : List Command) :
    (pool.run commands).Partitioned region :=
  ((sound_of_ofRegion made).1.run commands).partitioned

/-- Among the requests are a release of what nobody reserved and a resize. -/
def shortHistory : List Command :=
  [.reserve 1, .reserve 0x2000, .release 0x1000 1, .release 0 4095, .resize 0x2000 0x2000 0x1000]

/-- At the end of the short history one page is reserved, the first of the region. -/
theorem run_partitioned_shortHistory :
    ∃ pool, ofRegion ⟨0x1000, 0x4000⟩ = .ok pool ∧
      (pool.run shortHistory).reservations = [⟨0x1000, 0x1000⟩] ∧
      (pool.run shortHistory).Partitioned ⟨0x1000, 0x4000⟩ := by
  have made : ofRegion ⟨0x1000, 0x4000⟩ = .ok (spanning ⟨0x1000, 0x4000⟩) := rfl
  exact ⟨_, made, by decide, run_partitioned made shortHistory⟩

end WindowPool

end TiledSurface
