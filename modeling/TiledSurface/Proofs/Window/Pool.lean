import TiledSurface.Proofs.Ledger
import TiledSurface.Proofs.Window.Holes
import TiledSurface.Proofs.Word
import TiledSurface.Window.Pool

/-!
The pool of window addresses splits its region between holes and live reservations: every address
of the region is free or belongs to exactly one reservation. Each operation keeps the split and
changes the set of reservations in the one way that its answer says.
-/

namespace TiledSurface

namespace Region

def Disjoint (r s : Region) : Prop := ∀ address, r.Contains address → ¬ s.Contains address

theorem Disjoint.symm {r s : Region} (disjoint : r.Disjoint s) : s.Disjoint r :=
  fun address inside inside' => disjoint address inside' inside

theorem contains_base {r : Region} (nonempty : 0 < r.size) : r.Contains r.base :=
  ⟨Nat.le_refl _, Nat.lt_add_of_pos_right nonempty⟩

end Region

namespace WindowPool

def WholePages (size : Nat) : Prop := 0 < size ∧ pageSize ∣ size ∧ size < Word.limit

theorem wholePages_eq_ok {size length : Nat} (rounded : wholePages size = .ok length) :
    WholePages length := by
  unfold wholePages at rounded
  split at rounded
  · simp at rounded
  · rename_i nonzero
    split at rounded
    · rename_i found
      cases Except.ok.inj rounded
      obtain ⟨_, fits, multiple, above, _⟩ := Word.roundUp?_eq_some_iff.mp found
      exact ⟨by omega, multiple, fits⟩
    · simp at rounded

theorem WholePages.exact {size : Nat} (whole : WholePages size) : wholePages size = .ok size := by
  obtain ⟨positive, multiple, fits⟩ := whole
  have same := Word.roundUp?_of_dvd (by decide : 0 < pageSize) multiple fits
  simp only [wholePages, same]
  rw [if_neg (by omega)]

def Reserves (pool : WindowPool) (r : Region) : Prop := pool.reserved.find? r.base = some r.size

theorem mem_reservations {pool : WindowPool} {r : Region} :
    r ∈ pool.reservations ↔ pool.Reserves r := by
  rw [Reserves, OrderedMap.find?_eq_some_iff]
  constructor
  · intro member
    obtain ⟨⟨base, size⟩, entry, rfl⟩ := List.mem_map.mp member
    exact entry
  · intro entry
    exact List.mem_map.mpr ⟨(r.base, r.size), entry, rfl⟩

/-- The holes and the reservations of a pool split its region. -/
structure Sound (pool : WindowPool) (region : Region) : Prop where
  nonempty : 0 < region.size
  bounded : region.stop < Word.limit
  canonical : pool.holes.Canonical
  aligned : ∀ hole ∈ pool.holes, pageSize ∣ hole.start ∧ pageSize ∣ hole.stop
  pages : ∀ r, pool.Reserves r → 0 < r.size ∧ pageSize ∣ r.base ∧ pageSize ∣ r.size
  covers : ∀ address, region.Contains address ↔
    pool.holes.Covers address ∨ ∃ r, pool.Reserves r ∧ r.Contains address
  taken : ∀ r address, pool.Reserves r → r.Contains address → ¬ pool.holes.Covers address
  disjoint : ∀ r s, pool.Reserves r → pool.Reserves s → r ≠ s → r.Disjoint s

section

variable {pool : WindowPool} {region : Region}

theorem Sound.contains (sound : pool.Sound region) {r : Region} (live : pool.Reserves r)
    {address : Nat} (inside : r.Contains address) : region.Contains address :=
  (sound.covers address).mpr (.inr ⟨r, live, inside⟩)

theorem Sound.stop_lt (sound : pool.Sound region) {r : Region} (live : pool.Reserves r) :
    r.stop < Word.limit := by
  have positive := (sound.pages r live).1
  have last : r.Contains (r.stop - 1) := by
    simp only [Region.Contains, Region.stop]
    omega
  have below : r.stop - 1 < region.stop := (sound.contains live last).2
  have := sound.bounded
  omega

theorem Sound.whole (sound : pool.Sound region) {r : Region} (live : pool.Reserves r) :
    WholePages r.size := by
  obtain ⟨positive, _, multiple⟩ := sound.pages r live
  exact ⟨positive, multiple, Nat.lt_of_le_of_lt (Nat.le_add_left ..) (sound.stop_lt live)⟩

theorem Sound.base_ne (sound : pool.Sound region) {r : Region} (live : pool.Reserves r)
    {address : Nat} (free : pool.holes.Covers address) : r.base ≠ address := by
  rintro rfl
  exact sound.taken r _ live (Region.contains_base (sound.pages r live).1) free

theorem Sound.pairwise_disjoint (sound : pool.Sound region) :
    pool.reservations.Pairwise Region.Disjoint := by
  refine List.pairwise_map.mpr (pool.reserved.ascending.imp_of_mem ?_)
  intro entry later member member' below
  have live : pool.Reserves ⟨entry.1, entry.2⟩ := OrderedMap.find?_eq_some_iff.mpr member
  have live' : pool.Reserves ⟨later.1, later.2⟩ := OrderedMap.find?_eq_some_iff.mpr member'
  apply sound.disjoint _ _ live live'
  intro same
  exact Nat.ne_of_lt below (congrArg Region.base same)

theorem sound_spanning (positive : 0 < region.size) (base : pageSize ∣ region.base)
    (size : pageSize ∣ region.size) (bounded : region.stop < Word.limit) :
    (spanning region).Sound region := by
  have nothing : ∀ r, ¬ (spanning region).Reserves r := by simp [Reserves, spanning]
  refine ⟨positive, bounded, ?_, ?_, ?_, ?_, ?_, ?_⟩
  · exact Holes.canonical_add Holes.canonical_nil (Nat.lt_add_of_pos_right positive)
  · exact Holes.ends_of_mem_add ⟨base, Nat.dvd_add base size⟩ (by simp)
  · exact fun r live => absurd live (nothing r)
  · intro address
    have covered := Holes.covers_add ⟨region.base, region.stop⟩ [] address
    simp only [Holes.not_covers_nil, or_false] at covered
    simp only [nothing, false_and, exists_false, or_false]
    exact covered.symm
  · exact fun r _ live => absurd live (nothing r)
  · exact fun r _ live => absurd live (nothing r)

/-- Every region that a pool is made for is in whole pages, and the pool starts out sound. -/
theorem sound_of_ofRegion (made : ofRegion region = .ok pool) :
    pool.Sound region ∧ pool = spanning region := by
  unfold ofRegion at made
  split at made
  · simp at made
  · rename_i shape
    split at made
    · simp at made
    · rename_i bounded
      cases Except.ok.inj made
      refine ⟨sound_spanning ?_ ?_ ?_ ?_, rfl⟩ <;> simp only [pageSize] at * <;> omega

theorem Sound.covers_iff (sound : pool.Sound region) (address : Nat) :
    pool.holes.Covers address ↔
      region.Contains address ∧ ∀ r, pool.Reserves r → ¬ r.Contains address := by
  constructor
  · intro covered
    exact ⟨(sound.covers address).mpr (.inl covered), fun r live inside =>
      sound.taken r address live inside covered⟩
  · intro alone
    rcases (sound.covers address).mp alone.1 with covered | ⟨r, live, inside⟩
    · exact covered
    · exact absurd inside (alone.2 r live)

/-- The live reservations tell the pool, whatever was asked of it before. -/
theorem Sound.ext {pool' : WindowPool} (sound : pool.Sound region) (sound' : pool'.Sound region)
    (same : ∀ r, pool.Reserves r ↔ pool'.Reserves r) : pool = pool' := by
  have holes : pool.holes = pool'.holes := by
    refine Holes.Canonical.ext sound.canonical sound'.canonical fun address => ?_
    rw [sound.covers_iff, sound'.covers_iff]
    simp only [same]
  have reserved : pool.reserved = pool'.reserved := by
    apply OrderedMap.ext_find?
    intro key
    apply Option.ext
    intro size
    exact same ⟨key, size⟩
  cases pool
  cases pool'
  cases holes
  cases reserved
  rfl

theorem Sound.eq_spanning (sound : pool.Sound region)
    (nothing : ∀ r, ¬ pool.Reserves r) : pool = spanning region := by
  have holes : pool.holes = (spanning region).holes := by
    refine Holes.Canonical.ext sound.canonical ?_ fun address => ?_
    · exact Holes.canonical_add Holes.canonical_nil (Nat.lt_add_of_pos_right sound.nonempty)
    · rw [sound.covers_iff, spanning, Holes.covers_add]
      simp only [nothing, Holes.not_covers_nil, false_implies, implies_true, and_true, or_false]
      exact Iff.rfl
  have reserved : pool.reserved = (spanning region).reserved := by
    apply OrderedMap.ext_find?
    intro key
    cases found : pool.reserved.find? key with
    | none => rfl
    | some size => exact absurd found (nothing ⟨key, size⟩)
  cases pool
  simp_all [spanning]

private theorem reserves_insert (holes : Holes) (new : Region)
    (fresh : ∀ r, pool.Reserves r → r.base ≠ new.base) (r : Region) :
    Reserves ⟨holes, pool.reserved.insert new.base new.size⟩ r ↔ pool.Reserves r ∨ r = new := by
  simp only [Reserves, OrderedMap.find?_insert]
  split
  · rename_i same
    constructor
    · intro size
      have sizes : new.size = r.size := Option.some.inj size
      cases r
      cases new
      simp_all
    · intro either
      rcases either with live | rfl
      · exact absurd same (fresh r live)
      · rfl
  · rename_i other
    exact ⟨.inl, fun known => known.resolve_right fun eq => other (by rw [eq])⟩

private theorem reserves_erase (holes : Holes) {old : Region} (live : pool.Reserves old)
    (r : Region) :
    Reserves ⟨holes, pool.reserved.erase old.base⟩ r ↔ pool.Reserves r ∧ r ≠ old := by
  simp only [Reserves, OrderedMap.find?_erase]
  split
  · rename_i same
    refine ⟨by simp, fun ⟨found, different⟩ => absurd ?_ different⟩
    have sizes : r.size = old.size := Option.some.inj (found.symm.trans (same ▸ live))
    cases r
    cases old
    simp_all
  · rename_i other
    exact ⟨fun found => ⟨found, fun eq => other (by rw [eq])⟩, fun found => found.1⟩

private theorem Sound.take (sound : pool.Sound region) {length base : Nat} {holes : Holes}
    (whole : WholePages length) (carved : pool.holes.carve? length = some (base, holes)) :
    let pool' : WindowPool := ⟨holes, pool.reserved.insert base length⟩
    pool'.Sound region ∧ Exchange pool.Reserves pool'.Reserves none (some ⟨base, length⟩) := by
  intro pool'
  obtain ⟨positive, multiple, _⟩ := whole
  have free : ∀ address, (Region.mk base length).Contains address → pool.holes.Covers address :=
    fun _ inside => Holes.covers_of_carve? carved inside.1 inside.2
  have fresh : ∀ r, pool.Reserves r → r.base ≠ base := fun r live =>
    sound.base_ne live (free _ (Region.contains_base positive))
  obtain ⟨source, member, rfl, _⟩ := Holes.hole_of_carve? carved
  have live_iff : ∀ r, pool'.Reserves r ↔ pool.Reserves r ∨ r = ⟨source.start, length⟩ :=
    reserves_insert holes ⟨source.start, length⟩ fresh
  have covers := Holes.covers_carve? sound.canonical carved
  have apart : ∀ r, pool.Reserves r → r.Disjoint ⟨source.start, length⟩ :=
    fun r live address inside inside' => sound.taken r address live inside (free address inside')
  have exchange : Exchange pool.Reserves pool'.Reserves none (some ⟨source.start, length⟩) := by
    refine ⟨fun r => by simpa [eq_comm] using live_iff r, ?_⟩
    intro r came live
    cases Option.some.inj came
    exact absurd rfl (fresh _ live)
  refine ⟨⟨sound.nonempty, sound.bounded, ?_, ?_, ?_, ?_, ?_, ?_⟩, exchange⟩
  · exact Holes.canonical_carve? sound.canonical carved
  · exact Holes.ends_of_mem_carve? carved (fun _ _ start => Nat.dvd_add start multiple)
      sound.aligned
  · intro r live
    rcases (live_iff r).mp live with old | rfl
    · exact sound.pages r old
    · exact ⟨positive, (sound.aligned source member).1, multiple⟩
  · intro address
    rw [sound.covers, covers]
    constructor
    · intro either
      rcases either with covered | ⟨r, live, inside⟩
      · by_cases carvedOut : (Region.mk source.start length).Contains address
        · exact .inr ⟨_, (live_iff _).mpr (.inr rfl), carvedOut⟩
        · exact .inl ⟨covered, carvedOut⟩
      · exact .inr ⟨r, (live_iff r).mpr (.inl live), inside⟩
    · intro either
      rcases either with ⟨covered, _⟩ | ⟨r, live, inside⟩
      · exact .inl covered
      · rcases (live_iff r).mp live with old | rfl
        · exact .inr ⟨r, old, inside⟩
        · exact .inl (free address inside)
  · intro r address live inside covered
    obtain ⟨old, unused⟩ := (covers address).mp covered
    rcases (live_iff r).mp live with live | rfl
    · exact sound.taken r address live inside old
    · exact unused inside
  · intro r s live live' different
    rcases (live_iff r).mp live with live | rfl <;> rcases (live_iff s).mp live' with live' | rfl
    · exact sound.disjoint r s live live' different
    · exact apart r live
    · exact (apart s live').symm
    · exact absurd rfl different

private theorem Sound.give (sound : pool.Sound region) {r : Region} (live : pool.Reserves r) :
    let pool' : WindowPool := ⟨pool.holes.add ⟨r.base, r.stop⟩, pool.reserved.erase r.base⟩
    pool'.Sound region ∧ Exchange pool.Reserves pool'.Reserves (some r) none := by
  intro pool'
  obtain ⟨positive, base, multiple⟩ := sound.pages r live
  have live_iff : ∀ s, pool'.Reserves s ↔ pool.Reserves s ∧ s ≠ r := reserves_erase _ live
  have covers := Holes.covers_add ⟨r.base, r.stop⟩ pool.holes
  have exchange : Exchange pool.Reserves pool'.Reserves (some r) none :=
    ⟨fun s => by simpa [eq_comm] using live_iff s, by simp⟩
  refine ⟨⟨sound.nonempty, sound.bounded, ?_, ?_, ?_, ?_, ?_, ?_⟩, exchange⟩
  · exact Holes.canonical_add sound.canonical (Nat.lt_add_of_pos_right positive)
  · exact Holes.ends_of_mem_add ⟨base, Nat.dvd_add base multiple⟩ sound.aligned
  · exact fun s live' => sound.pages s ((live_iff s).mp live').1
  · intro address
    rw [sound.covers, covers]
    constructor
    · intro either
      rcases either with covered | ⟨s, live', inside⟩
      · exact .inl (.inr covered)
      · by_cases same : s = r
        · exact .inl (.inl (same ▸ inside))
        · exact .inr ⟨s, (live_iff s).mpr ⟨live', same⟩, inside⟩
    · intro either
      rcases either with (inside | covered) | ⟨s, live', inside⟩
      · exact .inr ⟨r, live, inside⟩
      · exact .inl covered
      · exact .inr ⟨s, ((live_iff s).mp live').1, inside⟩
  · intro s address live' inside covered
    obtain ⟨old, different⟩ := (live_iff s).mp live'
    rcases (covers address).mp covered with given | free
    · exact sound.disjoint s r old live different address inside given
    · exact sound.taken s address old inside free
  · intro s t live' live'' different
    exact sound.disjoint s t ((live_iff s).mp live').1 ((live_iff t).mp live'').1 different

/-- A refused request changes nothing; a granted one takes a range of the rounded length. -/
theorem Sound.reserve (sound : pool.Sound region) (size : Nat) :
    (∃ error, pool.reserve size = (.error error, pool)) ∨
      ∃ length base pool', wholePages size = .ok length ∧ pool.reserve size = (.ok base, pool') ∧
        pool'.Sound region ∧ Exchange pool.Reserves pool'.Reserves none (some ⟨base, length⟩) := by
  unfold WindowPool.reserve
  cases rounded : wholePages size with
  | error error => exact .inl ⟨error, rfl⟩
  | ok length =>
    dsimp only
    cases carved : pool.holes.carve? length with
    | none => exact .inl ⟨_, rfl⟩
    | some found =>
      obtain ⟨base, holes⟩ := found
      obtain ⟨sound', exchange⟩ := sound.take (wholePages_eq_ok rounded) carved
      exact .inr ⟨length, base, _, rfl, rfl, sound', exchange⟩

/-- A live reservation can always be given back. -/
theorem Sound.release (sound : pool.Sound region) {r : Region} (live : pool.Reserves r) :
    ∃ pool', pool.release r.base r.size = (.ok (), pool') ∧ pool'.Sound region ∧
      Exchange pool.Reserves pool'.Reserves (some r) none := by
  obtain ⟨sound', exchange⟩ := sound.give live
  refine ⟨_, ?_, sound', exchange⟩
  rw [Reserves] at live
  simp only [WindowPool.release, (sound.whole live).exact, live, ↓reduceIte, Region.stop]

theorem resize_same {size : Nat} (positive : 0 < size) (base : Nat) :
    pool.resize base size size = (.ok base, pool) := by
  rw [WindowPool.resize, if_neg (Nat.ne_of_gt positive), if_pos rfl]

theorem resize_released {base oldSize newSize : Nat} (positive : 0 < oldSize)
    (different : newSize ≠ oldSize) {left : WindowPool}
    (released : pool.release base oldSize = (.ok (), left)) :
    pool.resize base oldSize newSize = left.reserve newSize := by
  rw [WindowPool.resize, if_neg (Nat.ne_of_gt positive), if_neg (Ne.symm different), released]

theorem resize_refused {base oldSize newSize : Nat} (positive : 0 < oldSize)
    (different : newSize ≠ oldSize) {error : Error} {left : WindowPool}
    (refused : pool.release base oldSize = (.error error, left)) :
    pool.resize base oldSize newSize = (.error error, left) := by
  rw [WindowPool.resize, if_neg (Nat.ne_of_gt positive), if_neg (Ne.symm different), refused]

/-- A live reservation is exchanged for one of whole pages, or lost when there is no room. -/
theorem Sound.resize (sound : pool.Sound region) {r : Region} (live : pool.Reserves r)
    {size : Nat} (whole : WholePages size) :
    (∃ error pool', pool.resize r.base r.size size = (.error error, pool') ∧
        pool'.Sound region ∧ Exchange pool.Reserves pool'.Reserves (some r) none) ∨
      ∃ base pool', pool.resize r.base r.size size = (.ok base, pool') ∧
        pool'.Sound region ∧
          Exchange pool.Reserves pool'.Reserves (some r) (some ⟨base, size⟩) := by
  have positive := (sound.pages r live).1
  by_cases same : r.size = size
  · subst same
    exact .inr ⟨r.base, pool, resize_same positive r.base, sound, .same live⟩
  · obtain ⟨emptied, released, sound', gone⟩ := sound.release live
    rw [resize_released positive (Ne.symm same) released]
    rcases sound'.reserve size with ⟨error, refused⟩ | ⟨length, base, pool', rounded, granted, rest⟩
    · exact .inl ⟨error, emptied, refused, sound', gone⟩
    · cases Except.ok.inj (whole.exact.symm.trans rounded)
      exact .inr ⟨base, pool', granted, rest.1, gone.trans rest.2⟩

end

end WindowPool

end TiledSurface
