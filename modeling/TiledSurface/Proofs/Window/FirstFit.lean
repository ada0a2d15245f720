import Mathlib.Order.Bounds.Defs
import TiledSurface.Proofs.Window.Fit
import TiledSurface.Proofs.Window.Partition

namespace TiledSurface.WindowPool

variable {pool : WindowPool} {region : Region} {size length base : Nat}

/-- The least length in whole pages, however large, that is enough for the size. -/
def Rounded (size length : Nat) : Prop :=
  IsLeast {whole | pageSize ∣ whole ∧ size ≤ whole} length

theorem Rounded.near (rounded : Rounded size length) (positive : 0 < size) :
    length < size + pageSize := by
  obtain ⟨⟨multiple, enough⟩, least⟩ := rounded
  by_contra far
  have fewer : pageSize ∣ length - pageSize := Nat.dvd_sub multiple (Nat.dvd_refl pageSize)
  have shorter := least ⟨fewer, by omega⟩
  have page : 0 < pageSize := by decide
  omega

theorem Rounded.wholePages_eq (rounded : Rounded size length) (positive : 0 < size) :
    wholePages size = if length < Word.limit then .ok length else .error (.outOfSpace size) := by
  obtain ⟨⟨multiple, enough⟩, least⟩ := id rounded
  rw [wholePages, if_neg (Nat.ne_of_gt positive)]
  by_cases fits : length < Word.limit
  · have found : Word.roundUp? size pageSize = some length :=
      Word.roundUp?_eq_some_iff.mpr
        ⟨by decide, fits, multiple, enough, rounded.near positive⟩
    rw [found, if_pos fits]
  · cases found : Word.roundUp? size pageSize with
    | none => rw [if_neg fits]
    | some other =>
      obtain ⟨_, fits', multiple', enough', _⟩ := Word.roundUp?_eq_some_iff.mp found
      exact absurd (Nat.lt_of_le_of_lt (least ⟨multiple', enough'⟩) fits') fits

theorem reserve_rounded (rounded : wholePages size = .ok length) :
    pool.reserve size = pool.reserve length := by
  simp only [reserve, rounded, (wholePages_eq_ok rounded).exact]

theorem Sound.reserve_adds (sound : pool.Sound region) (rounded : wholePages size = .ok length)
    {granted : WindowPool} (reserved : pool.reserve size = (.ok base, granted)) (r : Region) :
    r ∈ granted.reservations ↔ r ∈ pool.reservations ∨ r = ⟨base, length⟩ := by
  rw [mem_reservations, mem_reservations]
  rcases sound.reserve size with
    ⟨error, refused⟩ | ⟨length', base', pool', rounded', reserved', _, dealing⟩
  · cases refused.symm.trans reserved
  · cases rounded.symm.trans rounded'
    cases reserved.symm.trans reserved'
    rw [dealing.taken_iff]
    simp [eq_comm]

theorem Sound.not_free (sound : pool.Sound region) (long : Word.limit ≤ length) (base : Nat) :
    ¬ pool.Free region none ⟨base, length⟩ := by
  intro free
  have bounded := sound.bounded
  have last : (Region.mk base length).Contains (base + length - 1) := by
    simp only [Region.Contains, Region.stop]
    have : 0 < Word.limit := by decide
    omega
  have below := (free _ last).1.2
  omega

/-- How a request ends: at the lowest place, or with the size for which there is none. -/
theorem Sound.reserve_ends (sound : pool.Sound region) (positive : 0 < size)
    (rounded : Rounded size length) :
    (∃ base granted, pool.reserve size = (.ok base, granted) ∧
        pool.Lowest region none length base ∧
        ∀ r, r ∈ granted.reservations ↔ r ∈ pool.reservations ∨ r = ⟨base, length⟩) ∨
      pool.reserve size =
          (.error (.outOfSpace (if length < Word.limit then length else size)), pool) ∧
        ∀ base, ¬ pool.Free region none ⟨base, length⟩ := by
  have pages := rounded.wholePages_eq positive
  by_cases fits : length < Word.limit
  · rw [if_pos fits] at pages
    rw [if_pos fits]
    have whole := wholePages_eq_ok pages
    rcases sound.reserve_fits whole with ⟨base, granted, reserved, lowest⟩ | ⟨refused, full⟩
    · rw [← reserve_rounded pages] at reserved
      exact .inl ⟨base, granted, reserved, lowest, sound.reserve_adds pages reserved⟩
    · rw [← reserve_rounded pages] at refused
      exact .inr ⟨refused, full⟩
  · rw [if_neg fits] at pages
    rw [if_neg fits]
    refine .inr ⟨?_, sound.not_free (Nat.not_lt.mp fits)⟩
    rw [WindowPool.reserve, pages]

/-- First fit, after any requests to a pool that was made for a region. A request is granted just if
a range of the rounded length lies in the region and meets no live reservation, and then it takes
the lowest of these ranges. A refusal says what there was no room for and changes nothing. -/
theorem reserve_first_fit (made : ofRegion region = .ok pool) (commands : List Command) :
    (pool.run commands).reserve 0 = (.error (.invalid .zeroSized), pool.run commands) ∧
    ∀ size length, 0 < size → Rounded size length →
      ((∃ base granted, (pool.run commands).reserve size = (.ok base, granted)) ↔
        ∃ base, (pool.run commands).Free region none ⟨base, length⟩) ∧
      (∀ base granted, (pool.run commands).reserve size = (.ok base, granted) →
        (pool.run commands).Lowest region none length base ∧
        ∀ r, r ∈ granted.reservations ↔
          r ∈ (pool.run commands).reservations ∨ r = ⟨base, length⟩) ∧
      ∀ error left, (pool.run commands).reserve size = (.error error, left) →
        error = .outOfSpace (if length < Word.limit then length else size) ∧
        left = pool.run commands := by
  have sound := (sound_of_ofRegion made).1.run commands
  refine ⟨rfl, fun size length positive rounded => ?_⟩
  rcases sound.reserve_ends positive rounded with
    ⟨base, granted, reserved, lowest, added⟩ | ⟨refused, full⟩
  · rw [reserved]
    refine ⟨⟨fun _ => ⟨base, lowest.1⟩, fun _ => ⟨base, granted, rfl⟩⟩, ?_, nofun⟩
    rintro _ _ ⟨⟩
    exact ⟨lowest, added⟩
  · rw [refused]
    refine ⟨⟨nofun, fun ⟨base, free⟩ => absurd free (full base)⟩, nofun, ?_⟩
    rintro _ _ ⟨⟩
    exact ⟨rfl, rfl⟩

/-- Of four pages the first three are reserved one by one, and the first two are given back, the
higher one first. -/
def gapHistory : List Command :=
  [.reserve 1, .reserve 1, .reserve 1, .release 0x2000 1, .release 0x1000 1]

/-- The two pages that were given back have become one gap, and the last page is no lower. -/
theorem reserve_first_fit_gapHistory :
    ∃ pool granted, ofRegion ⟨0x1000, 0x4000⟩ = .ok pool ∧
      (pool.run gapHistory).reserve 0x1001 = (.ok 0x1000, granted) ∧
      (pool.run gapHistory).Lowest ⟨0x1000, 0x4000⟩ none 0x2000 0x1000 ∧
      ⟨0x1000, 0x2000⟩ ∈ granted.reservations := by
  have made : ofRegion ⟨0x1000, 0x4000⟩ = .ok (spanning ⟨0x1000, 0x4000⟩) := rfl
  have rounded : Rounded 0x1001 0x2000 := by
    refine ⟨by decide, ?_⟩
    rintro _ ⟨⟨pages, rfl⟩, enough⟩
    simp only [pageSize] at enough ⊢
    omega
  obtain ⟨_, granting, _⟩ :=
    (reserve_first_fit made gapHistory).2 0x1001 0x2000 (by decide) rounded
  obtain ⟨lowest, added⟩ := granting 0x1000 _ rfl
  exact ⟨_, _, made, rfl, lowest, (added _).mpr (.inr rfl)⟩

end TiledSurface.WindowPool
