import TiledSurface.Proofs.Window.Ownership

/-!
A pool forgets its history. The live reservations determine it, free list included, so that it does
not matter in which order they were made, moved or given back: whatever is asked next, the answers
are the same.
-/

namespace TiledSurface.WindowPool

variable {pool : WindowPool} {region : Region}

/-- What a pool answers to a list of commands. -/
def answers (pool : WindowPool) : List Command → List Outcome
  | [] => []
  | command :: rest => (pool.step command).1 :: (pool.step command).2.answers rest

def releases (asked : List Region) : List Command :=
  asked.map fun r => .release r.base r.size

/-- Reservations that are named one by one are all given back, and no other is. -/
theorem Sound.run_releases (sound : pool.Sound region) {asked live : List Region}
    (named : List.Forall₂ Names asked live) (distinct : live.Nodup)
    (owned : ∀ r ∈ live, pool.Reserves r) :
    pool.answers (releases asked) = List.replicate live.length .released ∧
      ∀ r, (pool.run (releases asked)).Reserves r ↔ pool.Reserves r ∧ r ∉ live := by
  induction named generalizing pool with
  | nil => exact ⟨rfl, fun r => (and_iff_left List.not_mem_nil).symm⟩
  | @cons ask r asked live named rest ih =>
    obtain ⟨other, distinct⟩ := List.nodup_cons.mp distinct
    obtain ⟨first, later⟩ := List.forall_mem_cons.mp owned
    obtain ⟨left, released, sound', gone⟩ := sound.release_named first named
    have step : pool.step (.release ask.base ask.size) = (.released, left) := by
      simp only [WindowPool.step, released, Outcome.ofUnit]
    -- No reservation is named twice, so the later ones are live still.
    have still : ∀ s ∈ live, left.Reserves s := by
      intro s member
      refine (gone.taken_iff s).mpr (.inl ⟨later s member, ?_⟩)
      rintro ⟨⟩
      exact other member
    obtain ⟨answered, emptied⟩ := ih sound' distinct still
    constructor
    · rw [releases, List.map_cons, answers, step, List.length_cons, List.replicate_succ]
      exact congrArg _ answered
    · intro s
      have run : pool.run (releases (ask :: asked)) = left.run (releases asked) := by
        simp only [releases, List.map_cons, WindowPool.run, List.foldl_cons, step]
      rw [run, emptied, gone.taken_iff, List.mem_cons]
      simp only [reduceCtorEq, or_false, ne_eq, Option.some.injEq, not_or, and_assoc, eq_comm]

theorem Sound.release_reserved (sound : pool.Sound region) {size base : Nat}
    {granted : WindowPool} (reserved : pool.reserve size = (.ok base, granted)) :
    granted.release base size = (.ok (), pool) := by
  rcases sound.reserve size with ⟨error, refused⟩ | ⟨length, _, _, pages, granting, sound', came⟩
  · cases refused.symm.trans reserved
  · cases granting.symm.trans reserved
    have named : Names ⟨base, size⟩ ⟨base, length⟩ :=
      ⟨rfl, pos_of_wholePages pages, rounded_of_wholePages pages⟩
    obtain ⟨left, released, sound'', gone⟩ := sound'.release_named (came.arrived rfl) named
    have nothing : ¬ pool.Reserves ⟨base, length⟩ := fun live => by
      cases came.fresh _ rfl live
    have same : left = pool := by
      refine sound''.ext sound fun r => ?_
      rw [gone.taken_iff, came.taken_iff]
      constructor
      · rintro (⟨⟨live, _⟩ | arrived, kept⟩ | none)
        · exact live
        · exact absurd arrived kept
        · cases none
      · intro live
        refine .inl ⟨.inl ⟨live, nofun⟩, ?_⟩
        rintro ⟨⟩
        exact nothing live
    rw [← same]
    exact released

/-- Pools over one region with the same live reservations are the same, whatever was asked of them
before. So a reservation that is given back leaves no trace, different reservations may be given
back in either order, and when all are given back, in whatever order, the pool is as it was made. -/
theorem history_forgotten (made : ofRegion region = .ok pool) :
    (∀ one two : List Command,
      (∀ r, r ∈ (pool.run one).reservations ↔ r ∈ (pool.run two).reservations) →
        pool.run one = pool.run two ∧
          ∀ later, (pool.run one).answers later = (pool.run two).answers later) ∧
    ∀ commands : List Command,
      (∀ size base granted, (pool.run commands).reserve size = (.ok base, granted) →
        granted.release base size = (.ok (), pool.run commands)) ∧
      (∀ asked asked' live live', List.Forall₂ Names asked live → List.Forall₂ Names asked' live' →
        live.Perm live' → live.Nodup → (∀ r ∈ live, r ∈ (pool.run commands).reservations) →
          (pool.run commands).answers (releases asked) = List.replicate live.length .released ∧
          (pool.run commands).run (releases asked) =
            (pool.run commands).run (releases asked')) ∧
      ∀ asked live, List.Forall₂ Names asked live →
        live.Perm (pool.run commands).reservations →
          (pool.run commands).run (releases asked) = pool := by
  obtain ⟨sound, fresh⟩ := sound_of_ofRegion made
  refine ⟨fun one two same => ?_, fun commands => ?_⟩
  · have equal : pool.run one = pool.run two :=
      (sound.run one).ext (sound.run two) fun r => by
        rw [← mem_reservations, ← mem_reservations, same]
    exact ⟨equal, fun later => by rw [equal]⟩
  · have now := sound.run commands
    refine ⟨fun _ _ _ reserved => now.release_reserved reserved, ?_, ?_⟩
    · intro asked asked' live live' named named' reordered distinct owned
      have reserved : ∀ r ∈ live, (pool.run commands).Reserves r :=
        fun r member => mem_reservations.mp (owned r member)
      have reserved' : ∀ r ∈ live', (pool.run commands).Reserves r :=
        fun r member => reserved r (reordered.mem_iff.mpr member)
      have distinct' : live'.Nodup := reordered.nodup_iff.mp distinct
      obtain ⟨answered, emptied⟩ := now.run_releases named distinct reserved
      obtain ⟨_, emptied'⟩ := now.run_releases named' distinct' reserved'
      refine ⟨answered, (now.run _).ext (now.run _) fun r => ?_⟩
      rw [emptied, emptied', reordered.mem_iff]
    · intro asked live named all
      have distinct : live.Nodup := all.nodup_iff.mpr (nodup_reservations _)
      have owned : ∀ r ∈ live, (pool.run commands).Reserves r :=
        fun r member => mem_reservations.mp (all.mem_iff.mp member)
      have emptied := (now.run_releases named distinct owned).2
      rw [(now.run (releases asked)).eq_spanning fun r left => ?_, fresh]
      obtain ⟨reserved, other⟩ := (emptied r).mp left
      exact other (all.mem_iff.mpr (mem_reservations.mpr reserved))

def straightHistory : List Command := [.reserve 1, .reserve 0x1001]

/-- Ends with the reservations of the straight one, after others have come and gone. -/
def crookedHistory : List Command :=
  [.reserve 0x3000, .reserve 1, .release 0x1000 0x2fff, .reserve 1, .resize 0 0 0x2000,
    .release 0x4000 1]

/-- After either history a page that is reserved and given back leaves no trace, and the two
reservations are given back in either order. -/
theorem history_forgotten_crookedHistory :
    ∃ pool granted, ofRegion ⟨0x1000, 0x4000⟩ = .ok pool ∧
      pool.run straightHistory = pool.run crookedHistory ∧
      (pool.run straightHistory).reserve 1 = (.ok 0x4000, granted) ∧
      granted.release 0x4000 1 = (.ok (), pool.run straightHistory) ∧
      (pool.run straightHistory).answers (releases [⟨0x2000, 0x1001⟩, ⟨0x1000, 1⟩]) =
        [.released, .released] ∧
      (pool.run straightHistory).run (releases [⟨0x1000, 4095⟩, ⟨0x2000, 0x2000⟩]) = pool := by
  have made : ofRegion ⟨0x1000, 0x4000⟩ = .ok (spanning ⟨0x1000, 0x4000⟩) := rfl
  have live : ((spanning ⟨0x1000, 0x4000⟩).run straightHistory).reservations =
      [⟨0x1000, 0x1000⟩, ⟨0x2000, 0x2000⟩] := by decide
  have same : ((spanning ⟨0x1000, 0x4000⟩).run straightHistory).reservations =
      ((spanning ⟨0x1000, 0x4000⟩).run crookedHistory).reservations := by decide
  have low : Names ⟨0x1000, 1⟩ ⟨0x1000, 0x1000⟩ := ⟨rfl, by decide, rounded_of_wholePages rfl⟩
  have low' : Names ⟨0x1000, 4095⟩ ⟨0x1000, 0x1000⟩ := ⟨rfl, by decide, rounded_of_wholePages rfl⟩
  have high : Names ⟨0x2000, 0x1001⟩ ⟨0x2000, 0x2000⟩ :=
    ⟨rfl, by decide, rounded_of_wholePages rfl⟩
  have high' : Names ⟨0x2000, 0x2000⟩ ⟨0x2000, 0x2000⟩ :=
    ⟨rfl, by decide, rounded_of_wholePages rfl⟩
  obtain ⟨determined, after⟩ := history_forgotten made
  obtain ⟨undone, commute, all⟩ := after straightHistory
  refine ⟨_, _, made, (determined _ _ fun r => by rw [same]).1, rfl, undone 1 0x4000 _ rfl, ?_, ?_⟩
  · refine (commute _ [⟨0x1000, 1⟩, ⟨0x2000, 0x1001⟩] _ _ (.cons high (.cons low .nil))
      (.cons low (.cons high .nil)) (.swap ..) (by decide) ?_).1
    rw [live]
    decide
  · refine all _ _ (.cons low' (.cons high' .nil)) ?_
    rw [live]

end TiledSurface.WindowPool
