import Mathlib.Data.List.Nodup
import TiledSurface.Proofs.Window.FirstFit

namespace TiledSurface.WindowPool

variable {pool : WindowPool} {region : Region} {size length base : Nat}

theorem nodup_reservations (pool : WindowPool) : pool.reservations.Nodup := by
  refine List.pairwise_map.mpr (pool.reserved.ascending.imp ?_)
  intro entry later below same
  exact Nat.ne_of_lt below (congrArg Region.base same)

theorem perm_of_exchange {pool' : WindowPool} {gone came : Option Region}
    (dealing : Exchange pool.Reserves pool'.Reserves gone came) :
    pool'.reservations.Perm (came.toList ++ pool.reservations.diff gone.toList) := by
  have rest : ∀ r, r ∈ pool.reservations.diff gone.toList ↔ pool.Reserves r ∧ gone ≠ some r := by
    intro r
    rw [pool.nodup_reservations.mem_sdiff_iff, mem_reservations]
    simp
  have distinct : (came.toList ++ pool.reservations.diff gone.toList).Nodup := by
    refine List.nodup_append'.mpr ⟨by cases came <;> simp, pool.nodup_reservations.diff, ?_⟩
    -- What comes was not reserved before, unless it is what went.
    intro r new old
    obtain ⟨live, kept⟩ := (rest r).mp old
    exact kept (dealing.fresh r (by simpa using new) live)
  refine (List.perm_ext_iff_of_nodup pool'.nodup_reservations distinct).mpr fun r => ?_
  rw [mem_reservations, dealing.taken_iff, List.mem_append, rest, Option.mem_toList, or_comm]

theorem perm_of_gone {left : WindowPool} {r : Region}
    (gone : Exchange pool.Reserves left.Reserves (some r) none) :
    left.reservations.Perm (pool.reservations.erase r) := by
  simpa [List.diff] using perm_of_exchange gone

theorem perm_of_came {left : WindowPool} {r : Region}
    (came : Exchange pool.Reserves left.Reserves none (some r)) :
    left.reservations.Perm (r :: pool.reservations) := by
  simpa using perm_of_exchange came

/-- A request names a range by its address and by any size that rounds to its length. -/
def Names (asked r : Region) : Prop :=
  asked.base = r.base ∧ 0 < asked.size ∧ Rounded asked.size r.size

theorem rounded_of_wholePages (found : wholePages size = .ok length) : Rounded size length := by
  unfold wholePages at found
  split at found
  · cases found
  · split at found
    · rename_i rounded
      cases found
      obtain ⟨_, _, multiple, enough, near⟩ := Word.roundUp?_eq_some_iff.mp rounded
      refine ⟨⟨multiple, enough⟩, ?_⟩
      rintro other ⟨multiple', enough'⟩
      -- Less than a page above the size there is no second multiple.
      simp only [pageSize] at multiple multiple' near
      omega
    · cases found

theorem pos_of_wholePages (found : wholePages size = .ok length) : 0 < size := by
  rcases Nat.eq_zero_or_pos size with rfl | positive
  · cases found
  · exact positive

theorem Names.wholePages_eq (sound : pool.Sound region) {asked r : Region}
    (live : pool.Reserves r) (named : Names asked r) : wholePages asked.size = .ok r.size := by
  obtain ⟨_, positive, rounded⟩ := named
  rw [rounded.wholePages_eq positive, if_pos (sound.whole live).2.2]

theorem Names.unique {asked r s : Region} (named : Names asked r) (named' : Names asked s) :
    r = s := by
  obtain ⟨base, _, rounded⟩ := named
  obtain ⟨base', _, rounded'⟩ := named'
  cases r
  cases s
  cases base.symm.trans base'
  cases rounded.unique rounded'
  rfl

/-- A reservation is given back to whoever names it. -/
theorem Sound.release_named (sound : pool.Sound region) {asked r : Region}
    (live : pool.Reserves r) (named : Names asked r) :
    ∃ left, pool.release asked.base asked.size = (.ok (), left) ∧ left.Sound region ∧
      Exchange pool.Reserves left.Reserves (some r) none := by
  rw [release_rounded (named.wholePages_eq sound live), named.1]
  exact sound.release live

theorem release_unnamed (rounded : Rounded size length)
    (unowned : ∀ r ∈ pool.reservations, ¬ Names ⟨base, size⟩ r) :
    pool.release base size =
      (.error (if size = 0 then .invalid .zeroSized
        else if Word.limit ≤ length then .outOfSpace size else .invalid .notReserved), pool) := by
  by_cases zero : size = 0
  · subst zero
    rfl
  · have positive : 0 < size := Nat.pos_of_ne_zero zero
    rw [release, rounded.wholePages_eq positive, if_neg zero]
    by_cases fits : length < Word.limit
    · have free : pool.reserved.find? base ≠ some length := fun live =>
        unowned ⟨base, length⟩ (mem_reservations.mpr live) ⟨rfl, positive, rounded⟩
      rw [if_pos fits, if_neg (Nat.not_le.mpr fits)]
      dsimp only
      rw [if_neg free]
    · rw [if_neg fits, if_pos (Nat.not_lt.mp fits)]

/-- How a request to give back ends: it strikes the reservation that it names from the list, or
says what is wrong with it and changes nothing. -/
structure ReleaseAnswers (pool : WindowPool) (base size : Nat) : Prop where
  granted_iff : (∃ left, pool.release base size = (.ok (), left)) ↔
    ∃ r ∈ pool.reservations, Names ⟨base, size⟩ r
  strikes : ∀ left r, pool.release base size = (.ok (), left) → r ∈ pool.reservations →
    Names ⟨base, size⟩ r → left.reservations.Perm (pool.reservations.erase r)
  refused : ∀ error left length, pool.release base size = (.error error, left) →
    Rounded size length → left = pool ∧
      error = if size = 0 then .invalid .zeroSized
        else if Word.limit ≤ length then .outOfSpace size else .invalid .notReserved

theorem Sound.releaseAnswers (sound : pool.Sound region) (base size : Nat) :
    pool.ReleaseAnswers base size := by
  by_cases owned : ∃ r ∈ pool.reservations, Names ⟨base, size⟩ r
  · obtain ⟨r, member, named⟩ := id owned
    obtain ⟨left, released, _, gone⟩ := sound.release_named (mem_reservations.mp member) named
    dsimp only at released
    refine ⟨⟨fun _ => owned, fun _ => ⟨left, released⟩⟩, ?_, ?_⟩
    · intro left' s released' _ named'
      cases released.symm.trans released'
      cases named.unique named'
      exact perm_of_gone gone
    · intro error left' _ refused
      cases released.symm.trans refused
  · have unowned : ∀ r ∈ pool.reservations, ¬ Names ⟨base, size⟩ r :=
      fun r member named => owned ⟨r, member, named⟩
    refine ⟨⟨?_, fun given => absurd given owned⟩, ?_, ?_⟩
    · rintro ⟨left, released⟩
      rcases sound.release_cases base size with ⟨error, refused⟩ | ⟨length, _, found, live, _⟩
      · cases refused.symm.trans released
      · exact ⟨_, mem_reservations.mpr live, rfl, pos_of_wholePages found,
          rounded_of_wholePages found⟩
    · exact fun _ r _ member named => absurd named (unowned r member)
    · intro error left length refused rounded
      cases (release_unnamed rounded unowned).symm.trans refused
      exact ⟨rfl, rfl⟩

/-- How a resize of a live reservation ends. To another size it is a release and then a
reservation, so that it may lose the range, and no other. -/
structure ResizeAnswers (pool : WindowPool) (base oldSize newSize : Nat) (r : Region) : Prop where
  kept : newSize = oldSize → pool.resize base oldSize newSize = (.ok base, pool)
  parts : newSize ≠ oldSize → ∃ left, pool.release base oldSize = (.ok (), left) ∧
    pool.resize base oldSize newSize = left.reserve newSize
  replaces : ∀ granted left length, pool.resize base oldSize newSize = (.ok granted, left) →
    Rounded newSize length →
      left.reservations.Perm (⟨granted, length⟩ :: pool.reservations.erase r)
  loses : ∀ error left, pool.resize base oldSize newSize = (.error error, left) →
    left.reservations.Perm (pool.reservations.erase r)

theorem Sound.resizeAnswers (sound : pool.Sound region) {r : Region} {oldSize : Nat}
    (member : r ∈ pool.reservations) (named : Names ⟨r.base, oldSize⟩ r) (newSize : Nat) :
    pool.ResizeAnswers r.base oldSize newSize r := by
  obtain ⟨emptied, released, sound', gone⟩ := sound.release_named (mem_reservations.mp member) named
  have struck := perm_of_gone gone
  obtain ⟨_, positive, rounded⟩ := named
  by_cases same : newSize = oldSize
  · subst same
    have kept : pool.resize r.base newSize newSize = (.ok r.base, pool) :=
      resize_same positive r.base
    refine ⟨fun _ => kept, fun different => absurd rfl different, ?_, ?_⟩
    · intro granted left length granting rounded'
      cases kept.symm.trans granting
      cases rounded.unique rounded'
      exact List.perm_cons_erase member
    · intro error left refused
      cases kept.symm.trans refused
  · have parts := resize_released positive same released
    refine ⟨fun equal => absurd equal same, fun _ => ⟨emptied, released, parts⟩, ?_, ?_⟩
    · intro granted left length granting rounded'
      rcases sound'.reserve newSize with ⟨error, refused⟩ | ⟨found, _, _, pages, reserved, _, came⟩
      · cases (parts.trans refused).symm.trans granting
      · cases (parts.trans reserved).symm.trans granting
        cases rounded'.unique (rounded_of_wholePages pages)
        exact (perm_of_came came).trans (struck.cons _)
    · intro error left refused
      rcases sound'.reserve newSize with ⟨error', unchanged⟩ | ⟨_, _, _, _, reserved, _⟩
      · cases (parts.trans unchanged).symm.trans refused
        exact struck
      · cases (parts.trans reserved).symm.trans refused

/-- Whatever was asked of a pool before, what a client owns it can give back and resize, and
nothing else that is reserved is touched by that. -/
theorem owned_ranges_exchanged (made : ofRegion region = .ok pool) (commands : List Command) :
    (∀ base size, (pool.run commands).ReleaseAnswers base size) ∧
    ∀ r ∈ (pool.run commands).reservations, ∀ oldSize newSize, Rounded oldSize r.size →
      (pool.run commands).ResizeAnswers r.base oldSize newSize r := by
  have sound := (sound_of_ofRegion made).1.run commands
  refine ⟨sound.releaseAnswers, fun r member oldSize newSize rounded => ?_⟩
  have positive : 0 < oldSize := by
    rcases Nat.eq_zero_or_pos oldSize with rfl | positive
    · have nothing := rounded.2 ⟨Nat.dvd_zero _, Nat.le_refl 0⟩
      have := (sound.pages r (mem_reservations.mp member)).1
      omega
    · exact positive
  have named : Names ⟨r.base, oldSize⟩ r := ⟨rfl, positive, rounded⟩
  exact sound.resizeAnswers member named newSize

/-- Of four pages two are reserved together and one behind them, and the page before them has been
given back. -/
def movingHistory : List Command :=
  [.reserve 1, .reserve 0x1001, .reserve 1, .release 0x1000 4095]

/-- Two pages that grow to three move down into the page before them, past which they cannot. -/
theorem owned_ranges_exchanged_movingHistory :
    ∃ pool left, ofRegion ⟨0x1000, 0x4000⟩ = .ok pool ∧
      (pool.run movingHistory).reservations = [⟨0x2000, 0x2000⟩, ⟨0x4000, 0x1000⟩] ∧
      (pool.run movingHistory).resize 0x2000 0x1800 0x2801 = (.ok 0x1000, left) ∧
      left.reservations.Perm [⟨0x1000, 0x3000⟩, ⟨0x4000, 0x1000⟩] := by
  have made : ofRegion ⟨0x1000, 0x4000⟩ = .ok (spanning ⟨0x1000, 0x4000⟩) := rfl
  have old : Rounded 0x1800 0x2000 := rounded_of_wholePages rfl
  have new : Rounded 0x2801 0x3000 := rounded_of_wholePages rfl
  have answers := (owned_ranges_exchanged made movingHistory).2 ⟨0x2000, 0x2000⟩ (by decide)
    0x1800 0x2801 old
  exact ⟨_, _, made, by decide, rfl, answers.replaces 0x1000 _ 0x3000 rfl new⟩

/-- A resize that is granted leaves its answer reserved in the rounded size, and one that names no
reservation is refused and changes nothing. -/
structure Owned (pool : WindowPool) (base oldSize newSize : Nat) : Prop where
  live : ∀ granted left, pool.resize base oldSize newSize = (.ok granted, left) →
    ∃ length, Rounded newSize length ∧ ⟨granted, length⟩ ∈ left.reservations
  refused : 0 < oldSize → (∀ r ∈ pool.reservations, ¬ Names ⟨base, oldSize⟩ r) →
    ∃ error, pool.resize base oldSize newSize = (.error error, pool)

theorem Sound.live_of_reserve (sound : pool.Sound region) {left : WindowPool}
    (reserved : pool.reserve size = (.ok base, left)) :
    ∃ length, Rounded size length ∧ ⟨base, length⟩ ∈ left.reservations := by
  cases found : wholePages size with
  | error error =>
    rw [WindowPool.reserve, found] at reserved
    cases reserved
  | ok length =>
    have added := sound.reserve_adds found reserved ⟨base, length⟩
    exact ⟨length, rounded_of_wholePages found, added.mpr (.inr rfl)⟩

theorem Sound.owned_of_ne (sound : pool.Sound region) {oldSize newSize : Nat}
    (different : oldSize = newSize → oldSize = 0) : pool.Owned base oldSize newSize := by
  rcases Nat.eq_zero_or_pos oldSize with rfl | positive
  · exact ⟨fun _ _ granting => sound.live_of_reserve granting, nofun⟩
  · have other : newSize ≠ oldSize := fun same => Nat.ne_of_gt positive (different same.symm)
    rcases sound.release_cases base oldSize with
      ⟨error, refused⟩ | ⟨length, emptied, pages, live, released, sound', _⟩
    · have resized := resize_refused positive other refused
      refine ⟨?_, fun _ _ => ⟨error, resized⟩⟩
      intro granted left granting
      cases resized.symm.trans granting
    · have resized := resize_released positive other released
      refine ⟨fun granted left granting => ?_, fun _ unowned => ?_⟩
      · exact sound'.live_of_reserve (resized.symm.trans granting)
      · have named : Names ⟨base, oldSize⟩ ⟨base, length⟩ :=
          ⟨rfl, positive, rounded_of_wholePages pages⟩
        exact absurd named (unowned _ (mem_reservations.mpr live))

/-- Whatever was asked of a pool before, a resize deals in live reservations only, just if it does
not keep a size under which nothing is reserved there. -/
theorem resize_owned_iff (made : ofRegion region = .ok pool) (commands : List Command)
    (base oldSize newSize : Nat) :
    (pool.run commands).Owned base oldSize newSize ↔
      (oldSize = newSize → 0 < oldSize →
        ∃ r ∈ (pool.run commands).reservations, Names ⟨base, oldSize⟩ r) := by
  have sound := (sound_of_ofRegion made).1.run commands
  constructor
  · rintro owned rfl positive
    obtain ⟨length, rounded, live⟩ := owned.live base _ (resize_same positive base)
    exact ⟨_, live, rfl, positive, rounded⟩
  · intro named
    by_cases kept : oldSize = newSize ∧ 0 < oldSize
    · obtain ⟨rfl, positive⟩ := kept
      obtain ⟨r, live, named⟩ := named rfl positive
      refine ⟨?_, fun _ unowned => absurd named (unowned r live)⟩
      intro granted left granting
      cases (resize_same positive base).symm.trans granting
      obtain ⟨rfl, _, rounded⟩ := named
      exact ⟨r.size, rounded, live⟩
    · exact sound.owned_of_ne fun same => Nat.eq_zero_of_not_pos fun positive =>
        kept ⟨same, positive⟩

/-- The two pages that are reserved may be named by six thousand bytes. -/
theorem resize_owned_iff_movingHistory :
    ∃ pool, ofRegion ⟨0x1000, 0x4000⟩ = .ok pool ∧
      (pool.run movingHistory).Owned 0x2000 6000 6000 ∧
      ¬ (pool.run movingHistory).Owned 0x2000 0x1000 0x1000 := by
  have made : ofRegion ⟨0x1000, 0x4000⟩ = .ok (spanning ⟨0x1000, 0x4000⟩) := rfl
  have live : ((spanning ⟨0x1000, 0x4000⟩).run movingHistory).reservations =
      [⟨0x2000, 0x2000⟩, ⟨0x4000, 0x1000⟩] := by decide
  refine ⟨_, made, ?_, ?_⟩
  · have named : Names ⟨0x2000, 6000⟩ ⟨0x2000, 0x2000⟩ :=
      ⟨rfl, by decide, rounded_of_wholePages rfl⟩
    refine (resize_owned_iff made movingHistory 0x2000 6000 6000).mpr fun _ _ => ?_
    exact ⟨_, by rw [live]; decide, named⟩
  · intro owned
    obtain ⟨r, member, named⟩ :=
      (resize_owned_iff made movingHistory 0x2000 0x1000 0x1000).mp owned rfl (by decide)
    have page : Rounded 0x1000 0x1000 := rounded_of_wholePages rfl
    rw [live] at member
    simp only [List.mem_cons, List.not_mem_nil, or_false] at member
    rcases member with rfl | rfl
    · exact absurd (named.2.2.unique page) (by decide)
    · exact absurd named.1 (by decide)

/-- Two pages behind the only reservation are granted to a resize that keeps their size. -/
theorem resize_grants_unowned :
    ∃ pool, ofRegion ⟨0x100000000, 0x10000⟩ = .ok pool ∧
      (pool.run [.reserve 0x1000]).resize 0x100001000 0x2000 0x2000 =
        (.ok 0x100001000, pool.run [.reserve 0x1000]) ∧
      (pool.run [.reserve 0x1000]).reservations = [⟨0x100000000, 0x1000⟩] ∧
      ¬ (pool.run [.reserve 0x1000]).Owned 0x100001000 0x2000 0x2000 := by
  have made : ofRegion ⟨0x100000000, 0x10000⟩ = .ok (spanning ⟨0x100000000, 0x10000⟩) := rfl
  have live : ((spanning ⟨0x100000000, 0x10000⟩).run [.reserve 0x1000]).reservations =
      [⟨0x100000000, 0x1000⟩] := by decide
  refine ⟨_, made, rfl, live, fun owned => ?_⟩
  obtain ⟨length, _, member⟩ := owned.live 0x100001000 _ rfl
  rw [live] at member
  simp at member

end TiledSurface.WindowPool
