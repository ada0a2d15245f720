import TiledSurface.Proofs.Driver.Plans
import TiledSurface.Proofs.Driver.Runs

namespace TiledSurface

namespace WindowPool

variable {pool : WindowPool} {region : Region}

theorem Sound.giveBack (sound : pool.Sound region) {own : Option Region}
    (live : ∀ r, own = some r → pool.Reserves r) :
    (pool.giveBack own).Sound region ∧
      Exchange pool.Reserves (pool.giveBack own).Reserves own none := by
  cases own with
  | none => exact ⟨sound, .nothing _⟩
  | some r =>
    obtain ⟨pool', released, sound', gone⟩ := sound.release (live r rfl)
    simp only [WindowPool.giveBack, released]
    exact ⟨sound', gone⟩

theorem Sound.trade (sound : pool.Sound region) {old : Option Region}
    (live : ∀ r, old = some r → pool.Reserves r) {size : Nat} (whole : WholePages size)
    {result : Except Error Nat} {pool' : WindowPool}
    (traded : pool.trade old size = (result, pool')) :
    pool'.Sound region ∧
      Exchange pool.Reserves pool'.Reserves old (result.toOption.map fun base => ⟨base, size⟩) := by
  cases old with
  | none =>
    rcases sound.reserve size with ⟨error, refused⟩ | ⟨length, base, _, rounded, granted, rest⟩
    · cases refused.symm.trans traded
      exact ⟨sound, .nothing _⟩
    · cases granted.symm.trans traded
      cases Except.ok.inj (whole.exact.symm.trans rounded)
      exact rest
  | some r =>
    rcases sound.resize (live r rfl) whole with ⟨error, _, refused, rest⟩ | ⟨base, _, granted, rest⟩
    · cases refused.symm.trans traded
      exact rest
    · cases granted.symm.trans traded
      exact rest

end WindowPool

namespace Driver

variable {d d' : Driver}

/-- An attempt trades the old window for the one that the surface holds after it. -/
theorem Attempted.reservations {handle : Handle} {held : Holdings} {a : Attributes}
    {attempt : Attempt} {pool : WindowPool} {buffers : Buffers} {region : Region}
    (attempted : d.Attempted handle held a attempt pool buffers) (sound : d.pool.Sound region)
    (live : ∀ r, held.window = some r → d.pool.Reserves r) :
    pool.Sound region ∧ Exchange d.pool.Reserves pool.Reserves held.window attempt.held.window := by
  cases attempted with
  | unmapped | invalid | linear => exact ⟨sound, .rest live⟩
  | full _ planned refused => exact sound.trade live (Plan.window_whole planned) refused
  | unreachable _ planned reserved | unattached _ planned reserved
  | indescribable _ planned reserved | tiled _ planned reserved =>
    exact sound.trade live (Plan.window_whole planned) reserved

/-- The pool serves the surfaces. -/
structure PoolKept (d : Driver) : Prop where
  sound : d.pool.Sound d.config.pool
  ledger : Ledger d.pool.Reserves (owned d.surfaces Surface.window?)

namespace PoolKept

theorem start {config : Config} {platform : Platform} (up : bringUp config platform = .ok d) :
    d.PoolKept := by
  obtain ⟨engine, pool, faults, rfl, made, _⟩ := bringUp_eq_ok up
  obtain ⟨sound, whole⟩ := WindowPool.sound_of_ofRegion made
  refine ⟨sound, .empty fun r => ?_⟩
  simp [whole, WindowPool.Reserves, WindowPool.spanning]

/-- All in all, configuring a surface trades its old window for that of its new layout. -/
theorem settled (kept : d.PoolKept) {handle : Handle} {surface : Surface} {a : Attributes}
    {attempt : Attempt} {pool : WindowPool} {buffers : Buffers}
    (found : d.surfaces.find? handle = some surface)
    (attempted : d.Attempted handle surface.holdings a attempt pool buffers) :
    (pool.giveBack attempt.spare.window).Sound d.config.pool ∧
      Exchange d.pool.Reserves (pool.giveBack attempt.spare.window).Reserves surface.window?
        (Surface.mk (attempt.setup a) surface.permanent).window? := by
  obtain ⟨sound, dealing⟩ := attempted.reservations kept.sound
    fun r held => kept.ledger.held ((owned_of_find? Surface.window? found).trans held)
  cases attempt with
  | refused _ rest | linear rest =>
    obtain ⟨sound', gone⟩ := sound.giveBack fun r held => dealing.arrived held
    exact ⟨sound', dealing.trans gone⟩
  | tiled layout => exact ⟨sound, dealing⟩

theorem move (kept : d.PoolKept) (move : d.Move d') : d'.PoolKept := by
  cases move with
  | idle => exact ⟨kept.sound, kept.ledger⟩
  | tracked missing =>
    refine ⟨kept.sound, ?_⟩
    rw [owned_insert_bare {} missing rfl]
    exact kept.ledger
  | @flagged handle surface on found =>
    refine ⟨kept.sound, ?_⟩
    rw [owned_insert_same ⟨surface.setup, on⟩ found rfl]
    exact kept.ledger
  | @rebound handle layout permanent permanent' binding _ _ _ _ _ found =>
    refine ⟨kept.sound, ?_⟩
    rw [owned_insert_same ⟨.tiled { layout with binding }, permanent'⟩ found rfl]
    exact kept.ledger
  | @settled handle surface a attempt pool buffers stats found unlocked attempted =>
    obtain ⟨sound, dealing⟩ := kept.settled found attempted
    refine ⟨sound, ?_⟩
    rw [owned_insert]
    exact kept.ledger.exchange (owned_of_find? Surface.window? found ▸ dealing)
  | @removed handle surface _ _ _ _ _ found =>
    have mine := owned_of_find? Surface.window? found
    obtain ⟨sound, gone⟩ := kept.sound.giveBack
      fun r held => kept.ledger.held (mine.trans held)
    refine ⟨sound, ?_⟩
    rw [owned_erase]
    exact kept.ledger.exchange (mine ▸ gone)

theorem step (kept : d.PoolKept) (command : Command) : (d.step command).2.PoolKept := by
  rcases d.step_cases command with move | ⟨other, rfl⟩
  · exact kept.move move
  · exact ⟨kept.sound, kept.ledger⟩

theorem run (kept : d.PoolKept) (commands : List Command) : (d.run commands).PoolKept :=
  run_keeps PoolKept kept (fun _ command kept => kept.step command) commands

end PoolKept

end Driver

end TiledSurface
