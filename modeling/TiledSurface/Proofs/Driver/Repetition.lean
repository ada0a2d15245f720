import TiledSurface.Proofs.Driver.FailedConfigure
import TiledSurface.Proofs.Driver.Mappings
import TiledSurface.Proofs.Driver.Notes
import TiledSurface.Proofs.Driver.Plans
import TiledSurface.Proofs.Driver.Programming
import TiledSurface.Proofs.OrderedMap

namespace TiledSurface

namespace Buffers

variable {b b' : Buffers} {handle : Handle} {cpu : CpuMapping}

theorem mapped_frame (mapped : b.map handle cpu = (.ok (), b')) :
    b'.failingMaps = 0 ∧ b'.cpu? handle = some cpu := by
  refine ⟨?_, by rw [cpu?_map_ok mapped, Function.update_self]⟩
  rcases b.map_cases handle cpu with ⟨_, _, rejected⟩ | ⟨_, _, unknown⟩ | ⟨_, granted, _, done⟩
  · cases rejected.symm.trans mapped
  · cases unknown.symm.trans mapped
  · cases done.symm.trans mapped
    exact granted

theorem map_same (granted : b.failingMaps = 0) (seen : b.cpu? handle = some cpu) :
    b.map handle cpu = (.ok (), b) := by
  obtain ⟨buffer, found, rfl⟩ := Option.map_eq_some_iff.mp seen
  unfold map
  simp only [granted, found]
  rw [OrderedMap.insert_self found, ← granted]

theorem map_back (granted : b.failingMaps = 0) (seen : b.cpu? handle = some cpu)
    (other : CpuMapping) :
    ∃ b', b.map handle other = (.ok (), b') ∧ b'.map handle cpu = (.ok (), b) := by
  obtain ⟨buffer, found, rfl⟩ := Option.map_eq_some_iff.mp seen
  refine ⟨{ b with records := b.records.insert handle { buffer with cpu := other } }, ?_, ?_⟩
  · unfold map
    simp only [granted, found]
  · unfold map
    simp only [granted, OrderedMap.find?_insert, if_true]
    rw [OrderedMap.insert_insert, OrderedMap.insert_self found, ← granted]

end Buffers

theorem WindowPool.trade_same (pool : WindowPool) (window : Region) (positive : 0 < window.size) :
    pool.trade (some window) window.size = (.ok window.base, pool) := by
  simp [trade, resize, Nat.ne_of_gt positive]

namespace Driver

variable {d d' once : Driver} {handle : Handle} {a : Attributes}

theorem Attempted.again {held : Holdings} {layout : Tiled} {pool : WindowPool} {buffers : Buffers}
    (attempted : d.Attempted handle held a (.tiled layout) pool buffers)
    (unit : once.lengthUnit = d.lengthUnit) (pools : once.pool = pool)
    (shared : once.buffers = buffers) :
    once.Attempted handle (Attempt.tiled layout).held a (.tiled layout) pool buffers := by
  cases attempted with
  | @tiled _ plan base _ buffers' _ _ _ own planned reserved mapped attached described =>
    obtain ⟨none, seen⟩ := Buffers.mapped_frame mapped
    obtain ⟨sees, waits⟩ := buffers'.ensureAttached_frame handle held.mapping
    simp only [attached] at sees waits
    obtain ⟨own', linear, back⟩ :=
      Buffers.map_back (waits.trans none) ((congrFun sees handle).trans seen) .linear
    have window := pool.trade_same ⟨base, plan.footprint.windowSize⟩ (Plan.window_whole planned).1
    rw [← shared] at linear
    rw [← pools] at window
    rw [← unit] at described
    have kept : (staleBinding held.slot).slot? = held.slot := by cases held.slot <;> rfl
    rw [Attempt.held, kept, ← pools]
    exact .tiled linear planned window back rfl described

theorem Attempted.again_linear {held held' : Holdings} {pool : WindowPool} {buffers : Buffers}
    (attempted : d.Attempted handle held a (.linear held') pool buffers)
    (shared : once.buffers = buffers.giveBack handle held') :
    once.Attempted handle {} a (.linear {}) once.pool once.buffers := by
  cases attempted with
  | linear own planned =>
    obtain ⟨none, seen⟩ := Buffers.mapped_frame own
    have unmapped : buffers.unmapWindow handle held.window = buffers := by
      cases held.window with
      | none => rfl
      | some window => exact congrArg Prod.snd (Buffers.map_same none seen)
    obtain ⟨sees, waits⟩ := buffers.giveBack_frame handle held
    rw [unmapped, ← shared] at sees waits
    exact .linear (Buffers.map_same (waits.trans none) ((congrFun sees handle).trans seen)) planned

theorem Configured.accepted (configured : d.Configured handle a (.ok ()) d') :
    ∃ surface attempt pool buffers stats, d.surfaces.find? handle = some surface ∧
      d.Attempted handle surface.holdings a attempt pool buffers ∧ attempt.result = .ok () ∧
      d' = { d with
        slots := d.slots.giveBack attempt.spare.slot
        pool := pool.giveBack attempt.spare.window
        buffers := buffers.giveBack handle attempt.spare
        surfaces := d.surfaces.insert handle ⟨attempt.setup a, surface.permanent⟩
        stats } := by
  generalize told : (Except.ok () : Except Error Unit) = result at configured
  cases configured with
  | unknown | busy => cases told
  | settled found unlocked tried attempted =>
    exact ⟨_, _, _, _, _, found, attempted, rfl, rfl⟩

theorem configure_same {surface : Surface} (attempt : Attempt)
    (found : d.surfaces.find? handle = some surface) (unlocked : surface.session? = none)
    (same : surface.setup = attempt.setup a) (granted : attempt.result = .ok ())
    (spare : attempt.spare = {})
    (attempted : d.Attempted handle surface.holdings a attempt d.pool d.buffers) :
    d.configure handle a = (.ok (), { d with
      stats := { d.stats with configured := d.stats.configured + 1 } }) := by
  unfold configure
  simp only [found, unlocked, Option.isSome_none, Bool.false_eq_true, if_false,
    attempted.attempt_eq]
  have put : d.surfaces.insert handle ⟨attempt.setup a, surface.permanent⟩ = d.surfaces :=
    OrderedMap.insert_self (found.trans (by rw [← same]))
  cases attempt with
  | refused => cases granted
  | linear held =>
    cases spare
    exact congrArg (fun surfaces => (Except.ok (), { d with
      surfaces, stats := { d.stats with configured := d.stats.configured + 1 } })) put
  | tiled layout =>
    exact congrArg (fun surfaces => (Except.ok (), { d with
      surfaces, stats := { d.stats with configured := d.stats.configured + 1 } })) put

/-- After a request to configure a surface was granted, the same request finds all that it asks
for, and only counts. -/
theorem configure_again (granted : d.configure handle a = (.ok (), once)) :
    once.configure handle a = (.ok (), { once with
      stats := { once.stats with configured := once.stats.configured + 1 } }) := by
  have configured := d.configure_ends handle a
  rw [granted] at configured
  obtain ⟨surface, attempt, pool, buffers, stats, found, attempted, accepted, rfl⟩ :=
    configured.accepted
  have found' : (d.surfaces.insert handle ⟨attempt.setup a, surface.permanent⟩).find? handle =
      some ⟨attempt.setup a, surface.permanent⟩ := OrderedMap.find?_insert_self ..
  cases attempt with
  | refused => cases accepted
  | linear held =>
    exact configure_same (.linear {}) found' rfl rfl rfl rfl (attempted.again_linear rfl)
  | tiled layout =>
    have unlocked := Binding.session?_of_programmed? attempted.programmed?
    exact configure_same (.tiled layout) found' unlocked rfl rfl rfl (attempted.again rfl rfl rfl)

/-- Drivers that differ in their notes alone program a slot in the same way. -/
theorem Programs.same (same : d.plain = d'.plain) {direction : Direction}
    (granted : (d.lock handle direction).1 = .ok ()) (bare : Unprogrammed handle d) :
    ∃ slot window descriptor,
      Programs handle d (.lock handle direction) slot window descriptor ∧
        Programs handle d' (.lock handle direction) slot window descriptor := by
  obtain ⟨told, left⟩ := effect_eq.mp
    (effect_congr (·.lock handle direction) (lock_plain · handle direction) same)
  have bare' : Unprogrammed handle d' := by rwa [Unprogrammed, ← surfaces_of_plain same]
  have after : (d.step (.lock handle direction)).2.surfaces =
      (d'.step (.lock handle direction)).2.surfaces := surfaces_of_plain left
  obtain ⟨slot, window, descriptor, programs⟩ := (programming_iff granted).mpr bare
  obtain ⟨slot', window', descriptor', programs'⟩ :=
    (programming_iff (told.symm.trans granted)).mpr bare'
  cases programs.bound.symm.trans (after ▸ programs'.bound)
  cases programs.shown.symm.trans (after ▸ programs'.shown)
  cases programs.described.symm.trans (after ▸ programs'.described)
  exact ⟨slot, window, descriptor, programs, programs'⟩

/-- When a request to configure a surface has been granted, the same request is granted again, and
only the counter of configurations tells. Whatever happens while the surface is not locked, its
next session begins in the same way after one request as after two: the slot is programmed. -/
theorem configure_idempotent (granted : d.configure handle a = (.ok (), once)) :
    ∃ twice, once.configure handle a = (.ok (), twice) ∧
      twice = { once with
        stats := { once.stats with configured := once.stats.configured + 1 } } ∧
      ∀ later direction, Throughout (fun d => ¬ Locked handle d) once later →
        ((twice.run later).lock handle direction).1 =
            ((once.run later).lock handle direction).1 ∧
          (((once.run later).lock handle direction).1 = .ok () → ∃ slot window descriptor,
            Programs handle (once.run later) (.lock handle direction) slot window descriptor ∧
            Programs handle (twice.run later) (.lock handle direction) slot window descriptor ∧
            ((twice.run later).lock handle direction).2.engine.windows =
              ((once.run later).lock handle direction).2.engine.windows ∧
            ((twice.run later).lock handle direction).2.slots =
              ((once.run later).lock handle direction).2.slots) := by
  refine ⟨_, configure_again granted, rfl, fun later direction unlocked => ?_⟩
  generalize twice_eq : { once with
    stats := { once.stats with configured := once.stats.configured + 1 } } = twice
  have same : once.plain = twice.plain := by
    rw [← twice_eq]
    rfl
  have ran := run_plain same later
  obtain ⟨told, left⟩ := effect_eq.mp
    (effect_congr (·.lock handle direction) (lock_plain · handle direction) ran)
  refine ⟨told.symm, fun opened => ?_⟩
  obtain ⟨slot, window, descriptor, programs, programs'⟩ :=
    Programs.same ran opened ((unprogrammed_of_configure granted).run unlocked)
  exact ⟨slot, window, descriptor, programs, programs',
    windows_of_plain left.symm, slots_of_plain left.symm⟩

/-- A surface with a programmed slot is configured twice as it is. The next lock programs the first
slot again. -/
theorem configure_idempotent_keptRun :
    ∃ d once twice window descriptor, bringUp {} { engine := { version := ⟨1, 1⟩ } } = .ok d ∧
      (d.run keptRun.dropLast).configure 1 smallAttributes = (.ok (), once) ∧
      once.configure 1 smallAttributes = (.ok (), twice) ∧
      Programs 1 twice (.lock 1 .read) ⟨0, by decide⟩ window descriptor := by
  have computed : (bringUp {} { engine := { version := ⟨1, 1⟩ } }).toOption.any (fun d =>
      ((d.run keptRun.dropLast).configure 1 smallAttributes).1 = .ok () ∧
        (((d.run keptRun.dropLast).configure 1 smallAttributes).2.lock 1 .read).1 = .ok () ∧
        owned (((d.run keptRun.dropLast).configure 1 smallAttributes).2.lock 1 .read).2.surfaces
          Surface.slot? 1 = some ⟨0, by decide⟩) = true := by
    decide +kernel
  obtain ⟨d, up, ran⟩ := exists_up computed
  obtain ⟨granted, opened, first⟩ := of_decide_eq_true ran
  generalize ended : (d.run keptRun.dropLast).configure 1 smallAttributes = after
    at granted opened first
  obtain ⟨result, once⟩ := after
  cases granted
  obtain ⟨twice, again, _, next⟩ := configure_idempotent ended
  obtain ⟨told, programs⟩ := next [] .read (unprogrammed_of_configure ended).unlocked
  obtain ⟨slot, window, descriptor, programs, programs', _⟩ := programs opened
  cases programs.bound.symm.trans first
  exact ⟨d, once, twice, window, descriptor, up, ended, again, programs'⟩

end Driver

end TiledSurface
