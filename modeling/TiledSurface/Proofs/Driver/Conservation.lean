import TiledSurface.Proofs.Driver.Attachments
import TiledSurface.Proofs.Driver.Mappings
import TiledSurface.Proofs.Driver.Reservations
import TiledSurface.Proofs.Driver.Slots

namespace TiledSurface

namespace Driver

variable {d : Driver}

structure Conserved (d : Driver) : Prop where
  reservations : ∀ r, r ∈ d.pool.reservations ↔
    ∃ handle surface, d.surfaces.find? handle = some surface ∧ surface.window? = some r
  disjoint : d.pool.reservations.Pairwise Region.Disjoint
  slots : ∀ slot : Slot, d.slots.isHeld slot = true ↔
    ∃ handle surface, d.surfaces.find? handle = some surface ∧ surface.slot? = some slot
  attachments : ∀ handle mapping,
    (∃ buffer, d.buffers.records.find? handle = some buffer ∧ buffer.attached = true ∧
        buffer.mapping = mapping) ↔
      ∃ surface, d.surfaces.find? handle = some surface ∧ surface.mapping? = some mapping
  /-- Two surfaces have no window and no slot in common. -/
  alone : ∀ handle handle' surface surface', d.surfaces.find? handle = some surface →
    d.surfaces.find? handle' = some surface' → handle ≠ handle' →
      (∀ r, surface.window? = some r → surface'.window? ≠ some r) ∧
        (∀ slot, surface.slot? = some slot → surface'.slot? ≠ some slot)

theorem conserved (pool : d.PoolKept) (slots : d.SlotsKept) (attachments : d.AttachmentsKept) :
    d.Conserved where
  reservations := by
    intro r
    rw [WindowPool.mem_reservations, pool.ledger.taken_iff]
    exact exists_congr fun handle => owned_eq_some
  disjoint := pool.sound.pairwise_disjoint
  slots := by
    intro slot
    rw [slots.ledger.taken_iff]
    exact exists_congr fun handle => owned_eq_some
  attachments := by
    intro handle mapping
    rw [← Buffers.attached?_eq_some, attachments]
    exact owned_eq_some
  alone := by
    intro handle handle' surface surface' found found' different
    refine ⟨fun r mine theirs => different ?_, fun slot mine theirs => different ?_⟩
    · exact pool.ledger.alone (owned_eq_some.mpr ⟨surface, found, mine⟩)
        (owned_eq_some.mpr ⟨surface', found', theirs⟩)
    · exact slots.ledger.alone (owned_eq_some.mpr ⟨surface, found, mine⟩)
        (owned_eq_some.mpr ⟨surface', found', theirs⟩)

structure ShowsWindows (d : Driver) : Prop where
  window : ∀ handle r, d.buffers.cpu? handle = some (.window r) ↔
    ∃ surface, d.surfaces.find? handle = some surface ∧ surface.window? = some r
  linear : ∀ handle buffer, d.buffers.records.find? handle = some buffer →
    (∀ surface, d.surfaces.find? handle = some surface → surface.window? = none) →
      buffer.cpu = .linear

theorem showsWindows (mappings : d.MappingsKept) (attachments : d.AttachmentsKept) :
    d.ShowsWindows where
  window := by
    intro handle r
    rw [← owned_eq_some]
    constructor
    · intro seen
      have shows := mappings handle _ seen
      cases mine : owned d.surfaces Surface.window? handle with
      | none =>
        rw [mine] at shows
        cases shows
      | some window =>
        rw [mine] at shows
        cases shows
        rfl
    · intro mine
      -- A surface with a window has a mapping, so its buffer is registered.
      have held : owned d.surfaces Surface.mapping? handle ≠ none := by
        intro bare
        cases (owned_window?_eq_none bare).symm.trans mine
      obtain ⟨mapping, attached⟩ := Option.ne_none_iff_exists'.mp held
      rw [← attachments] at attached
      obtain ⟨buffer, found, _⟩ := Buffers.attached?_eq_some.mp attached
      have seen : d.buffers.cpu? handle = some buffer.cpu := by simp [Buffers.cpu?, found]
      have shows := mappings handle _ seen
      rw [mine] at shows
      rw [seen, shows]
      rfl
  linear := by
    intro handle buffer found bare
    have seen : d.buffers.cpu? handle = some buffer.cpu := by simp [Buffers.cpu?, found]
    have shows := mappings handle _ seen
    cases mine : owned d.surfaces Surface.window? handle with
    | none =>
      rw [mine] at shows
      exact shows
    | some window =>
      obtain ⟨surface, found', window'⟩ := owned_eq_some.mp mine
      cases (bare surface found').symm.trans window'

theorem all_free (pool : d.PoolKept) (slots : d.SlotsKept) (attachments : d.AttachmentsKept)
    (nothing : ∀ handle, d.surfaces.find? handle = none) :
    d.pool.available = d.config.pool.size ∧ d.slots.inUse = 0 ∧ d.buffers.attachments = 0 := by
  have nobody : ∀ {β : Type} (part : Surface → Option β) (handle : Handle),
      owned d.surfaces part handle = none :=
    fun part handle => owned_of_missing part (nothing handle)
  refine ⟨?_, ?_, ?_⟩
  · have whole : d.pool = .spanning d.config.pool := by
      apply pool.sound.eq_spanning
      intro r live
      obtain ⟨handle, mine⟩ := (pool.ledger.taken_iff r).mp live
      cases (nobody _ handle).symm.trans mine
    rw [whole, WindowPool.available_spanning]
  · apply SlotTable.inUse_eq_zero
    intro slot
    rw [← Bool.not_eq_true]
    intro held
    obtain ⟨handle, mine⟩ := (slots.ledger.taken_iff slot).mp held
    cases (nobody _ handle).symm.trans mine
  · apply Buffers.attachments_eq_zero
    intro handle
    rw [attachments]
    exact nobody _ handle

/-- Along every run that leaves the buffers to the driver, the live reservations of the pool are
the windows of the surfaces, the held slots are those of the surfaces, and the attached buffers
are those of the surfaces with a device mapping. If no request to map a buffer was rejected, the
processor sees exactly the windows that surfaces have. Without surfaces, everything is free. -/
theorem resources_conserved {config : Config} {platform : Platform}
    (up : bringUp config platform = .ok d) (unused : platform.buffers.Unused)
    {commands : List Command} (alone : Along BuffersAlone d commands) :
    (d.run commands).Conserved ∧
      (Along MapsGranted d commands → (d.run commands).ShowsWindows) ∧
      ((∀ handle, (d.run commands).surfaces.find? handle = none) →
        (d.run commands).pool.available = config.pool.size ∧
          (d.run commands).slots.inUse = 0 ∧ (d.run commands).buffers.attachments = 0) := by
  have pool : (d.run commands).PoolKept := (PoolKept.start up).run commands
  have slots : (d.run commands).SlotsKept := (SlotsKept.start up).run commands
  have attachments : (d.run commands).AttachmentsKept := (AttachmentsKept.start up unused).run alone
  refine ⟨conserved pool slots attachments, fun granted => ?_, fun nothing => ?_⟩
  · have mappings : (d.run commands).MappingsKept :=
      (MappingsKept.start up unused).run alone granted
    exact showsWindows mappings attachments
  · rw [← config_bringUp up commands]
    exact all_free pool slots attachments nothing

/-- After the short run the first slot and the first page of the pool are in use, and the
processor sees the buffer there. -/
theorem resources_conserved_shortRun :
    ∃ d, bringUp {} { engine := { version := ⟨1, 1⟩ } } = .ok d ∧
      (d.run shortRun).slots.isHeld 0 = true ∧
      ⟨0x100000000, pageSize⟩ ∈ (d.run shortRun).pool.reservations ∧
      (d.run shortRun).buffers.cpu? 1 = some (.window ⟨0x100000000, pageSize⟩) := by
  obtain ⟨d, surface, up, found, _, slot, window, _⟩ := exists_shortRun
  have unused : ({} : Buffers).Unused := by
    intro handle buffer found
    cases found
  have fresh : owned d.surfaces Surface.mapping? 1 = none ∧ d.buffers.failingMaps = 0 := by
    obtain ⟨_, _, _, rfl, _⟩ := bringUp_eq_ok up
    exact ⟨rfl, rfl⟩
  have alone : Along BuffersAlone d shortRun :=
    ⟨trivial, fresh.1, trivial, trivial, trivial, trivial⟩
  have granted : Along MapsGranted d shortRun :=
    along_mapsGranted fresh.2 (by simp [shortRun])
  obtain ⟨conserved, shows, _⟩ := resources_conserved up unused alone
  refine ⟨d, up, ?_, ?_, ?_⟩
  · exact (conserved.slots ⟨0, by decide⟩).mpr ⟨1, surface, found, slot⟩
  · exact (conserved.reservations _).mpr ⟨1, surface, found, window⟩
  · exact ((shows granted).window 1 _).mpr ⟨surface, found, window⟩

end Driver

end TiledSurface
