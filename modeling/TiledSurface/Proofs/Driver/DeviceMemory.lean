import TiledSurface.Proofs.Descriptor.Regions
import TiledSurface.Proofs.Driver.Attachments
import TiledSurface.Proofs.Driver.Shapes
import TiledSurface.Proofs.Platform.Ranges

namespace TiledSurface

namespace Buffers

@[simp] theorem ranges_ensureAttached (b : Buffers) (handle : Handle)
    (old : Option DeviceMapping) : (b.ensureAttached handle old).2.ranges = b.ranges := by
  cases old with
  | none => exact b.ranges_attach handle
  | some mapping => rfl

@[simp] theorem ranges_giveBack (b : Buffers) (handle : Handle) (held : Holdings) :
    (b.giveBack handle held).ranges = b.ranges := by
  obtain ⟨_, window, mapping⟩ := held
  cases window <;> cases mapping <;> simp [giveBack, unmapWindow]

end Buffers

namespace Driver

variable {d d' : Driver}

theorem Attempted.ranges {handle : Handle} {held : Holdings} {a : Attributes} {attempt : Attempt}
    {pool : WindowPool} {buffers : Buffers}
    (attempted : d.Attempted handle held a attempt pool buffers) :
    buffers.ranges = d.buffers.ranges := by
  rcases attempted.buffers_eq with rfl | ⟨cpu, rfl | rfl⟩ <;> simp

theorem ranges_move (move : d.Move d') : d'.buffers.ranges = d.buffers.ranges := by
  cases move with
  | idle | tracked | flagged | rebound => rfl
  | settled _ _ attempted => exact (Buffers.ranges_giveBack ..).trans attempted.ranges
  | removed => exact Buffers.ranges_giveBack ..

theorem laid_step (laid : d.buffers.Laid) (command : Command) :
    (d.step command).2.buffers.Laid := by
  rcases d.step_cases command with move | ⟨other, rfl⟩
  · exact laid.congr (ranges_move move)
  · cases other with
    | register handle length => exact laid.register handle length
    | attach handle => exact laid.congr (d.buffers.ranges_attach handle)
    | detach handle => exact laid.congr (d.buffers.ranges_detach handle)
    | map handle cpu => exact laid.congr (d.buffers.ranges_map handle cpu)
    | failMaps | failAttaches => exact laid.congr rfl
    | engine | failOnlines | failOfflines | bringOnline | takeOffline | maintain => exact laid

theorem laid_run (laid : d.buffers.Laid) (commands : List Command) :
    (d.run commands).buffers.Laid :=
  run_keeps (fun d => d.buffers.Laid) laid (fun _ command laid => laid_step laid command) commands

/-- What the engine uses of device memory for a surface, by the block that it reads in the
surface's slot. -/
def regions? (d : Driver) (surface : Surface) : Option (List Region) := do
  let block ← d.slots.read? (← surface.slot?)
  return (Descriptor.decode block).regions (← surface.footprint?)

/-- The planes of a locked surface are in a row from the start of its buffer on. -/
theorem locked_regions (slots : d.SlotsKept) (shapes : d.ShapesKept)
    (attachments : d.AttachmentsKept) (laid : d.buffers.Laid) {handle : Handle}
    {surface : Surface} (found : d.surfaces.find? handle = some surface)
    (locked : surface.session? ≠ none) :
    ∃ (buffer : Buffer) (footprint : Footprint),
      d.buffers.records.find? handle = some buffer ∧ buffer.attached = true ∧
      surface.mapping? = some buffer.mapping ∧
      d.regions? surface = some (Region.row buffer.mapping.base footprint.sizes) ∧
      footprint.sizes.sum ≤ buffer.mapping.length := by
  obtain ⟨slot, descriptor, bound, _, described, _, block⟩ := slots.locked found locked
  obtain ⟨a, footprint, window, mapping, descriptor', _, sized, _, mapped, described', conforms⟩ :=
    (shapes handle surface found).configured_of_locked locked
  cases described.symm.trans described'
  obtain ⟨format, tiles, presence, _, _, computed, made⟩ := conforms.layout
  obtain ⟨span, fits, long⟩ := conforms.span
  have attached : d.buffers.attached? handle = some mapping := by
    rw [attachments]
    exact owned_eq_some.mpr ⟨surface, found, mapped⟩
  obtain ⟨buffer, registered, on, rfl⟩ := Buffers.attached?_eq_some.mp attached
  have aligned : pageSize ∣ buffer.mapping.base :=
    laid.aligned (by rw [Buffers.mapping?, registered]; rfl)
  refine ⟨buffer, footprint, registered, on, mapped, ?_, ?_⟩
  · simp [regions?, bound, block, sized, Descriptor.regions_decode computed aligned made]
  · rw [Footprint.sum_sizes fits]
    exact long

/-- Locked surfaces keep to their own buffers. -/
structure Isolated (d : Driver) : Prop where
  /-- The four regions follow each other in the surface's attached buffer. -/
  inside : ∀ handle surface, d.surfaces.find? handle = some surface → surface.session? ≠ none →
    ∃ buffer regions, d.buffers.records.find? handle = some buffer ∧ buffer.attached = true ∧
      surface.mapping? = some buffer.mapping ∧ d.regions? surface = some regions ∧
      regions.IsChain (fun r s => r.stop = s.base) ∧ regions.Pairwise Region.Disjoint ∧
      ∀ r ∈ regions, buffer.mapping.base ≤ r.base ∧
        r.stop ≤ buffer.mapping.base + buffer.mapping.length
  /-- No address is used for two surfaces. -/
  apart : ∀ first second surface surface' regions regions',
    d.surfaces.find? first = some surface → surface.session? ≠ none →
    d.surfaces.find? second = some surface' → surface'.session? ≠ none → first ≠ second →
    d.regions? surface = some regions → d.regions? surface' = some regions' →
    ∀ r ∈ regions, ∀ r' ∈ regions', r.Disjoint r'

theorem isolated (slots : d.SlotsKept) (shapes : d.ShapesKept)
    (attachments : d.AttachmentsKept) (laid : d.buffers.Laid) : d.Isolated where
  inside := by
    intro handle surface found locked
    obtain ⟨buffer, footprint, registered, attached, mapped, used, fits⟩ :=
      locked_regions slots shapes attachments laid found locked
    refine ⟨buffer, _, registered, attached, mapped, used, Region.row_consecutive ..,
      Region.row_disjoint .., fun r member => ?_⟩
    obtain ⟨above, below⟩ := Region.row_inside member
    exact ⟨above, Nat.le_trans below (Nat.add_le_add_left fits _)⟩
  apart := by
    intro first second surface surface' regions regions' found locked found' locked' different
      used used' r member r' member' address inside inside'
    obtain ⟨buffer, _, registered, _, _, row, fits⟩ :=
      locked_regions slots shapes attachments laid found locked
    obtain ⟨buffer', _, registered', _, _, row', fits'⟩ :=
      locked_regions slots shapes attachments laid found' locked'
    cases row.symm.trans used
    cases row'.symm.trans used'
    have mine := Region.row_inside member
    have theirs := Region.row_inside member'
    have apart : buffer.mapping.region.Disjoint buffer'.mapping.region :=
      laid.apart (by rw [Buffers.mapping?, registered]; rfl)
        (by rw [Buffers.mapping?, registered']; rfl) different
    refine apart address ?_ ?_
    · simp only [Region.Contains, Region.stop, DeviceMapping.region] at inside mine ⊢
      omega
    · simp only [Region.Contains, Region.stop, DeviceMapping.region] at inside' theirs ⊢
      omega

/-- Along every run in which only the driver attaches buffers, the engine uses four regions for a
locked surface. They follow each other without a gap, lie in the surface's own attached buffer,
and have no address in common with those of another locked surface. -/
theorem device_memory_isolated {config : Config} {platform : Platform}
    (up : bringUp config platform = .ok d) (unused : platform.buffers.Unused)
    (laid : platform.buffers.Laid) {commands : List Command}
    (alone : Along AttachesAlone d commands) : (d.run commands).Isolated := by
  have start : d.buffers.Laid := by
    obtain ⟨_, _, _, rfl, _⟩ := bringUp_eq_ok up
    exact laid
  exact isolated ((SlotsKept.start up).run commands) ((ShapesKept.start up).run commands)
    ((AttachmentsKept.start up unused).along alone) (laid_run start commands)

def pairRun : List Command :=
  [.platform (.register 1 16384), .platform (.register 2 16384), .track 1, .track 2,
    .configure 1 smallAttributes, .configure 2 smallAttributes, .lock 1 .read, .lock 2 .write]

/-- At the end of the run of two surfaces, the engine uses the first four pages for the first of
them and the next four for the second. -/
theorem exists_pairRun :
    ∃ d surface surface', bringUp {} { engine := { version := ⟨1, 1⟩ } } = .ok d ∧
      (d.run pairRun).surfaces.find? 1 = some surface ∧ surface.session? ≠ none ∧
      (d.run pairRun).surfaces.find? 2 = some surface' ∧ surface'.session? ≠ none ∧
      (d.run pairRun).regions? surface =
        some (Region.row 0x10000000 [pageSize, pageSize, pageSize, pageSize]) ∧
      (d.run pairRun).regions? surface' =
        some (Region.row 0x10004000 [pageSize, pageSize, pageSize, pageSize]) := by
  have computed : (bringUp {} { engine := { version := ⟨1, 1⟩ } }).toOption.any (fun d =>
      ((d.run pairRun).surfaces.find? 1).any (fun surface =>
        ((d.run pairRun).surfaces.find? 2).any (fun surface' =>
          surface.session? ≠ none ∧ surface'.session? ≠ none ∧
            (d.run pairRun).regions? surface =
              some (Region.row 0x10000000 [pageSize, pageSize, pageSize, pageSize]) ∧
            (d.run pairRun).regions? surface' =
              some (Region.row 0x10004000 [pageSize, pageSize, pageSize, pageSize])))) = true := by
    decide +kernel
  obtain ⟨d, up, ran⟩ := exists_up computed
  obtain ⟨surface, found, rest⟩ := (Option.any_eq_true _ _).mp ran
  obtain ⟨surface', found', shows⟩ := (Option.any_eq_true _ _).mp rest
  obtain ⟨locked, locked', used, used'⟩ := of_decide_eq_true shows
  exact ⟨d, surface, surface', up, found, locked, found', locked', used, used'⟩

/-- The two surfaces of the run have no device address in common. -/
theorem device_memory_isolated_pairRun :
    ∃ d, bringUp {} { engine := { version := ⟨1, 1⟩ } } = .ok d ∧ (d.run pairRun).Isolated ∧
      ∀ r ∈ Region.row 0x10000000 [pageSize, pageSize, pageSize, pageSize],
        ∀ r' ∈ Region.row 0x10004000 [pageSize, pageSize, pageSize, pageSize],
          r.Disjoint r' := by
  obtain ⟨d, surface, surface', up, found, locked, found', locked', used, used'⟩ := exists_pairRun
  have fresh := owned_bringUp up Surface.mapping?
  have alone : Along AttachesAlone d pairRun :=
    ⟨fresh 1, fresh 2, trivial, trivial, trivial, trivial, trivial, trivial, trivial⟩
  have isolated := device_memory_isolated up .empty .empty alone
  exact ⟨d, up, isolated,
    isolated.apart 1 2 surface surface' _ _ found locked found' locked' (by decide) used used'⟩

end Driver

end TiledSurface
