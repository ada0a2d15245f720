import TiledSurface.Proofs.Driver.Plans
import TiledSurface.Proofs.Driver.Slots

/-!
The shape of a surface in a run. A surface has no configuration, a linear one without any
resource, or a tiled one whose window, mapping and descriptor all follow from its attributes;
and it holds a slot while it is locked, or because it was told to keep it.
-/

namespace TiledSurface

/-- What belongs to a configuration besides its attributes, and agrees with them. -/
structure Conforms (unit : LengthUnit) (a : Attributes) (footprint : Footprint) (window : Region)
    (mapping : DeviceMapping) (descriptor : Descriptor) : Prop where
  layout : ∃ format tiles presence, a.check = .ok format ∧
    format.layout? = some (tiles, presence) ∧
    Footprint.ofAttributes a tiles presence = .ok footprint ∧
    Descriptor.ofFootprint a tiles footprint window.base mapping.base unit = .ok descriptor
  size : window.size = footprint.windowSize
  pages : 0 < window.size ∧ pageSize ∣ window.size
  uvStart : cacheLineSize ∣ window.base + footprint.uvOffset
  span : ∃ span, footprint.deviceBytes? = some span ∧ span ≤ mapping.length

theorem Plan.conforms {a : Attributes} {plan : Plan} {unit : LengthUnit} {base : Nat}
    {mapping : DeviceMapping} {descriptor : Descriptor} (planned : a.plan? = .ok (some plan))
    (described : plan.describe a unit ⟨base, plan.footprint.windowSize⟩ mapping = .ok descriptor) :
    Conforms unit a plan.footprint ⟨base, plan.footprint.windowSize⟩ mapping descriptor := by
  obtain ⟨format, presence, checked, layout, computed, span⟩ := Attributes.plan?_eq_some.mp planned
  obtain ⟨long, _, aligned, encoded⟩ := Plan.describe_eq_ok.mp described
  obtain ⟨positive, multiple, _⟩ := Plan.window_whole planned
  exact {
    layout := ⟨format, plan.format, presence, checked, layout, computed, encoded⟩
    size := rfl
    pages := ⟨positive, multiple⟩
    uvStart := aligned
    span := ⟨plan.span, span, long⟩ }

namespace Surface

structure Bare (s : Surface) : Prop where
  footprint : s.footprint? = none
  window : s.window? = none
  mapping : s.mapping? = none
  descriptor : s.descriptor? = none
  slot : s.slot? = none
  session : s.session? = none

def IsUnconfigured (s : Surface) : Prop := s.attributes? = none ∧ s.Bare

def IsLinear (s : Surface) : Prop :=
  ∃ a format, s.attributes? = some a ∧ a.check = .ok format ∧ format.layout? = none ∧ s.Bare

def IsConfigured (s : Surface) (unit : LengthUnit) : Prop :=
  ∃ a footprint window mapping descriptor, s.attributes? = some a ∧
    s.footprint? = some footprint ∧ s.window? = some window ∧ s.mapping? = some mapping ∧
    s.descriptor? = some descriptor ∧ Conforms unit a footprint window mapping descriptor

structure Valid (s : Surface) (unit : LengthUnit) : Prop where
  linear : ∀ a, s.setup = .linear a → a.plan? = .ok none
  tiled : ∀ layout, s.setup = .tiled layout →
    Conforms unit layout.attributes layout.footprint layout.window layout.mapping layout.descriptor
  keeps : s.session? = none → s.slot? ≠ none → s.permanent = true

variable {s : Surface} {unit : LengthUnit}

theorem valid_fresh (unit : LengthUnit) : Valid {} unit where
  linear := by simp
  tiled := by simp
  keeps := fun _ held => absurd rfl held

theorem Valid.shape (valid : s.Valid unit) :
    s.IsUnconfigured ∨ s.IsLinear ∨ s.IsConfigured unit := by
  obtain ⟨setup, permanent⟩ := s
  cases setup with
  | unconfigured => exact .inl ⟨rfl, rfl, rfl, rfl, rfl, rfl, rfl⟩
  | linear a =>
    obtain ⟨format, checked, layout⟩ := Attributes.plan?_eq_none.mp (valid.linear a rfl)
    exact .inr (.inl ⟨a, format, rfl, checked, layout, rfl, rfl, rfl, rfl, rfl, rfl⟩)
  | tiled layout =>
    exact .inr (.inr ⟨_, _, _, _, _, rfl, rfl, rfl, rfl, rfl, valid.tiled layout rfl⟩)

theorem Valid.configured_of_locked (valid : s.Valid unit) (locked : s.session? ≠ none) :
    s.IsConfigured unit := by
  rcases valid.shape with ⟨_, bare⟩ | ⟨_, _, _, _, _, bare⟩ | configured
  · exact absurd bare.session locked
  · exact absurd bare.session locked
  · exact configured

theorem not_linear_of_unconfigured (none : s.IsUnconfigured) : ¬ s.IsLinear := by
  intro given
  obtain ⟨a, _, some, _⟩ := given
  cases none.1.symm.trans some

theorem not_configured_of_bare (bare : s.Bare) : ¬ s.IsConfigured unit := by
  intro given
  obtain ⟨_, _, window, _, _, _, _, some, _⟩ := given
  cases bare.window.symm.trans some

end Surface

namespace Driver

variable {d d' : Driver}

def ShapesKept (d : Driver) : Prop :=
  ∀ handle surface, d.surfaces.find? handle = some surface → surface.Valid d.lengthUnit

namespace ShapesKept

theorem start {config : Config} {platform : Platform} (up : bringUp config platform = .ok d) :
    d.ShapesKept := by
  obtain ⟨engine, pool, faults, rfl, _⟩ := bringUp_eq_ok up
  intro handle surface found
  simp at found

theorem insert (kept : d.ShapesKept) {handle : Handle} {next : Surface}
    (valid : next.Valid d.lengthUnit) (other : Handle) (surface : Surface)
    (found : (d.surfaces.insert handle next).find? other = some surface) :
    surface.Valid d.lengthUnit := by
  rw [OrderedMap.find?_insert] at found
  split at found
  · exact Option.some.inj found ▸ valid
  · exact kept other surface found

theorem rebind {slots slots' : SlotTable} {engine : Engine} {windows : OrderedMap EngineWindow}
    {layout : Tiled} {permanent permanent' : Bool} {binding : Binding} {unit : LengthUnit}
    (valid : (Surface.mk (.tiled layout) permanent).Valid unit)
    (rebinding : Rebinding slots engine layout permanent' binding slots' windows) :
    (Surface.mk (.tiled { layout with binding }) permanent').Valid unit where
  linear := by simp
  tiled := by
    intro _ shown
    cases shown
    exact valid.tiled layout rfl
  keeps := by
    intro unlocked held
    cases rebinding with
    | counted | reopened | reprogrammed | claimed => cases unlocked
    | suspended _ stays => exact stays
    | closed | dropped => exact absurd rfl held

theorem settle {handle : Handle} {surface : Surface} {a : Attributes} {attempt : Attempt}
    {pool : WindowPool} {buffers : Buffers} (valid : surface.Valid d.lengthUnit)
    (unlocked : surface.session? = none)
    (attempted : d.Attempted handle surface.holdings a attempt pool buffers) :
    (Surface.mk (attempt.setup a) surface.permanent).Valid d.lengthUnit := by
  have slot := attempted.slot
  cases attempted with
  | unmapped | invalid | full | unreachable | unattached | indescribable =>
    exact ⟨by simp [Attempt.setup], by simp [Attempt.setup], fun _ held => absurd rfl held⟩
  | linear _ plan =>
    refine ⟨?_, by simp [Attempt.setup], fun _ held => absurd rfl held⟩
    intro _ shown
    cases shown
    exact plan
  | tiled _ planned _ _ _ described =>
    refine ⟨by simp [Attempt.setup], ?_, fun _ held => ?_⟩
    · intro _ shown
      cases shown
      exact Plan.conforms planned described
    · exact valid.keeps unlocked fun bare => held (slot.trans bare)

theorem move (kept : d.ShapesKept) (move : d.Move d') : d'.ShapesKept := by
  cases move with
  | idle _ version =>
    unfold ShapesKept lengthUnit
    rw [version]
    exact kept
  | tracked missing => exact kept.insert (Surface.valid_fresh _)
  | @flagged handle surface on found bare =>
    have valid := kept handle surface found
    refine kept.insert ⟨valid.linear, valid.tiled, fun unlocked held => ?_⟩
    cases on with
    | true => rfl
    | false => exact absurd (bare rfl unlocked) held
  | @rebound handle layout _ _ _ _ _ _ _ _ found rebinding version =>
    unfold ShapesKept lengthUnit
    rw [version]
    exact kept.insert (rebind (kept handle _ found) rebinding)
  | @settled handle surface _ _ _ _ _ found unlocked attempted =>
    exact kept.insert (settle (kept handle surface found) unlocked attempted)
  | removed found _ _ version =>
    unfold ShapesKept lengthUnit
    rw [version]
    intro other surface remains
    rw [OrderedMap.find?_erase] at remains
    split at remains
    · cases remains
    · exact kept other surface remains

theorem step (kept : d.ShapesKept) (command : Command) : (d.step command).2.ShapesKept := by
  rcases d.step_cases command with move | ⟨other, rfl⟩
  · exact kept.move move
  · intro handle surface found
    have unit : (d.step (.platform other)).2.lengthUnit = d.lengthUnit :=
      congrArg LengthUnit.ofVersion (d.toPlatform.version_step other)
    rw [unit]
    exact kept handle surface found

theorem run (kept : d.ShapesKept) (commands : List Command) : (d.run commands).ShapesKept :=
  run_keeps ShapesKept kept (fun _ command kept => kept.step command) commands

end ShapesKept

theorem lengthUnit_run {config : Config} {platform : Platform}
    (up : bringUp config platform = .ok d) (commands : List Command) :
    (d.run commands).lengthUnit = .ofVersion platform.engine.version := by
  obtain ⟨engine, pool, faults, rfl, _, _, version, _⟩ := bringUp_eq_ok up
  exact congrArg LengthUnit.ofVersion ((version_run _ commands).trans version)

/-- The slot of a locked surface is held for it and has its descriptor. -/
theorem SlotsKept.locked (kept : d.SlotsKept) {handle : Handle} {surface : Surface}
    (found : d.surfaces.find? handle = some surface) (locked : surface.session? ≠ none) :
    ∃ slot descriptor, surface.slot? = some slot ∧ surface.programmed? = some slot ∧
      surface.descriptor? = some descriptor ∧ d.slots.isHeld slot = true ∧
      d.slots.read? slot = some descriptor.encode := by
  obtain ⟨setup, permanent⟩ := surface
  cases setup with
  | unconfigured | linear => exact absurd rfl locked
  | tiled layout =>
    cases binding : layout.binding with
    | unbound | kept => simp [binding] at locked
    | locked slot session =>
      have mine : owned d.surfaces Surface.slot? handle = some slot := by
        rw [owned_of_find? _ found]
        simp [Surface.slot?, Surface.tiled?, binding, Binding.slot?]
      have ready : (Surface.mk (.tiled layout) permanent).programmed? = some slot := by
        simp [Surface.programmed?, Surface.tiled?, binding, Binding.programmed?]
      have shown : owned d.surfaces Surface.image? handle =
          some (slot, layout.descriptor.encode) := by
        rw [owned_of_find? _ found]
        simp [Surface.image?, Surface.tiled?, binding, Binding.programmed?]
      exact ⟨slot, layout.descriptor, (owned_of_find? _ found).symm.trans mine, ready, rfl,
        kept.ledger.held mine, kept.written shown⟩

/-- In every state of a run, a surface has exactly one of the three shapes. It is locked only if
it is tiled and has a slot of its own that holds its descriptor, and an unlocked surface has a
slot only if its translation is permanent. -/
theorem surface_shape {config : Config} {platform : Platform} {d : Driver}
    (up : bringUp config platform = .ok d) (commands : List Command) {handle : Handle}
    {surface : Surface} (found : (d.run commands).surfaces.find? handle = some surface) :
    (surface.IsUnconfigured ∨ surface.IsLinear ∨
        surface.IsConfigured (.ofVersion platform.engine.version)) ∧
      ¬ (surface.IsUnconfigured ∧ surface.IsLinear) ∧
      ¬ (surface.IsUnconfigured ∧ surface.IsConfigured (.ofVersion platform.engine.version)) ∧
      ¬ (surface.IsLinear ∧ surface.IsConfigured (.ofVersion platform.engine.version)) ∧
      (surface.session? ≠ none →
        surface.IsConfigured (.ofVersion platform.engine.version) ∧
        ∃ slot descriptor, surface.slot? = some slot ∧ surface.programmed? = some slot ∧
          surface.descriptor? = some descriptor ∧ (d.run commands).slots.isHeld slot = true ∧
          (d.run commands).slots.read? slot = some descriptor.encode) ∧
      (surface.session? = none → surface.slot? ≠ none → surface.permanent = true) := by
  have valid := ShapesKept.run (.start up) commands handle surface found
  rw [lengthUnit_run up] at valid
  refine ⟨valid.shape, ?_, ?_, ?_, ?_, valid.keeps⟩
  · exact fun ⟨unconfigured, linear⟩ => Surface.not_linear_of_unconfigured unconfigured linear
  · exact fun ⟨unconfigured, configured⟩ =>
      Surface.not_configured_of_bare unconfigured.2 configured
  · intro given
    obtain ⟨⟨_, _, _, _, _, bare⟩, configured⟩ := given
    exact Surface.not_configured_of_bare bare configured
  · intro locked
    exact ⟨valid.configured_of_locked locked,
      SlotsKept.locked (SlotsKept.run (.start up) commands) found locked⟩

/-- The surface of the short run is locked, so it is a tiled one. -/
theorem surface_shape_shortRun :
    ∃ d surface, bringUp {} { engine := { version := ⟨1, 1⟩ } } = .ok d ∧
      (d.run shortRun).surfaces.find? 1 = some surface ∧ surface.session? ≠ none ∧
      surface.IsConfigured .bytes := by
  obtain ⟨d, surface, up, found, locked, _⟩ := exists_shortRun
  exact ⟨d, surface, up, found, locked, ((surface_shape up shortRun found).2.2.2.2.1 locked).1⟩

end Driver

end TiledSurface
