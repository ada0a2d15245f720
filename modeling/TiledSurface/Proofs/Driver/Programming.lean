import TiledSurface.Proofs.Driver.Calls
import TiledSurface.Proofs.Driver.Sessions

/-!
When a lock programs a slot. The driver notes for each slot that a surface holds whether its block
and its window are those of the present layout. A surface comes without that note whenever it is
configured, and the first lock that is granted then writes both before it opens the window.
-/

namespace TiledSurface.Driver

open Engine (Event)

variable {d d' : Driver} {handle : Handle}

/-- The surface of the handle has no slot, or one that is not programmed for it. -/
def Unprogrammed (handle : Handle) (d : Driver) : Prop :=
  owned d.surfaces Surface.programmed? handle = none

/-- The step locks the surface of the handle and programs its slot. The descriptor goes into the
table and the window to the engine, where it is opened. -/
structure Programs (handle : Handle) (d : Driver) (command : Command) (slot : Slot)
    (window : Region) (descriptor : Descriptor) : Prop where
  asked : ∃ direction, command = .lock handle direction
  locked : Locked handle (d.step command).2
  bound : owned (d.step command).2.surfaces Surface.slot? handle = some slot
  shown : owned (d.step command).2.surfaces Surface.window? handle = some window
  described : owned (d.step command).2.surfaces Surface.descriptor? handle = some descriptor
  writes : d.writes command = [.setWindow slot window, .enableWindow slot, .flush]
  opened : (d.step command).2.engine.windows.find? slot = some ⟨window, true⟩
  block : (d.step command).2.slots.read? slot = some descriptor.encode

def Programming (handle : Handle) : Policy := fun d command =>
  ∃ slot window descriptor, Programs handle d command slot window descriptor

theorem Unprogrammed.unlocked (bare : Unprogrammed handle d) : ¬ Locked handle d := by
  rintro ⟨surface, found, held⟩
  have none : surface.programmed? = none := (owned_of_find? _ found).symm.trans bare
  obtain ⟨session, locked⟩ := Option.ne_none_iff_exists'.mp held
  obtain ⟨layout, slot, tiled, bound⟩ := Surface.session?_eq_some.mp locked
  simp [Surface.programmed?, Surface.tiled?, tiled, bound, Binding.programmed?] at none

theorem Bound.programs {layout : Tiled} {slot : Slot} {slots : SlotTable} {engine : Engine}
    {stats : Stats} (bound : d.Bound layout slot slots engine stats)
    (bare : layout.binding.programmed? = none) :
    slots.read? slot = some layout.descriptor.encode ∧
      engine = d.engine.setWindow slot layout.window := by
  cases bound with
  | ready kept => simp [kept, Binding.programmed?] at bare
  | stale | claimed => exact ⟨by rw [SlotTable.read?_write, if_pos rfl], rfl⟩

/-- A granted lock programs a slot just if the surface has none that is programmed. -/
theorem programming_iff {direction : Direction} (granted : (d.lock handle direction).1 = .ok ()) :
    Programming handle d (.lock handle direction) ↔ Unprogrammed handle d := by
  have ends := d.lock_ends handle direction
  rw [granted] at ends
  generalize after : (d.lock handle direction).2 = d' at ends
  have stepped : (d.step (.lock handle direction)).2 = d' := after
  cases ends with
  | nested found locked =>
    have silent : d.writes (.lock handle direction) = [] :=
      Calls.writes (stepped ▸ .nothing rfl rfl rfl)
    constructor
    · rintro ⟨_, _, _, programs⟩
      cases silent.symm.trans programs.writes
    · intro bare
      exact absurd (.of_find? found locked) bare.unlocked
  | @first layout permanent slot slots engine stats found bound =>
    have noted : owned d.surfaces Surface.programmed? handle = layout.binding.programmed? :=
      owned_of_find? _ found
    have writes : d.writes (.lock handle direction) = opening layout slot :=
      Calls.writes (stepped ▸ bound.calls ..)
    rw [Unprogrammed, noted]
    constructor
    · rintro ⟨_, _, _, programs⟩
      by_contra ready
      have opened := writes.symm.trans programs.writes
      simp [opening, ready] at opened
    · intro bare
      obtain ⟨block, rfl⟩ := bound.programs bare
      refine ⟨slot, layout.window, layout.descriptor, ⟨direction, rfl⟩, ?_, ?_, ?_, ?_, ?_, ?_, ?_⟩
      · rw [stepped]
        exact .of_find? (OrderedMap.find?_insert_self ..) rfl
      · rw [stepped]
        exact owned_insert_self ..
      · rw [stepped]
        exact owned_insert_self ..
      · rw [stepped]
        exact owned_insert_self ..
      · rw [writes, opening, if_pos bare]
        rfl
      · rw [stepped, Engine.windows_flush, Engine.find?_openWindow, if_pos rfl]
      · rw [stepped]
        exact block

theorem Configured.unprogrammed {a : Attributes} {result : Except Error Unit}
    (configured : d.Configured handle a result d') :
    d' = d ∧ result ≠ .ok () ∨ Unprogrammed handle d' := by
  cases configured with
  | unknown | busy => exact .inl ⟨rfl, nofun⟩
  | @settled surface attempt _ _ _ found unlocked _ attempted =>
    refine .inr ?_
    rw [Unprogrammed, owned_insert_self]
    cases attempt with
    | refused | linear => rfl
    | tiled layout => exact attempted.programmed?

theorem unprogrammed_of_configure {a : Attributes}
    (granted : d.configure handle a = (.ok (), d')) : Unprogrammed handle d' := by
  have configured := d.configure_ends handle a
  rw [granted] at configured
  exact configured.unprogrammed.resolve_left fun ⟨_, refused⟩ => refused rfl

theorem Turn.unprogrammed {command : Command} {outcome : Outcome} {before after : Option Surface}
    (turn : Turn handle command outcome before after)
    (bare : before.bind Surface.programmed? = none) (other : ∀ a, command ≠ .configure handle a)
    (idle : ∀ direction, command ≠ .lock handle direction) :
    after.bind Surface.programmed? = none := by
  cases turn with
  | still | flagged => exact bare
  | tracked | removed | dropped => rfl
  | configured => exact absurd rfl (other _)
  | begun | nested => exact absurd rfl (idle _)
  | returned locked | ended locked =>
    simp [Surface.programmed?, Surface.tiled?, locked, Binding.programmed?] at bare

/-- A surface whose slot is not programmed stays so until a lock programs it. -/
theorem Unprogrammed.step (bare : Unprogrammed handle d) {command : Command}
    (idle : ¬ Programming handle d command) : Unprogrammed handle (d.step command).2 := by
  by_cases configures : ∃ a, command = .configure handle a
  · obtain ⟨a, rfl⟩ := configures
    rcases (d.configure_ends handle a).unprogrammed with ⟨same, _⟩ | unprogrammed
    · exact (congrArg (Unprogrammed handle) same).mpr bare
    · exact unprogrammed
  by_cases locks : ∃ direction, command = .lock handle direction
  · obtain ⟨direction, rfl⟩ := locks
    have ends := d.lock_ends handle direction
    have stepped : (d.step (.lock handle direction)).2 = (d.lock handle direction).2 := rfl
    cases told : (d.lock handle direction).1 with
    | ok done => exact absurd ((programming_iff told).mpr bare) idle
    | error error =>
      rw [told] at ends
      rw [stepped]
      generalize (d.lock handle direction).2 = d' at ends
      cases ends <;> exact bare
  · exact (d.step_turn command handle).unprogrammed bare
      (fun a same => configures ⟨a, same⟩) (fun direction same => locks ⟨direction, same⟩)

theorem Unprogrammed.run (bare : Unprogrammed handle d) {commands : List Command}
    (unlocked : Throughout (fun d => ¬ Locked handle d) d commands) :
    Unprogrammed handle (d.run commands) := by
  induction commands generalizing d with
  | nil => exact bare
  | cons command rest ih =>
    refine ih (bare.step ?_) unlocked.2
    rintro ⟨_, _, _, programs⟩
    exact unlocked.2.start programs.locked

end TiledSurface.Driver
