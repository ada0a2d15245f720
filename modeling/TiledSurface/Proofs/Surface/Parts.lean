import Mathlib.Logic.Function.Basic
import TiledSurface.Engine.Basic
import TiledSurface.Surface.Basic

/-!
What the surfaces of a driver have of one kind, as a function of their handles: slots, windows,
mappings, and what the driver has told the engine on their behalf. A request changes such a
function in one place at most.
-/

namespace TiledSurface

namespace Binding

@[simp] theorem session?_unbound : Binding.unbound.session? = none := rfl

@[simp] theorem session?_kept (slot : Slot) (programmed : Bool) :
    (Binding.kept slot programmed).session? = none := rfl

@[simp] theorem session?_locked (slot : Slot) (session : Session) :
    (Binding.locked slot session).session? = some session := rfl

/-- The slot whose block and window in the engine are those of the present layout. -/
def programmed? : Binding → Option Slot
  | .kept slot true | .locked slot _ => some slot
  | .kept _ false | .unbound => none

theorem slot?_of_programmed? {binding : Binding} {slot : Slot}
    (programmed : binding.programmed? = some slot) : binding.slot? = some slot := by
  cases binding with
  | unbound => simp [programmed?] at programmed
  | kept slot' ready =>
    cases ready with
    | false => simp [programmed?] at programmed
    | true => exact programmed
  | locked slot' session => exact programmed

theorem session?_of_programmed? {binding : Binding} (bare : binding.programmed? = none) :
    binding.session? = none := by
  cases binding with
  | unbound | kept => rfl
  | locked slot session => cases bare

end Binding

namespace Surface

def programmed? (s : Surface) : Option Slot := s.tiled?.bind (·.binding.programmed?)

/-- The programmed slot of a surface, with the block that belongs there. -/
def image? (s : Surface) : Option (Slot × Block) :=
  s.tiled?.bind fun layout =>
    layout.binding.programmed?.map fun slot => (slot, layout.descriptor.encode)

/-- The programmed slot of a surface, with the window that belongs there. It is enabled while the
surface is locked. -/
def gate? (s : Surface) : Option (Slot × EngineWindow) :=
  s.tiled?.bind fun layout =>
    layout.binding.programmed?.map fun slot =>
      (slot, ⟨layout.window, layout.binding.session?.isSome⟩)

@[simp] theorem session?_tiled (layout : Tiled) (permanent : Bool) :
    (Surface.mk (.tiled layout) permanent).session? = layout.binding.session? := rfl

theorem session?_eq_some {s : Surface} {session : Session} :
    s.session? = some session ↔
      ∃ layout slot, s.setup = .tiled layout ∧ layout.binding = .locked slot session := by
  obtain ⟨setup, permanent⟩ := s
  cases setup with
  | unconfigured | linear => simp [session?, tiled?]
  | tiled layout =>
    cases binding : layout.binding with
    | unbound | kept => simp [session?, tiled?, binding, Binding.session?]
    | locked slot session' => simp [session?, tiled?, binding, Binding.session?]

theorem lockCount_of_unlocked {s : Surface} (unlocked : s.session? = none) : s.lockCount = 0 := by
  rw [lockCount, unlocked]
  rfl

theorem lockCount_of_locked {s : Surface} {session : Session}
    (locked : s.session? = some session) : s.lockCount = session.nested + 1 := by
  rw [lockCount, locked]
  rfl

theorem lockCount_locked {layout : Tiled} {slot : Slot} {session : Session}
    (locked : layout.binding = .locked slot session) (permanent : Bool) :
    (Surface.mk (.tiled layout) permanent).lockCount = session.nested + 1 :=
  lockCount_of_locked (congrArg Binding.session? locked)

theorem lockCount_unlocked {layout : Tiled} (unlocked : layout.binding.session? = none)
    (permanent : Bool) : (Surface.mk (.tiled layout) permanent).lockCount = 0 :=
  lockCount_of_unlocked unlocked

theorem session?_ne_none (s : Surface) : s.session? ≠ none ↔ 0 < s.lockCount := by
  unfold lockCount
  cases s.session? with
  | none => simp
  | some session => simp [Session.count]

theorem gate?_eq_some {s : Surface} {slot : Slot} {window : EngineWindow} :
    s.gate? = some (slot, window) ↔
      ∃ layout, s.tiled? = some layout ∧ layout.binding.programmed? = some slot ∧
        ⟨layout.window, layout.binding.session?.isSome⟩ = window := by
  simp only [gate?, Option.bind_eq_some_iff, Option.map_eq_some_iff, Prod.mk.injEq]
  constructor
  · intro given
    obtain ⟨layout, tiled, _, programmed, rfl, shape⟩ := given
    exact ⟨layout, tiled, programmed, shape⟩
  · intro given
    obtain ⟨layout, tiled, programmed, shape⟩ := given
    exact ⟨layout, tiled, slot, programmed, rfl, shape⟩

theorem slot?_of_gate? {s : Surface} {slot : Slot} {window : EngineWindow}
    (shows : s.gate? = some (slot, window)) : s.slot? = some slot := by
  obtain ⟨layout, tiled, programmed, _⟩ := gate?_eq_some.mp shows
  simp [slot?, tiled, Binding.slot?_of_programmed? programmed]

theorem gate?_open {s : Surface} {slot : Slot} {region : Region} :
    s.gate? = some (slot, ⟨region, true⟩) ↔
      s.session? ≠ none ∧ s.slot? = some slot ∧ s.window? = some region := by
  obtain ⟨setup, permanent⟩ := s
  cases setup with
  | unconfigured | linear => simp [gate?, session?, tiled?]
  | tiled layout =>
    simp only [gate?, session?, slot?, window?, tiled?, Option.bind_some, Option.map_some]
    cases layout.binding with
    | unbound => simp [Binding.programmed?, Binding.session?]
    | kept slot' programmed =>
      cases programmed <;> simp [Binding.programmed?, Binding.session?]
    | locked slot' session => simp [Binding.programmed?, Binding.session?, Binding.slot?]

end Surface

variable {β : Type} {surfaces : OrderedMap Surface} {handle : Handle} {surface : Surface}
  {part : Surface → Option β}

/-- A part of the surface that is tracked under a handle. -/
def owned (surfaces : OrderedMap Surface) (part : Surface → Option β) (handle : Handle) :
    Option β :=
  (surfaces.find? handle).bind part

theorem owned_empty (part : Surface → Option β) :
    owned .empty part = fun _ => none := rfl

theorem owned_of_find? (part : Surface → Option β)
    (found : surfaces.find? handle = some surface) :
    owned surfaces part handle = part surface := by
  simp [owned, found]

theorem owned_of_missing (part : Surface → Option β) (missing : surfaces.find? handle = none) :
    owned surfaces part handle = none := by
  simp [owned, missing]

theorem owned_congr {surfaces' : OrderedMap Surface} (part : Surface → Option β)
    (same : surfaces'.find? handle = surfaces.find? handle) :
    owned surfaces' part handle = owned surfaces part handle := by
  rw [owned, same, owned]

theorem owned_eq_some {item : β} :
    owned surfaces part handle = some item ↔
      ∃ surface, surfaces.find? handle = some surface ∧ part surface = some item := by
  simp [owned, Option.bind_eq_some_iff]

theorem owned_slot?_of_gate? {slot : Slot} {window : EngineWindow}
    (shows : owned surfaces Surface.gate? handle = some (slot, window)) :
    owned surfaces Surface.slot? handle = some slot := by
  obtain ⟨surface, found, gate⟩ := owned_eq_some.mp shows
  exact owned_eq_some.mpr ⟨surface, found, Surface.slot?_of_gate? gate⟩

theorem owned_window?_eq_none (bare : owned surfaces Surface.mapping? handle = none) :
    owned surfaces Surface.window? handle = none := by
  unfold owned at *
  cases found : surfaces.find? handle with
  | none => rfl
  | some surface =>
    rw [found] at bare
    exact Option.map_eq_none_iff.mpr (Option.map_eq_none_iff.mp bare)

theorem owned_insert (surfaces : OrderedMap Surface) (handle : Handle) (surface : Surface)
    (part : Surface → Option β) :
    owned (surfaces.insert handle surface) part =
      Function.update (owned surfaces part) handle (part surface) := by
  funext other
  by_cases same : other = handle
  · subst same
    simp [owned, OrderedMap.find?_insert]
  · simp [owned, OrderedMap.find?_insert, same]

theorem owned_insert_self (surfaces : OrderedMap Surface) (handle : Handle) (surface : Surface)
    (part : Surface → Option β) :
    owned (surfaces.insert handle surface) part handle = part surface :=
  owned_of_find? part (surfaces.find?_insert_self handle surface)

theorem owned_erase (surfaces : OrderedMap Surface) (handle : Handle)
    (part : Surface → Option β) :
    owned (surfaces.erase handle) part =
      Function.update (owned surfaces part) handle none := by
  funext other
  by_cases same : other = handle
  · subst same
    simp [owned, OrderedMap.find?_erase]
  · simp [owned, OrderedMap.find?_erase, same]

theorem owned_insert_same (next : Surface) (found : surfaces.find? handle = some surface)
    (same : part next = part surface) :
    owned (surfaces.insert handle next) part = owned surfaces part := by
  rw [owned_insert, same, ← owned_of_find? part found, Function.update_eq_self]

theorem owned_insert_bare (next : Surface) (missing : surfaces.find? handle = none)
    (bare : part next = none) :
    owned (surfaces.insert handle next) part = owned surfaces part := by
  rw [owned_insert, bare, ← owned_of_missing part missing, Function.update_eq_self]

end TiledSurface
