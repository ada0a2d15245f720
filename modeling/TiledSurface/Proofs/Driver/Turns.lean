import TiledSurface.Proofs.Driver.Runs

/-!
The life of one surface. Whatever happens to a driver, the surface of a handle takes one of a few
turns: it is tracked, configured while it is not locked, flagged, locked and unlocked, and
removed. Most of what happens does not concern it.
-/

namespace TiledSurface.Driver

def Command.isLock (handle : Handle) : Command → Bool
  | .lock other _ => other == handle
  | _ => false

def Command.isUnlock (handle : Handle) : Command → Bool
  | .unlock other _ => other == handle
  | _ => false

def Outcome.isDone : Outcome → Bool
  | .done => true
  | _ => false

def Outcome.isRefused : Outcome → Bool
  | .refused _ => true
  | _ => false

/-- What a step is to the surface of the handle, which may be missing before and after it. -/
inductive Turn (handle : Handle) : Command → Outcome → Option Surface → Option Surface → Prop where
  /-- The step does not concern the surface, or the request fails. -/
  | still {command outcome surface?} (locks : command.isLock handle = true → outcome.isDone = false)
      (unlocks : command.isUnlock handle = true → outcome.isDone = false) :
      Turn handle command outcome surface? surface?
  | tracked : Turn handle (.track handle) .done none (some {})
  | removed {surface} : Turn handle (.untrack handle) .done (some surface) none
  | configured {a outcome surface setup} (unlocked : surface.session? = none)
      (idle : (Surface.mk setup surface.permanent).session? = none) :
      Turn handle (.configure handle a) outcome (some surface) (some ⟨setup, surface.permanent⟩)
  | flagged {on surface} :
      Turn handle (.setPermanent handle on) .done (some surface)
        (some { surface with permanent := on })
  /-- The slot is given back together with the flag that keeps it. -/
  | dropped {layout permanent slot programmed} (kept : layout.binding = .kept slot programmed) :
      Turn handle (.setPermanent handle false) .done (some ⟨.tiled layout, permanent⟩)
        (some ⟨.tiled { layout with binding := .unbound }, false⟩)
  | begun {layout permanent slot direction} (unlocked : layout.binding.session? = none) :
      Turn handle (.lock handle direction) .done (some ⟨.tiled layout, permanent⟩)
        (some ⟨.tiled { layout with binding := .locked slot { direction } }, permanent⟩)
  | nested {layout permanent slot session direction}
      (locked : layout.binding = .locked slot session) :
      Turn handle (.lock handle direction) .done (some ⟨.tiled layout, permanent⟩)
        (some ⟨.tiled { layout with
          binding := .locked slot { session with nested := session.nested + 1 } }, permanent⟩)
  | returned {layout permanent slot session nested direction}
      (locked : layout.binding = .locked slot session) (more : session.nested = nested + 1) :
      Turn handle (.unlock handle direction) .done (some ⟨.tiled layout, permanent⟩)
        (some ⟨.tiled { layout with binding := .locked slot { session with nested } }, permanent⟩)
  | ended {layout permanent slot session direction}
      (locked : layout.binding = .locked slot session) (single : session.nested = 0) :
      Turn handle (.unlock handle direction) .done (some ⟨.tiled layout, permanent⟩)
        (some ⟨.tiled { layout with
          binding := if permanent then .kept slot true else .unbound }, permanent⟩)

variable {d d' : Driver} {handle : Handle}

theorem Turn.appears {command : Command} {outcome : Outcome} {surface : Surface}
    (turn : Turn handle command outcome none (some surface)) :
    command = .track handle ∧ outcome = .done ∧ surface = {} := by
  cases turn with
  | tracked => exact ⟨rfl, rfl, rfl⟩

/-- A surface is locked because it was, or because its first lock is granted. The direction of a
session stays the same. -/
theorem Turn.locked {command : Command} {outcome : Outcome} {surface surface' : Surface}
    {session : Session} (turn : Turn handle command outcome (some surface) (some surface'))
    (locked : surface'.session? = some session) :
    (∃ earlier, surface.session? = some earlier ∧ earlier.direction = session.direction) ∨
      surface.session? = none ∧ command = .lock handle session.direction ∧ outcome = .done := by
  cases turn with
  | still | flagged => exact .inl ⟨session, locked, rfl⟩
  | configured _ idle => cases idle.symm.trans locked
  | dropped => cases locked
  | begun unlocked =>
    cases locked
    exact .inr ⟨unlocked, rfl, rfl⟩
  | nested was | returned was =>
    cases locked
    exact .inl ⟨_, congrArg Binding.session? was, rfl⟩
  | @ended _ permanent => cases permanent <;> cases locked

/-- A session ends with the last unlock, after which the surface has a slot just if it keeps its
slot. -/
theorem Turn.unlocked {command : Command} {outcome : Outcome} {surface surface' : Surface}
    (turn : Turn handle command outcome (some surface) (some surface'))
    (locked : surface.session? ≠ none) (unlocked : surface'.session? = none) :
    (∃ direction, command = .unlock handle direction) ∧
      (surface'.slot? ≠ none ↔ surface'.permanent = true) := by
  cases turn with
  | still | flagged => exact absurd unlocked locked
  | configured free => exact absurd free locked
  | dropped kept => simp [kept] at locked
  | begun | nested | returned => cases unlocked
  | @ended _ permanent _ _ direction =>
    refine ⟨⟨direction, rfl⟩, ?_⟩
    cases permanent <;> simp [Surface.slot?, Surface.tiled?, Binding.slot?]

/-- Two surfaces that differ at most in how they hold a slot. -/
structure Alike (surface surface' : Surface) : Prop where
  attributes : surface'.attributes? = surface.attributes?
  footprint : surface'.footprint? = surface.footprint?
  descriptor : surface'.descriptor? = surface.descriptor?
  window : surface'.window? = surface.window?
  mapping : surface'.mapping? = surface.mapping?

theorem Alike.refl (surface : Surface) : Alike surface surface := ⟨rfl, rfl, rfl, rfl, rfl⟩

theorem Alike.trans {first second third : Surface} (one : Alike first second)
    (two : Alike second third) : Alike first third where
  attributes := two.attributes.trans one.attributes
  footprint := two.footprint.trans one.footprint
  descriptor := two.descriptor.trans one.descriptor
  window := two.window.trans one.window
  mapping := two.mapping.trans one.mapping

/-- Nothing but a configuration changes what else a surface holds, and a locked surface is not
configured. -/
theorem Turn.alike {command : Command} {outcome : Outcome} {surface surface' : Surface}
    (turn : Turn handle command outcome (some surface) (some surface'))
    (busy : ∀ a, command = .configure handle a → surface.session? ≠ none) :
    Alike surface surface' := by
  cases turn with
  | still | flagged | dropped | begun | nested | returned | ended =>
    exact ⟨rfl, rfl, rfl, rfl, rfl⟩
  | configured unlocked => exact absurd unlocked (busy _ rfl)

theorem Bound.unlocked {layout : Tiled} {slot : Slot} {slots : SlotTable} {engine : Engine}
    {stats : Stats} (bound : d.Bound layout slot slots engine stats) :
    layout.binding.session? = none := by
  cases bound with
  | ready kept | stale kept => rw [kept]; rfl
  | claimed unbound => rw [unbound]; rfl

theorem TrackEnds.turn {result : Except Error Unit} (ends : d.TrackEnds handle result d') :
    Turn handle (.track handle) (.ofUnit result) (d.surfaces.find? handle)
      (d'.surfaces.find? handle) := by
  cases ends with
  | known | offline => exact .still nofun nofun
  | tracked missing =>
    rw [missing, OrderedMap.find?_insert_self]
    exact .tracked

theorem Configured.turn {a : Attributes} {result : Except Error Unit}
    (configured : d.Configured handle a result d') :
    Turn handle (.configure handle a) (.ofUnit result) (d.surfaces.find? handle)
      (d'.surfaces.find? handle) := by
  cases configured with
  | unknown | busy => exact .still nofun nofun
  | @settled surface attempt _ _ _ found unlocked _ attempted =>
    rw [found, OrderedMap.find?_insert_self]
    refine .configured unlocked ?_
    cases attempt with
    | refused | linear => rfl
    | tiled layout => exact Binding.session?_of_programmed? attempted.programmed?

theorem LockEnds.turn {direction : Direction} {result : Except Error Unit}
    (ends : d.LockEnds handle direction result d') :
    Turn handle (.lock handle direction) (.ofUnit result) (d.surfaces.find? handle)
      (d'.surfaces.find? handle) := by
  cases ends with
  | unknown | unset | linear | overflow | exhausted => exact .still (fun _ => rfl) nofun
  | nested found locked =>
    rw [found, OrderedMap.find?_insert_self]
    exact .nested locked
  | first found bound =>
    rw [found, OrderedMap.find?_insert_self]
    exact .begun bound.unlocked

theorem UnlockEnds.turn {result : Except Failure Unit} (ends : d.UnlockEnds handle result d')
    (direction : Direction) :
    Turn handle (.unlock handle direction) (.ofResult result) (d.surfaces.find? handle)
      (d'.surfaces.find? handle) := by
  cases ends with
  | unknown | idle | broken => exact .still nofun fun _ => rfl
  | nested found locked more =>
    rw [found, OrderedMap.find?_insert_self]
    exact .returned locked more
  | last found locked single =>
    rw [found, OrderedMap.find?_insert_self]
    exact .ended locked single

theorem PermanentEnds.turn {on : Bool} {result : Except Error Unit}
    (ends : d.PermanentEnds handle on result d') :
    Turn handle (.setPermanent handle on) (.ofUnit result) (d.surfaces.find? handle)
      (d'.surfaces.find? handle) := by
  cases ends with
  | unknown => exact .still nofun nofun
  | dropped found off kept =>
    subst off
    rw [found, OrderedMap.find?_insert_self]
    exact .dropped kept
  | flagged found =>
    rw [found, OrderedMap.find?_insert_self]
    exact .flagged

theorem UntrackEnds.turn {result : Except Failure Unit} (ends : d.UntrackEnds handle result d') :
    Turn handle (.untrack handle) (.ofResult result) (d.surfaces.find? handle)
      (d'.surfaces.find? handle) := by
  cases ends with
  | unknown | broken => exact .still nofun nofun
  | removed found =>
    rw [found, OrderedMap.find?_erase, if_pos rfl]
    exact .removed

theorem Turn.elsewhere {command : Command} {outcome : Outcome}
    (same : d'.surfaces.find? handle = d.surfaces.find? handle)
    (locks : command.isLock handle = false) (unlocks : command.isUnlock handle = false) :
    Turn handle command outcome (d.surfaces.find? handle) (d'.surfaces.find? handle) := by
  rw [same]
  exact .still (by simp [locks]) (by simp [unlocks])

theorem step_turn (d : Driver) (command : Command) (handle : Handle) :
    Turn handle command (d.step command).1 (d.surfaces.find? handle)
      ((d.step command).2.surfaces.find? handle) := by
  have different : ∀ {other : Handle}, handle ≠ other → (other == handle) = false :=
    fun apart => by simp [Ne.symm apart]
  cases command with
  | platform | interrupt | attributes | takeReports => exact .still nofun nofun
  | track other =>
    by_cases same : handle = other
    · subst same
      exact (d.track_ends handle).turn
    · exact .elsewhere ((d.track_touch other).others same) rfl rfl
  | configure other a =>
    by_cases same : handle = other
    · subst same
      exact (d.configure_ends handle a).turn
    · exact .elsewhere ((d.configure_ends other a).others same) rfl rfl
  | lock other direction =>
    by_cases same : handle = other
    · subst same
      exact (d.lock_ends handle direction).turn
    · exact .elsewhere ((d.lock_touch other direction).others same) (different same) rfl
  | unlock other direction =>
    by_cases same : handle = other
    · subst same
      exact (d.unlock_ends handle direction).turn direction
    · exact .elsewhere ((d.unlock_touch other direction).others same) rfl (different same)
  | setPermanent other on =>
    by_cases same : handle = other
    · subst same
      exact (d.setPermanent_ends handle on).turn
    · exact .elsewhere ((d.setPermanent_touch other on).others same) rfl rfl
  | untrack other =>
    by_cases same : handle = other
    · subst same
      exact (d.untrack_ends handle).turn
    · exact .elsewhere ((d.untrack_ends other).others same) rfl rfl

end TiledSurface.Driver
