import TiledSurface.Driver.Command
import TiledSurface.Proofs.Descriptor.Table
import TiledSurface.Proofs.Driver.Attempts
import TiledSurface.Proofs.Driver.Locks
import TiledSurface.Proofs.Engine.Windows

/-!
Everything that a request can do to a driver, said once. A move changes one surface, and with it
the resources that this surface holds; logs, counters and the hot-plug service may become
anything. Invariants are proved by cases on the move. Where it matters whose surface changes, a
request is known more closely: as a touch of one handle, as the ends of a configuration, or as a
removal.
-/

namespace TiledSurface.Driver

/-- What locking and unlocking do with the slot of a tiled surface: the new binding, the table
and the engine's windows. `permanent` is the surface's flag. -/
inductive Rebinding (slots : SlotTable) (engine : Engine) (layout : Tiled) (permanent : Bool) :
    Binding → SlotTable → OrderedMap EngineWindow → Prop where
  | counted {slot session session'} (locked : layout.binding = .locked slot session) :
      Rebinding slots engine layout permanent (.locked slot session') slots engine.windows
  | reopened {slot session} (kept : layout.binding = .kept slot true) :
      Rebinding slots engine layout permanent (.locked slot session) slots
        (engine.enableWindow slot).windows
  | reprogrammed {slot session} (kept : layout.binding = .kept slot false) :
      Rebinding slots engine layout permanent (.locked slot session)
        (slots.write slot layout.descriptor.encode)
        ((engine.setWindow slot layout.window).enableWindow slot).windows
  | claimed {slot slots' session} (unbound : layout.binding = .unbound)
      (granted : slots.claim = (.ok slot, slots')) :
      Rebinding slots engine layout permanent (.locked slot session)
        (slots'.write slot layout.descriptor.encode)
        ((engine.setWindow slot layout.window).enableWindow slot).windows
  | suspended {slot session} (locked : layout.binding = .locked slot session)
      (stays : permanent = true) :
      Rebinding slots engine layout permanent (.kept slot true) slots
        (engine.disableWindow slot).2.windows
  | closed {slot session} (locked : layout.binding = .locked slot session) :
      Rebinding slots engine layout permanent .unbound (slots.release slot)
        (engine.disableWindow slot).2.windows
  | dropped {slot programmed} (kept : layout.binding = .kept slot programmed) :
      Rebinding slots engine layout permanent .unbound (slots.release slot) engine.windows

inductive Move (d : Driver) : Driver → Prop where
  /-- Nothing changes that surfaces depend on. -/
  | idle {engine hotplug cache online faults stats}
      (windows : engine.windows = d.engine.windows) (version : engine.version = d.engine.version) :
      Move d { d with engine, hotplug, cache, online, faults, stats }
  | tracked {handle hotplug online stats} (missing : d.surfaces.find? handle = none) :
      Move d { d with surfaces := d.surfaces.insert handle {}, hotplug, online, stats }
  | flagged {handle surface on} (found : d.surfaces.find? handle = some surface)
      (bare : on = false → surface.session? = none → surface.slot? = none) :
      Move d { d with surfaces := d.surfaces.insert handle { surface with permanent := on } }
  | rebound {handle layout permanent permanent' binding slots engine cache faults stats}
      (found : d.surfaces.find? handle = some ⟨.tiled layout, permanent⟩)
      (rebinding : Rebinding d.slots d.engine layout permanent' binding slots engine.windows)
      (version : engine.version = d.engine.version) :
      Move d { d with
        slots, engine, cache, faults, stats
        surfaces := d.surfaces.insert handle ⟨.tiled { layout with binding }, permanent'⟩ }
  | settled {handle surface a attempt pool buffers stats}
      (found : d.surfaces.find? handle = some surface) (unlocked : surface.session? = none)
      (attempted : d.Attempted handle surface.holdings a attempt pool buffers) :
      Move d { d with
        slots := d.slots.giveBack attempt.spare.slot
        pool := pool.giveBack attempt.spare.window
        buffers := buffers.giveBack handle attempt.spare
        surfaces := d.surfaces.insert handle ⟨attempt.setup a, surface.permanent⟩
        stats }
  | removed {handle surface engine cache hotplug online stats}
      (found : d.surfaces.find? handle = some surface)
      (through : (d.forceUnlock surface).1 = .ok ())
      (windows : engine.windows = (d.forceUnlock surface).2.engine.windows)
      (version : engine.version = d.engine.version) :
      Move d { d with
        slots := d.slots.giveBack surface.slot?
        pool := d.pool.giveBack surface.window?
        buffers := d.buffers.giveBack handle surface.holdings
        surfaces := d.surfaces.erase handle
        engine, cache, hotplug, online, stats }

inductive Touch (d : Driver) (handle : Handle) : Driver → Prop where
  | idle {engine hotplug cache online faults stats}
      (windows : engine.windows = d.engine.windows) (version : engine.version = d.engine.version) :
      Touch d handle { d with engine, hotplug, cache, online, faults, stats }
  | tracked {hotplug online stats} (missing : d.surfaces.find? handle = none) :
      Touch d handle { d with surfaces := d.surfaces.insert handle {}, hotplug, online, stats }
  | flagged {surface on} (found : d.surfaces.find? handle = some surface)
      (bare : on = false → surface.session? = none → surface.slot? = none) :
      Touch d handle
        { d with surfaces := d.surfaces.insert handle { surface with permanent := on } }
  | rebound {layout permanent permanent' binding slots engine cache faults stats}
      (found : d.surfaces.find? handle = some ⟨.tiled layout, permanent⟩)
      (rebinding : Rebinding d.slots d.engine layout permanent' binding slots engine.windows)
      (version : engine.version = d.engine.version) :
      Touch d handle { d with
        slots, engine, cache, faults, stats
        surfaces := d.surfaces.insert handle ⟨.tiled { layout with binding }, permanent'⟩ }

inductive TrackEnds (d : Driver) (handle : Handle) : Except Error Unit → Driver → Prop where
  | known {surface} (found : d.surfaces.find? handle = some surface) :
      TrackEnds d handle (.error (.alreadyExists handle)) d
  | offline {error hotplug online stats} (missing : d.surfaces.find? handle = none) :
      TrackEnds d handle (.error error) { d with hotplug, online, stats }
  | tracked {hotplug online stats} (missing : d.surfaces.find? handle = none) :
      TrackEnds d handle (.ok ())
        { d with surfaces := d.surfaces.insert handle {}, hotplug, online, stats }

inductive Configured (d : Driver) (handle : Handle) (a : Attributes) :
    Except Error Unit → Driver → Prop where
  | unknown (missing : d.surfaces.find? handle = none) :
      Configured d handle a (.error (.invalid .unknownBuffer)) d
  | busy {surface} (found : d.surfaces.find? handle = some surface)
      (locked : surface.session? ≠ none) : Configured d handle a (.error .busy) d
  | settled {surface attempt pool buffers stats}
      (found : d.surfaces.find? handle = some surface) (unlocked : surface.session? = none)
      (tried : d.attempt handle surface.holdings a = (attempt, { d with pool, buffers }))
      (attempted : d.Attempted handle surface.holdings a attempt pool buffers) :
      Configured d handle a attempt.result { d with
        slots := d.slots.giveBack attempt.spare.slot
        pool := pool.giveBack attempt.spare.window
        buffers := buffers.giveBack handle attempt.spare
        surfaces := d.surfaces.insert handle ⟨attempt.setup a, surface.permanent⟩
        stats }

inductive UntrackEnds (d : Driver) (handle : Handle) : Except Failure Unit → Driver → Prop where
  | unknown (missing : d.surfaces.find? handle = none) :
      UntrackEnds d handle (.error (.refused (.invalid .unknownBuffer))) d
  | removed {surface engine cache hotplug online stats}
      (found : d.surfaces.find? handle = some surface)
      (through : (d.forceUnlock surface).1 = .ok ())
      (closed : engine = (d.forceUnlock surface).2.engine)
      (cleaned : cache = (d.forceUnlock surface).2.cache)
      (version : engine.version = d.engine.version) :
      UntrackEnds d handle (.ok ()) { d with
        slots := d.slots.giveBack surface.slot?
        pool := d.pool.giveBack surface.window?
        buffers := d.buffers.giveBack handle surface.holdings
        surfaces := d.surfaces.erase handle
        engine, cache, hotplug, online, stats }
  | broken {surface layout slot session why ops}
      (found : d.surfaces.find? handle = some surface) (tiled : surface.setup = .tiled layout)
      (locked : layout.binding = .locked slot session)
      (cleaned : d.recipe.clean layout.window = (.error why, ops)) :
      UntrackEnds d handle (.error (.broken why)) { d with cache := d.cache ++ ops }

variable {d : Driver} {handle : Handle}

theorem Touch.none (d : Driver) (handle : Handle) : Touch d handle d := .idle rfl rfl

theorem Touch.move {d' : Driver} (touch : d.Touch handle d') : d.Move d' := by
  cases touch with
  | idle windows version => exact .idle windows version
  | tracked missing => exact .tracked missing
  | flagged found bare => exact .flagged found bare
  | rebound found rebinding version => exact .rebound found rebinding version

theorem Touch.buffers {d' : Driver} (touch : d.Touch handle d') : d'.buffers = d.buffers := by
  cases touch <;> rfl

theorem Touch.others {d' : Driver} (touch : d.Touch handle d') {other : Handle}
    (different : other ≠ handle) : d'.surfaces.find? other = d.surfaces.find? other := by
  cases touch with
  | idle => rfl
  | tracked | flagged | rebound => simp [OrderedMap.find?_insert, different]

theorem Touch.windows {d' : Driver} (touch : d.Touch handle d') :
    owned d'.surfaces Surface.window? = owned d.surfaces Surface.window? := by
  cases touch with
  | idle => rfl
  | tracked missing => exact owned_insert_bare {} missing rfl
  | @flagged surface on found => exact owned_insert_same ⟨surface.setup, on⟩ found rfl
  | @rebound layout _ permanent' binding _ _ _ _ _ found =>
    exact owned_insert_same ⟨.tiled { layout with binding }, permanent'⟩ found rfl

theorem Configured.move {d' : Driver} {a : Attributes} {result : Except Error Unit}
    (configured : d.Configured handle a result d') : d.Move d' := by
  cases configured with
  | unknown | busy => exact .idle rfl rfl
  | settled found unlocked _ attempted => exact .settled found unlocked attempted

theorem Move.version {d' : Driver} (move : Move d d') : d'.engine.version = d.engine.version := by
  cases move with
  | idle _ version | rebound _ _ version | removed _ _ _ version => exact version
  | tracked | flagged | settled => rfl

theorem Move.config {d' : Driver} (move : Move d d') : d'.config = d.config := by
  cases move <;> rfl

theorem Configured.others {d' : Driver} {a : Attributes} {result : Except Error Unit}
    (configured : d.Configured handle a result d') {other : Handle} (different : other ≠ handle) :
    d'.surfaces.find? other = d.surfaces.find? other := by
  cases configured with
  | unknown | busy => rfl
  | settled => simp [OrderedMap.find?_insert, different]

theorem ForceEnds.eq {surface : Surface} {result : Except Cache.Break Unit} {d' : Driver}
    (ends : d.ForceEnds surface result d') :
    ∃ engine cache stats, d' = { d with engine, cache, stats } ∧
      engine.version = d.engine.version := by
  cases ends with
  | idle | broken => exact ⟨_, _, _, rfl, rfl⟩
  | closed => exact ⟨_, _, _, rfl, Engine.version_disableWindow ..⟩

theorem takeOffline_eq (d : Driver) :
    ∃ hotplug online stats, d.takeOffline = { d with hotplug, online, stats } := by
  unfold takeOffline
  split
  · split <;> exact ⟨_, _, _, rfl⟩
  · exact ⟨_, _, _, rfl⟩

theorem bringOnline_eq (d : Driver) :
    ∃ result hotplug online stats, d.bringOnline = (result, { d with hotplug, online, stats }) := by
  unfold bringOnline
  split
  · exact ⟨_, _, _, _, rfl⟩
  · split <;> exact ⟨_, _, _, _, rfl⟩

theorem track_ends (d : Driver) (handle : Handle) :
    d.TrackEnds handle (d.track handle).1 (d.track handle).2 := by
  unfold track
  cases found : d.surfaces.find? handle with
  | some surface => exact .known found
  | none =>
    obtain ⟨result, hotplug, online, stats, brought⟩ := d.bringOnline_eq
    dsimp only
    rw [brought]
    cases result with
    | error error => exact .offline found
    | ok done => exact .tracked found

theorem TrackEnds.touch {result : Except Error Unit} {d' : Driver}
    (ends : d.TrackEnds handle result d') : d.Touch handle d' := by
  cases ends with
  | known => exact .none d handle
  | offline => exact .idle rfl rfl
  | tracked missing => exact .tracked missing

theorem track_touch (d : Driver) (handle : Handle) : d.Touch handle (d.track handle).2 :=
  (d.track_ends handle).touch

theorem configure_ends (d : Driver) (handle : Handle) (a : Attributes) :
    d.Configured handle a (d.configure handle a).1 (d.configure handle a).2 := by
  unfold configure
  cases found : d.surfaces.find? handle with
  | none => exact .unknown found
  | some surface =>
    dsimp only
    split
    · rename_i locked
      exact .busy found (by simpa [Option.isSome_iff_ne_none] using locked)
    · rename_i unlocked
      obtain ⟨attempt, pool, buffers, tried, attempted⟩ :=
        d.attempt_ends handle surface.holdings a
      obtain ⟨stats, settled⟩ :=
        settle_eq { d with pool, buffers } handle surface a attempt
      rw [tried]
      dsimp only
      rw [settled]
      exact .settled found (by simpa using unlocked) tried attempted

theorem Bound.rebinding {layout : Tiled} {slot : Slot} {slots : SlotTable} {engine : Engine}
    {stats : Stats} (bound : d.Bound layout slot slots engine stats) (permanent : Bool)
    (session : Session) :
    Rebinding d.slots d.engine layout permanent (.locked slot session) slots
      (engine.enableWindow slot).windows := by
  cases bound with
  | ready kept => exact .reopened kept
  | stale kept => exact .reprogrammed kept
  | claimed unbound granted => exact .claimed unbound granted

theorem Bound.version {layout : Tiled} {slot : Slot} {slots : SlotTable} {engine : Engine}
    {stats : Stats} (bound : d.Bound layout slot slots engine stats) :
    engine.version = d.engine.version := by
  cases bound <;> rfl

theorem LockEnds.touch {direction : Direction} {result : Except Error Unit} {d' : Driver}
    (ends : d.LockEnds handle direction result d') : d.Touch handle d' := by
  cases ends with
  | unknown | unset | linear | overflow | exhausted => exact .none d handle
  | nested found locked => exact .rebound found (.counted locked) rfl
  | first found bound =>
    refine .rebound found ?_ ((Engine.version_flush _).trans bound.version)
    rw [Engine.windows_flush]
    exact bound.rebinding _ _

theorem UnlockEnds.touch {result : Except Failure Unit} {d' : Driver}
    (ends : d.UnlockEnds handle result d') : d.Touch handle d' := by
  cases ends with
  | unknown | idle => exact .none d handle
  | nested found locked => exact .rebound found (.counted locked) rfl
  | @last layout permanent _ _ _ found locked =>
    refine .rebound found ?_ (Engine.version_disableWindow ..)
    cases permanent with
    | true => exact .suspended locked rfl
    | false => exact .closed locked
  | broken => exact .idle rfl rfl

theorem PermanentEnds.touch {on : Bool} {result : Except Error Unit} {d' : Driver}
    (ends : d.PermanentEnds handle on result d') : d.Touch handle d' := by
  cases ends with
  | unknown => exact .none d handle
  | dropped found _ kept => exact .rebound found (.dropped kept) rfl
  | flagged found bare => exact .flagged found bare

theorem lock_touch (d : Driver) (handle : Handle) (direction : Direction) :
    d.Touch handle (d.lock handle direction).2 :=
  (d.lock_ends handle direction).touch

theorem unlock_touch (d : Driver) (handle : Handle) (direction : Direction) :
    d.Touch handle (d.unlock handle direction).2 :=
  (d.unlock_ends handle direction).touch

theorem setPermanent_touch (d : Driver) (handle : Handle) (on : Bool) :
    d.Touch handle (d.setPermanent handle on).2 :=
  (d.setPermanent_ends handle on).touch

theorem untrack_ends (d : Driver) (handle : Handle) :
    d.UntrackEnds handle (d.untrack handle).1 (d.untrack handle).2 := by
  unfold untrack
  cases found : d.surfaces.find? handle with
  | none => exact .unknown found
  | some surface =>
    have ends := d.forceUnlock_ends surface
    rcases forced : d.forceUnlock surface with ⟨result, d'⟩
    dsimp only
    rw [forced] at ends ⊢
    obtain ⟨engine, cache, stats, rfl, version⟩ := ends.eq
    cases result with
    | error why =>
      cases ends with
      | broken tiled locked cleaned => exact .broken found tiled locked cleaned
    | ok done =>
      obtain ⟨hotplug, online, stats', offline⟩ :=
        takeOffline_eq { { d with engine, cache, stats }.release handle surface.holdings with
          surfaces := ({ d with engine, cache, stats }.release handle
            surface.holdings).surfaces.erase handle }
      dsimp only
      rw [offline, release_eq]
      exact .removed found (by rw [forced]) (by rw [forced]) (by rw [forced]) version

theorem UntrackEnds.gone {result : Except Failure Unit} {d' : Driver}
    (ends : d.UntrackEnds handle result d') :
    d'.surfaces.find? handle = none ∨
      ∃ why cache, result = .error (.broken why) ∧ d' = { d with cache } := by
  cases ends with
  | unknown missing => exact .inl missing
  | removed => exact .inl (by simp [OrderedMap.find?_erase])
  | broken => exact .inr ⟨_, _, rfl, rfl⟩

theorem UntrackEnds.others {result : Except Failure Unit} {d' : Driver}
    (ends : d.UntrackEnds handle result d') {other : Handle} (different : other ≠ handle) :
    d'.surfaces.find? other = d.surfaces.find? other := by
  cases ends with
  | unknown | broken => rfl
  | removed => simp [OrderedMap.find?_erase, different]

theorem UntrackEnds.move {result : Except Failure Unit} {d' : Driver}
    (ends : d.UntrackEnds handle result d') : d.Move d' := by
  cases ends with
  | unknown | broken => exact .idle rfl rfl
  | removed found through closed _ version =>
    exact .removed found through (congrArg Engine.windows closed) version

theorem interrupt_touch (d : Driver) (line : UInt32) (handle : Handle) :
    d.Touch handle (d.interrupt line).2 := by
  unfold interrupt FaultMonitor.interrupt
  dsimp only
  split <;> exact .idle rfl rfl

/-- A step is a move, unless somebody else does something to the platform. -/
theorem step_cases (d : Driver) (command : Command) :
    d.Move (d.step command).2 ∨ ∃ other, command = .platform other := by
  cases command with
  | platform other => exact .inr ⟨other, rfl⟩
  | track handle => exact .inl (d.track_touch handle).move
  | configure handle a => exact .inl (d.configure_ends handle a).move
  | lock handle direction => exact .inl (d.lock_touch handle direction).move
  | unlock handle direction => exact .inl (d.unlock_touch handle direction).move
  | setPermanent handle on => exact .inl (d.setPermanent_touch handle on).move
  | untrack handle => exact .inl (d.untrack_ends handle).move
  | interrupt line => exact .inl (d.interrupt_touch line 0).move
  | attributes | takeReports => exact .inl (.idle rfl rfl)

end TiledSurface.Driver
