import TiledSurface.Proofs.Driver.DeviceMemory
import TiledSurface.Proofs.Driver.Hotplug
import TiledSurface.Proofs.Driver.Reservations
import TiledSurface.Proofs.OrderedMap
import TiledSurface.Proofs.Platform.Buffers

/-!
Requests that give things back commute. What an unlock, a removal or a change of permanence does
depends on the driver only through the surface, and all that goes back finds its place in whatever
order it comes: slots and records by themselves, windows because the reservations tell the pool.
-/

namespace TiledSurface

theorem SlotTable.giveBack_comm (t : SlotTable) (one two : Option Slot) :
    (t.giveBack one).giveBack two = (t.giveBack two).giveBack one := by
  cases one <;> cases two <;> first | rfl | exact t.release_comm _ _

/-- Windows of different owners may be given back in any order. -/
theorem WindowPool.Sound.giveBack_comm {pool : WindowPool} {region : Region}
    (sound : pool.Sound region) {one two : Option Region}
    (live : ∀ r, one = some r → pool.Reserves r) (live' : ∀ r, two = some r → pool.Reserves r)
    (apart : ∀ r, one = some r → two ≠ some r) :
    (pool.giveBack one).giveBack two = (pool.giveBack two).giveBack one := by
  obtain ⟨first, gone⟩ := sound.giveBack live
  obtain ⟨first', gone'⟩ := sound.giveBack live'
  obtain ⟨second, goneBoth⟩ := first.giveBack fun r given =>
    (gone.taken_iff r).mpr (.inl ⟨live' r given, fun same => apart r same given⟩)
  obtain ⟨second', goneBoth'⟩ := first'.giveBack fun r given =>
    (gone'.taken_iff r).mpr (.inl ⟨live r given, apart r given⟩)
  refine second.ext second' fun r => ?_
  rw [goneBoth.taken_iff, gone.taken_iff, goneBoth'.taken_iff, gone'.taken_iff]
  simp only [reduceCtorEq, or_false]
  exact and_right_comm

def Buffer.returned (held : Holdings) (buffer : Buffer) : Buffer :=
  { buffer with
    cpu := if held.window.isSome then .linear else buffer.cpu
    attached := if held.mapping.isSome then false else buffer.attached }

theorem Buffers.map_granted {b : Buffers} (granted : b.failingMaps = 0) (handle : Handle)
    (cpu : CpuMapping) : (b.map handle cpu).2 =
      { b with records := b.records.modify handle fun buffer => { buffer with cpu } } := by
  rcases b.map_cases handle cpu with ⟨_, waiting, _⟩ | ⟨_, missing, unknown⟩ | ⟨_, _, found, done⟩
  · cases granted.symm.trans waiting
  · rw [unknown, OrderedMap.modify, missing]
  · rw [done, OrderedMap.modify, found]

theorem Buffers.giveBack_eq {b : Buffers} (granted : b.failingMaps = 0) (handle : Handle)
    (held : Holdings) :
    b.giveBack handle held =
      { b with records := b.records.modify handle (Buffer.returned held) } := by
  obtain ⟨slot, window, mapping⟩ := held
  cases window with
  | none =>
    cases mapping with
    | none =>
      change b = { b with records := b.records.modify handle fun buffer => buffer }
      rw [OrderedMap.modify_id]
    | some mapping => rfl
  | some window =>
    have unmapped := map_granted granted handle .linear
    cases mapping with
    | none => exact unmapped
    | some mapping =>
      simp only [giveBack, unmapWindow, unmapped, detach, OrderedMap.modify_modify]
      rfl

theorem Buffers.giveBack_comm {b : Buffers} (granted : b.failingMaps = 0) (handle other : Handle)
    (held held' : Holdings) :
    (b.giveBack handle held).giveBack other held' =
      (b.giveBack other held').giveBack handle held := by
  have commute (buffer : Buffer) : Buffer.returned held' (Buffer.returned held buffer) =
      Buffer.returned held (Buffer.returned held' buffer) := by
    unfold Buffer.returned
    congr 1
    · split <;> split <;> rfl
    · split <;> split <;> rfl
  rw [giveBack_eq granted handle, giveBack_eq granted other, giveBack_eq _ other,
    giveBack_eq _ handle]
  · simp only [OrderedMap.modify_comm commute]
  · exact granted
  · exact granted

namespace Engine

/-- Two engines in the same state, whose logs hold the same entries. -/
structure Agrees (e e' : Engine) : Prop where
  registers : e' = { e with events := e'.events }
  events : e'.events.Perm e.events

theorem disableWindow_eq (e : Engine) (slot : Nat) : e.disableWindow slot =
    (if e.failingFlushes = 0 then .ok () else .error .flushTimeout,
      { e with
        windows := e.windows.modify slot fun window => { window with enabled := false }
        failingFlushes := e.failingFlushes - 1
        flushes := e.flushes + 1
        events := e.events ++ [.disableWindow slot] }) :=
  finishFlush_eq _

def close (e : Engine) : Option Slot → Except Fault Unit × Engine
  | some slot => e.disableWindow slot
  | none => (.ok (), e)

theorem version_close (e : Engine) (slot? : Option Slot) :
    (e.close slot?).2.version = e.version := by
  cases slot? with
  | none => rfl
  | some slot => exact e.version_disableWindow slot

theorem close_agrees (e : Engine) (one two : Option Slot) :
    ((e.close one).2.close two).2.Agrees ((e.close two).2.close one).2 := by
  cases one with
  | none => exact ⟨rfl, .refl _⟩
  | some slot =>
    cases two with
    | none => exact ⟨rfl, .refl _⟩
    | some slot' =>
      simp only [close, disableWindow_eq]
      refine ⟨?_, ?_⟩
      · simp only [OrderedMap.modify_comm fun _ => rfl]
      · simp only [List.append_assoc]
        exact (List.Perm.swap ..).append_left _

theorem flushed_close (e : Engine) (one two : Option Slot) (stats : Stats) :
    (stats.flushed (e.close one).1).flushed ((e.close one).2.close two).1 =
      (stats.flushed (e.close two).1).flushed ((e.close two).2.close one).1 := by
  cases one <;> cases two <;> first | rfl | simp only [close, disableWindow_eq]

end Engine

def Stats.returned (stats : Stats) (unlocks gone : Bool) : Stats :=
  { stats with
    unlocks := if unlocks then stats.unlocks + 1 else stats.unlocks
    untracked := if gone then stats.untracked + 1 else stats.untracked }

theorem Stats.returned_comm (stats : Stats) (unlocks unlocks' gone gone' : Bool) :
    (stats.returned unlocks gone).returned unlocks' gone' =
      (stats.returned unlocks' gone').returned unlocks gone := by
  cases unlocks <;> cases unlocks' <;> cases gone <;> cases gone' <;> rfl

theorem Stats.flushed_returned (stats : Stats) (unlocks gone : Bool)
    (flushed : Except Engine.Fault Unit) : (stats.returned unlocks gone).flushed flushed =
      (stats.flushed flushed).returned unlocks gone := by
  cases flushed <;> rfl

def FaultMonitor.returned (m : FaultMonitor) (unlocks : Bool) : FaultMonitor :=
  if unlocks then m.rearm else m

theorem FaultMonitor.returned_comm (m : FaultMonitor) (unlocks unlocks' : Bool) :
    (m.returned unlocks).returned unlocks' = (m.returned unlocks').returned unlocks := by
  cases unlocks <;> cases unlocks' <;> rfl

namespace Driver

variable {d d' : Driver} {handle other : Handle} {surface : Surface}

/-- Two drivers in the same state, but for the order of what the engine and the cache have in their
logs. -/
structure Agrees (d d' : Driver) : Prop where
  state : d' = { d with engine := d'.engine, cache := d'.cache }
  engine : d.engine.Agrees d'.engine
  cache : d'.cache.Perm d.cache

/-- What a request gives back on behalf of a surface. -/
structure Handback where
  /-- What the surface is afterwards, unless it is gone. -/
  surface? : Option Surface := none
  held : Holdings := {}
  /-- The slot that is closed to the processor. -/
  closed? : Option Slot := none
  /-- What is done to the processor's cache before that. -/
  cleaned : List Cache.Op := []
  /-- A lock is given back. -/
  unlocks : Bool := false
  /-- Fault reporting starts afresh, also where the lock is not given back in the end. -/
  rearms : Bool := unlocks

def handBack (d : Driver) (handle : Handle) (b : Handback) : Driver :=
  { d with
    engine := (d.engine.close b.closed?).2
    cache := d.cache ++ b.cleaned
    slots := d.slots.giveBack b.held.slot
    pool := d.pool.giveBack b.held.window
    buffers := d.buffers.giveBack handle b.held
    surfaces := d.surfaces.place handle b.surface?
    faults := d.faults.returned b.rearms
    stats := (d.stats.flushed (d.engine.close b.closed?).1).returned b.unlocks b.surface?.isNone }

/-- Two surfaces may give back what they hold in any order. -/
theorem handBack_comm (different : handle ≠ other) {one two : Handback}
    (pool : (d.pool.giveBack one.held.window).giveBack two.held.window =
      (d.pool.giveBack two.held.window).giveBack one.held.window)
    (granted : d.buffers.failingMaps = 0) :
    ((d.handBack handle one).handBack other two).Agrees
      ((d.handBack other two).handBack handle one) where
  state := by
    have buffers := Buffers.giveBack_comm granted handle other one.held two.held
    have slots := d.slots.giveBack_comm one.held.slot two.held.slot
    have faults := d.faults.returned_comm one.rearms two.rearms
    have stats := d.engine.flushed_close one.closed? two.closed? d.stats
    simp only [handBack, OrderedMap.place_comm different, Stats.flushed_returned, pool, buffers,
      slots, faults, stats]
    rw [Stats.returned_comm]
  engine := d.engine.close_agrees _ _
  cache := by
    simp only [handBack, List.append_assoc]
    exact List.perm_append_comm.append_left _

theorem takeOffline_of_find? (found : d.surfaces.find? handle = some surface) :
    d.takeOffline = d := by
  unfold takeOffline
  rw [if_neg]
  rw [OrderedMap.isEmpty_of_find? found]
  exact fun due => Bool.false_ne_true due.1

theorem find?_handBack (d : Driver) (handle : Handle) (b : Handback) :
    (d.handBack handle b).surfaces.find? handle = b.surface? :=
  (d.surfaces.find?_place handle handle b.surface?).trans (if_pos rfl)

theorem find?_handBack_other (d : Driver) (different : other ≠ handle) (b : Handback) :
    (d.handBack handle b).surfaces.find? other = d.surfaces.find? other :=
  (d.surfaces.find?_place handle other b.surface?).trans (if_neg different)

theorem recipe_handBack (d : Driver) (handle : Handle) (b : Handback) :
    (d.handBack handle b).recipe = d.recipe :=
  congrArg d.config.recipe (d.engine.version_close b.closed?)

theorem takeOffline_handBack (d : Driver) (handle : Handle) {b : Handback} {next : Surface}
    (stays : b.surface? = some next) : (d.handBack handle b).takeOffline = d.handBack handle b :=
  takeOffline_of_find? ((d.find?_handBack handle b).trans stays)

theorem handBack_self (found : d.surfaces.find? handle = some surface) (cleaned : List Cache.Op)
    (rearms : Bool) :
    d.handBack handle { surface? := some surface, cleaned, rearms } =
      { d with cache := d.cache ++ cleaned, faults := d.faults.returned rearms } := by
  have place : d.surfaces.place handle (some surface) = d.surfaces := by
    rw [← found, OrderedMap.place_self]
  rw [handBack, place]
  rfl

/-- Requests that give something back, and take nothing. -/
inductive Release where
  | unlock (direction : Direction)
  | setPermanent (on : Bool)
  | untrack

def Release.command (handle : Handle) : Release → Command
  | .unlock direction => .unlock handle direction
  | .setPermanent on => .setPermanent handle on
  | .untrack => .untrack handle

/-- What a request gives back for a surface is the same whatever else the driver is about. -/
structure Uniform (surface : Surface) (recipe : Cache.Recipe) (command : Handle → Command)
    (outcome : Outcome) (b : Handback) : Prop where
  own : ∀ window, b.held.window = some window → surface.window? = some window
  step : ∀ (d : Driver) (handle : Handle), d.surfaces.find? handle = some surface →
    d.recipe = recipe → d.step (command handle) = (outcome, (d.handBack handle b).takeOffline)

theorem Uniform.stays {recipe : Cache.Recipe} {command : Handle → Command} {outcome : Outcome}
    {b : Handback} {next : Surface} (stays : b.surface? = some next)
    (own : b.held.window = none)
    (step : ∀ (d : Driver) (handle : Handle), d.surfaces.find? handle = some surface →
      d.recipe = recipe → d.step (command handle) = (outcome, d.handBack handle b)) :
    Uniform surface recipe command outcome b where
  own := by simp [own]
  step := fun d handle found same => by
    rw [step d handle found same, d.takeOffline_handBack handle stays]

theorem Uniform.idle {recipe : Cache.Recipe} {command : Handle → Command} {outcome : Outcome}
    (step : ∀ (d : Driver) (handle : Handle), d.surfaces.find? handle = some surface →
      d.step (command handle) = (outcome, d)) :
    Uniform surface recipe command outcome { surface? := some surface } :=
  .stays rfl rfl fun d handle found _ => by
    rw [step d handle found, handBack_self found, List.append_nil]
    rfl

theorem unlock_uniform (surface : Surface) (recipe : Cache.Recipe) (direction : Direction) :
    ∃ outcome b, Uniform surface recipe (.unlock · direction) outcome b := by
  obtain ⟨setup, permanent⟩ := surface
  cases setup with
  | unconfigured | linear =>
    refine ⟨.refused (.invalid .notLocked), _, .idle fun d handle found => ?_⟩
    rw [step, unlock, found]
    rfl
  | tiled layout =>
    cases binding : layout.binding with
    | unbound | kept =>
      refine ⟨.refused (.invalid .notLocked), _, .idle fun d handle found => ?_⟩
      simp only [step, unlock, found, binding]
      rfl
    | locked slot session =>
      cases more : session.nested with
      | succ nested =>
        refine ⟨.done, {
            surface? := some ⟨.tiled { layout with
              binding := .locked slot { session with nested } }, permanent⟩
            unlocks := true },
          .stays rfl rfl fun d handle found _ => ?_⟩
        simp only [step, unlock, found, binding, more, handBack, List.append_nil]
        rfl
      | zero =>
        rcases cleaned : recipe.clean layout.window with ⟨why | _, ops⟩
        · refine ⟨.broken why, {
              surface? := some ⟨.tiled layout, permanent⟩
              cleaned := ops
              rearms := true },
            .stays rfl rfl fun d handle found same => ?_⟩
          subst same
          simp only [step, unlock, found, binding, more]
          have cleaned : { d with faults := d.faults.rearm }.recipe.clean layout.window = _ :=
            cleaned
          rw [endSession, closeWindow_broken cleaned, handBack_self found]
          rfl
        · refine ⟨.done, {
              surface? := some ⟨.tiled { layout with
                binding := if permanent then .kept slot true else .unbound }, permanent⟩
              held := { slot := if permanent then none else some slot }
              closed? := some slot
              cleaned := ops
              unlocks := true },
            .stays rfl rfl fun d handle found same => ?_⟩
          subst same
          simp only [step, unlock, found, binding, more]
          have cleaned : { d with faults := d.faults.rearm }.recipe.clean layout.window = _ :=
            cleaned
          rw [endSession, closeWindow_cleaned cleaned, handBack]
          cases permanent <;> rfl

theorem setPermanent_uniform (surface : Surface) (recipe : Cache.Recipe) (on : Bool) :
    ∃ outcome b, Uniform surface recipe (.setPermanent · on) outcome b := by
  obtain ⟨setup, permanent⟩ := surface
  -- The flag is all that changes, unless a slot is held for no other reason.
  have flagged (only : ∀ (d : Driver) (handle : Handle),
      d.surfaces.find? handle = some ⟨setup, permanent⟩ →
        d.setPermanent handle on = (.ok (), d.put handle ⟨setup, on⟩)) :
      ∃ outcome b, Uniform ⟨setup, permanent⟩ recipe (.setPermanent · on) outcome b := by
    refine ⟨.done, { surface? := some ⟨setup, on⟩ }, .stays rfl rfl fun d handle found _ => ?_⟩
    rw [step, only d handle found, handBack, List.append_nil]
    rfl
  cases on with
  | true =>
    refine flagged fun d handle found => ?_
    rw [setPermanent, found]
  | false =>
    cases setup with
    | unconfigured | linear =>
      refine flagged fun d handle found => ?_
      rw [setPermanent, found]
    | tiled layout =>
      cases binding : layout.binding with
      | unbound | locked =>
        refine flagged fun d handle found => ?_
        simp only [setPermanent, found, binding]
      | kept slot programmed =>
        refine ⟨.done, {
            surface? := some ⟨.tiled { layout with binding := .unbound }, false⟩
            held := { slot := some slot } },
          .stays rfl rfl fun d handle found _ => ?_⟩
        simp only [step, setPermanent, found, binding, handBack, List.append_nil]
        rfl

theorem takeOffline_returned (d : Driver) (unlocks gone : Bool) :
    { d with stats := d.stats.returned unlocks gone }.takeOffline =
      { d.takeOffline with stats := d.takeOffline.stats.returned unlocks gone } := by
  unfold takeOffline
  dsimp only
  split
  · split <;> rfl
  · rfl

theorem untrack_uniform (surface : Surface) (recipe : Cache.Recipe) :
    ∃ outcome b, Uniform surface recipe .untrack outcome b := by
  have removed (d : Driver) {handle : Handle} (found : d.surfaces.find? handle = some surface)
      (through : (d.forceUnlock surface).1 = .ok ()) :
      d.step (.untrack handle) = (.done, { (d.without handle surface) with
        stats := (d.without handle surface).stats.returned false true }.takeOffline) := by
    rw [step, takeOffline_returned, untrack_eq found through]
    rfl
  cases session : surface.session? with
  | none =>
    refine ⟨.done, { held := surface.holdings }, fun window => id, fun d handle found _ => ?_⟩
    have idle := d.forceUnlock_unlocked session
    rw [removed d found (congrArg Prod.fst idle), without, release_eq, idle]
    simp only [handBack, List.append_nil]
    rfl
  | some session =>
    obtain ⟨layout, slot, tiled, locked⟩ := Surface.session?_eq_some.mp session
    rcases cleaned : recipe.clean layout.window with ⟨why | _, ops⟩
    · refine ⟨.broken why, { surface? := some surface, cleaned := ops },
        .stays rfl rfl fun d handle found same => ?_⟩
      subst same
      have broken := (d.forceUnlock_locked tiled locked).trans (closeWindow_broken cleaned)
      rw [step, untrack_broken found (congrArg Prod.fst broken), broken, handBack_self found]
      rfl
    · refine ⟨.done, {
          held := surface.holdings
          closed? := some slot
          cleaned := ops },
        fun window => id, fun d handle found same => ?_⟩
      subst same
      have closed := (d.forceUnlock_locked tiled locked).trans (closeWindow_cleaned cleaned)
      rw [removed d found (congrArg Prod.fst closed), without, release_eq, closed]
      rfl

theorem Release.uniform (r : Release) (surface : Surface) (recipe : Cache.Recipe) :
    ∃ outcome b, Uniform surface recipe (r.command ·) outcome b := by
  cases r with
  | unlock direction => exact unlock_uniform surface recipe direction
  | setPermanent on => exact setPermanent_uniform surface recipe on
  | untrack => exact untrack_uniform surface recipe

theorem Agrees.takeOffline (agrees : d.Agrees d') : d.takeOffline.Agrees d'.takeOffline := by
  have logs (engine : Engine) (cache : List Cache.Op) :
      { d with engine, cache }.takeOffline = { d.takeOffline with engine, cache } := by
    unfold Driver.takeOffline
    dsimp only
    split
    · split <;> rfl
    · rfl
  obtain ⟨hotplug, online, stats, left⟩ := d.takeOffline_eq
  rw [agrees.state, logs d'.engine d'.cache, left]
  exact ⟨rfl, agrees.engine, agrees.cache⟩

/-- A second release finds its surface as the first one did, and the window addresses still
online. -/
theorem Uniform.step_other {one two : Handle → Command} {outcome outcome' : Outcome}
    {b b' : Handback} {surface' : Surface} (uniform : Uniform surface d.recipe one outcome b)
    (uniform' : Uniform surface' d.recipe two outcome' b')
    (found : d.surfaces.find? handle = some surface)
    (found' : d.surfaces.find? other = some surface') (different : handle ≠ other) :
    (d.step (one handle)).1 = outcome ∧
      (d.step (one handle)).2.step (two other) =
        (outcome', ((d.handBack handle b).handBack other b').takeOffline) := by
  have next : (d.handBack handle b).surfaces.find? other = some surface' :=
    (d.find?_handBack_other different.symm b).trans found'
  rw [uniform.step d handle found rfl, takeOffline_of_find? next,
    uniform'.step _ other next (d.recipe_handBack handle b)]
  exact ⟨rfl, rfl⟩

/-- Unlocking, removing and changing the permanence of two different surfaces can be done in either
order, in every state that a driver can reach. The clients are told the same, and the state is the
same afterwards but for the order of the logs. Only requests to map a buffer must not be rejected:
a rejection would fall to the surface that comes first. -/
theorem releases_commute {config : Config} {platform : Platform}
    (up : bringUp config platform = .ok d) (commands : List Command)
    (tracked : (d.run commands).surfaces.find? handle ≠ none)
    (tracked' : (d.run commands).surfaces.find? other ≠ none) (different : handle ≠ other)
    (granted : (d.run commands).buffers.failingMaps = 0) (one two : Release) :
    (((d.run commands).step (one.command handle)).2.step (two.command other)).1 =
        ((d.run commands).step (two.command other)).1 ∧
      (((d.run commands).step (two.command other)).2.step (one.command handle)).1 =
        ((d.run commands).step (one.command handle)).1 ∧
      (((d.run commands).step (one.command handle)).2.step (two.command other)).2.Agrees
        (((d.run commands).step (two.command other)).2.step (one.command handle)).2 := by
  have kept := (PoolKept.start up).run commands
  generalize d.run commands = d at *
  obtain ⟨surface, found⟩ := Option.ne_none_iff_exists'.mp tracked
  obtain ⟨surface', found'⟩ := Option.ne_none_iff_exists'.mp tracked'
  obtain ⟨outcome, b, uniform⟩ := one.uniform surface d.recipe
  obtain ⟨outcome', b', uniform'⟩ := two.uniform surface' d.recipe
  have mine (r : Region) (given : b.held.window = some r) :
      owned d.surfaces Surface.window? handle = some r :=
    (owned_of_find? Surface.window? found).trans (uniform.own r given)
  have theirs (r : Region) (given : b'.held.window = some r) :
      owned d.surfaces Surface.window? other = some r :=
    (owned_of_find? Surface.window? found').trans (uniform'.own r given)
  -- The windows are two reservations, which tell the pool in whatever order they go.
  have pool := kept.sound.giveBack_comm (fun r given => kept.ledger.held (mine r given))
    (fun r given => kept.ledger.held (theirs r given))
    fun r given same => different (kept.ledger.alone (mine r given) (theirs r same))
  obtain ⟨first, second⟩ := uniform.step_other uniform' found found' different
  obtain ⟨first', second'⟩ := uniform'.step_other uniform found' found different.symm
  rw [second, second', first, first']
  exact ⟨rfl, rfl, (handBack_comm different pool granted).takeOffline⟩

/-- Two locked surfaces may be removed in either order. -/
theorem releases_commute_pairRun :
    ∃ d, bringUp {} { engine := { version := ⟨1, 1⟩ } } = .ok d ∧
      (((d.run pairRun).step (.untrack 1)).2.step (.untrack 2)).2.Agrees
        (((d.run pairRun).step (.untrack 2)).2.step (.untrack 1)).2 := by
  have computed : (bringUp {} { engine := { version := ⟨1, 1⟩ } }).toOption.any (fun d =>
      (d.run pairRun).surfaces.find? 1 ≠ none ∧ (d.run pairRun).surfaces.find? 2 ≠ none ∧
        (d.run pairRun).buffers.failingMaps = 0) = true := by
    decide +kernel
  obtain ⟨d, up, ran⟩ := exists_up computed
  obtain ⟨tracked, tracked', granted⟩ := of_decide_eq_true ran
  obtain ⟨_, _, agrees⟩ :=
    releases_commute up pairRun tracked tracked' (by decide) granted .untrack .untrack
  exact ⟨d, up, agrees⟩

end Driver

end TiledSurface
