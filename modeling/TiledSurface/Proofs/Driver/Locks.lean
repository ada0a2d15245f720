import TiledSurface.Driver.Locking
import TiledSurface.Proofs.Descriptor.Table
import TiledSurface.Proofs.Surface.Parts

namespace TiledSurface

/-- The counters after a flush. One that timed out is counted. -/
def Stats.flushed (stats : Stats) : Except Engine.Fault Unit → Stats
  | .ok () => stats
  | .error _ => { stats with flushFailures := stats.flushFailures + 1 }

@[simp] theorem Stats.locks_flushed (stats : Stats) (result : Except Engine.Fault Unit) :
    (stats.flushed result).locks = stats.locks := by
  cases result <;> rfl

theorem Stats.flushed_unlocks (stats : Stats) (result : Except Engine.Fault Unit) :
    { stats.flushed result with unlocks := (stats.flushed result).unlocks + 1 } =
      { stats with unlocks := stats.unlocks + 1 }.flushed result := by
  cases result <;> rfl

/-- What is done to the processor's cache when a window is opened. -/
def Direction.maintenance (direction : Direction) (window : Region) : List Cache.Op :=
  if direction.reads then [⟨.invalidate, window⟩] else []

namespace Driver

theorem noteFlush_eq (d : Driver) (flushed : Except Engine.Fault Unit × Engine) :
    d.noteFlush flushed = { d with engine := flushed.2, stats := d.stats.flushed flushed.1 } := by
  obtain ⟨_ | _, engine⟩ := flushed <;> rfl

theorem openWindow_eq (d : Driver) (slot : Slot) (window : Region) (direction : Direction) :
    d.openWindow slot window direction = { d with
      engine := (d.engine.enableWindow slot).flush.2
      cache := d.cache ++ direction.maintenance window
      stats := d.stats.flushed (d.engine.enableWindow slot).flush.1 } := by
  unfold openWindow Direction.maintenance
  rw [noteFlush_eq]
  cases direction.reads <;> simp

inductive CloseEnds (d : Driver) (slot : Slot) (window : Region) :
    Except Cache.Break Unit → Driver → Prop where
  | closed {ops} (cleaned : d.recipe.clean window = (.ok (), ops)) :
      CloseEnds d slot window (.ok ()) { d with
        engine := (d.engine.disableWindow slot).2
        cache := d.cache ++ ops
        stats := d.stats.flushed (d.engine.disableWindow slot).1 }
  | broken {why ops} (cleaned : d.recipe.clean window = (.error why, ops)) :
      CloseEnds d slot window (.error why) { d with cache := d.cache ++ ops }

theorem closeWindow_cleaned {d : Driver} {slot : Slot} {window : Region} {ops : List Cache.Op}
    (cleaned : d.recipe.clean window = (.ok (), ops)) :
    d.closeWindow slot window = (.ok (), { d with
      engine := (d.engine.disableWindow slot).2
      cache := d.cache ++ ops
      stats := d.stats.flushed (d.engine.disableWindow slot).1 }) := by
  rw [closeWindow, cleaned]
  dsimp only
  rw [noteFlush_eq]

theorem closeWindow_broken {d : Driver} {slot : Slot} {window : Region} {why : Cache.Break}
    {ops : List Cache.Op} (cleaned : d.recipe.clean window = (.error why, ops)) :
    d.closeWindow slot window = (.error why, { d with cache := d.cache ++ ops }) := by
  rw [closeWindow, cleaned]

theorem closeWindow_ends (d : Driver) (slot : Slot) (window : Region) :
    d.CloseEnds slot window (d.closeWindow slot window).1 (d.closeWindow slot window).2 := by
  rcases cleaned : d.recipe.clean window with ⟨why | _, ops⟩
  · rw [closeWindow_broken cleaned]
    exact .broken cleaned
  · rw [closeWindow_cleaned cleaned]
    exact .closed cleaned

inductive ForceEnds (d : Driver) (surface : Surface) : Except Cache.Break Unit → Driver → Prop where
  | idle (unlocked : surface.session? = none) : ForceEnds d surface (.ok ()) d
  | closed {layout slot session ops} (tiled : surface.setup = .tiled layout)
      (locked : layout.binding = .locked slot session)
      (cleaned : d.recipe.clean layout.window = (.ok (), ops)) :
      ForceEnds d surface (.ok ()) { d with
        engine := (d.engine.disableWindow slot).2
        cache := d.cache ++ ops
        stats := d.stats.flushed (d.engine.disableWindow slot).1 }
  | broken {layout slot session why ops} (tiled : surface.setup = .tiled layout)
      (locked : layout.binding = .locked slot session)
      (cleaned : d.recipe.clean layout.window = (.error why, ops)) :
      ForceEnds d surface (.error why) { d with cache := d.cache ++ ops }

theorem forceUnlock_unlocked (d : Driver) {surface : Surface}
    (unlocked : surface.session? = none) : d.forceUnlock surface = (.ok (), d) := by
  obtain ⟨setup, permanent⟩ := surface
  cases setup with
  | unconfigured | linear => rfl
  | tiled layout =>
    cases binding : layout.binding with
    | unbound | kept => simp [forceUnlock, Surface.tiled?, binding]
    | locked slot session =>
      cases unlocked.symm.trans (Surface.session?_eq_some.mpr ⟨layout, slot, rfl, binding⟩)

theorem forceUnlock_locked (d : Driver) {surface : Surface} {layout : Tiled} {slot : Slot}
    {session : Session} (tiled : surface.setup = .tiled layout)
    (locked : layout.binding = .locked slot session) :
    d.forceUnlock surface = d.closeWindow slot layout.window := by
  simp [forceUnlock, Surface.tiled?, tiled, locked]

theorem forceUnlock_ends (d : Driver) (surface : Surface) :
    d.ForceEnds surface (d.forceUnlock surface).1 (d.forceUnlock surface).2 := by
  cases holds : surface.session? with
  | none =>
    rw [d.forceUnlock_unlocked holds]
    exact .idle holds
  | some session =>
    obtain ⟨layout, slot, tiled, locked⟩ := Surface.session?_eq_some.mp holds
    have ends := d.closeWindow_ends slot layout.window
    rw [d.forceUnlock_locked tiled locked]
    generalize d.closeWindow slot layout.window = closed at ends ⊢
    obtain ⟨result, d'⟩ := closed
    cases ends with
    | closed cleaned => exact .closed tiled locked cleaned
    | broken cleaned => exact .broken tiled locked cleaned

/-- The ways to a programmed slot for a tiled surface that is not locked, each with the table, the
engine and the counters that it leaves. -/
inductive Bound (d : Driver) (layout : Tiled) : Slot → SlotTable → Engine → Stats → Prop where
  | ready {slot} (kept : layout.binding = .kept slot true) :
      Bound d layout slot d.slots d.engine d.stats
  | stale {slot} (kept : layout.binding = .kept slot false) :
      Bound d layout slot (d.slots.write slot layout.descriptor.encode)
        (d.engine.setWindow slot layout.window)
        { d.stats with programmed := d.stats.programmed + 1 }
  | claimed {slot slots} (unbound : layout.binding = .unbound)
      (granted : d.slots.claim = (.ok slot, slots)) :
      Bound d layout slot (slots.write slot layout.descriptor.encode)
        (d.engine.setWindow slot layout.window)
        { d.stats with programmed := d.stats.programmed + 1 }

inductive LockEnds (d : Driver) (handle : Handle) (direction : Direction) :
    Except Error Unit → Driver → Prop where
  | unknown (missing : d.surfaces.find? handle = none) :
      LockEnds d handle direction (.error (.invalid .unknownBuffer)) d
  | unset {permanent} (found : d.surfaces.find? handle = some ⟨.unconfigured, permanent⟩) :
      LockEnds d handle direction (.error (.invalid .attributesUnset)) d
  | linear {a permanent} (found : d.surfaces.find? handle = some ⟨.linear a, permanent⟩) :
      LockEnds d handle direction (.error (.invalid .linearSurface)) d
  | overflow {layout permanent slot session}
      (found : d.surfaces.find? handle = some ⟨.tiled layout, permanent⟩)
      (locked : layout.binding = .locked slot session) (full : Session.maxCount ≤ session.count) :
      LockEnds d handle direction (.error (.invalid .lockCountOverflow)) d
  | exhausted {layout permanent}
      (found : d.surfaces.find? handle = some ⟨.tiled layout, permanent⟩)
      (unbound : layout.binding = .unbound) (taken : ∀ slot : Slot, d.slots.isHeld slot = true) :
      LockEnds d handle direction (.error (.exhausted slotCount)) d
  /-- A lock within a session is only counted. -/
  | nested {layout permanent slot session}
      (found : d.surfaces.find? handle = some ⟨.tiled layout, permanent⟩)
      (locked : layout.binding = .locked slot session) (room : session.count < Session.maxCount) :
      LockEnds d handle direction (.ok ()) { d with
        surfaces := d.surfaces.insert handle
          ⟨.tiled { layout with
            binding := .locked slot { session with nested := session.nested + 1 } }, permanent⟩
        stats := { d.stats with locks := d.stats.locks + 1 } }
  /-- The first lock of a session opens the window. -/
  | first {layout permanent slot slots engine stats}
      (found : d.surfaces.find? handle = some ⟨.tiled layout, permanent⟩)
      (bound : d.Bound layout slot slots engine stats) :
      LockEnds d handle direction (.ok ()) { d with
        slots
        engine := (engine.enableWindow slot).flush.2
        cache := d.cache ++ direction.maintenance layout.window
        surfaces := d.surfaces.insert handle
          ⟨.tiled { layout with binding := .locked slot { direction } }, permanent⟩
        stats := { stats.flushed (engine.enableWindow slot).flush.1 with
          locks := stats.locks + 1 } }

/-- Outside a session a slot is found in one of three ways, unless all are held. -/
theorem bindSlot_ends (d : Driver) {layout : Tiled} (unlocked : layout.binding.session? = none) :
    (layout.binding = .unbound ∧ (∀ slot : Slot, d.slots.isHeld slot = true) ∧
        d.bindSlot layout = (.error (.exhausted slotCount), d)) ∨
      ∃ slot slots engine stats, d.Bound layout slot slots engine stats ∧
        d.bindSlot layout = (.ok slot, { d with slots, engine, stats }) := by
  unfold bindSlot
  cases binding : layout.binding with
  | locked slot session => simp [binding, Binding.session?] at unlocked
  | kept slot programmed =>
    cases programmed with
    | false => exact .inr ⟨slot, _, _, _, .stale binding, rfl⟩
    | true => exact .inr ⟨slot, _, _, _, .ready binding, rfl⟩
  | unbound =>
    dsimp only
    rcases d.slots.claim_cases with ⟨refused, taken⟩ | ⟨slot, slots, granted, _⟩
    · rw [refused]
      exact .inl ⟨rfl, taken, rfl⟩
    · refine .inr ⟨slot, _, _, _, .claimed binding granted, ?_⟩
      rw [granted]
      rfl

theorem lock_ends (d : Driver) (handle : Handle) (direction : Direction) :
    d.LockEnds handle direction (d.lock handle direction).1 (d.lock handle direction).2 := by
  unfold lock
  cases found : d.surfaces.find? handle with
  | none => exact .unknown found
  | some surface =>
    obtain ⟨setup, permanent⟩ := surface
    cases setup with
    | unconfigured => exact .unset found
    | linear a => exact .linear found
    | tiled layout =>
      dsimp only
      split
      · rename_i slot session locked
        split
        · rename_i room
          exact .nested found locked room
        · rename_i full
          exact .overflow found locked (Nat.not_lt.mp full)
      · rename_i other
        have unlocked : layout.binding.session? = none := by
          cases binding : layout.binding with
          | locked slot session => exact absurd binding (other slot session)
          | unbound | kept => rfl
        rcases d.bindSlot_ends unlocked with
          ⟨unbound, taken, refused⟩ | ⟨slot, _, _, _, bound, done⟩
        · rw [refused]
          exact .exhausted found unbound taken
        · rw [done]
          dsimp only
          rw [openWindow_eq, Stats.locks_flushed]
          exact .first found bound

inductive UnlockEnds (d : Driver) (handle : Handle) : Except Failure Unit → Driver → Prop where
  | unknown (missing : d.surfaces.find? handle = none) :
      UnlockEnds d handle (.error (.refused (.invalid .unknownBuffer))) d
  | idle {surface} (found : d.surfaces.find? handle = some surface)
      (unlocked : surface.session? = none) :
      UnlockEnds d handle (.error (.refused (.invalid .notLocked))) d
  /-- An unlock within a session takes back the count of one lock. -/
  | nested {layout permanent slot session nested}
      (found : d.surfaces.find? handle = some ⟨.tiled layout, permanent⟩)
      (locked : layout.binding = .locked slot session) (more : session.nested = nested + 1) :
      UnlockEnds d handle (.ok ()) { d with
        surfaces := d.surfaces.insert handle
          ⟨.tiled { layout with binding := .locked slot { session with nested } }, permanent⟩
        faults := d.faults.rearm
        stats := { d.stats with unlocks := d.stats.unlocks + 1 } }
  /-- The last unlock of a session closes the window. -/
  | last {layout permanent slot session ops}
      (found : d.surfaces.find? handle = some ⟨.tiled layout, permanent⟩)
      (locked : layout.binding = .locked slot session) (single : session.nested = 0)
      (cleaned : d.recipe.clean layout.window = (.ok (), ops)) :
      UnlockEnds d handle (.ok ()) { d with
        slots := if permanent then d.slots else d.slots.release slot
        engine := (d.engine.disableWindow slot).2
        cache := d.cache ++ ops
        surfaces := d.surfaces.insert handle
          ⟨.tiled { layout with
            binding := if permanent then .kept slot true else .unbound }, permanent⟩
        faults := d.faults.rearm
        stats := { d.stats with unlocks := d.stats.unlocks + 1 }.flushed
          (d.engine.disableWindow slot).1 }
  /-- Where cleaning breaks off, the session goes on. -/
  | broken {layout permanent slot session why ops}
      (found : d.surfaces.find? handle = some ⟨.tiled layout, permanent⟩)
      (locked : layout.binding = .locked slot session) (single : session.nested = 0)
      (cleaned : d.recipe.clean layout.window = (.error why, ops)) :
      UnlockEnds d handle (.error (.broken why)) { d with
        cache := d.cache ++ ops
        faults := d.faults.rearm }

theorem unlock_ends (d : Driver) (handle : Handle) (direction : Direction) :
    d.UnlockEnds handle (d.unlock handle direction).1 (d.unlock handle direction).2 := by
  unfold unlock
  cases found : d.surfaces.find? handle with
  | none => exact .unknown found
  | some surface =>
    obtain ⟨setup, permanent⟩ := surface
    cases setup with
    | unconfigured | linear => exact .idle found rfl
    | tiled layout =>
      dsimp only
      split
      · rename_i slot session locked
        split
        · rename_i nested more
          exact .nested found locked more
        · rename_i single
          have ends := { d with faults := d.faults.rearm }.closeWindow_ends slot layout.window
          unfold endSession
          generalize { d with faults := d.faults.rearm }.closeWindow slot layout.window = closed
            at ends
          obtain ⟨result, d'⟩ := closed
          cases ends with
          | broken cleaned => exact .broken found locked single cleaned
          | closed cleaned =>
            have last := UnlockEnds.last found locked single cleaned
            rw [← Stats.flushed_unlocks] at last
            cases permanent <;> exact last
      · rename_i other
        refine .idle found ?_
        cases binding : layout.binding with
        | locked slot session => exact absurd binding (other slot session)
        | unbound | kept => simp [binding]

inductive PermanentEnds (d : Driver) (handle : Handle) (on : Bool) :
    Except Error Unit → Driver → Prop where
  | unknown (missing : d.surfaces.find? handle = none) :
      PermanentEnds d handle on (.error (.invalid .unknownBuffer)) d
  /-- A slot that is held for no other reason is given back. -/
  | dropped {layout permanent slot programmed}
      (found : d.surfaces.find? handle = some ⟨.tiled layout, permanent⟩) (off : on = false)
      (kept : layout.binding = .kept slot programmed) :
      PermanentEnds d handle on (.ok ()) { d with
        slots := d.slots.release slot
        surfaces := d.surfaces.insert handle
          ⟨.tiled { layout with binding := .unbound }, on⟩ }
  | flagged {surface} (found : d.surfaces.find? handle = some surface)
      (bare : on = false → surface.session? = none → surface.slot? = none) :
      PermanentEnds d handle on (.ok ())
        { d with surfaces := d.surfaces.insert handle { surface with permanent := on } }

theorem setPermanent_ends (d : Driver) (handle : Handle) (on : Bool) :
    d.PermanentEnds handle on (d.setPermanent handle on).1 (d.setPermanent handle on).2 := by
  unfold setPermanent
  cases found : d.surfaces.find? handle with
  | none => exact .unknown found
  | some surface =>
    obtain ⟨setup, permanent⟩ := surface
    dsimp only
    split
    · rename_i layout
      split
      · rename_i slot programmed kept
        exact .dropped found rfl kept
      · rename_i other
        refine .flagged found fun _ unlocked => ?_
        cases binding : layout.binding with
        | unbound => simp [Surface.slot?, Surface.tiled?, binding, Binding.slot?]
        | kept slot programmed => exact absurd binding (other slot programmed)
        | locked slot session =>
          simp [binding] at unlocked
    · rename_i other
      refine .flagged found fun off _ => ?_
      cases setup with
      | unconfigured | linear => rfl
      | tiled layout => exact absurd rfl (other layout off)

end Driver

end TiledSurface
