import TiledSurface.Proofs.Driver.Hotplug

/-!
What the driver and its engine only take note of: the counters, the log, the flushes and those
that are going to time out. None of it decides anything. Drivers that differ in their notes alone
answer their clients in the same way, and go on differing in their notes alone.
-/

namespace TiledSurface

namespace Engine

def plain (e : Engine) : Engine := { e with failingFlushes := 0, flushes := 0, events := [] }

variable (e : Engine) (slot : Nat)

@[simp] theorem plain_log (event : Event) : (e.log event).plain = e.plain := rfl

@[simp] theorem plain_finishFlush : e.finishFlush.2.plain = e.plain := by
  rw [finishFlush_eq]
  rfl

@[simp] theorem plain_flush : e.flush.2.plain = e.plain := by
  rw [flush, plain_finishFlush, plain_log]

theorem plain_enableWindow : (e.plain.enableWindow slot).plain = (e.enableWindow slot).plain := rfl

theorem plain_disableWindow :
    (e.plain.disableWindow slot).2.plain = (e.disableWindow slot).2.plain := by
  rw [disableWindow, disableWindow, plain_finishFlush, plain_finishFlush]
  rfl

theorem plain_step (command : Command) :
    (e.plain.step command).2.plain = (e.step command).2.plain := by
  cases command with
  | disableWindow slot => exact e.plain_disableWindow slot
  | flush => exact (plain_flush e.plain).trans (plain_flush e).symm
  | access address write =>
    have aperture : e.plain.aperture = e.aperture := rfl
    have translated : e.plain.translate? address = e.translate? address := rfl
    simp only [step, access, aperture, translated]
    split
    · cases e.translate? address <;> rfl
    · rfl
  | setTable | setWindow | enableWindow | enableInterrupt | clearInterrupt | source | raise
  | setAperture | failFlushes | window | takeLog => rfl

end Engine

namespace Driver

def plain (d : Driver) : Driver := { d with engine := d.engine.plain, stats := {} }

variable {d d' : Driver} {handle : Handle}

theorem Attempted.plain {held : Holdings} {a : Attributes} {attempt : Attempt} {pool : WindowPool}
    {buffers : Buffers} (attempted : d.Attempted handle held a attempt pool buffers) :
    d.plain.Attempted handle held a attempt pool buffers := by
  cases attempted with
  | unmapped own => exact .unmapped own
  | invalid own plan => exact .invalid own plan
  | linear own plan => exact .linear own plan
  | full own planned refused => exact .full own planned refused
  | unreachable own planned reserved refused => exact .unreachable own planned reserved refused
  | unattached own planned reserved mapped refused =>
    exact .unattached own planned reserved mapped refused
  | indescribable own planned reserved mapped attached refused =>
    exact .indescribable own planned reserved mapped attached refused
  | tiled own planned reserved mapped attached described =>
    exact .tiled own planned reserved mapped attached described

/-- What a request tells its client, and what it does to the driver apart from its notes. -/
def effect {α : Type} : α × Driver → α × Driver := Prod.map id plain

theorem effect_eq {α : Type} {one two : α × Driver} :
    effect one = effect two ↔ one.1 = two.1 ∧ one.2.plain = two.2.plain := Prod.ext_iff

theorem configure_plain (d : Driver) (handle : Handle) (a : Attributes) :
    effect (d.plain.configure handle a) = effect (d.configure handle a) := by
  have surfaces : d.plain.surfaces = d.surfaces := rfl
  unfold configure
  rw [surfaces]
  cases found : d.surfaces.find? handle with
  | none => rfl
  | some surface =>
    dsimp only
    split
    · rfl
    · obtain ⟨attempt, pool, buffers, tried, attempted⟩ :=
        d.attempt_ends handle surface.holdings a
      rw [tried, attempted.plain.attempt_eq]
      obtain ⟨stats, settled⟩ := settle_eq { d with pool, buffers } handle surface a attempt
      obtain ⟨stats', settled'⟩ :=
        settle_eq { d.plain with pool, buffers } handle surface a attempt
      dsimp only
      rw [settled, settled']
      rfl

theorem track_plain (d : Driver) (handle : Handle) :
    effect (d.plain.track handle) = effect (d.track handle) := by
  have surfaces : d.plain.surfaces = d.surfaces := rfl
  unfold track
  rw [surfaces]
  cases found : d.surfaces.find? handle with
  | some surface => rfl
  | none =>
    have online : d.plain.online = d.online := rfl
    have hotplug : d.plain.hotplug = d.hotplug := rfl
    have config : d.plain.config = d.config := rfl
    simp only [bringOnline, online, hotplug, config]
    cases d.online with
    | true => rfl
    | false =>
      cases d.hotplug.bringOnline d.config.pool with
      | mk result hotplug => cases result <;> rfl

theorem openWindow_plain (d : Driver) (slot : Slot) (window : Region) (direction : Direction) :
    (d.plain.openWindow slot window direction).plain =
      (d.openWindow slot window direction).plain := by
  simp only [openWindow_eq, plain, Engine.plain_flush, Engine.plain_enableWindow]

theorem closeWindow_plain (d : Driver) (slot : Slot) (window : Region) :
    effect (d.plain.closeWindow slot window) = effect (d.closeWindow slot window) := by
  have recipe : d.plain.recipe = d.recipe := rfl
  unfold closeWindow
  rw [recipe]
  rcases d.recipe.clean window with ⟨_ | _, ops⟩
  · rfl
  · refine effect_eq.mpr ⟨rfl, ?_⟩
    simp only [noteFlush_eq, plain, Engine.plain_disableWindow]

theorem surfaces_of_plain (same : d.plain = d'.plain) : d.surfaces = d'.surfaces :=
  (congrArg Driver.surfaces same : d.plain.surfaces = d'.plain.surfaces)

theorem slots_of_plain (same : d.plain = d'.plain) : d.slots = d'.slots :=
  (congrArg Driver.slots same : d.plain.slots = d'.plain.slots)

theorem windows_of_plain (same : d.plain = d'.plain) : d.engine.windows = d'.engine.windows :=
  (congrArg (fun d : Driver => d.engine.windows) same :
    d.plain.engine.windows = d'.plain.engine.windows)

/-- What reads no notes does not tell drivers apart that differ in nothing else. -/
theorem plain_congr (act : Driver → Driver)
    (reads : ∀ d : Driver, (act d.plain).plain = (act d).plain) (same : d.plain = d'.plain) :
    (act d).plain = (act d').plain := by
  rw [← reads d, same, reads d']

theorem effect_congr {α : Type} (request : Driver → α × Driver)
    (reads : ∀ d : Driver, effect (request d.plain) = effect (request d))
    (same : d.plain = d'.plain) : effect (request d) = effect (request d') := by
  rw [← reads d, same, reads d']

theorem rebind_plain {surface : Surface} {layout : Tiled} {binding binding' : Binding}
    (told : binding = binding') (same : d.plain = d'.plain) :
    (d.rebind handle surface layout binding).plain =
      (d'.rebind handle surface layout binding').plain := by
  rw [told]
  exact plain_congr (·.rebind handle surface layout binding') (fun _ => rfl) same

theorem bindSlot_plain (d : Driver) (layout : Tiled) :
    effect (d.plain.bindSlot layout) = effect (d.bindSlot layout) := by
  have slots : d.plain.slots = d.slots := rfl
  unfold bindSlot
  cases layout.binding with
  | locked slot session => rfl
  | kept slot programmed => cases programmed <;> rfl
  | unbound =>
    simp only [slots]
    rcases d.slots.claim with ⟨_ | slot, slots⟩ <;> rfl

theorem lock_plain (d : Driver) (handle : Handle) (direction : Direction) :
    effect (d.plain.lock handle direction) = effect (d.lock handle direction) := by
  have surfaces : d.plain.surfaces = d.surfaces := rfl
  unfold lock
  rw [surfaces]
  cases found : d.surfaces.find? handle with
  | none => rfl
  | some surface =>
    dsimp only
    cases surface.setup with
    | unconfigured | linear => rfl
    | tiled layout =>
      dsimp only
      split
      · split <;> rfl
      · obtain ⟨told, bound⟩ := effect_eq.mp (d.bindSlot_plain layout)
        generalize d.plain.bindSlot layout = one at told bound
        generalize d.bindSlot layout = two at told bound
        obtain ⟨result, one⟩ := one
        obtain ⟨_, two⟩ := two
        cases told
        cases result with
        | error error => exact congrArg (Prod.mk _) bound
        | ok slot =>
          have opened := plain_congr (·.openWindow slot layout.window direction)
            (fun d => d.openWindow_plain slot layout.window direction) bound
          exact congrArg (Prod.mk _) (rebind_plain rfl opened)

theorem endSession_plain (d : Driver) (slot : Slot) (window : Region) (permanent : Bool) :
    effect (d.plain.endSession slot window permanent) =
      effect (d.endSession slot window permanent) := by
  obtain ⟨told, closed⟩ := effect_eq.mp (d.closeWindow_plain slot window)
  unfold endSession
  generalize d.plain.closeWindow slot window = one at told closed
  generalize d.closeWindow slot window = two at told closed
  obtain ⟨result, one⟩ := one
  obtain ⟨_, two⟩ := two
  cases told
  rcases result with _ | _
  · exact congrArg (Prod.mk _) closed
  · cases permanent with
    | true => exact congrArg (Prod.mk _) closed
    | false =>
      exact congrArg (Prod.mk _) (plain_congr (·.releaseSlot (some slot)) (fun _ => rfl) closed)

theorem endSession_congr (same : d.plain = d'.plain) (slot : Slot) (window : Region)
    (permanent : Bool) :
    effect (d.endSession slot window permanent) = effect (d'.endSession slot window permanent) :=
  effect_congr (·.endSession slot window permanent) (endSession_plain · slot window permanent) same

theorem unlock_plain (d : Driver) (handle : Handle) (direction : Direction) :
    effect (d.plain.unlock handle direction) = effect (d.unlock handle direction) := by
  cases found : d.surfaces.find? handle with
  | none =>
    have found' : d.plain.surfaces.find? handle = none := found
    rw [unlock, unlock, found, found']
    rfl
  | some surface =>
    have found' : d.plain.surfaces.find? handle = some surface := found
    rw [unlock, unlock, found, found']
    dsimp only
    cases surface.setup with
    | unconfigured | linear => rfl
    | tiled layout =>
      dsimp only
      split
      · rename_i slot session locked
        split
        · rfl
        · have rearmed : { d.plain with faults := d.plain.faults.rearm }.plain =
              { d with faults := d.faults.rearm }.plain := rfl
          obtain ⟨told, ended⟩ :=
            effect_eq.mp (endSession_congr rearmed slot layout.window surface.permanent)
          generalize { d.plain with faults := d.plain.faults.rearm }.endSession slot layout.window
            surface.permanent = one at told ended
          generalize { d with faults := d.faults.rearm }.endSession slot layout.window
            surface.permanent = two at told ended
          obtain ⟨result, one⟩ := one
          obtain ⟨_, two⟩ := two
          cases told
          cases result with
          | error why => exact congrArg (Prod.mk _) ended
          | ok binding => exact congrArg (Prod.mk _) (rebind_plain rfl ended)
      · rfl

theorem setPermanent_plain (d : Driver) (handle : Handle) (on : Bool) :
    effect (d.plain.setPermanent handle on) = effect (d.setPermanent handle on) := by
  have surfaces : d.plain.surfaces = d.surfaces := rfl
  unfold setPermanent
  rw [surfaces]
  cases found : d.surfaces.find? handle with
  | none => rfl
  | some surface =>
    dsimp only
    split
    · split <;> rfl
    · rfl

theorem takeOffline_plain (d : Driver) : d.plain.takeOffline.plain = d.takeOffline.plain := by
  have surfaces : d.plain.surfaces = d.surfaces := rfl
  have online : d.plain.online = d.online := rfl
  have hotplug : d.plain.hotplug = d.hotplug := rfl
  have config : d.plain.config = d.config := rfl
  unfold takeOffline
  rw [surfaces, online, hotplug, config]
  split
  · rcases d.hotplug.takeOffline d.config.pool with ⟨_ | _, hotplug⟩ <;> rfl
  · rfl

theorem forceUnlock_plain (d : Driver) (surface : Surface) :
    effect (d.plain.forceUnlock surface) = effect (d.forceUnlock surface) := by
  unfold forceUnlock
  cases surface.tiled? with
  | none => rfl
  | some layout =>
    dsimp only
    split
    · exact d.closeWindow_plain _ _
    · rfl

theorem without_plain (d : Driver) (handle : Handle) (surface : Surface) :
    (d.plain.without handle surface).plain = (d.without handle surface).plain := by
  refine plain_congr (fun d => { d.release handle surface.holdings with
    surfaces := (d.release handle surface.holdings).surfaces.erase handle }) ?_
    (effect_eq.mp (d.forceUnlock_plain surface)).2
  intro d
  rw [release_eq, release_eq]
  rfl

theorem untrack_plain (d : Driver) (handle : Handle) :
    effect (d.plain.untrack handle) = effect (d.untrack handle) := by
  cases found : d.surfaces.find? handle with
  | none =>
    have found' : d.plain.surfaces.find? handle = none := found
    rw [untrack, untrack, found, found']
    rfl
  | some surface =>
    have found' : d.plain.surfaces.find? handle = some surface := found
    obtain ⟨told, forced⟩ := effect_eq.mp (d.forceUnlock_plain surface)
    cases through : (d.forceUnlock surface).1 with
    | error why =>
      rw [untrack_broken found through, untrack_broken found' (told.trans through)]
      exact congrArg (Prod.mk _) forced
    | ok done =>
      rw [untrack_eq found through, untrack_eq found' (told.trans through)]
      exact congrArg (Prod.mk _)
        (plain_congr (·.takeOffline) takeOffline_plain (d.without_plain handle surface))

theorem interrupt_plain (d : Driver) (line : UInt32) :
    effect (d.plain.interrupt line) = effect (d.interrupt line) := by
  have faults : d.plain.faults = d.faults := rfl
  unfold interrupt FaultMonitor.interrupt
  rw [faults]
  cases d.faults.lines.kind? line <;> rfl

theorem step_plain (d : Driver) (command : Command) :
    (d.plain.step command).2.plain = (d.step command).2.plain := by
  cases command with
  | platform other =>
    cases other with
    | engine command =>
      have same := d.engine.plain_step command
      exact congrArg (fun engine => ({ d with engine, stats := {} } : Driver)) same
    | register | failMaps | failAttaches | failOnlines | failOfflines | attach | detach | map
    | bringOnline | takeOffline | maintain => rfl
  | track handle => exact (effect_eq.mp (d.track_plain handle)).2
  | configure handle a => exact (effect_eq.mp (d.configure_plain handle a)).2
  | lock handle direction => exact (effect_eq.mp (d.lock_plain handle direction)).2
  | unlock handle direction => exact (effect_eq.mp (d.unlock_plain handle direction)).2
  | setPermanent handle on => exact (effect_eq.mp (d.setPermanent_plain handle on)).2
  | untrack handle => exact (effect_eq.mp (d.untrack_plain handle)).2
  | interrupt line => exact (effect_eq.mp (d.interrupt_plain line)).2
  | attributes | takeReports => rfl

/-- Drivers that differ in their notes alone go on doing so, whatever happens to both. -/
theorem run_plain (same : d.plain = d'.plain) (commands : List Command) :
    (d.run commands).plain = (d'.run commands).plain := by
  induction commands generalizing d d' with
  | nil => exact same
  | cons command rest ih =>
    exact ih (plain_congr (fun d => (d.step command).2) (step_plain · command) same)

end Driver

end TiledSurface
