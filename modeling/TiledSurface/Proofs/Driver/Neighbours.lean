import TiledSurface.Proofs.Driver.DeviceMemory

namespace TiledSurface

namespace Buffers

variable {handle other : Handle}

theorem find?_map_other (b : Buffers) (cpu : CpuMapping) (different : other ≠ handle) :
    (b.map handle cpu).2.records.find? other = b.records.find? other := by
  rcases b.map_cases handle cpu with ⟨_, _, rejected⟩ | ⟨_, _, unknown⟩ | ⟨buffer, _, _, done⟩
  · rw [rejected]
  · rw [unknown]
  · rw [done]
    exact (OrderedMap.find?_insert ..).trans (if_neg different)

theorem find?_ensureAttached_other (b : Buffers) (old : Option DeviceMapping)
    (different : other ≠ handle) :
    (b.ensureAttached handle old).2.records.find? other = b.records.find? other := by
  cases old with
  | some mapping => rfl
  | none =>
    rcases b.attach_cases handle with ⟨_, _, refused⟩ | ⟨buffer, _, _, done⟩
    · rw [ensureAttached, refused]
    · rw [ensureAttached, done]
      exact (OrderedMap.find?_insert ..).trans (if_neg different)

theorem find?_giveBack_other (b : Buffers) (held : Holdings) (different : other ≠ handle) :
    (b.giveBack handle held).records.find? other = b.records.find? other := by
  have unmapped : (b.unmapWindow handle held.window).records.find? other =
      b.records.find? other := by
    cases held.window with
    | none => rfl
    | some window => exact b.find?_map_other .linear different
  unfold giveBack
  cases held.mapping with
  | none => exact unmapped
  | some mapping =>
    exact ((OrderedMap.find?_modify ..).trans (if_neg different)).trans unmapped

end Buffers

namespace Engine

variable {slot other : Nat}

theorem find?_enableWindow_other (e : Engine) (different : other ≠ slot) :
    (e.enableWindow slot).windows.find? other = e.windows.find? other :=
  (OrderedMap.find?_modify ..).trans (if_neg different)

theorem find?_setWindow_other (e : Engine) (region : Region) (different : other ≠ slot) :
    (e.setWindow slot region).windows.find? other = e.windows.find? other :=
  (find?_setWindow ..).trans (if_neg different)

theorem find?_disableWindow_other (e : Engine) (different : other ≠ slot) :
    (e.disableWindow slot).2.windows.find? other = e.windows.find? other := by
  rw [disableWindow, windows_finishFlush]
  exact (OrderedMap.find?_modify ..).trans (if_neg different)

end Engine

theorem SlotTable.read?_giveBack_other (t : SlotTable) {own : Option Slot} {slot : Slot}
    (foreign : own ≠ some slot) : (t.giveBack own).read? slot = t.read? slot := by
  cases own with
  | none => rfl
  | some mine =>
    refine (read?_release ..).trans (if_neg fun same => foreign ?_)
    rw [Fin.ext same]

namespace Driver

variable {d d' : Driver} {handle other : Handle} {surface : Surface}

/-- Locking and unlocking write to the slot of the surface, or to one that nobody holds. -/
theorem Rebinding.elsewhere {slots slots' : SlotTable} {engine : Engine} {layout : Tiled}
    {permanent : Bool} {binding : Binding} {windows : OrderedMap EngineWindow} {slot : Slot}
    (rebinding : Rebinding slots engine layout permanent binding slots' windows)
    (held : slots.isHeld slot = true) (foreign : layout.binding.slot? ≠ some slot) :
    slots'.read? slot = slots.read? slot ∧
      windows.find? slot = engine.windows.find? slot := by
  have away : ∀ {mine : Slot}, layout.binding.slot? = some mine → slot.val ≠ mine.val := by
    intro mine bound same
    exact foreign (bound.trans (by rw [Fin.ext same]))
  cases rebinding with
  | counted => exact ⟨rfl, rfl⟩
  | reopened kept =>
    have different := away (by rw [kept]; rfl)
    exact ⟨rfl, engine.find?_enableWindow_other different⟩
  | reprogrammed kept =>
    have different := away (by rw [kept]; rfl)
    refine ⟨(SlotTable.read?_write ..).trans (if_neg different), ?_⟩
    rw [Engine.find?_enableWindow_other _ different, Engine.find?_setWindow_other _ _ different]
  | @claimed mine slots' _ unbound granted =>
    have different : slot.val ≠ mine.val := by
      intro same
      rw [Fin.ext same, SlotTable.isHeld_of_claim granted] at held
      cases held
    constructor
    · rcases slots.claim_cases with ⟨refused, _⟩ | ⟨_, _, given, _, _, _, blocks⟩
      · cases refused.symm.trans granted
      · cases given.symm.trans granted
        rw [SlotTable.read?_write, if_neg different, blocks]
    · rw [Engine.find?_enableWindow_other _ different, Engine.find?_setWindow_other _ _ different]
  | suspended locked =>
    have different := away (by rw [locked]; rfl)
    exact ⟨rfl, engine.find?_disableWindow_other different⟩
  | closed locked =>
    have different := away (by rw [locked]; rfl)
    exact ⟨(SlotTable.read?_release ..).trans (if_neg different),
      engine.find?_disableWindow_other different⟩
  | dropped kept =>
    have different := away (by rw [kept]; rfl)
    exact ⟨(SlotTable.read?_release ..).trans (if_neg different), rfl⟩

theorem ForceEnds.elsewhere {result : Except Cache.Break Unit}
    (ends : d.ForceEnds surface result d') {slot : Slot} (foreign : surface.slot? ≠ some slot) :
    d'.engine.windows.find? slot = d.engine.windows.find? slot := by
  cases ends with
  | idle | broken => rfl
  | closed tiled locked =>
    apply Engine.find?_disableWindow_other
    intro same
    apply foreign
    simp [Surface.slot?, Surface.tiled?, tiled, locked, Binding.slot?, Fin.ext same]

/-- What a surface relies on is as it was: its own record and all that it holds, the record of its
buffer, and the block and the engine's window of its slot. -/
structure Undisturbed (d : Driver) (handle : Handle) (surface : Surface) (d' : Driver) :
    Prop where
  record : d'.surfaces.find? handle = some surface
  buffer : d'.buffers.records.find? handle = d.buffers.records.find? handle
  block : ∀ slot, surface.slot? = some slot → d'.slots.read? slot = d.slots.read? slot
  window : ∀ slot, surface.slot? = some slot →
    d'.engine.windows.find? slot = d.engine.windows.find? slot

theorem Undisturbed.regions?_eq (same : d.Undisturbed handle surface d') :
    d'.regions? surface = d.regions? surface := by
  unfold regions?
  cases bound : surface.slot? with
  | none => rfl
  | some slot => simp [same.block slot bound]

theorem SlotsKept.foreign (kept : d.SlotsKept) (found : d.surfaces.find? handle = some surface)
    {surface' : Surface} (found' : d.surfaces.find? other = some surface')
    (different : handle ≠ other) {slot : Slot} (mine : surface.slot? = some slot) :
    d.slots.isHeld slot = true ∧ surface'.slot? ≠ some slot := by
  have owned := owned_eq_some.mpr ⟨surface, found, mine⟩
  refine ⟨kept.ledger.held owned, fun theirs => different ?_⟩
  exact kept.ledger.alone owned (owned_eq_some.mpr ⟨surface', found', theirs⟩)

theorem Touch.undisturbed (touch : d.Touch other d') (kept : d.SlotsKept)
    (found : d.surfaces.find? handle = some surface) (different : handle ≠ other) :
    d.Undisturbed handle surface d' where
  record := (touch.others different).trans found
  buffer := by rw [touch.buffers]
  block := by
    intro slot mine
    cases touch with
    | idle | tracked | flagged => rfl
    | rebound found' rebinding =>
      obtain ⟨held, foreign⟩ := kept.foreign found found' different mine
      exact (rebinding.elsewhere held foreign).1
  window := by
    intro slot mine
    cases touch with
    | idle windows => rw [← windows]
    | tracked | flagged => rfl
    | rebound found' rebinding =>
      obtain ⟨held, foreign⟩ := kept.foreign found found' different mine
      exact (rebinding.elsewhere held foreign).2

/-- An attempt leaves the records of other buffers alone, and so does giving back what it leaves
in vain. -/
theorem Attempted.find?_other {held : Holdings} {a : Attributes} {attempt : Attempt}
    {pool : WindowPool} {buffers : Buffers}
    (attempted : d.Attempted other held a attempt pool buffers) (different : handle ≠ other) :
    buffers.records.find? handle = d.buffers.records.find? handle := by
  have own := d.buffers.find?_map_other .linear different
  rcases attempted.buffers_eq with rfl | ⟨cpu, rfl | rfl⟩
  · exact own
  · exact (Buffers.find?_map_other _ cpu different).trans own
  · rw [Buffers.find?_ensureAttached_other _ _ different]
    exact (Buffers.find?_map_other _ cpu different).trans own

theorem Configured.undisturbed {a : Attributes} {result : Except Error Unit}
    (configured : d.Configured other a result d') (kept : d.SlotsKept)
    (found : d.surfaces.find? handle = some surface) (different : handle ≠ other) :
    d.Undisturbed handle surface d' where
  record := (configured.others different).trans found
  buffer := by
    cases configured with
    | unknown | busy => rfl
    | settled _ _ _ attempted =>
      exact (Buffers.find?_giveBack_other _ _ different).trans (attempted.find?_other different)
  block := by
    intro slot mine
    cases configured with
    | unknown | busy => rfl
    | @settled surface' attempt _ _ _ found' _ _ attempted =>
      have foreign := (kept.foreign found found' different mine).2
      refine SlotTable.read?_giveBack_other _ fun spare => ?_
      cases attempt with
      | refused | linear => exact foreign (attempted.slot.symm.trans spare)
      | tiled => cases spare
  window := by
    intro slot _
    cases configured <;> rfl

theorem UntrackEnds.undisturbed {result : Except Failure Unit}
    (ends : d.UntrackEnds other result d') (kept : d.SlotsKept)
    (found : d.surfaces.find? handle = some surface) (different : handle ≠ other) :
    d.Undisturbed handle surface d' where
  record := (ends.others different).trans found
  buffer := by
    cases ends with
    | unknown | broken => rfl
    | removed => exact d.buffers.find?_giveBack_other _ different
  block := by
    intro slot mine
    cases ends with
    | unknown | broken => rfl
    | removed found' =>
      exact d.slots.read?_giveBack_other (kept.foreign found found' different mine).2
  window := by
    intro slot mine
    cases ends with
    | unknown | broken => rfl
    | removed found' _ closed =>
      rw [closed]
      exact (d.forceUnlock_ends _).elsewhere (kept.foreign found found' different mine).2

/-- The handle that a client's request names. -/
def Command.target? : Command → Option Handle
  | .track handle | .configure handle _ | .attributes handle | .lock handle _
  | .unlock handle _ | .setPermanent handle _ | .untrack handle => some handle
  | .platform _ | .interrupt _ | .takeReports => none

theorem step_elsewhere (d : Driver) {command : Command}
    (elsewhere : command.target? ≠ some handle) :
    (d.step command).2.surfaces.find? handle = d.surfaces.find? handle := by
  have different {other : Handle} (named : command.target? = some other) : handle ≠ other :=
    fun same => elsewhere (named.trans (congrArg some same.symm))
  cases command with
  | platform | attributes | interrupt | takeReports => rfl
  | track other => exact (d.track_touch other).others (different rfl)
  | configure other a => exact (d.configure_ends other a).others (different rfl)
  | lock other direction => exact (d.lock_touch other direction).others (different rfl)
  | unlock other direction => exact (d.unlock_touch other direction).others (different rfl)
  | setPermanent other on => exact (d.setPermanent_touch other on).others (different rfl)
  | untrack other => exact (d.untrack_ends other).others (different rfl)

theorem step_undisturbed (kept : d.SlotsKept) (found : d.surfaces.find? handle = some surface)
    {command : Command} (request : command.target? = some other) (different : handle ≠ other) :
    d.Undisturbed handle surface (d.step command).2 := by
  cases command with
  | track target =>
    cases request
    exact (d.track_touch other).undisturbed kept found different
  | configure target a =>
    cases request
    exact (d.configure_ends other a).undisturbed kept found different
  | attributes target => exact ⟨found, rfl, fun _ _ => rfl, fun _ _ => rfl⟩
  | lock target direction =>
    cases request
    exact (d.lock_touch other direction).undisturbed kept found different
  | unlock target direction =>
    cases request
    exact (d.unlock_touch other direction).undisturbed kept found different
  | setPermanent target on =>
    cases request
    exact (d.setPermanent_touch other on).undisturbed kept found different
  | untrack target =>
    cases request
    exact (d.untrack_ends other).undisturbed kept found different
  | platform | interrupt | takeReports => cases request

/-- In every state of a run, a request for one surface leaves alone what any other surface relies
on, whether the request succeeds or fails, and whatever others have done to the platform. -/
theorem others_undisturbed {config : Config} {platform : Platform}
    (up : bringUp config platform = .ok d) (commands : List Command)
    (found : (d.run commands).surfaces.find? handle = some surface) {command : Command}
    (request : command.target? = some other) (different : handle ≠ other) :
    (d.run commands).Undisturbed handle surface ((d.run commands).step command).2 :=
  step_undisturbed ((SlotsKept.start up).run commands) found request different

/-- The second of two locked surfaces is removed. The engine still reads the first one's planes by
the block in its slot. -/
theorem others_undisturbed_pairRun :
    ∃ d surface, bringUp {} { engine := { version := ⟨1, 1⟩ } } = .ok d ∧
      ((d.run pairRun).step (.untrack 2)).2.surfaces.find? 1 = some surface ∧
      ((d.run pairRun).step (.untrack 2)).2.regions? surface =
        some (Region.row 0x10000000 [pageSize, pageSize, pageSize, pageSize]) := by
  obtain ⟨d, surface, _, up, found, _, _, _, used, _⟩ := exists_pairRun
  have request : (Command.untrack 2).target? = some 2 := rfl
  have same := others_undisturbed up pairRun found request (by decide)
  exact ⟨d, surface, up, same.record, same.regions?_eq.trans used⟩

end Driver

end TiledSurface
