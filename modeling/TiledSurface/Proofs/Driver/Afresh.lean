import TiledSurface.Proofs.Driver.FailedConfigure
import TiledSurface.Proofs.Driver.Mirror
import TiledSurface.Proofs.Driver.Notes
import TiledSurface.Proofs.Driver.Permanence
import TiledSurface.Proofs.OrderedMap

/-!
The note that a slot is programmed, checked against a driver that does without it. That driver
programs the slot at every first lock. As long as nobody else writes the engine's registers it
only makes more writes: what is in the table and what the windows are is the same at all times.
-/

namespace TiledSurface

/-- The addresses of the window of a slot, open or not. -/
def regionAt (windows : OrderedMap EngineWindow) (slot : Nat) : Option Region :=
  (windows.find? slot).map (·.region)

namespace Engine

theorem regionAt_setWindow (e : Engine) (slot : Nat) (region : Region) (other : Nat) :
    regionAt (e.setWindow slot region).windows other =
      if other = slot then some region else regionAt e.windows other := by
  rw [regionAt, find?_setWindow]
  split <;> rfl

theorem regionAt_enableWindow (e : Engine) (slot other : Nat) :
    regionAt (e.enableWindow slot).windows other = regionAt e.windows other := by
  by_cases same : other = slot
  · simp [regionAt, enableWindow, OrderedMap.find?_modify, same, Function.comp_def]
  · simp [regionAt, enableWindow, OrderedMap.find?_modify, same]

theorem regionAt_disableWindow (e : Engine) (slot other : Nat) :
    regionAt (e.disableWindow slot).2.windows other = regionAt e.windows other := by
  by_cases same : other = slot
  · simp [regionAt, disableWindow, OrderedMap.find?_modify, same, Function.comp_def]
  · simp [regionAt, disableWindow, OrderedMap.find?_modify, same]

theorem windows_setWindow_same {e : Engine} {slot : Nat} {region : Region}
    (shown : regionAt e.windows slot = some region) :
    (e.setWindow slot region).windows = e.windows := by
  obtain ⟨⟨_, on⟩, found, rfl⟩ := Option.map_eq_some_iff.mp shown
  refine OrderedMap.insert_self ?_
  rw [found]
  rfl

end Engine

namespace SlotTable

theorem write_same {t : SlotTable} {slot : Slot} {block : Block}
    (written : t.read? slot = some block) : t.write slot block = t := by
  obtain ⟨_, same⟩ := Vector.getElem?_eq_some_iff.mp written
  rw [write, ← same, Vector.set_getElem_self]

end SlotTable

/-- Each owner of a gate finds its region in the window of its slot. -/
def Frames {ι : Type} (windows : OrderedMap EngineWindow)
    (gates : ι → Option (Slot × EngineWindow)) : Prop :=
  ∀ owner slot window, gates owner = some (slot, window) →
    regionAt windows slot = some window.region

namespace Frames

variable {ι : Type} [DecidableEq ι] {windows windows' : OrderedMap EngineWindow}
  {gates : ι → Option (Slot × EngineWindow)} {owner : ι} {slot : Slot} {window : EngineWindow}

theorem forget (frames : Frames windows gates)
    (same : ∀ index, regionAt windows' index = regionAt windows index) (owner : ι) :
    Frames windows' (Function.update gates owner none) := by
  intro other slot window shows
  rw [same]
  by_cases mine : other = owner
  · subst mine
    rw [Function.update_self] at shows
    cases shows
  · rw [Function.update_of_ne mine] at shows
    exact frames other slot window shows

theorem set (frames : Frames windows gates) (here : regionAt windows' slot = some window.region)
    (elsewhere : ∀ index, index ≠ slot.val → regionAt windows' index = regionAt windows index)
    (alone : ∀ other window', gates other = some (slot, window') → other = owner) :
    Frames windows' (Function.update gates owner (some (slot, window))) := by
  intro other slot' window' shows
  by_cases mine : other = owner
  · subst mine
    rw [Function.update_self] at shows
    cases shows
    exact here
  · rw [Function.update_of_ne mine] at shows
    have apart : slot'.val ≠ slot.val := fun same =>
      mine (alone other window' (Fin.ext same ▸ shows))
    rw [elsewhere slot' apart]
    exact frames other slot' window' shows

end Frames

/-- The binding without the note that its slot is programmed. A session needs no note. -/
def Binding.distrusted : Binding → Binding
  | .kept slot _ => .kept slot false
  | .locked slot session => .locked slot session
  | .unbound => .unbound

def Surface.distrusted (s : Surface) : Surface :=
  match s.setup with
  | .tiled layout => { s with setup := .tiled { layout with binding := layout.binding.distrusted } }
  | .unconfigured | .linear _ => s

/-- There is something to forget only about a slot that is kept and programmed. -/
theorem Surface.distrusted_cases (s : Surface) :
    s.distrusted = s ∨ ∃ layout slot, s.setup = .tiled layout ∧ layout.binding = .kept slot true ∧
      s.distrusted = ⟨.tiled { layout with binding := .kept slot false }, s.permanent⟩ := by
  obtain ⟨setup, permanent⟩ := s
  cases setup with
  | unconfigured | linear => exact .inl rfl
  | tiled layout =>
    obtain ⟨attributes, format, footprint, descriptor, window, mapping, binding⟩ := layout
    rcases binding with _ | ⟨slot, _ | _⟩ | _
    · exact .inl rfl
    · exact .inl rfl
    · exact .inr ⟨_, slot, rfl, rfl, rfl⟩
    · exact .inl rfl

theorem Surface.programmed?_distrusted {s : Surface} (unlocked : s.session? = none) :
    s.distrusted.programmed? = none := by
  obtain ⟨setup, permanent⟩ := s
  cases setup with
  | unconfigured | linear => rfl
  | tiled layout =>
    obtain ⟨attributes, format, footprint, descriptor, window, mapping, binding⟩ := layout
    cases binding with
    | unbound | kept => rfl
    | locked => cases unlocked

namespace Driver

variable {d d' : Driver} {handle : Handle}

theorem SlotsKept.reframe (kept : d.SlotsKept) {layout : Tiled} {permanent permanent' : Bool}
    {binding : Binding} {slots : SlotTable} {windows : OrderedMap EngineWindow}
    (frames : Frames d.engine.windows (owned d.surfaces Surface.gate?))
    (found : d.surfaces.find? handle = some ⟨.tiled layout, permanent⟩)
    (rebinding : Rebinding d.slots d.engine layout permanent' binding slots windows) :
    Frames windows (Function.update (owned d.surfaces Surface.gate?) handle
      (binding.programmed?.map fun slot => (slot, ⟨layout.window, binding.session?.isSome⟩))) := by
  have gate : owned d.surfaces Surface.gate? handle = layout.binding.programmed?.map
      fun slot => (slot, ⟨layout.window, layout.binding.session?.isSome⟩) :=
    owned_of_find? _ found
  have shown : ∀ {slot : Slot}, layout.binding.programmed? = some slot →
      regionAt d.engine.windows slot = some layout.window :=
    fun ready => frames _ _ _ (gate.trans (by rw [ready]; rfl))
  have alone : ∀ {slot}, layout.binding.slot? = some slot → ∀ other window,
      owned d.surfaces Surface.gate? other = some (slot, window) → other = handle :=
    fun bound other window shows =>
      kept.gate_alone shows ((owned_of_find? Surface.slot? found).trans bound)
  cases rebinding with
  | counted locked =>
    have ready := congrArg Binding.programmed? locked
    exact frames.set (shown ready) (fun _ _ => rfl) (alone (Binding.slot?_of_programmed? ready))
  | reopened was =>
    have ready := congrArg Binding.programmed? was
    refine frames.set ?_ (fun _ _ => d.engine.regionAt_enableWindow ..)
      (alone (Binding.slot?_of_programmed? ready))
    exact (d.engine.regionAt_enableWindow ..).trans (shown ready)
  | reprogrammed was =>
    refine frames.set ?_ (fun index apart => ?_) (alone (congrArg Binding.slot? was))
    · rw [Engine.regionAt_enableWindow, Engine.regionAt_setWindow, if_pos rfl]
    · rw [Engine.regionAt_enableWindow, Engine.regionAt_setWindow, if_neg apart]
  | claimed unbound granted =>
    refine frames.set ?_ (fun index apart => ?_) fun other window shows =>
      absurd shows (kept.gate_claimed granted window)
    · rw [Engine.regionAt_enableWindow, Engine.regionAt_setWindow, if_pos rfl]
    · rw [Engine.regionAt_enableWindow, Engine.regionAt_setWindow, if_neg apart]
  | suspended locked =>
    have ready := congrArg Binding.programmed? locked
    refine frames.set ?_ (fun _ _ => d.engine.regionAt_disableWindow ..)
      (alone (Binding.slot?_of_programmed? ready))
    exact (d.engine.regionAt_disableWindow ..).trans (shown ready)
  | closed => exact frames.forget (fun _ => d.engine.regionAt_disableWindow ..) handle
  | dropped => exact frames.forget (fun _ => rfl) handle

theorem ForceEnds.regions {surface : Surface} {result : Except Cache.Break Unit}
    (ends : d.ForceEnds surface result d') (index : Nat) :
    regionAt d'.engine.windows index = regionAt d.engine.windows index := by
  cases ends with
  | idle | broken => rfl
  | closed => exact d.engine.regionAt_disableWindow ..

/-- Programmed slots have the block and the region of their surfaces, open or not. -/
structure Framed (d : Driver) : Prop where
  slots : d.SlotsKept
  frames : Frames d.engine.windows (owned d.surfaces Surface.gate?)

namespace Framed

theorem start {config : Config} {platform : Platform} (up : bringUp config platform = .ok d) :
    d.Framed := by
  refine ⟨.start up, ?_⟩
  obtain ⟨engine, pool, faults, rfl, _⟩ := bringUp_eq_ok up
  exact fun _ _ _ => nofun

theorem move (framed : d.Framed) (move : d.Move d') : d'.Framed := by
  refine ⟨framed.slots.move move, ?_⟩
  cases move with
  | idle windows =>
    dsimp only
    rw [windows]
    exact framed.frames
  | tracked missing =>
    dsimp only
    rw [owned_insert_bare {} missing rfl]
    exact framed.frames
  | @flagged handle surface on found =>
    dsimp only
    rw [owned_insert_same ⟨surface.setup, on⟩ found rfl]
    exact framed.frames
  | rebound found rebinding =>
    have rebound := framed.slots.reframe framed.frames found rebinding
    rw [owned_insert]
    exact rebound
  | @settled handle _ _ _ _ _ _ _ _ attempted =>
    rw [owned_insert, attempted.gate?_eq_none]
    exact framed.frames.forget (fun _ => rfl) handle
  | @removed handle surface _ _ _ _ _ _ _ windows =>
    dsimp only
    rw [owned_erase, windows]
    exact framed.frames.forget (d.forceUnlock_ends surface).regions handle

theorem step (framed : d.Framed) {command : Command} (alone : EngineAlone d command) :
    (d.step command).2.Framed := by
  rcases d.step_cases command with move | ⟨other, rfl⟩
  · exact framed.move move
  · refine ⟨framed.slots.step _, ?_⟩
    rw [alone.windows]
    exact framed.frames

end Framed

def distrust (d : Driver) (handle : Handle) : Driver :=
  { d with surfaces := d.surfaces.modify handle Surface.distrusted }

/-- A step of the driver that programs the slot at every first lock. -/
def stepAfresh (d : Driver) : Command → Outcome × Driver
  | .lock handle direction => (d.distrust handle).step (.lock handle direction)
  | command => d.step command

def runAfresh (d : Driver) (commands : List Command) : Driver :=
  commands.foldl (fun d command => (d.stepAfresh command).2) d

theorem Unprogrammed.distrust (unlocked : ¬ Locked handle d) :
    Unprogrammed handle (d.distrust handle) := by
  rw [Unprogrammed, owned, Driver.distrust, OrderedMap.find?_modify, if_pos rfl]
  cases found : d.surfaces.find? handle with
  | none => rfl
  | some surface =>
    refine Surface.programmed?_distrusted ?_
    by_contra locked
    exact unlocked ⟨surface, found, locked⟩

theorem distrust_eq {surface : Surface} (found : d.surfaces.find? handle = some surface) :
    d.distrust handle = { d with surfaces := d.surfaces.insert handle surface.distrusted } := by
  rw [distrust, OrderedMap.modify, found]

theorem program_same {slot : Slot} {layout : Tiled}
    (written : d.slots.read? slot = some layout.descriptor.encode)
    (shown : regionAt d.engine.windows slot = some layout.window) :
    (d.program slot layout).plain = d.plain := by
  have windows := Engine.windows_setWindow_same shown
  have engine : (d.engine.setWindow slot layout.window).plain = d.engine.plain :=
    congrArg (fun windows => { d.engine.plain with windows }) windows
  simp only [program, plain, SlotTable.write_same written, engine]

theorem lock_kept {layout : Tiled} {permanent programmed : Bool} {slot : Slot}
    (found : d.surfaces.find? handle = some ⟨.tiled layout, permanent⟩)
    (kept : layout.binding = .kept slot programmed)
    (written : d.slots.read? slot = some layout.descriptor.encode)
    (shown : regionAt d.engine.windows slot = some layout.window) (direction : Direction) :
    effect (d.lock handle direction) =
      effect (.ok (), (d.openWindow slot layout.window direction).rebind handle
        ⟨.tiled layout, permanent⟩ layout (.locked slot { direction })) := by
  unfold lock bindSlot
  simp only [found, kept]
  cases programmed with
  | true => rfl
  | false =>
    have opened := plain_congr (·.openWindow slot layout.window direction)
      (fun d => d.openWindow_plain slot layout.window direction) (program_same written shown)
    exact congrArg (Prod.mk _) (rebind_plain rfl opened)

theorem lock_distrust (framed : d.Framed) (handle : Handle) (direction : Direction) :
    effect ((d.distrust handle).lock handle direction) = effect (d.lock handle direction) := by
  cases found : d.surfaces.find? handle with
  | none =>
    have same : d.distrust handle = d := by rw [distrust, OrderedMap.modify, found]
    rw [same]
  | some surface =>
    rcases surface.distrusted_cases with same | ⟨layout, slot, tiled, kept, fresh⟩
    · rw [distrust_eq found, same, OrderedMap.insert_self found]
    · obtain ⟨setup, permanent⟩ := surface
      cases tiled
      have noted := congrArg Binding.programmed? kept
      have gate : owned d.surfaces Surface.gate? handle = some (slot, ⟨layout.window, _⟩) :=
        (owned_of_find? _ found).trans (Surface.gate?_eq_some.mpr ⟨layout, rfl, noted, rfl⟩)
      have image : owned d.surfaces Surface.image? handle =
          some (slot, layout.descriptor.encode) := by
        rw [owned_of_find? _ found, Surface.image?, Surface.tiled?, Option.bind_some, noted]
        rfl
      have written := framed.slots.written image
      have shown := framed.frames handle slot _ gate
      have again : (d.distrust handle).surfaces.find? handle =
          some ⟨.tiled { layout with binding := .kept slot false }, permanent⟩ := by
        rw [distrust_eq found, fresh]
        exact OrderedMap.find?_insert_self ..
      rw [lock_kept found kept written shown, lock_kept again rfl written shown]
      simp only [distrust_eq found, rebind, openWindow_eq, put, OrderedMap.insert_insert]

theorem stepAfresh_plain (d : Driver) (command : Command) :
    (d.plain.stepAfresh command).2.plain = (d.stepAfresh command).2.plain := by
  cases command with
  | lock handle direction =>
    exact (effect_eq.mp ((d.distrust handle).lock_plain handle direction)).2
  | platform | track | configure | attributes | unlock | setPermanent | untrack | interrupt
  | takeReports => exact d.step_plain _

theorem Framed.stepAfresh (framed : d.Framed) (command : Command) :
    (d.stepAfresh command).2.plain = (d.step command).2.plain := by
  cases command with
  | lock handle direction => exact (effect_eq.mp (lock_distrust framed handle direction)).2
  | platform | track | configure | attributes | unlock | setPermanent | untrack | interrupt
  | takeReports => rfl

/-- Two drivers that differ in their notes alone go on doing so, though one trusts its notes about
slots and the other does not. -/
theorem Framed.runAfresh (framed : d.Framed) (same : d'.plain = d.plain)
    {commands : List Command} (alone : Along EngineAlone d commands) :
    (d'.runAfresh commands).plain = (d.run commands).plain := by
  -- Both drivers step at once, and the invariant is that of the one which trusts its notes.
  induction commands generalizing d d' with
  | nil => exact same
  | cons command rest ih =>
    refine ih (framed.step alone.1) ?_ alone.2
    calc (d'.stepAfresh command).2.plain
        = (d.stepAfresh command).2.plain :=
          plain_congr (fun d => (d.stepAfresh command).2) (stepAfresh_plain · command) same
      _ = (d.step command).2.plain := framed.stepAfresh command

theorem Framed.lockAfresh (framed : d.Framed) {commands : List Command}
    (alone : Along EngineAlone d commands) {direction : Direction}
    (unlocked : ¬ Locked handle (d.run commands))
    (granted : ((d.run commands).lock handle direction).1 = .ok ()) :
    Programming handle ((d.runAfresh commands).distrust handle) (.lock handle direction) ∧
      ((d.runAfresh commands).stepAfresh (.lock handle direction)).2.plain =
        ((d.run commands).step (.lock handle direction)).2.plain := by
  have same := framed.runAfresh rfl alone
  have framed' : (d.run commands).Framed :=
    alone.keeps Framed framed fun _ _ alone framed => framed.step alone
  have distrusted : ((d.runAfresh commands).distrust handle).plain =
      ((d.run commands).distrust handle).plain :=
    plain_congr (·.distrust handle) (fun _ => rfl) same
  have told := (effect_eq.mp ((effect_congr (·.lock handle direction)
    (lock_plain · handle direction) distrusted).trans
      (lock_distrust framed' handle direction))).1
  constructor
  · refine (programming_iff (told.trans granted)).mpr (Unprogrammed.distrust ?_)
    rintro ⟨surface, found, locked⟩
    exact unlocked ⟨surface, surfaces_of_plain same ▸ found, locked⟩
  · calc ((d.runAfresh commands).stepAfresh (.lock handle direction)).2.plain
        = ((d.run commands).stepAfresh (.lock handle direction)).2.plain :=
          plain_congr (fun d => (d.stepAfresh _).2) (stepAfresh_plain · _) same
      _ = ((d.run commands).step (.lock handle direction)).2.plain := framed'.stepAfresh _

/-- In every run, a surface with a slot whose translation is permanent keeps this slot, and no other
surface gets it, until a request clears the flag, removes the surface, makes it linear or fails to
configure it. At a first lock the slot is programmed just if the surface had none or was configured
since it was programmed last, and otherwise the window is only opened. A driver that programs the
slot at every first lock has the same windows and the same table after each of them. -/
theorem permanent_slots {config : Config} {platform : Platform}
    (up : bringUp config platform = .ok d) (commands : List Command) (handle : Handle) :
    (∀ slot later, Keeps handle slot (d.run commands) →
      Along (Retains handle) (d.run commands) later →
      Throughout (fun d => Keeps handle slot d ∧
        ∀ other, owned d.surfaces Surface.slot? other = some slot → other = handle)
        (d.run commands) later) ∧
    (∀ direction, ¬ Locked handle (d.run commands) →
      ((d.run commands).lock handle direction).1 = .ok () →
      (Programming handle (d.run commands) (.lock handle direction) ↔
        owned (d.run commands).surfaces Surface.slot? handle = none ∨
          Reconfigured handle d commands) ∧
      (¬ Programming handle (d.run commands) (.lock handle direction) →
        ∃ slot, owned (d.run commands).surfaces Surface.slot? handle = some slot ∧
          (d.run commands).writes (.lock handle direction) = [.enableWindow slot, .flush] ∧
          ((d.run commands).lock handle direction).2.slots = (d.run commands).slots) ∧
      (Along EngineAlone d commands →
        Programming handle ((d.runAfresh commands).distrust handle) (.lock handle direction) ∧
        ((d.runAfresh commands).stepAfresh (.lock handle direction)).2.engine.windows =
          ((d.run commands).lock handle direction).2.engine.windows ∧
        ((d.runAfresh commands).stepAfresh (.lock handle direction)).2.slots =
          ((d.run commands).lock handle direction).2.slots)) := by
  have fresh : d.surfaces.find? handle = none := by
    obtain ⟨_, _, _, rfl, _⟩ := bringUp_eq_ok up
    rfl
  refine ⟨fun slot later keeps retains => ?_, fun direction unlocked granted => ⟨?_, ?_, ?_⟩⟩
  · exact keeps.throughout ((SlotsKept.start up).run commands) retains
  · exact (programming_iff granted).trans (unprogrammed_iff fresh commands)
  · exact lock_reopens unlocked granted
  · intro alone
    obtain ⟨programming, same⟩ := (Framed.start up).lockAfresh alone unlocked granted
    exact ⟨programming, windows_of_plain same, slots_of_plain same⟩

/-- A surface with a kept slot is configured anew. It keeps the slot, and the next lock programs
it, as every lock of the driver does that trusts no note. -/
theorem permanent_slots_keptRun :
    ∃ d, bringUp {} { engine := { version := ⟨1, 1⟩ } } = .ok d ∧
      Keeps 1 ⟨0, by decide⟩ (d.run (keptRun.dropLast ++ [.configure 1 smallAttributes])) ∧
      Programming 1 (d.run (keptRun.dropLast ++ [.configure 1 smallAttributes])) (.lock 1 .read) ∧
      ((d.runAfresh (keptRun.dropLast ++ [.configure 1 smallAttributes])).stepAfresh
          (.lock 1 .read)).2.slots =
        ((d.run (keptRun.dropLast ++ [.configure 1 smallAttributes])).lock 1 .read).2.slots := by
  have computed : (bringUp {} { engine := { version := ⟨1, 1⟩ } }).toOption.any (fun d =>
      ((d.run keptRun.dropLast).surfaces.find? 1).any (fun surface =>
        surface.permanent = true ∧ surface.slot? = some ⟨0, by decide⟩ ∧
          ((d.run keptRun.dropLast).configure 1 smallAttributes).1 = .ok () ∧
          ((d.run (keptRun.dropLast ++ [.configure 1 smallAttributes])).lock 1 .read).1 =
            .ok ())) = true := by
    decide +kernel
  obtain ⟨d, up, ran⟩ := exists_up computed
  obtain ⟨surface, found, ran⟩ := (Option.any_eq_true _ _).mp ran
  obtain ⟨permanent, held, granted, opened⟩ := of_decide_eq_true ran
  have tiled : ¬ smallAttributes.IsLinear := by
    have formats : smallAttributes.check.toOption.any (·.layout?.isSome) = true := by decide
    rintro ⟨format, checked, linear⟩
    simp [checked, linear, Except.toOption] at formats
  have reconfigured : Reconfigured 1 d (keptRun.dropLast ++ [.configure 1 smallAttributes]) :=
    ⟨keptRun.dropLast, smallAttributes, [], rfl, granted, trivial⟩
  have alone : Along EngineAlone d (keptRun.dropLast ++ [.configure 1 smallAttributes]) :=
    ⟨trivial, trivial, trivial, trivial, trivial, trivial, trivial, trivial⟩
  obtain ⟨keeps, _⟩ := permanent_slots up keptRun.dropLast 1
  obtain ⟨_, locks⟩ := permanent_slots up (keptRun.dropLast ++ [.configure 1 smallAttributes]) 1
  have kept := keeps ⟨0, by decide⟩ [.configure 1 smallAttributes]
    ⟨surface, found, permanent, held⟩ ⟨fun _ => .inr ⟨granted, tiled⟩, trivial⟩
  obtain ⟨programming, _, afresh⟩ :=
    locks .read reconfigured.unprogrammed.unlocked opened
  obtain ⟨_, _, slots⟩ := afresh alone
  refine ⟨d, up, ?_, programming.mpr (.inr reconfigured), slots⟩
  rw [run_append]
  exact kept.final.1

end Driver

end TiledSurface
