import TiledSurface.Proofs.Driver.Slots

namespace TiledSurface

structure Gated {ι : Type} (windows : OrderedMap EngineWindow)
    (gates : ι → Option (Slot × EngineWindow)) : Prop where
  shown : ∀ {owner slot window}, gates owner = some (slot, window) →
    windows.find? slot = some window
  shut : ∀ {index region}, windows.find? index = some ⟨region, true⟩ →
    ∃ owner slot, gates owner = some (slot, ⟨region, true⟩) ∧ slot.val = index

namespace Gated

variable {ι : Type} [DecidableEq ι] {windows windows' : OrderedMap EngineWindow}
  {gates : ι → Option (Slot × EngineWindow)} {owner : ι} {slot : Slot} {window : EngineWindow}

theorem set (gated : Gated windows gates)
    (written : ∀ index, windows'.find? index =
      if index = slot.val then some window else windows.find? index)
    (alone : ∀ other window', gates other = some (slot, window') → other = owner)
    (mine : ∀ slot' window', gates owner = some (slot', window') → slot' = slot) :
    Gated windows' (Function.update gates owner (some (slot, window))) where
  shown := by
    intro other slot' window' shows
    rw [written]
    by_cases same : other = owner
    · subst same
      rw [Function.update_self] at shows
      cases shows
      exact if_pos rfl
    · rw [Function.update_of_ne same] at shows
      have different : slot'.val ≠ slot.val := fun eq =>
        same (alone other window' (Fin.ext eq ▸ shows))
      rw [if_neg different]
      exact gated.shown shows
  shut := by
    intro index region enabled
    rw [written] at enabled
    by_cases here : index = slot.val
    · rw [if_pos here] at enabled
      cases enabled
      exact ⟨owner, slot, Function.update_self .., here.symm⟩
    · rw [if_neg here] at enabled
      obtain ⟨other, slot', shows, at_index⟩ := gated.shut enabled
      have different : other ≠ owner := by
        intro same
        have eq := mine slot' _ (same ▸ shows)
        exact here (by rw [← at_index, eq])
      exact ⟨other, slot', by rw [Function.update_of_ne different, shows], at_index⟩

theorem drop (gated : Gated windows gates)
    (closed : ∀ slot region, gates owner ≠ some (slot, ⟨region, true⟩)) :
    Gated windows (Function.update gates owner none) where
  shown := by
    intro other slot window shows
    by_cases same : other = owner
    · subst same
      rw [Function.update_self] at shows
      cases shows
    · rw [Function.update_of_ne same] at shows
      exact gated.shown shows
  shut := by
    intro index region enabled
    obtain ⟨other, slot, shows, at_index⟩ := gated.shut enabled
    have different : other ≠ owner := fun same => closed slot region (same ▸ shows)
    exact ⟨other, slot, by rw [Function.update_of_ne different, shows], at_index⟩

theorem close (gated : Gated windows gates) {region : Region}
    (written : ∀ index, windows'.find? index =
      if index = slot.val then some ⟨region, false⟩ else windows.find? index)
    (alone : ∀ other window', gates other = some (slot, window') → other = owner)
    (mine : ∀ slot' window', gates owner = some (slot', window') → slot' = slot) :
    Gated windows' (Function.update gates owner none) := by
  have disabled := gated.set written alone mine
  have closed : ∀ slot' region',
      Function.update gates owner (some (slot, ⟨region, false⟩)) owner ≠
        some (slot', ⟨region', true⟩) := by
    intro slot' region'
    simp
  have dropped := disabled.drop closed
  rwa [Function.update_idem] at dropped

end Gated

namespace Driver

variable {d d' : Driver}

theorem SlotsKept.gate_alone (kept : d.SlotsKept) {handle other : Handle} {slot : Slot}
    {window : EngineWindow} (shows : owned d.surfaces Surface.gate? other = some (slot, window))
    (mine : owned d.surfaces Surface.slot? handle = some slot) : other = handle :=
  kept.ledger.alone (owned_slot?_of_gate? shows) mine

theorem SlotsKept.gate_claimed (kept : d.SlotsKept) {other : Handle} {slot : Slot}
    {slots : SlotTable} (granted : d.slots.claim = (.ok slot, slots)) (window : EngineWindow) :
    owned d.surfaces Surface.gate? other ≠ some (slot, window) := by
  intro shows
  have held := kept.ledger.held (owned_slot?_of_gate? shows)
  rw [SlotTable.isHeld_of_claim granted] at held
  cases held

/-- The windows of some engine serve the surfaces, and the surface of one handle binds anew. -/
theorem SlotsKept.regate (kept : d.SlotsKept) {engine : Engine} {handle : Handle} {layout : Tiled}
    {permanent permanent' : Bool} {binding : Binding} {slots : SlotTable}
    {windows : OrderedMap EngineWindow}
    (gated : Gated engine.windows (owned d.surfaces Surface.gate?))
    (found : d.surfaces.find? handle = some ⟨.tiled layout, permanent⟩)
    (rebinding : Rebinding d.slots engine layout permanent' binding slots windows) :
    Gated windows (Function.update (owned d.surfaces Surface.gate?) handle
      (binding.programmed?.map fun slot => (slot, ⟨layout.window, binding.session?.isSome⟩))) := by
  have slot : owned d.surfaces Surface.slot? handle = layout.binding.slot? :=
    owned_of_find? _ found
  have gate : owned d.surfaces Surface.gate? handle = layout.binding.programmed?.map
      fun slot => (slot, ⟨layout.window, layout.binding.session?.isSome⟩) :=
    owned_of_find? _ found
  -- The slot is this surface's alone, so a write to its window disturbs nobody else.
  have alone : ∀ {slot}, layout.binding.slot? = some slot → ∀ other window,
      owned d.surfaces Surface.gate? other = some (slot, window) → other = handle :=
    fun bound other window shows => kept.gate_alone shows (slot.trans bound)
  have ours : ∀ {slot' window}, owned d.surfaces Surface.gate? handle = some (slot', window) →
      layout.binding.slot? = some slot' :=
    fun shows => slot.symm.trans (owned_slot?_of_gate? shows)
  have mine : ∀ {slot}, layout.binding.slot? = some slot → ∀ slot' window,
      owned d.surfaces Surface.gate? handle = some (slot', window) → slot' = slot :=
    fun bound slot' window shows => Option.some.inj ((ours shows).symm.trans bound)
  cases rebinding with
  | counted locked =>
    rw [locked] at gate
    have same := gated
    rw [← Function.update_eq_self handle (owned d.surfaces Surface.gate?), gate] at same
    exact same
  | reopened bound =>
    rw [bound] at gate alone mine
    exact gated.set (Engine.find?_enableWindow (gated.shown gate)) (alone rfl) (mine rfl)
  | reprogrammed bound =>
    rw [bound] at gate alone mine
    exact gated.set (Engine.find?_openWindow engine _ layout.window) (alone rfl) (mine rfl)
  | claimed unbound granted =>
    rw [unbound] at ours
    refine gated.set (Engine.find?_openWindow engine _ layout.window) ?_ ?_
    · exact fun other window shows => absurd shows (kept.gate_claimed granted window)
    · intro slot' window shows
      cases ours shows
  | suspended locked =>
    rw [locked] at gate alone mine
    exact gated.set (Engine.find?_disableWindow (gated.shown gate)) (alone rfl) (mine rfl)
  | closed locked =>
    rw [locked] at gate alone mine
    exact gated.close (Engine.find?_disableWindow (gated.shown gate)) (alone rfl) (mine rfl)
  | dropped bound =>
    rw [bound] at gate
    apply gated.drop
    intro slot' region shows
    rw [gate] at shows
    obtain ⟨_, _, same⟩ := Option.map_eq_some_iff.mp shows
    cases same

section Gates

variable {surfaces : OrderedMap Surface} {windows : OrderedMap EngineWindow} {handle : Handle}
  {surface : Surface}

theorem gated_vacate (gated : Gated windows (owned surfaces Surface.gate?))
    (found : surfaces.find? handle = some surface) (unlocked : surface.session? = none) :
    Gated windows (Function.update (owned surfaces Surface.gate?) handle none) := by
  apply gated.drop
  intro slot region shows
  rw [owned_of_find? _ found] at shows
  exact (Surface.gate?_open.mp shows).1 unlocked

theorem Attempted.gate?_eq_none {held : Holdings} {a : Attributes} {attempt : Attempt}
    {pool : WindowPool} {buffers : Buffers}
    (attempted : d.Attempted handle held a attempt pool buffers) (permanent : Bool) :
    (Surface.mk (attempt.setup a) permanent).gate? = none := by
  cases attempt with
  | refused | linear => rfl
  | tiled layout => simp [Attempt.setup, Surface.gate?, Surface.tiled?, attempted.programmed?]

end Gates

/-- The engine has the windows of the surfaces and the table their descriptors. -/
structure Mirrored (d : Driver) : Prop where
  slots : d.SlotsKept
  gated : Gated d.engine.windows (owned d.surfaces Surface.gate?)

namespace Mirrored

theorem forceUnlock (mirrored : d.Mirrored) {handle : Handle} {surface : Surface}
    (found : d.surfaces.find? handle = some surface)
    (through : (d.forceUnlock surface).1 = .ok ()) :
    Gated (d.forceUnlock surface).2.engine.windows
      (Function.update (owned d.surfaces Surface.gate?) handle none) := by
  have ends := d.forceUnlock_ends surface
  rw [through] at ends
  generalize (d.forceUnlock surface).2 = forced at ends ⊢
  cases ends with
  | idle session => exact gated_vacate mirrored.gated found session
  | @closed layout _ _ _ tiled locked =>
    obtain ⟨setup, permanent⟩ := surface
    cases tiled
    have rebinding : Rebinding d.slots d.engine layout permanent .unbound _ _ := .closed locked
    exact mirrored.slots.regate mirrored.gated found rebinding

theorem move (mirrored : d.Mirrored) (move : d.Move d') : d'.Mirrored := by
  refine ⟨mirrored.slots.move move, ?_⟩
  cases move with
  | idle windows =>
    dsimp only
    rw [windows]
    exact mirrored.gated
  | tracked missing =>
    dsimp only
    rw [owned_insert_bare {} missing rfl]
    exact mirrored.gated
  | @flagged handle surface on found =>
    dsimp only
    rw [owned_insert_same ⟨surface.setup, on⟩ found rfl]
    exact mirrored.gated
  | rebound found rebinding =>
    have rebound := mirrored.slots.regate mirrored.gated found rebinding
    rw [owned_insert]
    exact rebound
  | @settled handle surface a attempt pool buffers stats found unlocked attempted =>
    rw [owned_insert, attempted.gate?_eq_none]
    exact gated_vacate mirrored.gated found unlocked
  | removed found through windows =>
    dsimp only
    rw [owned_erase, windows]
    exact mirrored.forceUnlock found through

theorem start {config : Config} {platform : Platform} (up : bringUp config platform = .ok d)
    (clean : platform.engine.windows = .empty) : d.Mirrored := by
  refine ⟨.start up, ?_⟩
  obtain ⟨engine, pool, faults, rfl, _, windows, _⟩ := bringUp_eq_ok up
  dsimp only
  rw [windows, clean, owned_empty]
  exact ⟨by simp, by simp⟩

theorem step (mirrored : d.Mirrored) {command : Command} (alone : EngineAlone d command) :
    (d.step command).2.Mirrored := by
  rcases d.step_cases command with move | ⟨other, rfl⟩
  · exact mirrored.move move
  · refine ⟨mirrored.slots.step _, ?_⟩
    rw [alone.windows]
    exact mirrored.gated

theorem run (mirrored : d.Mirrored) {commands : List Command}
    (alone : Along EngineAlone d commands) : (d.run commands).Mirrored :=
  alone.keeps Mirrored mirrored fun _ _ alone mirrored => mirrored.step alone

theorem mem_enabledWindows (mirrored : d.Mirrored) {index : Nat} {region : Region} :
    (index, region) ∈ d.engine.enabledWindows ↔
      ∃ handle surface slot, d.surfaces.find? handle = some surface ∧ surface.session? ≠ none ∧
        surface.slot? = some slot ∧ slot.val = index ∧ surface.window? = some region := by
  rw [Engine.mem_enabledWindows]
  constructor
  · intro enabled
    obtain ⟨handle, slot, shows, at_index⟩ := mirrored.gated.shut enabled
    obtain ⟨surface, found, gate⟩ := owned_eq_some.mp shows
    obtain ⟨locked, bound, window⟩ := Surface.gate?_open.mp gate
    exact ⟨handle, surface, slot, found, locked, bound, at_index, window⟩
  · intro given
    obtain ⟨handle, surface, slot, found, locked, bound, rfl, window⟩ := given
    have gate := Surface.gate?_open.mpr ⟨locked, bound, window⟩
    exact mirrored.gated.shown (owned_eq_some.mpr ⟨surface, found, gate⟩)

/-- A programmed slot has the present window and the present descriptor of its surface. -/
theorem programmed (mirrored : d.Mirrored) {handle : Handle} {surface : Surface} {slot : Slot}
    (found : d.surfaces.find? handle = some surface) (ready : surface.programmed? = some slot) :
    ∃ window descriptor, surface.window? = some window ∧ surface.descriptor? = some descriptor ∧
      d.engine.windows.find? slot = some ⟨window, surface.session?.isSome⟩ ∧
      d.slots.read? slot = some descriptor.encode := by
  obtain ⟨layout, tiled, ready⟩ := Option.bind_eq_some_iff.mp ready
  have gate : surface.gate? = some (slot, ⟨layout.window, surface.session?.isSome⟩) := by
    simp [Surface.gate?, Surface.session?, tiled, ready]
  have image : surface.image? = some (slot, layout.descriptor.encode) := by
    simp [Surface.image?, tiled, ready]
  refine ⟨layout.window, layout.descriptor, ?_, ?_, ?_, ?_⟩
  · simp [Surface.window?, tiled]
  · simp [Surface.descriptor?, tiled]
  · exact mirrored.gated.shown (owned_eq_some.mpr ⟨surface, found, gate⟩)
  · exact mirrored.slots.written (owned_eq_some.mpr ⟨surface, found, image⟩)

end Mirrored

theorem SlotsKept.unowned (kept : d.SlotsKept) {slot : Slot}
    (nobody : ∀ handle surface, d.surfaces.find? handle = some surface →
      surface.slot? ≠ some slot) : d.slots.read? slot = some .zero := by
  apply kept.clear
  rw [← Bool.not_eq_true]
  intro held
  obtain ⟨handle, mine⟩ := (kept.ledger.taken_iff slot).mp held
  obtain ⟨surface, found, bound⟩ := owned_eq_some.mp mine
  exact nobody handle surface found bound

/-- Along every run in which nobody else writes the engine's registers, the engine has enabled
exactly the windows of the locked surfaces, every programmed slot has the window and the
descriptor of its surface, and slots that no surface has read as zero. -/
theorem engine_mirrors_surfaces {config : Config} {platform : Platform}
    (up : bringUp config platform = .ok d) (clean : platform.engine.windows = .empty)
    {commands : List Command} (alone : Along EngineAlone d commands) :
    (∀ index region, (index, region) ∈ (d.run commands).engine.enabledWindows ↔
      ∃ handle surface slot, (d.run commands).surfaces.find? handle = some surface ∧
        surface.session? ≠ none ∧ surface.slot? = some slot ∧ slot.val = index ∧
        surface.window? = some region) ∧
    (∀ handle surface slot, (d.run commands).surfaces.find? handle = some surface →
      surface.programmed? = some slot →
      ∃ window descriptor, surface.window? = some window ∧
        surface.descriptor? = some descriptor ∧
        (d.run commands).engine.windows.find? slot =
          some ⟨window, surface.session?.isSome⟩ ∧
        (d.run commands).slots.read? slot = some descriptor.encode) ∧
    (∀ slot : Slot,
      (∀ handle surface, (d.run commands).surfaces.find? handle = some surface →
        surface.slot? ≠ some slot) →
      (d.run commands).slots.read? slot = some .zero) := by
  have mirrored : (d.run commands).Mirrored := (Mirrored.start up clean).run alone
  refine ⟨?_, ?_, ?_⟩
  · intro index region
    exact mirrored.mem_enabledWindows
  · intro handle surface slot found ready
    exact mirrored.programmed found ready
  · intro slot nobody
    exact mirrored.slots.unowned nobody

/-- After the short run the engine lets the processor use the first page of the pool. -/
theorem engine_mirrors_surfaces_shortRun :
    ∃ d, bringUp {} { engine := { version := ⟨1, 1⟩ } } = .ok d ∧
      (0, ⟨0x100000000, pageSize⟩) ∈ (d.run shortRun).engine.enabledWindows := by
  obtain ⟨d, surface, up, found, locked, slot, window, _⟩ := exists_shortRun
  have alone : Along EngineAlone d shortRun := ⟨rfl, trivial, trivial, trivial, trivial, trivial⟩
  have mirrors := engine_mirrors_surfaces up rfl alone
  exact ⟨d, up, (mirrors.1 0 _).mpr ⟨1, surface, _, found, locked, slot, rfl, window⟩⟩

end Driver

end TiledSurface
