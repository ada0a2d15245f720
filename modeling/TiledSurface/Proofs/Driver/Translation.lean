import TiledSurface.Proofs.Driver.Mirror
import TiledSurface.Proofs.Driver.Reservations

namespace TiledSurface.Driver

variable {d : Driver} {address : Nat} {handle handle' : Handle} {slot slot' : Slot}

def LockedOver (d : Driver) (address : Nat) (handle : Handle) (slot : Slot) : Prop :=
  ∃ surface window, d.surfaces.find? handle = some surface ∧ surface.session? ≠ none ∧
    surface.slot? = some slot ∧ surface.window? = some window ∧ window.Contains address

theorem PoolKept.alone (kept : d.PoolKept) {window window' : Region}
    (mine : owned d.surfaces Surface.window? handle = some window)
    (theirs : owned d.surfaces Surface.window? handle' = some window')
    (inside : window.Contains address) (inside' : window'.Contains address) :
    handle = handle' := by
  by_cases same : window = window'
  · subst same
    exact kept.ledger.alone mine theirs
  · have live := kept.ledger.held mine
    have live' := kept.ledger.held theirs
    exact absurd inside' (kept.sound.disjoint window window' live live' same address inside)

theorem PoolKept.contains (kept : d.PoolKept) {window : Region}
    (mine : owned d.surfaces Surface.window? handle = some window)
    (inside : window.Contains address) : d.config.pool.Contains address :=
  kept.sound.contains (kept.ledger.held mine) inside

theorem PoolKept.locked_contains (kept : d.PoolKept)
    (locked : d.LockedOver address handle slot) : d.config.pool.Contains address := by
  obtain ⟨surface, window, found, _, _, mine, inside⟩ := locked
  exact kept.contains (owned_eq_some.mpr ⟨surface, found, mine⟩) inside

theorem PoolKept.locked_alone (kept : d.PoolKept) (locked : d.LockedOver address handle slot)
    (locked' : d.LockedOver address handle' slot') : handle = handle' ∧ slot = slot' := by
  obtain ⟨surface, window, found, _, bound, mine, inside⟩ := locked
  obtain ⟨surface', window', found', _, bound', theirs, inside'⟩ := locked'
  have same := kept.alone (owned_eq_some.mpr ⟨surface, found, mine⟩)
    (owned_eq_some.mpr ⟨surface', found', theirs⟩) inside inside'
  subst same
  cases found.symm.trans found'
  cases bound.symm.trans bound'
  exact ⟨rfl, rfl⟩

/-- The engine translates an address through the surface that is locked over it. -/
theorem Mirrored.translate?_eq_some (mirrored : d.Mirrored) (kept : d.PoolKept) {index : Nat} :
    d.engine.translate? address = some index ↔
      ∃ handle slot, d.LockedOver address handle slot ∧ slot.val = index := by
  constructor
  · intro translated
    obtain ⟨region, enabled, inside⟩ := Engine.translate?_eq_some translated
    obtain ⟨handle, surface, slot, found, locked, bound, at_index, window⟩ :=
      mirrored.mem_enabledWindows.mp enabled
    exact ⟨handle, slot, ⟨surface, region, found, locked, bound, window, inside⟩, at_index⟩
  · intro given
    obtain ⟨handle, slot, locked, rfl⟩ := given
    have covering := locked
    obtain ⟨surface, window, found, session, bound, mine, inside⟩ := covering
    have enabled := mirrored.mem_enabledWindows.mpr
      ⟨handle, surface, slot, found, session, bound, rfl, mine⟩
    cases translated : d.engine.translate? address with
    | none => exact absurd inside (Engine.translate?_eq_none translated enabled)
    | some index =>
      obtain ⟨region, enabled', inside'⟩ := Engine.translate?_eq_some translated
      obtain ⟨handle', surface', slot', found', session', bound', at_index, theirs⟩ :=
        mirrored.mem_enabledWindows.mp enabled'
      have locked' : d.LockedOver address handle' slot' :=
        ⟨surface', region, found', session', bound', theirs, inside'⟩
      obtain ⟨_, same⟩ := kept.locked_alone locked locked'
      rw [same, at_index]

section

variable {write : Bool}

theorem access_translated (mirrored : d.Mirrored) (kept : d.PoolKept)
    (aperture : d.engine.aperture = some d.config.pool) {index : Nat} :
    (d.engine.access address write).1 = .translated index ↔
      ∃ handle slot, d.LockedOver address handle slot ∧ slot.val = index := by
  rw [← mirrored.translate?_eq_some kept, Engine.access_eq aperture]
  by_cases inside : d.config.pool.Contains address
  · rw [if_pos inside]
    cases d.engine.translate? address <;> simp
  · rw [if_neg inside]
    simp only [reduceCtorEq, false_iff]
    intro translated
    obtain ⟨handle, slot, locked, _⟩ := (mirrored.translate?_eq_some kept).mp translated
    exact inside (kept.locked_contains locked)

theorem access_passthrough (aperture : d.engine.aperture = some d.config.pool) :
    (d.engine.access address write).1 = .passthrough ↔ ¬ d.config.pool.Contains address := by
  rw [Engine.access_eq aperture]
  by_cases inside : d.config.pool.Contains address
  · rw [if_pos inside]
    cases d.engine.translate? address <;> simp [inside]
  · simp [inside]

theorem access_fault (mirrored : d.Mirrored) (kept : d.PoolKept)
    (aperture : d.engine.aperture = some d.config.pool) {kind : FaultKind} :
    (d.engine.access address write).1 = .fault kind ↔
      d.config.pool.Contains address ∧ (∀ handle slot, ¬ d.LockedOver address handle slot) ∧
        kind = if write then .write else .read := by
  have untranslated : d.engine.translate? address = none ↔
      ∀ handle slot, ¬ d.LockedOver address handle slot := by
    rw [Option.eq_none_iff_forall_ne_some]
    constructor
    · intro never handle slot locked
      exact never slot ((mirrored.translate?_eq_some kept).mpr ⟨handle, slot, locked, rfl⟩)
    · intro nobody index translated
      obtain ⟨handle, slot, locked, _⟩ := (mirrored.translate?_eq_some kept).mp translated
      exact nobody handle slot locked
  rw [← untranslated, Engine.access_eq aperture]
  by_cases inside : d.config.pool.Contains address
  · rw [if_pos inside]
    cases d.engine.translate? address with
    | none => simp [inside, eq_comm]
    | some index => simp
  · simp [inside]

end

/-- While only the driver writes the engine's registers and the aperture is the pool, an access
is translated through the one surface that is locked over its address, passes through outside
the pool, and faults otherwise. In the window of a surface that is not locked it is never
translated. -/
theorem access_answers {config : Config} {platform : Platform}
    (up : bringUp config platform = .ok d) (clean : platform.engine.windows = .empty)
    {commands : List Command} (alone : Along EngineAlone d commands)
    (aperture : (d.run commands).engine.aperture = some config.pool) (address : Nat)
    (write : Bool) :
    (∀ index, ((d.run commands).engine.access address write).1 = .translated index ↔
      ∃ handle slot, (d.run commands).LockedOver address handle slot ∧ slot.val = index) ∧
    (∀ handle handle' slot slot', (d.run commands).LockedOver address handle slot →
      (d.run commands).LockedOver address handle' slot' → handle = handle' ∧ slot = slot') ∧
    (((d.run commands).engine.access address write).1 = .passthrough ↔
      ¬ config.pool.Contains address) ∧
    (∀ kind, ((d.run commands).engine.access address write).1 = .fault kind ↔
      config.pool.Contains address ∧
        (∀ handle slot, ¬ (d.run commands).LockedOver address handle slot) ∧
        kind = if write then .write else .read) ∧
    (∀ handle surface window index, (d.run commands).surfaces.find? handle = some surface →
      surface.session? = none → surface.window? = some window → window.Contains address →
      ((d.run commands).engine.access address write).1 ≠ .translated index) := by
  have mirrored : (d.run commands).Mirrored := (Mirrored.start up clean).run alone
  have kept : (d.run commands).PoolKept := (PoolKept.start up).run commands
  rw [← config_bringUp up commands] at aperture ⊢
  refine ⟨?_, ?_, access_passthrough aperture, ?_, ?_⟩
  · intro index
    exact access_translated mirrored kept aperture
  · intro handle handle' slot slot' locked locked'
    exact kept.locked_alone locked locked'
  · intro kind
    exact access_fault mirrored kept aperture
  · intro handle surface window index found unlocked mine inside translated
    obtain ⟨handle', slot, locked, _⟩ := (access_translated mirrored kept aperture).mp translated
    obtain ⟨surface', window', found', session, _, theirs, inside'⟩ := locked
    have same := kept.alone (owned_eq_some.mpr ⟨surface, found, mine⟩)
      (owned_eq_some.mpr ⟨surface', found', theirs⟩) inside inside'
    subst same
    cases found.symm.trans found'
    exact session unlocked

/-- After the short run the first address of the pool is translated through the first slot. -/
theorem access_answers_shortRun :
    ∃ d, bringUp {} { engine := { version := ⟨1, 1⟩ } } = .ok d ∧
      ((d.run shortRun).engine.access 0x100000000 true).1 = .translated 0 := by
  obtain ⟨d, surface, up, found, locked, slot, window, aperture⟩ := exists_shortRun
  have alone : Along EngineAlone d shortRun := ⟨rfl, trivial, trivial, trivial, trivial, trivial⟩
  have answers := access_answers up rfl alone aperture 0x100000000 true
  have covering : (d.run shortRun).LockedOver 0x100000000 1 ⟨0, by decide⟩ :=
    ⟨surface, _, found, locked, slot, window, Region.contains_base (by decide)⟩
  exact ⟨d, up, (answers.1 0).mpr ⟨1, _, covering, rfl⟩⟩

end TiledSurface.Driver
