import TiledSurface.Proofs.Descriptor.Table
import TiledSurface.Proofs.Driver.Runs

/-!
Descriptor slots in a run. The slots that are held are those of the surfaces, one for each, the
block of a programmed slot is the descriptor of its surface, and free slots read as zero. Others
cannot reach the table, so this holds whatever they do.
-/

namespace TiledSurface

/-- A table that serves the owners of slots, each of which may rely on the block in its slot. -/
structure SlotTable.Kept {ι : Type} (t : SlotTable) (owns : ι → Option Slot)
    (images : ι → Option (Slot × Block)) : Prop where
  ledger : Ledger (fun slot : Slot => t.isHeld slot = true) owns
  bound : ∀ {owner slot block}, images owner = some (slot, block) → owns owner = some slot
  written : ∀ {owner slot block}, images owner = some (slot, block) → t.read? slot = some block
  clear : ∀ {slot : Slot}, t.isHeld slot = false → t.read? slot = some .zero

namespace SlotTable.Kept

variable {ι : Type} {t t' : SlotTable} {owns : ι → Option Slot}
  {images : ι → Option (Slot × Block)} {owner : ι} {slot : Slot} {block : Block}
  {came : Option Slot} {image : Option (Slot × Block)}

theorem fresh : SlotTable.fresh.Kept (fun _ : ι => none) (fun _ => none) where
  ledger := .empty fun slot => by simp [isHeld_fresh]
  bound := by simp
  written := by simp
  clear := fun _ => read?_fresh _

variable [DecidableEq ι]

/-- One owner deals with the table, and only the slots that it had or gets are written. -/
theorem exchange (kept : t.Kept owns images)
    (dealing : Exchange (fun slot : Slot => t.isHeld slot = true)
      (fun slot : Slot => t'.isHeld slot = true) (owns owner) came)
    (bound : ∀ slot block, image = some (slot, block) → came = some slot)
    (written : ∀ slot block, image = some (slot, block) → t'.read? slot = some block)
    (cleared : ∀ slot : Slot, owns owner = some slot → came ≠ some slot →
      t'.read? slot = some .zero)
    (elsewhere : ∀ slot : Slot, owns owner ≠ some slot → came ≠ some slot →
      t'.read? slot = t.read? slot) :
    t'.Kept (Function.update owns owner came) (Function.update images owner image) where
  ledger := kept.ledger.exchange dealing
  bound := by
    intro other slot block shown
    by_cases same : other = owner
    · subst same
      rw [Function.update_self] at shown ⊢
      exact bound slot block shown
    · rw [Function.update_of_ne same] at shown ⊢
      exact kept.bound shown
  written := by
    intro other slot block shown
    by_cases same : other = owner
    · subst same
      rw [Function.update_self] at shown
      exact written slot block shown
    · rw [Function.update_of_ne same] at shown
      have theirs := kept.bound shown
      have notOurs : owns owner ≠ some slot := fun ours => same (kept.ledger.alone theirs ours)
      have notCame : came ≠ some slot := fun arrives =>
        notOurs (dealing.fresh slot arrives (kept.ledger.held theirs))
      rw [elsewhere slot notOurs notCame]
      exact kept.written shown
  clear := by
    intro slot free
    have untaken : ¬ t'.isHeld slot = true := by simp [free]
    rw [dealing.taken_iff] at untaken
    have notCame : came ≠ some slot := fun arrives => untaken (.inr arrives)
    by_cases ours : owns owner = some slot
    · exact cleared slot ours notCame
    · rw [elsewhere slot ours notCame]
      apply kept.clear
      rw [← Bool.not_eq_true]
      exact fun taken => untaken (.inl ⟨taken, ours⟩)

theorem rest (kept : t.Kept owns images) (same : came = owns owner)
    (still : ∀ pair, image = some pair → images owner = some pair) :
    t.Kept (Function.update owns owner came) (Function.update images owner image) := by
  subst same
  apply kept.exchange (.rest fun _ mine => kept.ledger.held mine)
  · exact fun slot block shown => kept.bound (still _ shown)
  · exact fun slot block shown => kept.written (still _ shown)
  · exact fun slot mine lost => absurd mine lost
  · exact fun _ _ _ => rfl

theorem write (kept : t.Kept owns images) (mine : owns owner = some slot) (block : Block) :
    (t.write slot block).Kept (Function.update owns owner (some slot))
      (Function.update images owner (some (slot, block))) := by
  apply kept.exchange
  · rw [← mine]
    exact .rest fun _ ours => kept.ledger.held ours
  · intro slot' block' shown
    cases shown
    rfl
  · intro slot' block' shown
    cases shown
    simp [read?_write]
  · exact fun slot' mine' lost => absurd (mine.symm.trans mine') lost
  · intro slot' _ different
    rw [read?_write, if_neg]
    exact fun same => different (congrArg some (Fin.ext same.symm))

theorem claim (kept : t.Kept owns images) (unbound : owns owner = none)
    (granted : t.claim = (.ok slot, t')) (block : Block) :
    (t'.write slot block).Kept (Function.update owns owner (some slot))
      (Function.update images owner (some (slot, block))) := by
  rcases t.claim_cases with ⟨refused, _⟩ | ⟨slot', t'', given, free, _, held, blocks⟩
  · cases refused.symm.trans granted
  · cases given.symm.trans granted
    apply kept.exchange
    · rw [unbound]
      exact exchange_claim free held
    · intro slot' block' shown
      cases shown
      rfl
    · intro slot' block' shown
      cases shown
      simp [read?_write]
    · simp [unbound]
    · intro slot' _ different
      rw [read?_write, blocks, if_neg]
      exact fun same => different (congrArg some (Fin.ext same.symm))

theorem release (kept : t.Kept owns images) (mine : owns owner = some slot) :
    (t.release slot).Kept (Function.update owns owner none)
      (Function.update images owner none) := by
  apply kept.exchange (mine ▸ exchange_release t slot) (by simp) (by simp)
  · intro slot' mine' _
    cases mine.symm.trans mine'
    simp [read?_release]
  · intro slot' different _
    rw [read?_release, if_neg]
    exact fun same => different (mine.trans (congrArg some (Fin.ext same.symm)))

theorem giveBack (kept : t.Kept owns images) (owner : ι) :
    (t.giveBack (owns owner)).Kept (Function.update owns owner none)
      (Function.update images owner none) := by
  cases mine : owns owner with
  | none => exact kept.rest mine.symm (by simp)
  | some slot => exact kept.release mine

end SlotTable.Kept

namespace Driver

variable {d d' : Driver}

def SlotsKept (d : Driver) : Prop :=
  d.slots.Kept (owned d.surfaces Surface.slot?) (owned d.surfaces Surface.image?)

theorem SlotsKept.start {config : Config} {platform : Platform}
    (up : bringUp config platform = .ok d) : d.SlotsKept := by
  obtain ⟨engine, pool, faults, rfl, _⟩ := bringUp_eq_ok up
  exact .fresh

theorem SlotsKept.rebind {handle : Handle} {layout : Tiled} {permanent permanent' : Bool}
    {binding : Binding} {slots : SlotTable} {windows : OrderedMap EngineWindow}
    (kept : d.SlotsKept) (found : d.surfaces.find? handle = some ⟨.tiled layout, permanent⟩)
    (rebinding : Rebinding d.slots d.engine layout permanent' binding slots windows) :
    slots.Kept
      (Function.update (owned d.surfaces Surface.slot?) handle binding.slot?)
      (Function.update (owned d.surfaces Surface.image?) handle
        (binding.programmed?.map fun slot => (slot, layout.descriptor.encode))) := by
  have slot : owned d.surfaces Surface.slot? handle = layout.binding.slot? :=
    owned_of_find? _ found
  have image : owned d.surfaces Surface.image? handle =
      layout.binding.programmed?.map fun slot => (slot, layout.descriptor.encode) :=
    owned_of_find? _ found
  cases rebinding with
  | counted locked =>
    rw [locked] at slot image
    exact kept.rest slot.symm fun pair shown => image.trans shown
  | reopened bound =>
    rw [bound] at slot image
    exact kept.rest slot.symm fun pair shown => image.trans shown
  | reprogrammed bound =>
    rw [bound] at slot
    exact kept.write slot layout.descriptor.encode
  | claimed unbound granted =>
    rw [unbound] at slot
    exact kept.claim slot granted layout.descriptor.encode
  | suspended locked =>
    rw [locked] at slot image
    exact kept.rest slot.symm fun pair shown => image.trans shown
  | closed locked =>
    rw [locked] at slot
    exact kept.release slot
  | dropped bound =>
    rw [bound] at slot
    exact kept.release slot

theorem SlotsKept.move (kept : d.SlotsKept) (move : d.Move d') : d'.SlotsKept := by
  unfold SlotsKept
  cases move with
  | idle => exact kept
  | tracked missing =>
    dsimp only
    rw [owned_insert_bare {} missing rfl, owned_insert_bare {} missing rfl]
    exact kept
  | @flagged handle surface on found =>
    dsimp only
    rw [owned_insert_same ⟨surface.setup, on⟩ found rfl,
      owned_insert_same ⟨surface.setup, on⟩ found rfl]
    exact kept
  | rebound found rebinding =>
    have rebound := kept.rebind found rebinding
    rw [owned_insert, owned_insert]
    exact rebound
  | @settled handle surface a attempt pool buffers stats found unlocked attempted =>
    have same : attempt.held.slot = owned d.surfaces Surface.slot? handle :=
      attempted.slot.trans (owned_of_find? Surface.slot? found).symm
    rw [owned_insert, owned_insert]
    cases attempt with
    | refused _ rest | linear rest =>
      have given := kept.giveBack handle
      rw [← same] at given
      exact given
    | tiled layout =>
      apply kept.rest same
      intro pair shown
      simp [Attempt.setup, Surface.image?, Surface.tiled?, attempted.programmed?] at shown
  | @removed handle surface engine cache hotplug online stats found =>
    have given := kept.giveBack handle
    rw [owned_of_find? Surface.slot? found] at given
    rw [owned_erase, owned_erase]
    exact given

theorem SlotsKept.step (kept : d.SlotsKept) (command : Command) :
    (d.step command).2.SlotsKept := by
  rcases d.step_cases command with move | ⟨other, rfl⟩
  · exact kept.move move
  · exact kept

theorem SlotsKept.run (kept : d.SlotsKept) (commands : List Command) :
    (d.run commands).SlotsKept :=
  run_keeps SlotsKept kept (fun _ command kept => kept.step command) commands

end Driver

end TiledSurface
