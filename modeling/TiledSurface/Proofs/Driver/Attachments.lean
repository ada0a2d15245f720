import TiledSurface.Proofs.Driver.Runs
import TiledSurface.Proofs.Platform.Buffers

namespace TiledSurface

namespace Buffers

variable {b b' : Buffers} {handle : Handle} {held : Holdings}

theorem attached?_ensureAttached {old : Option DeviceMapping} {mapping : DeviceMapping}
    (mine : b.attached? handle = old) (attached : b.ensureAttached handle old = (.ok mapping, b')) :
    b'.attached? = Function.update b.attached? handle (some mapping) := by
  cases old with
  | none => exact attached?_attach_ok attached
  | some mapping' =>
    cases attached
    rw [← mine, Function.update_eq_self]

theorem attached?_ensureAttached_error {old : Option DeviceMapping} {cause : PlatformError}
    (refused : b.ensureAttached handle old = (.error cause, b')) : b'.attached? = b.attached? := by
  cases old with
  | none => exact attached?_attach_error refused
  | some mapping => cases refused

@[simp] theorem attached?_unmapWindow (b : Buffers) (handle : Handle) (window : Option Region) :
    (b.unmapWindow handle window).attached? = b.attached? := by
  cases window with
  | none => rfl
  | some window => exact attached?_map b handle .linear

theorem attached?_giveBack (mine : b.attached? handle = held.mapping) :
    (b.giveBack handle held).attached? = Function.update b.attached? handle none := by
  unfold giveBack
  cases mapping : held.mapping with
  | none =>
    rw [mapping] at mine
    dsimp only
    rw [attached?_unmapWindow, ← mine, Function.update_eq_self]
  | some mapping => rw [attached?_detach, attached?_unmapWindow]

end Buffers

namespace Driver

variable {d d' : Driver}

theorem Attempted.attached? {handle : Handle} {held : Holdings} {a : Attributes}
    {attempt : Attempt} {pool : WindowPool} {buffers : Buffers}
    (attempted : d.Attempted handle held a attempt pool buffers)
    (mine : d.buffers.attached? handle = held.mapping) :
    buffers.attached? = Function.update d.buffers.attached? handle attempt.held.mapping := by
  have unchanged : Function.update d.buffers.attached? handle held.mapping =
      d.buffers.attached? := by
    rw [← mine, Function.update_eq_self]
  have mapped : ∀ {b b' : Buffers} {cpu : CpuMapping} {result : Except PlatformError Unit},
      b.map handle cpu = (result, b') → b'.attached? = b.attached? := by
    intro b b' cpu result ended
    rw [← b.attached?_map handle cpu, ended]
  cases attempted with
  | unmapped own | invalid own | linear own | full own =>
    exact (mapped own).trans unchanged.symm
  | unreachable own _ _ refused =>
    exact ((mapped refused).trans (mapped own)).trans unchanged.symm
  | unattached own _ _ shown refused =>
    have before := (mapped shown).trans (mapped own)
    exact ((Buffers.attached?_ensureAttached_error refused).trans before).trans unchanged.symm
  | indescribable own _ _ shown attached | tiled own _ _ shown attached =>
    have before := (mapped shown).trans (mapped own)
    rw [← before] at mine ⊢
    exact Buffers.attached?_ensureAttached mine attached

def AttachmentsKept (d : Driver) : Prop :=
  d.buffers.attached? = owned d.surfaces Surface.mapping?

namespace AttachmentsKept

theorem move (kept : d.AttachmentsKept) (move : d.Move d') : d'.AttachmentsKept := by
  unfold AttachmentsKept at *
  cases move with
  | idle => exact kept
  | tracked missing =>
    dsimp only
    rw [owned_insert_bare {} missing rfl]
    exact kept
  | @flagged handle surface on found =>
    dsimp only
    rw [owned_insert_same ⟨surface.setup, on⟩ found rfl]
    exact kept
  | @rebound handle layout permanent permanent' binding _ _ _ _ _ found =>
    dsimp only
    rw [owned_insert_same ⟨.tiled { layout with binding }, permanent'⟩ found rfl]
    exact kept
  | @settled handle surface a attempt pool buffers stats found unlocked attempted =>
    have mine : d.buffers.attached? handle = surface.mapping? := by
      rw [kept, owned_of_find? _ found]
    have attached := attempted.attached? mine
    dsimp only
    rw [owned_insert, ← kept]
    cases attempt with
    | refused _ rest | linear rest =>
      have held : buffers.attached? handle = rest.mapping := by
        rw [attached, Function.update_self]
        rfl
      have returned := Buffers.attached?_giveBack held
      rw [attached, Function.update_idem] at returned
      exact returned
    | tiled layout => exact attached
  | @removed handle surface _ _ _ _ _ found =>
    have mine : d.buffers.attached? handle = surface.holdings.mapping := by
      rw [kept, owned_of_find? _ found]
      rfl
    have returned := Buffers.attached?_giveBack mine
    dsimp only
    rw [owned_erase, ← kept]
    exact returned

theorem start {config : Config} {platform : Platform} (up : bringUp config platform = .ok d)
    (unused : platform.buffers.Unused) : d.AttachmentsKept := by
  obtain ⟨engine, pool, faults, rfl, _⟩ := bringUp_eq_ok up
  exact unused.attached?

theorem step (kept : d.AttachmentsKept) {command : Command} (alone : AttachesAlone d command) :
    (d.step command).2.AttachmentsKept := by
  rcases d.step_cases command with move | ⟨other, rfl⟩
  · exact kept.move move
  · cases other with
    | register handle length =>
      have bare : owned d.surfaces Surface.mapping? handle = none := alone
      have registered := d.buffers.attached?_register handle length
      rw [← bare, ← kept, Function.update_eq_self, kept] at registered
      exact registered
    | map handle cpu => exact (d.buffers.attached?_map handle cpu).trans kept
    | attach | detach => exact alone.elim
    | engine | failMaps | failAttaches | failOnlines | failOfflines | bringOnline | takeOffline
    | maintain => exact kept

theorem along (kept : d.AttachmentsKept) {commands : List Command}
    (alone : Along AttachesAlone d commands) : (d.run commands).AttachmentsKept :=
  alone.keeps AttachmentsKept kept fun _ _ alone kept => kept.step alone

theorem run (kept : d.AttachmentsKept) {commands : List Command}
    (alone : Along BuffersAlone d commands) : (d.run commands).AttachmentsKept :=
  kept.along (alone.mono fun _ _ => BuffersAlone.attaches)

end AttachmentsKept

end Driver

end TiledSurface
