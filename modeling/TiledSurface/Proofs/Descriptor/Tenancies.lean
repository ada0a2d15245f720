import Mathlib.Order.Bounds.Basic
import TiledSurface.Descriptor.Command
import TiledSurface.Proofs.Descriptor.Table

namespace TiledSurface.SlotTable

variable {t : SlotTable} {slot : Slot} {command : Command}

theorem take_blocks (blocks : List Block) (index : Nat) :
    (blocks.flatMap Vector.toList).take (index * blockSize) =
      (blocks.take index).flatMap Vector.toList := by
  induction index generalizing blocks with
  | zero => simp
  | succ index ih =>
    cases blocks with
    | nil => simp
    | cons block rest =>
      rw [List.flatMap_cons, List.take_succ_cons, List.flatMap_cons, ← ih rest, Nat.succ_mul,
        Nat.add_comm, List.take_append]
      simp

theorem drop_blocks (blocks : List Block) (index : Nat) :
    (blocks.flatMap Vector.toList).drop (index * blockSize) =
      (blocks.drop index).flatMap Vector.toList := by
  induction index generalizing blocks with
  | zero => simp
  | succ index ih =>
    cases blocks with
    | nil => simp
    | cons block rest =>
      rw [List.flatMap_cons, List.drop_succ_cons, ← ih rest, Nat.succ_mul, Nat.add_comm,
        List.drop_append]
      simp

theorem length_bytes (t : SlotTable) : t.bytes.length = slotCount * blockSize := by
  simp [bytes, List.length_flatMap]

theorem read?_eq_bytes (t : SlotTable) (slot : Slot) :
    (t.read? slot).map Vector.toList =
      some ((t.bytes.drop (slot * blockSize)).take blockSize) := by
  have inside : slot.val < t.blocks.toList.length := by simp
  rw [bytes, drop_blocks, List.drop_eq_getElem_cons inside, List.flatMap_cons]
  simp [read?]

/-- The bytes, with others in the place of a slot. -/
def splice (bytes : List UInt8) (slot : Slot) (block : Block) : List UInt8 :=
  bytes.take (slot * blockSize) ++ block.toList ++ bytes.drop ((slot + 1) * blockSize)

theorem bytes_set (t : SlotTable) (held : Vector Bool slotCount) (slot : Slot) (block : Block) :
    bytes { held, blocks := t.blocks.set slot block slot.isLt } = splice t.bytes slot block := by
  have inside : slot.val < t.blocks.toList.length := by simp
  rw [splice, bytes, bytes, take_blocks, drop_blocks, Vector.toList_set,
    List.set_eq_take_append_cons_drop, if_pos inside, List.flatMap_append, List.flatMap_cons,
    List.append_assoc]

/-- What is known of the slots that are held: the blocks that were written since the slot was
claimed, the latest last. -/
abbrev Books : Type := Slot → Option (List Block)

namespace Books

def blank : Books := fun _ => none

/-- The books after a command with this outcome. They are kept without a look at the table. -/
def enter (books : Books) : Command → Outcome → Books
  | .claim, .claimed slot => Function.update books slot (some [])
  | .claim, _ => books
  | .release slot, _ => Function.update books slot none
  | .write slot block, _ => Function.update books slot ((books slot).map (· ++ [block]))

/-- Only slots that are held are released and written. -/
def Permit (books : Books) : Command → Prop
  | .claim => True
  | .release slot | .write slot _ => books slot ≠ none

instance (books : Books) : (command : Command) → Decidable (books.Permit command)
  | .claim => inferInstanceAs (Decidable True)
  | .release slot | .write slot _ => inferInstanceAs (Decidable (books slot ≠ none))

/-- What a slot has to hold: the latest block, or zero if nothing was written or nobody holds the
slot. -/
def block (books : Books) (slot : Slot) : Block := ((books slot).bind List.getLast?).getD .zero

end Books

def keep (t : SlotTable) (books : Books) : List Command → Books
  | [] => books
  | command :: rest => keep (t.step command).2 (books.enter command (t.step command).1) rest

/-- Every command of the run is permitted by the books when it comes. -/
def Rightful (t : SlotTable) (books : Books) : List Command → Prop
  | [] => True
  | command :: rest =>
    books.Permit command ∧
      Rightful (t.step command).2 (books.enter command (t.step command).1) rest

instance decidableRightful (t : SlotTable) (books : Books) :
    (commands : List Command) → Decidable (t.Rightful books commands)
  | [] => inferInstanceAs (Decidable True)
  | command :: rest =>
    have := decidableRightful (t.step command).2 (books.enter command (t.step command).1) rest
    inferInstanceAs (Decidable (_ ∧ _))

structure Booked (t : SlotTable) (books : Books) : Prop where
  held : ∀ slot : Slot, t.isHeld slot = (books slot).isSome
  block : ∀ slot : Slot, t.read? slot = some (books.block slot)

namespace Booked

variable {books : Books}

theorem fresh : Booked fresh .blank := ⟨isHeld_fresh, read?_fresh⟩

theorem update (booked : Booked t books) {t' : SlotTable} {entry : Option (List Block)}
    (held : ∀ other : Slot, t'.isHeld other = if other = slot then entry.isSome else t.isHeld other)
    (block : ∀ other : Slot, t'.read? other =
      if other = slot then some ((entry.bind List.getLast?).getD .zero) else t.read? other) :
    Booked t' (Function.update books slot entry) := by
  constructor
  · intro other
    rw [held, Function.update_apply]
    by_cases same : other = slot
    · rw [if_pos same, if_pos same]
    · rw [if_neg same, if_neg same, booked.held]
  · intro other
    rw [block, Books.block, Function.update_apply]
    by_cases same : other = slot
    · rw [if_pos same, if_pos same]
    · rw [if_neg same, if_neg same, booked.block, Books.block]

theorem step (booked : Booked t books) (permitted : books.Permit command) :
    Booked (t.step command).2 (books.enter command (t.step command).1) := by
  cases command with
  | claim =>
    rcases t.claim_cases with ⟨refused, _⟩ | ⟨slot, t', granted, free, _, held, blocks⟩
    · simp only [SlotTable.step, refused]
      exact booked
    · simp only [SlotTable.step, granted]
      refine booked.update held fun other => ?_
      rw [blocks]
      by_cases same : other = slot
      · -- A slot that nobody held was zero already.
        have nobody : books other = none := by
          rw [← Option.isNone_iff_eq_none, ← Option.not_isSome, ← booked.held, same, free]
          rfl
        rw [if_pos same, booked.block, Books.block, nobody]
        rfl
      · rw [if_neg same]
  | release slot =>
    refine booked.update (t.isHeld_release slot) fun other => ?_
    simp only [SlotTable.step, read?_release, Fin.ext_iff]
    rfl
  | write slot block =>
    obtain ⟨blocks, tenant⟩ := Option.ne_none_iff_exists'.mp permitted
    refine booked.update (fun other => ?_) fun other => ?_
    · by_cases same : other = slot
      · rw [if_pos same, same, tenant]
        exact (booked.held slot).trans (by rw [tenant]; rfl)
      · rw [if_neg same]
        rfl
    · simp only [SlotTable.step, read?_write, Fin.ext_iff, tenant]
      simp

theorem run (booked : Booked t books) {commands : List Command}
    (rightful : t.Rightful books commands) :
    Booked (t.run commands) (t.keep books commands) := by
  induction commands generalizing t books with
  | nil => exact booked
  | cons command rest ih => exact ih (booked.step rightful.1) rightful.2

theorem claimed_iff (booked : Booked t books) :
    (t.step .claim).1 = .claimed slot ↔ IsLeast {slot | books slot = none} slot := by
  have vacant_iff (other : Slot) : books other = none ↔ t.isHeld other = false := by
    rw [booked.held, Option.isSome_eq_false_iff, Option.isNone_iff_eq_none]
  simp only [vacant_iff]
  rcases t.claim_cases with ⟨refused, taken⟩ | ⟨lowest, t', granted, free, lower, _⟩
  · simp only [SlotTable.step, refused]
    refine iff_of_false nofun fun least => ?_
    cases (taken slot).symm.trans least.1
  · have least : IsLeast {slot : Slot | t.isHeld slot = false} lowest := by
      refine ⟨free, fun other vacant => Nat.le_of_not_lt fun less => ?_⟩
      cases (lower other less).symm.trans vacant
    simp only [SlotTable.step, granted]
    constructor
    · intro same
      cases same
      exact least
    · intro least'
      rw [least.unique least']
      rfl

theorem exhausted_iff (booked : Booked t books) :
    (t.step .claim).1 = .refused (.exhausted slotCount) ↔ ∀ slot, books slot ≠ none := by
  have tenant_iff (slot : Slot) : books slot ≠ none ↔ t.isHeld slot = true := by
    rw [booked.held, Option.isSome_iff_ne_none]
  simp only [tenant_iff]
  rcases t.claim_cases with ⟨refused, taken⟩ | ⟨lowest, t', granted, free, _⟩
  · simp only [SlotTable.step, refused]
    exact iff_of_true rfl taken
  · simp only [SlotTable.step, granted]
    refine iff_of_false nofun fun taken => ?_
    cases free.symm.trans (taken lowest)

theorem bytes_eq (booked : Booked t books) :
    t.bytes = (List.finRange slotCount).flatMap fun slot => (books.block slot).toList := by
  have blocks : t.blocks.toList = (List.finRange slotCount).map books.block := by
    apply List.ext_getElem
    · simp
    · intro index inside _
      have bound : index < slotCount := by simpa using inside
      have shown := booked.block ⟨index, bound⟩
      simpa [read?, bound] using shown
  rw [bytes, blocks, List.flatMap_map]

end Booked

/-- The slot whose place a command is about. A claim changes no bytes. -/
def Command.slot? : Command → Option Slot
  | .claim => none
  | .release slot | .write slot _ => some slot

theorem read?_step (t : SlotTable) {other : Slot} (elsewhere : command.slot? ≠ some other) :
    (t.step command).2.read? other = t.read? other := by
  cases command with
  | claim =>
    rcases t.claim_cases with ⟨refused, _⟩ | ⟨_, _, granted, _, _, _, blocks⟩
    · simp only [step, refused]
    · simp only [step, granted, blocks]
  | release slot =>
    have apart : other.val ≠ slot := fun same => elsewhere (congrArg some (Fin.ext same.symm))
    exact (t.read?_release slot other).trans (if_neg apart)
  | write slot block =>
    have apart : other.val ≠ slot := fun same => elsewhere (congrArg some (Fin.ext same.symm))
    exact (t.read?_write slot block other).trans (if_neg apart)

/-- The table after every run in which nobody releases or writes slots that are not held. A claim
gets the lowest slot that nobody holds, and is refused just if all are held. A slot has the block
that was written last since it was claimed, or zero if there was none; a slot that nobody holds is
zero. Commands leave the blocks of other slots alone. The bytes are the blocks one behind the
other: a write changes them in the place of its slot, as does a release, and a claim does not. -/
theorem table_as_booked {commands : List Command} (rightful : fresh.Rightful .blank commands) :
    let t := fresh.run commands
    let books := fresh.keep .blank commands
    (∀ slot, (t.step .claim).1 = .claimed slot ↔ IsLeast {slot | books slot = none} slot) ∧
    ((t.step .claim).1 = .refused (.exhausted slotCount) ↔ ∀ slot, books slot ≠ none) ∧
    t.inUse = (Finset.univ.filter fun slot => (books slot).isSome).card ∧
    (∀ slot blocks, books slot = some blocks →
      t.read? slot = some (blocks.getLast?.getD .zero)) ∧
    (∀ slot, books slot = none → t.read? slot = some .zero) ∧
    (∀ command (other : Slot), command.slot? ≠ some other →
      (t.step command).2.read? other = t.read? other) ∧
    t.bytes.length = slotCount * blockSize ∧
    t.bytes = ((List.finRange slotCount).flatMap fun slot => (books.block slot).toList) ∧
    (∀ slot : Slot, (t.read? slot).map Vector.toList =
      some ((t.bytes.drop (slot * blockSize)).take blockSize)) ∧
    (t.step .claim).2.bytes = t.bytes ∧
    (∀ slot, (t.step (.release slot)).2.bytes = splice t.bytes slot .zero) ∧
    ∀ slot block, (t.step (.write slot block)).2.bytes = splice t.bytes slot block := by
  intro t books
  have booked : Booked t books := Booked.fresh.run rightful
  refine ⟨fun slot => booked.claimed_iff, booked.exhausted_iff, ?_, ?_, ?_, ?_, t.length_bytes,
    booked.bytes_eq, t.read?_eq_bytes, ?_, ?_, ?_⟩
  · rw [t.inUse_eq_card]
    simp only [booked.held]
  · intro slot blocks tenant
    rw [booked.block, Books.block, tenant]
    rfl
  · intro slot nobody
    rw [booked.block, Books.block, nobody]
    rfl
  · exact fun command other elsewhere => t.read?_step elsewhere
  · simp only [step, claim]
    split <;> rfl
  · exact fun slot => t.bytes_set _ slot .zero
  · exact fun slot block => t.bytes_set _ slot block

def filled : Block := Vector.replicate blockSize 0xa5

/-- Two slots are written. The first one is given back and claimed again. -/
def secondTenant : List Command :=
  [.claim, .claim, .write ⟨0, by decide⟩ filled, .write ⟨1, by decide⟩ filled,
    .release ⟨0, by decide⟩, .claim]

/-- The second tenant of the first slot finds nothing of what the first one wrote, the tenant of the
other slot finds what it wrote itself, and the third slot is the next one to be claimed. -/
theorem table_as_booked_secondTenant :
    fresh.Rightful .blank secondTenant ∧ (fresh.run secondTenant).inUse = 2 ∧
      (fresh.run secondTenant).read? 0 = some .zero ∧
      (fresh.run secondTenant).read? 1 = some filled ∧
      ((fresh.run secondTenant).step .claim).1 = .claimed ⟨2, by decide⟩ := by
  have rightful : fresh.Rightful .blank secondTenant := by decide +kernel
  obtain ⟨claimed, _, inUse, written, _⟩ := table_as_booked rightful
  have second : fresh.keep .blank secondTenant ⟨0, by decide⟩ = some [] := by decide +kernel
  have other : fresh.keep .blank secondTenant ⟨1, by decide⟩ = some [filled] := by decide +kernel
  have vacant : fresh.keep .blank secondTenant ⟨2, by decide⟩ = none := by decide +kernel
  refine ⟨rightful, ?_, written _ _ second, written _ _ other, (claimed _).mpr ⟨vacant, ?_⟩⟩
  · rw [inUse]
    decide +kernel
  · intro slot nobody
    by_contra less
    have below : slot.val = 0 ∨ slot.val = 1 := by
      have : slot.val < 2 := Nat.lt_of_not_le less
      omega
    rcases below with first | next
    · obtain rfl : slot = ⟨0, by decide⟩ := Fin.ext first
      cases second.symm.trans nobody
    · obtain rfl : slot = ⟨1, by decide⟩ := Fin.ext next
      cases other.symm.trans nobody

end TiledSurface.SlotTable
