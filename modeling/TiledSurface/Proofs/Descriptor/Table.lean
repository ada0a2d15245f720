import Mathlib.Data.Fintype.Card
import TiledSurface.Descriptor.Table
import TiledSurface.Proofs.Ledger

namespace TiledSurface.SlotTable

variable {t t' : SlotTable} {slot : Slot}

theorem isHeld_of_lt (t : SlotTable) {index : Nat} (bound : index < slotCount) :
    t.isHeld index = t.held[index] := by
  simp [isHeld, bound]

theorem isHeld_set (t : SlotTable) (slot other : Slot) (on : Bool) :
    isHeld { t with held := t.held.set slot on slot.isLt } other =
      if other = slot then on else t.isHeld other := by
  simp only [isHeld_of_lt _ other.isLt, Vector.getElem_set, Fin.ext_iff, eq_comm]

theorem isHeld_release (t : SlotTable) (slot other : Slot) :
    (t.release slot).isHeld other = if other = slot then false else t.isHeld other :=
  isHeld_set t slot other false

theorem read?_write (t : SlotTable) (slot : Slot) (block : Block) (index : Nat) :
    (t.write slot block).read? index = if index = slot then some block else t.read? index := by
  simp only [read?, write, Vector.getElem?_set, eq_comm]

theorem read?_release (t : SlotTable) (slot : Slot) (index : Nat) :
    (t.release slot).read? index = if index = slot then some .zero else t.read? index := by
  simp only [read?, release, Vector.getElem?_set, eq_comm]

theorem release_comm (t : SlotTable) (slot other : Slot) :
    (t.release slot).release other = (t.release other).release slot := by
  by_cases same : slot = other
  · rw [same]
  · have apart : slot.val ≠ other.val := fun equal => same (Fin.ext equal)
    simp only [release, Vector.set_comm _ _ apart]

theorem isHeld_fresh (slot : Slot) : fresh.isHeld slot = false := by
  simp [isHeld_of_lt _ slot.isLt, fresh]

theorem read?_fresh (slot : Slot) : fresh.read? slot = some .zero := by
  simp [read?, fresh]

theorem inUse_eq_card (t : SlotTable) :
    t.inUse = (Finset.univ.filter fun slot : Slot => t.isHeld slot).card := by
  have marks : t.held.toList = (List.finRange slotCount).map fun slot : Slot => t.isHeld slot := by
    apply List.ext_getElem
    · simp
    · intro index inside _
      have bound : index < slotCount := by simpa using inside
      simp [isHeld_of_lt t bound]
  have card : (Finset.univ.filter fun slot : Slot => t.isHeld slot).card =
      ((List.finRange slotCount).filter fun slot : Slot => decide (t.isHeld slot = true)).length :=
    rfl
  simp only [Bool.decide_eq_true] at card
  rw [card, inUse, marks, List.countP_map, List.countP_eq_length_filter]
  rfl

theorem inUse_eq_zero (nobody : ∀ slot : Slot, t.isHeld slot = false) : t.inUse = 0 := by
  simp [inUse_eq_card, nobody]

/-- A claim gives the lowest free slot and leaves every block alone; it fails only when all slots
are held. -/
theorem claim_cases (t : SlotTable) :
    (t.claim = (.error (.exhausted slotCount), t) ∧ ∀ slot : Slot, t.isHeld slot = true) ∨
      ∃ slot t', t.claim = (.ok slot, t') ∧ t.isHeld slot = false ∧
        (∀ lower : Slot, lower < slot → t.isHeld lower = true) ∧
        (∀ other : Slot, t'.isHeld other = if other = slot then true else t.isHeld other) ∧
        t'.read? = t.read? := by
  unfold claim firstFree?
  cases search : (List.finRange slotCount).find? fun slot => !t.held[slot] with
  | none =>
    refine .inl ⟨rfl, fun slot => ?_⟩
    have taken := List.find?_eq_none.mp search slot (List.mem_finRange slot)
    rw [t.isHeld_of_lt slot.isLt]
    simpa using taken
  | some slot =>
    refine .inr ⟨slot, _, rfl, ?_, fun lower less => ?_, fun other => isHeld_set t slot other true,
      rfl⟩
    · rw [t.isHeld_of_lt slot.isLt]
      simpa using List.find?_some search
    · obtain ⟨_, before, after, split, earlier⟩ := List.find?_eq_some_iff_append.mp search
      have ascending : (before ++ slot :: after).Pairwise (· < ·) := by
        rw [← split]
        exact List.pairwise_lt_finRange slotCount
      have member : lower ∈ before ++ slot :: after := split ▸ List.mem_finRange lower
      have inside : lower ∈ before := by
        rcases List.mem_append.mp member with inside | later
        · exact inside
        · have above := (List.pairwise_append.mp ascending).2.1
          rcases List.mem_cons.mp later with rfl | beyond
          · exact absurd less (Fin.lt_irrefl lower)
          · exact absurd ((List.pairwise_cons.mp above).1 lower beyond) (Fin.lt_asymm less)
      rw [t.isHeld_of_lt lower.isLt]
      simpa using earlier lower inside

theorem isHeld_of_claim (granted : t.claim = (.ok slot, t')) : t.isHeld slot = false := by
  rcases t.claim_cases with ⟨refused, _⟩ | ⟨slot', _, given, free, _⟩
  · cases refused.symm.trans granted
  · cases given.symm.trans granted
    exact free

theorem exchange_claim (free : t.isHeld slot = false)
    (held : ∀ other : Slot, t'.isHeld other = if other = slot then true else t.isHeld other) :
    Exchange (fun other : Slot => t.isHeld other = true)
      (fun other : Slot => t'.isHeld other = true) none (some slot) := by
  refine ⟨fun other => ?_, fun other came taken => ?_⟩
  · rw [held]
    by_cases same : other = slot
    · simp [same]
    · simp [same, Ne.symm same]
  · cases Option.some.inj came
    simp [free] at taken

theorem exchange_release (t : SlotTable) (slot : Slot) :
    Exchange (fun other : Slot => t.isHeld other = true)
      (fun other : Slot => (t.release slot).isHeld other = true) (some slot) none := by
  refine ⟨fun other => ?_, by simp⟩
  rw [isHeld_release]
  by_cases same : other = slot
  · simp [same]
  · simp [same, Ne.symm same]

end TiledSurface.SlotTable
