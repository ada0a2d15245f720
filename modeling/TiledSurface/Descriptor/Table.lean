import TiledSurface.Descriptor.Codec

/-!
The table of descriptors that the engine reads. A surface holds a slot of its own while its
descriptor is in use; a slot that nobody holds reads as zero.
-/

namespace TiledSurface

def slotCount : Nat := 256

abbrev Slot : Type := Fin slotCount

structure SlotTable where
  held : Vector Bool slotCount
  blocks : Vector Block slotCount

namespace SlotTable

def fresh : SlotTable := ⟨Vector.replicate slotCount false, Vector.replicate slotCount .zero⟩

def firstFree? (t : SlotTable) : Option Slot :=
  (List.finRange slotCount).find? fun slot => !t.held[slot]

/-- Claims the lowest slot that nobody holds. -/
def claim (t : SlotTable) : Except Error Slot × SlotTable :=
  match t.firstFree? with
  | some slot => (.ok slot, { t with held := t.held.set slot true })
  | none => (.error (.exhausted slotCount), t)

def release (t : SlotTable) (slot : Slot) : SlotTable where
  held := t.held.set slot false
  blocks := t.blocks.set slot .zero

def write (t : SlotTable) (slot : Slot) (block : Block) : SlotTable :=
  { t with blocks := t.blocks.set slot block }

/-- The block in a slot, whoever holds it; the table ends after its last slot. -/
def read? (t : SlotTable) (index : Nat) : Option Block := t.blocks[index]?

def isHeld (t : SlotTable) (index : Nat) : Bool := t.held[index]?.getD false

def inUse (t : SlotTable) : Nat := t.held.toList.countP id

def bytes (t : SlotTable) : List UInt8 := t.blocks.toList.flatMap Vector.toList

end SlotTable

end TiledSurface
