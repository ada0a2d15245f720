import Mathlib.Data.Set.Function
import TiledSurface.Proofs.Descriptor.Codec

/-!
Descriptors and blocks. The fields take the first 28 bytes of a block, each byte belongs to one of
them, and the rest is reserved. So writing and reading match the descriptors whose second plane
starts within 48 bits with the blocks that have nothing in the reserved bytes.
-/

namespace TiledSurface

namespace Block

/-- Nothing is written behind the fields. -/
def ReservedClear (block : Block) : Prop :=
  ∀ index : Fin blockSize, 28 ≤ index.val → block[index] = 0

def cleared (block : Block) : Block :=
  Vector.ofFn fun index => if index.val < 28 then block[index] else 0

theorem cleared_eq_self {block : Block} : block.cleared = block ↔ block.ReservedClear := by
  constructor
  · intro same index reserved
    rw [← same]
    simp [cleared, Nat.not_lt.mpr reserved]
  · intro clear
    refine Vector.ext fun index inside => ?_
    simp only [cleared, Vector.getElem_ofFn]
    split
    · rfl
    · rename_i reserved
      exact (clear ⟨index, inside⟩ (Nat.not_lt.mp reserved)).symm

theorem toList_cleared (block : Block) :
    block.cleared.toList = block.toList.take 28 ++ List.replicate 36 0 := by
  have size (b : Block) : b.toList.length = 64 := Vector.length_toList
  have length : (block.toList.take 28).length = 28 := by rw [List.length_take, size]; rfl
  apply List.ext_getElem
  · rw [size, List.length_append, length, List.length_replicate]
  · intro index inside inside'
    by_cases kept : index < 28
    · rw [List.getElem_append_left (by omega)]
      simp [cleared, kept]
    · rw [List.getElem_append_right (by omega), List.getElem_replicate]
      simp [cleared, kept]

end Block

namespace Descriptor

theorem reservedClear_encode (d : Descriptor) : d.encode.ReservedClear := by
  apply Block.cleared_eq_self.mp
  apply Vector.toList_inj.mp
  rw [Block.toList_cleared, toList_encode, List.take_left' (length_fieldBytes d)]

theorem field_lt (block : Block) (offset width : Nat) : field block offset width < 256 ^ width := by
  have fits := LittleEndian.decode_lt ((block.toList.drop offset).take width)
  have short : ((block.toList.drop offset).take width).length ≤ width := List.length_take_le ..
  exact Nat.lt_of_lt_of_le fits (Nat.pow_le_pow_right (by decide) short)

theorem encode_field (block : Block) {offset width : Nat} (inside : offset + width ≤ blockSize) :
    LittleEndian.encode width (field block offset width) =
      (block.toList.drop offset).take width := by
  have length : ((block.toList.drop offset).take width).length = width := by
    simp only [List.length_take, List.length_drop, Vector.length_toList]
    omega
  have bytes := LittleEndian.encode_decode ((block.toList.drop offset).take width)
  rwa [length] at bytes

theorem take_append_field (block : Block) {offset width : Nat}
    (inside : offset + width ≤ blockSize) :
    block.toList.take offset ++ LittleEndian.encode width (field block offset width) =
      block.toList.take (offset + width) := by
  rw [encode_field block inside, List.take_add]

/-- No byte before the reserved ones is lost or read twice. -/
theorem fieldBytes_decode (block : Block) :
    (decode block).fieldBytes = block.toList.take 28 := by
  have start : (UInt64.ofNat (field block 0 6)).toNat = field block 0 6 :=
    UInt64.toNat_ofNat_of_lt' (Nat.lt_trans (field_lt block 0 6) (by decide))
  have half (offset : Nat) : (UInt16.ofNat (field block offset 2)).toNat = field block offset 2 :=
    UInt16.toNat_ofNat_of_lt' (field_lt block offset 2)
  have full (offset : Nat) : (UInt32.ofNat (field block offset 4)).toNat = field block offset 4 :=
    UInt32.toNat_ofNat_of_lt' (field_lt block offset 4)
  have first : LittleEndian.encode 6 (field block 0 6) = block.toList.take 6 :=
    encode_field block (by decide : 0 + 6 ≤ blockSize)
  have next {offset width : Nat} (inside : offset + width ≤ blockSize) :=
    take_append_field block inside
  simp only [fieldBytes, decode, start, half, full, first]
  rw [next (by decide : 6 + 2 ≤ blockSize), next (by decide : 8 + 2 ≤ blockSize),
    next (by decide : 10 + 2 ≤ blockSize), next (by decide : 12 + 4 ≤ blockSize),
    next (by decide : 16 + 4 ≤ blockSize), next (by decide : 20 + 2 ≤ blockSize),
    next (by decide : 22 + 2 ≤ blockSize), next (by decide : 24 + 4 ≤ blockSize)]

theorem encode_decode (block : Block) : (decode block).encode = block.cleared := by
  apply Vector.toList_inj.mp
  rw [toList_encode, fieldBytes_decode, Block.toList_cleared]

theorem uvStart_decode_lt (block : Block) : (decode block).uvStart.toNat < 2 ^ 48 := by
  have fits := field_lt block 0 6
  have start : (decode block).uvStart.toNat = field block 0 6 :=
    UInt64.toNat_ofNat_of_lt' (Nat.lt_trans fits (by decide))
  exact start ▸ fits

/-- A descriptor is read back as far as 48 bits hold where its second plane starts, and a block is
written back up to its reserved bytes, which writing leaves clear. So the two are inverse to each
other between the descriptors that fit and the blocks with clear reserved bytes. -/
theorem blocks_match_descriptors :
    (∀ d : Descriptor, decode d.encode = d.truncated) ∧
    (∀ d : Descriptor, decode d.encode = d ↔ d.uvStart.toNat < 2 ^ 48) ∧
    (∀ d : Descriptor, d.encode.ReservedClear) ∧
    (∀ block : Block, (decode block).encode = block.cleared) ∧
    Set.BijOn encode {d | d.uvStart.toNat < 2 ^ 48} {block | block.ReservedClear} := by
  refine ⟨decode_encode_truncated, fun d => ?_, reservedClear_encode, encode_decode, ?_⟩
  · rw [decode_encode_truncated]
    exact truncated_eq_self
  · have inverse : Set.InvOn decode encode {d | d.uvStart.toNat < 2 ^ 48}
        {block | block.ReservedClear} :=
      ⟨fun d fits => decode_encode fits,
        fun block clear => (encode_decode block).trans (Block.cleared_eq_self.mpr clear)⟩
    exact inverse.bijOn (fun d _ => reservedClear_encode d) (fun block _ => uvStart_decode_lt block)

end Descriptor

end TiledSurface
