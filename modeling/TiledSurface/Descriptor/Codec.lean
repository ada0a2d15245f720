import TiledSurface.Descriptor.Basic
import TiledSurface.LittleEndian

namespace TiledSurface

/-- The bytes that one descriptor takes in the table. -/
def blockSize : Nat := 64

abbrev Block : Type := Vector UInt8 blockSize

def Block.zero : Block := Vector.replicate blockSize 0

namespace Descriptor

/-- The bytes of the fields: the second plane's start in six bytes, the format behind it. -/
def fieldBytes (d : Descriptor) : List UInt8 :=
  LittleEndian.encode 6 d.uvStart.toNat ++
  LittleEndian.encode 2 d.format.toNat ++
  LittleEndian.encode 2 d.stride.toNat ++
  LittleEndian.encode 2 d.rasterStride.toNat ++
  LittleEndian.encode 4 d.lumaMetadata.toNat ++
  LittleEndian.encode 4 d.chromaMetadata.toNat ++
  LittleEndian.encode 2 d.lumaOffset.toNat ++
  LittleEndian.encode 2 d.chromaOffset.toNat ++
  LittleEndian.encode 4 d.extent.toNat

theorem length_fieldBytes (d : Descriptor) : d.fieldBytes.length = 28 := by
  simp [fieldBytes]

def encode (d : Descriptor) : Block :=
  ⟨(d.fieldBytes ++ List.replicate 36 0).toArray, by simp [length_fieldBytes, blockSize]⟩

/-- The number in `width` bytes of a block from `offset` on. -/
def field (block : Block) (offset width : Nat) : Nat :=
  LittleEndian.decode ((block.toList.drop offset).take width)

def decode (block : Block) : Descriptor where
  uvStart := .ofNat (field block 0 6)
  format := .ofNat (field block 6 2)
  stride := .ofNat (field block 8 2)
  rasterStride := .ofNat (field block 10 2)
  lumaMetadata := .ofNat (field block 12 4)
  chromaMetadata := .ofNat (field block 16 4)
  lumaOffset := .ofNat (field block 20 2)
  chromaOffset := .ofNat (field block 22 2)
  extent := .ofNat (field block 24 4)

end Descriptor

end TiledSurface
