import TiledSurface.Descriptor.Codec
import TiledSurface.Proofs.Footprint
import TiledSurface.Proofs.LittleEndian

namespace TiledSurface.Descriptor

theorem toList_encode (d : Descriptor) :
    d.encode.toList = d.fieldBytes ++ List.replicate 36 0 := by
  simp [encode]

def truncated (d : Descriptor) : Descriptor :=
  { d with uvStart := .ofNat (d.uvStart.toNat % 2 ^ 48) }

theorem truncated_eq_self {d : Descriptor} : d.truncated = d ↔ d.uvStart.toNat < 2 ^ 48 := by
  have wide : d.uvStart.toNat % 2 ^ 48 < UInt64.size :=
    Nat.lt_trans (Nat.mod_lt _ (by decide)) (by decide)
  constructor
  · intro same
    have start := congrArg (fun d => d.uvStart.toNat) same
    simp only [truncated, UInt64.toNat_ofNat_of_lt' wide] at start
    exact start ▸ Nat.mod_lt _ (by decide)
  · intro fits
    have start : UInt64.ofNat (d.uvStart.toNat % 2 ^ 48) = d.uvStart := by
      rw [Nat.mod_eq_of_lt fits, UInt64.ofNat_toNat]
    rw [truncated, start]

theorem decode_encode_truncated (d : Descriptor) : decode d.encode = d.truncated := by
  simp [decode, field, toList_encode, fieldBytes, List.drop_append, List.drop_eq_nil_of_le,
    LittleEndian.decode_encode, truncated]

/-- A block is read back as the descriptor that was written, as far as 48 bits hold where the
second plane starts. -/
theorem decode_encode {d : Descriptor} (fits : d.uvStart.toNat < 2 ^ 48) :
    decode d.encode = d := by
  rw [decode_encode_truncated, truncated_eq_self.mpr fits]

theorem bounded_eq_ok {bound n m : Nat} {fault : AttributeFault} :
    bounded bound n fault = .ok m ↔ n < bound ∧ n = m := by
  unfold bounded
  by_cases fits : n < bound
  · simp [fits]
  · simp [fits]

variable {a : Attributes} {format : TileFormat} {f : Footprint} {windowBase deviceBase : Nat}
  {unit : LengthUnit} {d : Descriptor}

/-- The fields hold these numbers, in the units of the engine. -/
structure Holds (d : Descriptor) (a : Attributes) (format : TileFormat) (f : Footprint)
    (windowBase deviceBase : Nat) (unit : LengthUnit) : Prop where
  fits : d.uvStart.toNat < 2 ^ 48
  uvStart : d.uvStart.toNat = (windowBase + f.uvOffset) / cacheLineSize
  code : d.format = format.code
  stride : d.stride.toNat = (strides a format f).1 / cacheLineSize
  rasterStride : d.rasterStride.toNat = (strides a format f).2 / cacheLineSize
  lumaMetadata : d.lumaMetadata.toNat = deviceBase / pageSize
  chromaMetadata : d.chromaMetadata.toNat =
    (deviceBase + f.luma.metadata + f.luma.pixels) / pageSize
  lumaOffset : d.lumaOffset.toNat = f.luma.metadata / pageSize
  chromaOffset : d.chromaOffset.toNat = f.chroma.metadata / pageSize
  width : d.widthBytes = byteLength format a.width.toNat
  height : d.height = heightField a format unit

theorem extent_halves {width height : Nat} (narrow : width < UInt16.size)
    (low : height < UInt16.size) (d : Descriptor) :
    widthBytes { d with extent := .ofNat (width * UInt16.size + height) } = width ∧
      Descriptor.height { d with extent := .ofNat (width * UInt16.size + height) } = height := by
  have fits : width * UInt16.size + height < UInt32.size := by
    simp only [UInt16.size, UInt32.size] at *
    omega
  simp only [widthBytes, Descriptor.height, UInt32.toNat_ofNat_of_lt' fits]
  constructor
  · rw [Nat.mul_comm, Nat.mul_add_div (by decide), Nat.div_eq_of_lt low, Nat.add_zero]
  · exact Nat.mul_add_mod_of_lt low

theorem ofFootprint_holds (made : ofFootprint a format f windowBase deviceBase unit = .ok d) :
    d.Holds a format f windowBase deviceBase unit := by
  simp only [ofFootprint, except_bind_eq_ok, bounded_eq_ok] at made
  obtain ⟨start, ⟨_, rfl⟩, _, ⟨line, rfl⟩, _, ⟨width, rfl⟩, _, ⟨height, rfl⟩, _, ⟨_, rfl⟩,
    _, ⟨stride, rfl⟩, _, ⟨rasterStride, rfl⟩, _, ⟨lumaMetadata, rfl⟩, _, ⟨chromaMetadata, rfl⟩,
    _, ⟨lumaOffset, rfl⟩, _, ⟨chromaOffset, rfl⟩, rest⟩ := made
  cases Except.ok.inj rest
  have wide : (windowBase + f.uvOffset) / cacheLineSize < UInt64.size :=
    Nat.lt_trans line (by decide)
  obtain ⟨upper, lower⟩ := extent_halves width height {}
  exact {
    fits := by
      rw [UInt64.toNat_ofNat_of_lt' wide]
      exact line
    uvStart := UInt64.toNat_ofNat_of_lt' wide
    code := rfl
    stride := UInt16.toNat_ofNat_of_lt' stride
    rasterStride := UInt16.toNat_ofNat_of_lt' rasterStride
    lumaMetadata := UInt32.toNat_ofNat_of_lt' lumaMetadata
    chromaMetadata := UInt32.toNat_ofNat_of_lt' chromaMetadata
    lumaOffset := UInt16.toNat_ofNat_of_lt' lumaOffset
    chromaOffset := UInt16.toNat_ofNat_of_lt' chromaOffset
    width := upper
    height := lower }

end TiledSurface.Descriptor
