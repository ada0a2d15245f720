import TiledSurface.Engine.Version
import TiledSurface.Footprint

namespace TiledSurface

/-- The unit in which a descriptor gives the height. -/
inductive LengthUnit where
  | bytes | pixels
  deriving DecidableEq

namespace LengthUnit

/-- Revision 1.1 wants both dimensions in bytes. -/
def ofVersion (version : Version) : LengthUnit :=
  if version = ⟨1, 1⟩ then .bytes else .pixels

def name : LengthUnit → String
  | .bytes => "Bytes"
  | .pixels => "Pixels"

end LengthUnit

structure Descriptor where
  /-- Cache lines, of which the engine takes 48 bits. -/
  uvStart : UInt64 := 0
  format : UInt16 := 0
  /-- Cache lines: the compressed row of the packed ten-bit format, the raster row of others. -/
  stride : UInt16 := 0
  /-- Cache lines: the raster row of the packed ten-bit format. -/
  rasterStride : UInt16 := 0
  /-- Pages, as are the next three. -/
  lumaMetadata : UInt32 := 0
  chromaMetadata : UInt32 := 0
  lumaOffset : UInt16 := 0
  chromaOffset : UInt16 := 0
  /-- The width in bytes in the upper half, the height in the lower half. -/
  extent : UInt32 := 0
  deriving DecidableEq

namespace Descriptor

def widthBytes (d : Descriptor) : Nat := d.extent.toNat / UInt16.size

def height (d : Descriptor) : Nat := d.extent.toNat % UInt16.size

/-- The number itself if it is below the bound. -/
def bounded (bound n : Nat) (fault : AttributeFault) : Except AttributeFault Nat :=
  if n < bound then .ok n else .error fault

/-- Pixels of a first plane as bytes. -/
def byteLength (format : TileFormat) (pixels : Nat) : Nat :=
  pixels * format.byteFormat.lumaPlane.bytes / format.byteFormat.lumaPlane.pixels

def heightField (a : Attributes) (format : TileFormat) : LengthUnit → Nat
  | .bytes => byteLength format a.height.toNat
  | .pixels => a.height.toNat

/-- The two strides in bytes: the one that the engine walks in device memory, and the raster
stride where it differs. -/
def strides (a : Attributes) (format : TileFormat) (f : Footprint) : Nat × Nat :=
  match format with
  | .tp10 => (f.packedStride, a.stride.toNat)
  | _ => (a.stride.toNat, 0)

/-- The descriptor of a surface with its window at `windowBase` and its planes from `deviceBase`
on, or the fault of the first field that cannot hold its value. -/
def ofFootprint (a : Attributes) (format : TileFormat) (f : Footprint)
    (windowBase deviceBase : Nat) (unit : LengthUnit) : Except AttributeFault Descriptor := do
  let uvStart ← bounded Word.limit (windowBase + f.uvOffset) .uvStartOverflow
  let uvLine ← bounded (UInt32.size * UInt16.size) (uvStart / cacheLineSize) .uvStartRange
  let width ← bounded UInt16.size (byteLength format a.width.toNat) .widthField
  let height ← bounded UInt16.size (heightField a format unit) .heightField
  let chroma ← bounded Word.limit (deviceBase + f.luma.metadata + f.luma.pixels)
    .uvMetadataOverflow
  let stride ← bounded UInt16.size ((strides a format f).1 / cacheLineSize) .strideField
  let rasterStride ← bounded UInt16.size ((strides a format f).2 / cacheLineSize) .strideField
  let lumaMetadata ← bounded UInt32.size (deviceBase / pageSize) .addressField
  let chromaMetadata ← bounded UInt32.size (chroma / pageSize) .addressField
  let lumaOffset ← bounded UInt16.size (f.luma.metadata / pageSize) .metadataField
  let chromaOffset ← bounded UInt16.size (f.chroma.metadata / pageSize) .metadataField
  return {
    uvStart := .ofNat uvLine
    format := format.code
    stride := .ofNat stride
    rasterStride := .ofNat rasterStride
    lumaMetadata := .ofNat lumaMetadata
    chromaMetadata := .ofNat chromaMetadata
    lumaOffset := .ofNat lumaOffset
    chromaOffset := .ofNat chromaOffset
    extent := .ofNat (width * UInt16.size + height) }

end Descriptor

end TiledSurface
