import TiledSurface.Attributes
import TiledSurface.Word

/-!
The footprint of a tiled surface: what its planes take in device memory, with one byte of
metadata for each tile, and the window through which the processor sees it in raster order.
-/

namespace TiledSurface

/-- What one plane takes in device memory. -/
structure PlaneSize where
  metadata : Nat := 0
  pixels : Nat := 0
  deriving DecidableEq

namespace Plane

/-- One byte for each tile: a row of tiles is padded to 64, the rows to 16. -/
def metadataSize? (plane : Plane) (width height : Nat) : Option Nat := do
  let pitch ← Word.roundUp? (Word.ceilDiv width plane.tile.width) 64
  let lines ← Word.roundUp? (Word.ceilDiv height plane.tile.height) 16
  Word.roundUp? (← Word.mul? pitch lines) pageSize

/-- The pixels of all macro tiles that the plane touches. -/
def pixelSize? (plane : Plane) (width height : Nat) : Option Nat := do
  let pitch ← Word.roundUp? width plane.macroTile.width
  let lines ← Word.roundUp? height plane.macroTile.height
  let bytes ← Word.mul? (← Word.mul? pitch lines) plane.bytes
  Word.roundUp? (bytes / plane.pixels) pageSize

def size? (plane : Plane) (width height : Nat) : Option PlaneSize := do
  let metadata ← plane.metadataSize? width height
  let pixels ← plane.pixelSize? width height
  return ⟨metadata, pixels⟩

end Plane

structure Footprint where
  luma : PlaneSize := {}
  chroma : PlaneSize := {}
  /-- The bytes of a compressed row, for the packed ten-bit format only. -/
  packedStride : Nat := 0
  windowSize : Nat := 0
  /-- Where the second plane starts in the window; past its end if there is none. -/
  uvOffset : Nat := 0
  deriving DecidableEq

namespace Footprint

def lumaSize? (a : Attributes) (format : TileFormat) (presence : Presence) : Option PlaneSize :=
  if presence.hasY then format.lumaPlane.size? a.width.toNat a.height.toNat else some {}

/-- The second plane has half the width and half the height, rounded down. -/
def chromaSize? (a : Attributes) (format : TileFormat) (presence : Presence) :
    Option PlaneSize :=
  match format.chromaPlane? with
  | none => some {}
  | some plane =>
    if presence.hasUv then plane.size? (a.width.toNat / 2) (a.height.toNat / 2) else some {}

/-- Rows of the packed ten-bit format are padded to 192 pixels, of which three take four bytes. -/
def packedStride? (a : Attributes) : TileFormat → Option Nat
  | .tp10 => do
    let padded ← Word.roundUp? a.width.toNat 192
    return padded / 3 + padded
  | _ => some 0

/-- The bytes of the window before rounding to pages, and where the second plane starts. -/
def window? (a : Attributes) (format : TileFormat) (presence : Presence) :
    Option (Nat × Nat) := do
  let y ← Word.mul? a.stride.toNat a.scanlines.toNat
  let uv ← Word.mul? a.stride.toNat (a.scanlines.toNat / 2)
  match format.chromaPlane?, presence with
  | none, _ | _, .yOnly => return (y, y)
  | some _, .both =>
    let start ← Word.add? y a.planarPadding.toNat
    return (← Word.add? start uv, start)
  | some _, .uvOnly => return (uv, 0)

/-- All sizes, unless one of them does not fit 64 bits. -/
def measure? (a : Attributes) (format : TileFormat) (presence : Presence) :
    Option Footprint := do
  let luma ← lumaSize? a format presence
  let chroma ← chromaSize? a format presence
  let packedStride ← packedStride? a format
  let (bytes, uvOffset) ← window? a format presence
  let windowSize ← Word.roundUp? bytes pageSize
  return { luma, chroma, packedStride, windowSize, uvOffset }

/-- The footprint of a surface with these attributes, which need not be valid. -/
def ofAttributes (a : Attributes) (format : TileFormat) (presence : Presence) :
    Except AttributeFault Footprint :=
  match measure? a format presence with
  | none => .error .sizeOverflow
  | some footprint => if footprint.windowSize = 0 then .error .emptyWindow else .ok footprint

/-- The bytes of device memory that all planes take together. -/
def deviceBytes? (f : Footprint) : Option Nat :=
  Word.fit? (f.luma.metadata + f.luma.pixels + f.chroma.metadata + f.chroma.pixels)

end Footprint

end TiledSurface
