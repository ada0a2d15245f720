namespace TiledSurface

structure Dims where
  width : Nat
  height : Nat
  deriving DecidableEq

/-- The tiling of one plane. A pixel takes `bytes / pixels` bytes: the packed ten-bit format
puts three samples into four bytes. -/
structure Plane where
  bytes : Nat
  pixels : Nat
  tile : Dims
  macroTile : Dims
  deriving DecidableEq

/-- The tiled formats that the engine reads and writes. -/
inductive TileFormat where
  | rgba | nv12 | nv124r | p010 | tp10 | p016
  deriving DecidableEq

namespace TileFormat

def lumaPlane : TileFormat → Plane
  | .rgba => ⟨4, 1, ⟨16, 4⟩, ⟨64, 16⟩⟩
  | .nv12 => ⟨1, 1, ⟨32, 8⟩, ⟨128, 32⟩⟩
  | .nv124r => ⟨1, 1, ⟨64, 4⟩, ⟨256, 16⟩⟩
  | .p010 | .p016 => ⟨2, 1, ⟨32, 4⟩, ⟨128, 16⟩⟩
  | .tp10 => ⟨4, 3, ⟨48, 4⟩, ⟨192, 16⟩⟩

/-- The second plane, of half the width and half the height, where the format has one. -/
def chromaPlane? : TileFormat → Option Plane
  | .rgba => none
  | .nv12 => some ⟨2, 1, ⟨16, 8⟩, ⟨64, 32⟩⟩
  | .nv124r => some ⟨2, 1, ⟨32, 4⟩, ⟨128, 16⟩⟩
  | .p010 | .p016 => some ⟨4, 1, ⟨16, 4⟩, ⟨64, 16⟩⟩
  | .tp10 => some ⟨8, 3, ⟨24, 4⟩, ⟨96, 16⟩⟩

def planes (format : TileFormat) : List Plane :=
  format.lumaPlane :: format.chromaPlane?.toList

/-- The number that names the format in a descriptor. -/
def code : TileFormat → UInt16
  | .rgba => 0x0
  | .nv12 => 0x2
  | .nv124r => 0x4
  | .p010 => 0x6
  | .tp10 => 0x8
  | .p016 => 0xA

/-- The format whose first plane turns pixels into bytes in a descriptor: packed ten-bit
surfaces are described in the bytes of the unpacked ten-bit format. -/
def byteFormat : TileFormat → TileFormat
  | .tp10 => .p010
  | format => format

end TileFormat

/-- Which planes of a two-plane format a buffer carries. -/
inductive Presence where
  | both | yOnly | uvOnly
  deriving DecidableEq

namespace Presence

def hasY : Presence → Bool
  | .uvOnly => false
  | _ => true

def hasUv : Presence → Bool
  | .yOnly => false
  | _ => true

end Presence

inductive ImageFormat where
  | linear | rgba8888
  | nv12 | nv12Y | nv12Uv
  | nv124r | nv124rY | nv124rUv
  | tp10 | tp10Y | tp10Uv
  | p010 | p010Y | p010Uv
  | p016 | p016Y | p016Uv
  deriving DecidableEq

namespace ImageFormat

/-- All formats, each at the place of its number. -/
def all : List ImageFormat :=
  [.linear, .rgba8888, .nv12, .nv12Y, .nv12Uv, .nv124r, .nv124rY, .nv124rUv,
    .tp10, .tp10Y, .tp10Uv, .p010, .p010Y, .p010Uv, .p016, .p016Y, .p016Uv]

def ofCode? (code : Nat) : Option ImageFormat := all[code]?

def code (format : ImageFormat) : Nat := all.idxOf format

def name : ImageFormat → String
  | .linear => "Linear"
  | .rgba8888 => "Rgba8888"
  | .nv12 => "Nv12"
  | .nv12Y => "Nv12Y"
  | .nv12Uv => "Nv12Uv"
  | .nv124r => "Nv124r"
  | .nv124rY => "Nv124rY"
  | .nv124rUv => "Nv124rUv"
  | .tp10 => "Tp10"
  | .tp10Y => "Tp10Y"
  | .tp10Uv => "Tp10Uv"
  | .p010 => "P010"
  | .p010Y => "P010Y"
  | .p010Uv => "P010Uv"
  | .p016 => "P016"
  | .p016Y => "P016Y"
  | .p016Uv => "P016Uv"

def ofName? (name : String) : Option ImageFormat := all.find? (·.name == name)

/-- The tiled format and the planes carried; a linear buffer has none. -/
def layout? : ImageFormat → Option (TileFormat × Presence)
  | .linear => none
  | .rgba8888 => some (.rgba, .both)
  | .nv12 => some (.nv12, .both)
  | .nv12Y => some (.nv12, .yOnly)
  | .nv12Uv => some (.nv12, .uvOnly)
  | .nv124r => some (.nv124r, .both)
  | .nv124rY => some (.nv124r, .yOnly)
  | .nv124rUv => some (.nv124r, .uvOnly)
  | .tp10 => some (.tp10, .both)
  | .tp10Y => some (.tp10, .yOnly)
  | .tp10Uv => some (.tp10, .uvOnly)
  | .p010 => some (.p010, .both)
  | .p010Y => some (.p010, .yOnly)
  | .p010Uv => some (.p010, .uvOnly)
  | .p016 => some (.p016, .both)
  | .p016Y => some (.p016, .yOnly)
  | .p016Uv => some (.p016, .uvOnly)

end ImageFormat

end TiledSurface
