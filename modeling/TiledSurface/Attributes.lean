import TiledSurface.Error
import TiledSurface.Format

namespace TiledSurface

/-- The fields keep the raw form in which they cross the device boundary, so a refused record
can still be shown and compared as it came. -/
structure Attributes where
  imageFormat : UInt16
  majorVersion : UInt16 := 0
  minorVersion : UInt16 := 0
  compression : UInt16 := 0
  lossyParameters : UInt16 := 0
  width : UInt32
  height : UInt32
  stride : UInt32
  scanlines : UInt32
  planarPadding : UInt32 := 0
  subsampling : UInt16 := 0
  targets : UInt16 := 1
  yOffset : UInt32 := 0
  batchSize : UInt16 := 1
  deriving DecidableEq

namespace Attributes

def maxWidth : Nat := 10240
def maxHeight : Nat := 10240
def maxStride : Nat := 32768
/-- The scan lines may exceed the height by this many. -/
def maxExtraScanlines : Nat := 10
def maxPlanarPadding : Nat := 4096

/-- A condition on attributes, with the fault of those that break it. -/
structure Rule where
  fault : AttributeFault
  holds : Attributes → Bool

/-- The rules for a record of a known format, in the order in which they are tried. -/
def rules : List Rule :=
  [⟨.compressionVersion, fun a => a.majorVersion = 0 ∧ a.minorVersion = 0⟩,
    ⟨.lossyCompression, fun a => a.compression = 0⟩,
    ⟨.lossyParameters, fun a => a.lossyParameters = 0⟩,
    ⟨.width, fun a => a.width.toNat ≤ maxWidth⟩,
    ⟨.height, fun a => a.height.toNat ≤ maxHeight⟩,
    ⟨.stride, fun a => a.stride.toNat % 64 = 0 ∧ a.width.toNat ≤ a.stride.toNat ∧
      a.stride.toNat ≤ maxStride⟩,
    ⟨.scanlines, fun a => a.height.toNat ≤ a.scanlines.toNat ∧
      a.scanlines.toNat ≤ a.height.toNat + maxExtraScanlines⟩,
    ⟨.padding, fun a => a.planarPadding.toNat ≤ maxPlanarPadding⟩,
    ⟨.subsampling, fun a => a.subsampling = 0⟩,
    ⟨.foreignTarget, fun a => a.targets.toNat ≤ 1⟩,
    ⟨.missingTarget, fun a => a.targets.toNat % 2 = 1⟩,
    ⟨.yOffset, fun a => a.yOffset = 0⟩,
    ⟨.batchSize, fun a => a.batchSize = 1⟩]

/-- The format of a record that meets every rule, or the fault of the first rule broken. -/
def check (a : Attributes) : Except AttributeFault ImageFormat :=
  match ImageFormat.ofCode? a.imageFormat.toNat with
  | none => .error .unknownFormat
  | some format =>
    match rules.find? (fun rule => !rule.holds a) with
    | some rule => .error rule.fault
    | none => .ok format

end Attributes

end TiledSurface
