import TiledSurface.Error
import TiledSurface.OrderedMap
import TiledSurface.Window.Region
import TiledSurface.Word

namespace TiledSurface

/-- What the processor sees where a buffer is mapped: the buffer's own pages, or a window. -/
inductive CpuMapping where
  | linear
  | window (region : Region)
  deriving DecidableEq

/-- Where the engine sees an attached buffer. -/
structure DeviceMapping where
  base : Nat
  length : Nat
  deriving DecidableEq

structure Buffer where
  mapping : DeviceMapping
  attached : Bool := false
  cpu : CpuMapping := .linear
  deriving DecidableEq

structure Buffers where
  records : OrderedMap Buffer := .empty
  /-- The device addresses given out so far end here. -/
  nextBase : Nat := 0
  failingMaps : Nat := 0
  failingAttaches : Nat := 0

namespace Buffers

/-- Device addresses are given out from here on. -/
def firstBase : Nat := 0x10000000

/-- Registers a buffer on fresh device addresses, at least a page of them. An earlier record of
the handle is lost. -/
def register (b : Buffers) (handle : Handle) (length : Nat) : Buffers :=
  let base := max b.nextBase firstBase
  { b with
    nextBase := base + max (Word.ceilDiv length pageSize) 1 * pageSize
    records := b.records.insert handle { mapping := ⟨base, length⟩ } }

def map (b : Buffers) (handle : Handle) (cpu : CpuMapping) : Except PlatformError Unit × Buffers :=
  match b.failingMaps with
  | failures + 1 => (.error (.rejected .mapping), { b with failingMaps := failures })
  | 0 =>
    match b.records.find? handle with
    | none => (.error (.unknownBuffer handle), b)
    | some buffer => (.ok (), { b with records := b.records.insert handle { buffer with cpu } })

/-- Lets the engine see a buffer. A buffer has one attachment at a time. -/
def attach (b : Buffers) (handle : Handle) : Except PlatformError DeviceMapping × Buffers :=
  match b.failingAttaches with
  | failures + 1 => (.error (.rejected .attach), { b with failingAttaches := failures })
  | 0 =>
    match b.records.find? handle with
    | none => (.error (.unknownBuffer handle), b)
    | some buffer =>
      if buffer.attached then (.error (.alreadyAttached handle), b)
      else (.ok buffer.mapping,
        { b with records := b.records.insert handle { buffer with attached := true } })

def detach (b : Buffers) (handle : Handle) : Buffers :=
  { b with records := b.records.modify handle fun buffer => { buffer with attached := false } }

def attachments (b : Buffers) : Nat := b.records.values.countP (·.attached)

end Buffers

end TiledSurface
