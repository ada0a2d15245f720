import Mathlib.Algebra.GroupWithZero.Nat
import Mathlib.Data.List.Chain
import TiledSurface.Proofs.Descriptor.Codec
import TiledSurface.Proofs.Window.Pool

namespace TiledSurface

namespace Region

/-- Regions of these sizes, each from where the one before it ends. -/
def row (start : Nat) : List Nat → List Region
  | [] => []
  | size :: rest => ⟨start, size⟩ :: row (start + size) rest

variable {start : Nat} {sizes : List Nat}

theorem row_inside {r : Region} (member : r ∈ row start sizes) :
    start ≤ r.base ∧ r.stop ≤ start + sizes.sum := by
  induction sizes generalizing start with
  | nil => cases member
  | cons size rest ih =>
    rw [List.sum_cons]
    rcases List.mem_cons.mp member with rfl | later
    · simp only [stop]
      omega
    · have inside := ih later
      omega

theorem row_consecutive (start : Nat) (sizes : List Nat) :
    (row start sizes).IsChain fun r s => r.stop = s.base := by
  induction sizes generalizing start with
  | nil => exact .nil
  | cons size rest ih =>
    cases rest with
    | nil => exact .singleton _
    | cons next rest => exact .cons_cons rfl (ih (start + size))

theorem row_disjoint (start : Nat) (sizes : List Nat) :
    (row start sizes).Pairwise Disjoint := by
  induction sizes generalizing start with
  | nil => exact .nil
  | cons size rest ih =>
    refine .cons ?_ (ih (start + size))
    intro later member address inside inside'
    have behind := (row_inside member).1
    simp only [Contains, stop] at inside inside'
    omega

end Region

/-- What the planes take, in the order in which they follow each other. -/
def Footprint.sizes (f : Footprint) : List Nat :=
  [f.luma.metadata, f.luma.pixels, f.chroma.metadata, f.chroma.pixels]

theorem Footprint.sum_sizes {f : Footprint} {span : Nat} (fits : f.deviceBytes? = some span) :
    f.sizes.sum = span := by
  obtain ⟨_, sum⟩ := Word.fit?_eq_some_iff.mp fits
  rw [← sum]
  simp [sizes, Nat.add_assoc]

namespace Descriptor

/-- What the engine uses of device memory for a descriptor: the metadata of the first plane, its
pixels directly behind them, and then the same for the second plane. A descriptor says where the
metadata are, and its footprint how long the pixels go on. -/
def regions (d : Descriptor) (f : Footprint) : List Region :=
  let luma : Region := ⟨d.lumaMetadata.toNat * pageSize, d.lumaOffset.toNat * pageSize⟩
  let chroma : Region := ⟨d.chromaMetadata.toNat * pageSize, d.chromaOffset.toNat * pageSize⟩
  [luma, ⟨luma.stop, f.luma.pixels⟩, chroma, ⟨chroma.stop, f.chroma.pixels⟩]

variable {a : Attributes} {format : TileFormat} {presence : Presence} {f : Footprint}
  {windowBase deviceBase : Nat} {unit : LengthUnit} {d : Descriptor}

/-- From the block of a descriptor the engine finds the planes in a row from the device address
on. -/
theorem regions_decode (computed : Footprint.ofAttributes a format presence = .ok f)
    (aligned : pageSize ∣ deviceBase)
    (made : ofFootprint a format f windowBase deviceBase unit = .ok d) :
    (decode d.encode).regions f = Region.row deviceBase f.sizes := by
  obtain ⟨measured, _⟩ := Footprint.ofAttributes_eq_ok.mp computed
  obtain ⟨⟨lumaMetadata, lumaPixels⟩, chromaMetadata, _⟩ := Footprint.measure?_planes measured
  have holds := ofFootprint_holds made
  have between : pageSize ∣ deviceBase + f.luma.metadata + f.luma.pixels :=
    Nat.dvd_add (Nat.dvd_add aligned lumaMetadata) lumaPixels
  simp only [decode_encode holds.fits, regions, holds.lumaMetadata, holds.lumaOffset,
    holds.chromaMetadata, holds.chromaOffset, Nat.div_mul_cancel aligned,
    Nat.div_mul_cancel lumaMetadata, Nat.div_mul_cancel chromaMetadata,
    Nat.div_mul_cancel between, Region.stop, Footprint.sizes, Region.row]

end Descriptor

end TiledSurface
