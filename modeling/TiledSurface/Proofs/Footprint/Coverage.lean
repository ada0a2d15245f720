import TiledSurface.Proofs.Footprint.Exact

/-!
Every tile has its byte of metadata. Pixels are padded to whole macro tiles, of four by four tiles
each, and the metadata to rows of 64 tiles and to 16 rows. Four divides both, so the metadata
reach as far as the pixels in either direction, however their sizes were rounded.
-/

namespace TiledSurface

namespace Plane

/-- The tiles that a length takes when it is padded to whole macro tiles. -/
def paddedTiles (length tile macroTile : Nat) : Nat := Word.roundUp length macroTile / tile

/-- The tiles that the metadata of a plane can tell apart in a row, and the rows of them. -/
def metadataGrid (plane : Plane) (width height : Nat) : Dims where
  width := Word.roundUp (width ⌈/⌉ plane.tile.width) 64
  height := Word.roundUp (height ⌈/⌉ plane.tile.height) 16

/-- The tiles in a row of the padded pixels, and the rows of them. -/
def pixelGrid (plane : Plane) (width height : Nat) : Dims where
  width := paddedTiles width plane.tile.width plane.macroTile.width
  height := paddedTiles height plane.tile.height plane.macroTile.height

variable {tile pad : Nat}

theorem paddedTiles_eq (positive : 0 < tile) (length : Nat) :
    paddedTiles length tile (4 * tile) = 4 * (length ⌈/⌉ (4 * tile)) := by
  rw [paddedTiles, Word.roundUp, Nat.mul_comm 4 tile, Nat.mul_assoc,
    Nat.mul_div_cancel_left _ positive]

/-- Tiles that are counted first and padded then reach as far as padded macro tiles. -/
theorem paddedTiles_le (positive : 0 < tile) (padded : 0 < pad) (fours : 4 ∣ pad) (length : Nat) :
    paddedTiles length tile (4 * tile) ≤ Word.roundUp (length ⌈/⌉ tile) pad := by
  have covers : length ≤ tile * Word.roundUp (length ⌈/⌉ tile) pad :=
    calc length ≤ tile * (length ⌈/⌉ tile) := le_smul_ceilDiv positive
      _ ≤ tile * Word.roundUp (length ⌈/⌉ tile) pad :=
        Nat.mul_le_mul_left _ (Word.le_roundUp padded _)
  have whole : 4 * tile ∣ tile * Word.roundUp (length ⌈/⌉ tile) pad := by
    rw [Nat.mul_comm 4 tile]
    exact Nat.mul_dvd_mul_left tile (Nat.dvd_trans fours (Nat.dvd_mul_right ..))
  exact Nat.div_le_of_le_mul (Word.roundUp_le (by omega) covers whole)

/-- The sizes of a plane in whole tiles, of which none is without a byte of metadata. -/
structure Covered (plane : Plane) (width height : Nat) (size : PlaneSize) : Prop where
  tile : plane.tile.width * plane.tile.height * plane.bytes = plane.pixels * tileBytes
  whole : plane.tile.width ∣ Word.roundUp width plane.macroTile.width ∧
    plane.tile.height ∣ Word.roundUp height plane.macroTile.height
  pixels : size.pixels =
    (plane.pixelGrid width height).width * (plane.pixelGrid width height).height * tileBytes
  metadata : size.metadata = Word.roundUp
    ((plane.metadataGrid width height).width * (plane.metadataGrid width height).height) pageSize
  columns : (plane.pixelGrid width height).width ≤ (plane.metadataGrid width height).width
  rows : (plane.pixelGrid width height).height ≤ (plane.metadataGrid width height).height

variable {plane : Plane} {size : PlaneSize} {width height : Nat}

theorem Regular.covered (regular : plane.Regular) (width height : Nat) :
    plane.Covered width height (plane.unboundedSize width height) := by
  have columns : 0 < plane.tile.width := Nat.lt_of_lt_of_le (by decide) regular.columns.1
  have rows : 0 < plane.tile.height := Nat.lt_of_lt_of_le (by decide) regular.rows.1
  refine ⟨regular.tile, ⟨?_, ?_⟩, ?_, rfl, ?_, ?_⟩
  · rw [regular.width]
    exact Nat.dvd_mul_right_of_dvd (Nat.dvd_mul_left ..) _
  · rw [regular.height]
    exact Nat.dvd_mul_right_of_dvd (Nat.dvd_mul_left ..) _
  · simp only [unboundedSize, pixelBytes, pixelGrid, regular.width, regular.height,
      paddedTiles_eq columns, paddedTiles_eq rows, tileBytes, pageSize]
    ring
  · rw [pixelGrid, regular.width]
    exact paddedTiles_le columns (by decide) (by decide) width
  · rw [pixelGrid, regular.height]
    exact paddedTiles_le rows (by decide) (by decide) height

theorem Covered.pixels_le (covered : plane.Covered width height size) :
    size.pixels ≤ size.metadata * tileBytes := by
  rw [covered.pixels, covered.metadata]
  apply Nat.mul_le_mul_right
  exact Nat.le_trans (Nat.mul_le_mul covered.columns covered.rows)
    (Word.le_roundUp (by decide) _)

end Plane

namespace Footprint

variable {a : Attributes} {format : TileFormat} {presence : Presence} {f : Footprint}

theorem luma_covered (measured : measure? a format presence = some f)
    (present : presence.hasY) :
    format.lumaPlane.Covered a.width.toNat a.height.toNat f.luma := by
  have regular : format.lumaPlane.Regular := Plane.regular_of_mem List.mem_cons_self
  rw [eq_unbounded a format presence measured, unbounded]
  dsimp only
  rw [if_pos present]
  exact regular.covered a.width.toNat a.height.toNat

theorem chroma_covered (measured : measure? a format presence = some f)
    (present : presence.hasUv) {plane : Plane} (second : format.chromaPlane? = some plane) :
    plane.Covered (a.width.toNat / 2) (a.height.toNat / 2) f.chroma := by
  have member : plane ∈ format.planes := by simp [TileFormat.planes, second]
  rw [eq_unbounded a format presence measured, unbounded]
  dsimp only
  rw [second]
  dsimp only
  rw [if_pos present]
  exact (Plane.regular_of_mem member).covered (a.width.toNat / 2) (a.height.toNat / 2)

theorem luma_absent (measured : measure? a format presence = some f)
    (absent : ¬ presence.hasY) : f.luma = {} := by
  rw [eq_unbounded a format presence measured, unbounded]
  exact if_neg absent

theorem chroma_absent (measured : measure? a format presence = some f)
    (absent : ¬ (presence.hasUv ∧ format.chromaPlane?.isSome)) : f.chroma = {} := by
  rw [eq_unbounded a format presence measured, unbounded]
  dsimp only
  cases second : format.chromaPlane? with
  | none => rfl
  | some plane => exact if_neg fun present => absent ⟨present, by rw [second]; rfl⟩

/-- Whatever the attributes, the metadata of a footprint have a byte for each tile of the padded
pixels. Of a plane that is there no row of tiles is longer than a row of its metadata, and there
are no more rows of tiles than of metadata. -/
theorem metadata_covers_pixels (computed : ofAttributes a format presence = .ok f) :
    f.luma.pixels ≤ f.luma.metadata * 256 ∧ f.chroma.pixels ≤ f.chroma.metadata * 256 ∧
    (presence.hasY → format.lumaPlane.Covered a.width.toNat a.height.toNat f.luma) ∧
    (presence.hasUv → ∀ plane ∈ format.chromaPlane?,
      plane.Covered (a.width.toNat / 2) (a.height.toNat / 2) f.chroma) := by
  obtain ⟨measured, _⟩ := ofAttributes_eq_ok.mp computed
  refine ⟨?_, ?_, luma_covered measured, fun present plane => chroma_covered measured present⟩
  · by_cases present : presence.hasY
    · exact (luma_covered measured present).pixels_le
    · rw [luma_absent measured present]
      exact Nat.zero_le _
  · by_cases present : presence.hasUv ∧ format.chromaPlane?.isSome
    · obtain ⟨shown, second⟩ := present
      obtain ⟨plane, second⟩ := Option.isSome_iff_exists.mp second
      exact (chroma_covered measured shown second).pixels_le
    · rw [chroma_absent measured present]
      exact Nat.zero_le _

/-- Neither side is a multiple of a tile, and the second plane has an odd width. -/
def crookedAttributes : Attributes where
  imageFormat := 2
  width := 130
  height := 34
  stride := 192
  scanlines := 34

/-- The first plane is padded to eight by eight tiles, the second to eight by four. -/
theorem metadata_covers_pixels_crooked :
    ∃ f, ofAttributes crookedAttributes .nv12 .both = .ok f ∧
      f.luma.pixels = 64 * 256 ∧ f.chroma.pixels = 32 * 256 ∧
      f.luma.pixels ≤ f.luma.metadata * 256 ∧ f.chroma.pixels ≤ f.chroma.metadata * 256 ∧
      TileFormat.nv12.lumaPlane.Covered 130 34 f.luma ∧
      ∀ plane ∈ TileFormat.nv12.chromaPlane?, plane.Covered 65 17 f.chroma := by
  have computed : ofAttributes crookedAttributes .nv12 .both =
      .ok ⟨⟨4096, 16384⟩, ⟨4096, 8192⟩, 0, 12288, 6528⟩ := by decide +kernel
  obtain ⟨luma, chroma, first, second⟩ := metadata_covers_pixels computed
  exact ⟨_, computed, rfl, rfl, luma, chroma, first rfl, second rfl⟩

end Footprint

end TiledSurface
