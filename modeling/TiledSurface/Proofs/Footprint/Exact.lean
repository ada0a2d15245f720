import Mathlib.Tactic.Ring
import TiledSurface.Proofs.Footprint
import TiledSurface.Proofs.Rounding

/-!
Footprints in numbers without bound. What is computed in 64 bits is the exact footprint, whose
planes take one page for each macro tile, or it is refused, and it is refused only if the padded
bytes of a plane that is there, or the window of two planes, do not fit 64 bits.
-/

namespace TiledSurface

namespace Plane

/-- The tiling of all planes that there are: a macro tile takes a page. -/
structure Paged (plane : Plane) : Prop where
  columns : 16 ≤ plane.tile.width
  rows : 4 ≤ plane.tile.height
  width : 0 < plane.macroTile.width ∧ plane.macroTile.width ≤ 256
  height : 0 < plane.macroTile.height ∧ plane.macroTile.height ≤ 256
  shared : 0 < plane.pixels
  bytes : 0 < plane.bytes
  page : plane.macroTile.width * plane.macroTile.height * plane.bytes = plane.pixels * pageSize

theorem paged_of_mem {format : TileFormat} {plane : Plane} (member : plane ∈ format.planes) :
    plane.Paged := by
  have regular := regular_of_mem member
  obtain ⟨columns, columns'⟩ := regular.columns
  obtain ⟨rows, rows'⟩ := regular.rows
  have width := regular.width
  have height := regular.height
  have page : plane.macroTile.width * plane.macroTile.height * plane.bytes =
      plane.pixels * pageSize :=
    calc plane.macroTile.width * plane.macroTile.height * plane.bytes
        = 16 * (plane.tile.width * plane.tile.height * plane.bytes) := by
          rw [width, height]
          ring
      _ = plane.pixels * pageSize := by
          rw [regular.tile, tileBytes, pageSize]
          ring
  exact ⟨columns, rows, by omega, by omega, regular.shared, regular.bytes.1, page⟩

/-- A byte for each tile, in rows of tiles padded to 64 and as many rows as a multiple of 16. -/
def metadataBytes (plane : Plane) (width height : Nat) : Nat :=
  Word.roundUp (Word.roundUp (width ⌈/⌉ plane.tile.width) 64 *
    Word.roundUp (height ⌈/⌉ plane.tile.height) 16) pageSize

def pixelBytes (plane : Plane) (width height : Nat) : Nat :=
  pageSize * (width ⌈/⌉ plane.macroTile.width) * (height ⌈/⌉ plane.macroTile.height)

/-- The bytes of all macro tiles before they are divided among the pixels that share them. -/
def paddedBytes (plane : Plane) (width height : Nat) : Nat :=
  Word.roundUp width plane.macroTile.width * Word.roundUp height plane.macroTile.height *
    plane.bytes

def unboundedSize (plane : Plane) (width height : Nat) : PlaneSize :=
  ⟨plane.metadataBytes width height, plane.pixelBytes width height⟩

variable {plane : Plane} {width height : Nat}

theorem Paged.paddedBytes_eq (paged : plane.Paged) (width height : Nat) :
    plane.paddedBytes width height = plane.pixels * plane.pixelBytes width height := by
  calc plane.paddedBytes width height
      = plane.macroTile.width * plane.macroTile.height * plane.bytes *
          ((width ⌈/⌉ plane.macroTile.width) * (height ⌈/⌉ plane.macroTile.height)) := by
        rw [paddedBytes, Word.roundUp, Word.roundUp]
        ring
    _ = plane.pixels * plane.pixelBytes width height := by
        rw [paged.page, pixelBytes]
        ring

theorem Paged.metadataSize?_eq (paged : plane.Paged) (narrow : width < 2 ^ 32)
    (low : height < 2 ^ 32) :
    plane.metadataSize? width height = some (plane.metadataBytes width height) := by
  have columns : 0 < plane.tile.width := Nat.lt_of_lt_of_le (by decide) paged.columns
  have rows : 0 < plane.tile.height := Nat.lt_of_lt_of_le (by decide) paged.rows
  have across : width ⌈/⌉ plane.tile.width ≤ 2 ^ 28 :=
    (ceilDiv_le_iff_le_mul columns).mpr (by have := paged.columns; omega)
  have down : height ⌈/⌉ plane.tile.height ≤ 2 ^ 30 :=
    (ceilDiv_le_iff_le_mul rows).mpr (by have := paged.rows; omega)
  have pitch := Word.roundUp_lt (by decide : 0 < 64) (width ⌈/⌉ plane.tile.width)
  have lines := Word.roundUp_lt (by decide : 0 < 16) (height ⌈/⌉ plane.tile.height)
  have area : Word.roundUp (width ⌈/⌉ plane.tile.width) 64 *
      Word.roundUp (height ⌈/⌉ plane.tile.height) 16 ≤ (2 ^ 28 + 64) * (2 ^ 30 + 16) :=
    Nat.mul_le_mul (by omega) (by omega)
  have whole := Word.roundUp_lt (by decide : 0 < pageSize)
    (Word.roundUp (width ⌈/⌉ plane.tile.width) 64 *
      Word.roundUp (height ⌈/⌉ plane.tile.height) 16)
  have page : pageSize = 4096 := rfl
  rw [metadataSize?, Word.ceilDiv_eq columns, Word.ceilDiv_eq rows,
    Word.roundUp?_narrow (by decide) (by decide) (by omega),
    Word.roundUp?_narrow (by decide) (by decide) (by omega)]
  dsimp only [Option.bind_eq_bind, Option.bind_some]
  rw [Word.mul?_of_small (by omega), Option.bind_some, Word.roundUp?_eq (by decide)]
  exact Word.fit?_of_small (by omega)

theorem Paged.pixelSize?_eq (paged : plane.Paged) (narrow : width < 2 ^ 32)
    (low : height < 2 ^ 32) :
    plane.pixelSize? width height =
      if Word.limit ≤ plane.paddedBytes width height then none
      else some (plane.pixelBytes width height) := by
  have padded := paged.paddedBytes_eq width height
  rw [pixelSize?, Word.roundUp?_narrow paged.width.1 paged.width.2 narrow,
    Word.roundUp?_narrow paged.height.1 paged.height.2 low]
  dsimp only [Option.bind_eq_bind, Option.bind_some, Word.mul?]
  by_cases long : Word.limit ≤ plane.paddedBytes width height
  · rw [if_pos long]
    by_cases area : Word.limit ≤ Word.roundUp width plane.macroTile.width *
        Word.roundUp height plane.macroTile.height
    · rw [Word.fit?_of_le area, Option.bind_none]
    · rw [Word.fit?_of_lt (Nat.not_le.mp area), Option.bind_some]
      exact congrArg (Option.bind · _) (Word.fit?_of_le long)
  · have fits := Nat.not_le.mp long
    have area : Word.roundUp width plane.macroTile.width *
        Word.roundUp height plane.macroTile.height < Word.limit :=
      Nat.lt_of_le_of_lt (Nat.le_mul_of_pos_right _ paged.bytes) fits
    have share : plane.pixelBytes width height < Word.limit :=
      Nat.lt_of_le_of_lt (padded ▸ Nat.le_mul_of_pos_left _ paged.shared) fits
    have pages : pageSize ∣ plane.pixelBytes width height :=
      Dvd.intro _ (Nat.mul_assoc ..).symm
    rw [if_neg long, Word.fit?_of_lt area, Option.bind_some]
    change (Word.fit? (plane.paddedBytes width height)).bind _ = _
    rw [Word.fit?_of_lt fits, Option.bind_some, padded, Nat.mul_div_cancel_left _ paged.shared]
    exact Word.roundUp?_of_dvd (by decide) pages share

theorem Paged.size?_eq (paged : plane.Paged) (narrow : width < 2 ^ 32) (low : height < 2 ^ 32) :
    plane.size? width height =
      if Word.limit ≤ plane.paddedBytes width height then none
      else some (plane.unboundedSize width height) := by
  rw [size?, paged.metadataSize?_eq narrow low, paged.pixelSize?_eq narrow low]
  split <;> rfl

end Plane

namespace Footprint

/-- The bytes of the window, and where the second plane starts in it. -/
def window (a : Attributes) (format : TileFormat) (presence : Presence) : Nat × Nat :=
  let y := a.stride.toNat * a.scanlines.toNat
  let uv := a.stride.toNat * (a.scanlines.toNat / 2)
  match format.chromaPlane?, presence with
  | none, _ | _, .yOnly => (y, y)
  | some _, .both => (y + a.planarPadding.toNat + uv, y + a.planarPadding.toNat)
  | some _, .uvOnly => (uv, 0)

/-- The footprint in numbers without bound. A plane that is not there takes nothing. -/
def unbounded (a : Attributes) (format : TileFormat) (presence : Presence) : Footprint where
  luma :=
    if presence.hasY then format.lumaPlane.unboundedSize a.width.toNat a.height.toNat else {}
  chroma :=
    match format.chromaPlane? with
    | none => {}
    | some plane =>
      if presence.hasUv then plane.unboundedSize (a.width.toNat / 2) (a.height.toNat / 2) else {}
  packedStride := if format = .tp10 then Word.roundUp a.width.toNat 192 * 4 / 3 else 0
  windowSize := Word.roundUp (window a format presence).1 pageSize
  uvOffset := (window a format presence).2

/-- What does not fit 64 bits: the padded bytes of a plane that is there, or the window of two
planes in whole pages. -/
def Overflows (a : Attributes) (format : TileFormat) (presence : Presence) : Prop :=
  (presence.hasY ∧ Word.limit ≤ format.lumaPlane.paddedBytes a.width.toNat a.height.toNat) ∨
  (presence.hasUv ∧ ∃ plane ∈ format.chromaPlane?,
    Word.limit ≤ plane.paddedBytes (a.width.toNat / 2) (a.height.toNat / 2)) ∨
  (presence = .both ∧ format.chromaPlane? ≠ none ∧
    Word.limit ≤ (unbounded a format presence).windowSize)

instance (a : Attributes) (format : TileFormat) (presence : Presence) :
    Decidable (Overflows a format presence) :=
  inferInstanceAs (Decidable (_ ∨ _ ∨ _))

variable (a : Attributes) (format : TileFormat) (presence : Presence)

theorem lumaSize?_eq :
    lumaSize? a format presence =
      if presence.hasY ∧ Word.limit ≤ format.lumaPlane.paddedBytes a.width.toNat a.height.toNat
        then none else some (unbounded a format presence).luma := by
  have paged : format.lumaPlane.Paged := Plane.paged_of_mem List.mem_cons_self
  rw [lumaSize?, unbounded, paged.size?_eq a.width.toNat_lt a.height.toNat_lt]
  cases presence.hasY <;> simp

theorem chromaSize?_eq :
    chromaSize? a format presence =
      if presence.hasUv ∧ ∃ plane ∈ format.chromaPlane?,
          Word.limit ≤ plane.paddedBytes (a.width.toNat / 2) (a.height.toNat / 2)
        then none else some (unbounded a format presence).chroma := by
  have narrow : a.width.toNat / 2 < 2 ^ 32 :=
    Nat.lt_of_le_of_lt (Nat.div_le_self ..) a.width.toNat_lt
  have low : a.height.toNat / 2 < 2 ^ 32 :=
    Nat.lt_of_le_of_lt (Nat.div_le_self ..) a.height.toNat_lt
  rw [chromaSize?, unbounded]
  cases second : format.chromaPlane? with
  | none => simp
  | some plane =>
    have member : plane ∈ format.planes := by simp [TileFormat.planes, second]
    dsimp only
    rw [(Plane.paged_of_mem member).size?_eq narrow low]
    cases presence.hasUv <;> simp

theorem packedStride?_eq :
    packedStride? a format = some (unbounded a format presence).packedStride := by
  cases format
  case tp10 =>
    have thirds : Word.roundUp a.width.toNat 192 = 3 * (64 * (a.width.toNat ⌈/⌉ 192)) := by
      rw [Word.roundUp]
      omega
    rw [packedStride?, Word.roundUp?_narrow (by decide) (by decide) a.width.toNat_lt]
    dsimp only [Option.bind_eq_bind, Option.bind_some, unbounded]
    rw [if_pos rfl, thirds]
    exact congrArg some (by omega)
  all_goals rfl

theorem rows_small (lines : Nat) (few : lines ≤ a.scanlines.toNat) :
    a.stride.toNat * lines ≤ 2 ^ 64 - 2 ^ 33 + 1 := by
  have stride := a.stride.toNat_lt
  have scanlines := a.scanlines.toNat_lt
  exact Nat.le_trans (Nat.mul_le_mul (by omega : _ ≤ 2 ^ 32 - 1) (by omega : _ ≤ 2 ^ 32 - 1))
    (by decide)

/-- Only the window of two planes can be too large. -/
theorem two_planes_of_long (long : Word.limit ≤ (unbounded a format presence).windowSize) :
    presence = .both ∧ format.chromaPlane? ≠ none := by
  have y := rows_small a a.scanlines.toNat (Nat.le_refl _)
  have uv := rows_small a (a.scanlines.toNat / 2) (Nat.div_le_self ..)
  have near := Word.roundUp_lt (by decide : 0 < pageSize) (window a format presence).1
  have range : Word.limit = 2 ^ 64 := rfl
  have page : pageSize = 4096 := rfl
  have large : 2 ^ 64 - 2 ^ 33 + 1 < (window a format presence).1 := by
    simp only [unbounded] at long
    omega
  cases second : format.chromaPlane? with
  | none =>
    simp only [window, second] at large
    omega
  | some plane =>
    cases presence with
    | both => exact ⟨rfl, nofun⟩
    | yOnly =>
      simp only [window, second] at large
      omega
    | uvOnly =>
      simp only [window, second] at large
      omega

theorem window?_eq :
    window? a format presence =
      if (window a format presence).1 < Word.limit then some (window a format presence)
      else none := by
  have y := rows_small a a.scanlines.toNat (Nat.le_refl _)
  have uv := rows_small a (a.scanlines.toNat / 2) (Nat.div_le_self ..)
  have padding := a.planarPadding.toNat_lt
  have range : Word.limit = 2 ^ 64 := rfl
  rw [window?, Word.mul?, Word.mul?, Word.fit?_of_lt (by omega), Word.fit?_of_lt (by omega)]
  dsimp only [Option.bind_eq_bind, Option.bind_some]
  cases second : format.chromaPlane? with
  | none =>
    simp only [window, second]
    exact (if_pos (by omega)).symm
  | some plane =>
    cases presence with
    | both =>
      simp only [window, second, Word.add?]
      rw [Word.fit?_of_lt (by omega), Option.bind_some, Word.fit?]
      split <;> rfl
    | yOnly =>
      simp only [window, second]
      exact (if_pos (by omega)).symm
    | uvOnly =>
      simp only [window, second]
      exact (if_pos (by omega)).symm

theorem measure?_eq :
    measure? a format presence =
      if Overflows a format presence then none else some (unbounded a format presence) := by
  rw [measure?, lumaSize?_eq, chromaSize?_eq, packedStride?_eq a format presence, window?_eq]
  split
  · rename_i luma
    have overflows : Overflows a format presence := .inl luma
    rw [if_pos overflows]
    rfl
  rename_i luma
  split
  · rename_i chroma
    have overflows : Overflows a format presence := .inr (.inl chroma)
    rw [if_pos overflows]
    rfl
  rename_i chroma
  have rounded : Word.roundUp? (window a format presence).1 pageSize =
      Word.fit? (unbounded a format presence).windowSize := Word.roundUp?_eq (by decide) _
  by_cases long : Word.limit ≤ (unbounded a format presence).windowSize
  · obtain ⟨both, second⟩ := two_planes_of_long a format presence long
    have overflows : Overflows a format presence := .inr (.inr ⟨both, second, long⟩)
    rw [Word.fit?_of_le long] at rounded
    rw [if_pos overflows]
    split
    · simp [rounded]
    · rfl
  · have overflows : ¬ Overflows a format presence := by
      rintro (large | large | ⟨_, _, large⟩)
      · exact luma large
      · exact chroma large
      · exact long large
    have fits := Nat.not_le.mp long
    have bytes : (window a format presence).1 < Word.limit :=
      Nat.lt_of_le_of_lt (Word.le_roundUp (by decide) _) fits
    rw [Word.fit?_of_lt fits] at rounded
    rw [if_neg overflows, if_pos bytes]
    simp [rounded, unbounded]

/-- A footprint that comes out of the computation is the exact one. -/
theorem eq_unbounded {footprint : Footprint}
    (measured : measure? a format presence = some footprint) :
    footprint = unbounded a format presence := by
  rw [measure?_eq] at measured
  split at measured
  · cases measured
  · exact (Option.some.inj measured).symm

/-- The footprint is computed exactly or refused, for all attributes, valid or not. The padded bytes
of a plane are the bytes of its macro tiles, a page for each, times the pixels that share them. -/
theorem ofAttributes_exact :
    (∀ plane ∈ format.planes, ∀ width height,
      plane.paddedBytes width height = plane.pixels * plane.pixelBytes width height) ∧
    ofAttributes a format presence =
      if Overflows a format presence then .error .sizeOverflow
      else if (unbounded a format presence).windowSize = 0 then .error .emptyWindow
      else .ok (unbounded a format presence) := by
  refine ⟨fun plane member => (Plane.paged_of_mem member).paddedBytes_eq, ?_⟩
  rw [ofAttributes, measure?_eq]
  by_cases overflows : Overflows a format presence
  · rw [if_pos overflows, if_pos overflows]
  · rw [if_neg overflows, if_neg overflows]

end Footprint

end TiledSurface
