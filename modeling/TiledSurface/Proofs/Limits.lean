import TiledSurface.Proofs.Descriptor.Codec
import TiledSurface.Proofs.Driver.Plans
import TiledSurface.Proofs.Footprint.Exact

/-!
Valid attributes keep every size in range. Their footprint can always be computed, its planes are
far smaller than the fields that describe them, and so a descriptor can fail for two reasons only:
the second plane starts too high in the window addresses, or the planes reach too high in the
device addresses.
-/

namespace TiledSurface

namespace Attributes

variable {a : Attributes} {format : ImageFormat}

theorem check_eq_ok :
    a.check = .ok format ↔
      ImageFormat.ofCode? a.imageFormat.toNat = some format ∧
        ∀ rule ∈ rules, rule.holds a = true := by
  unfold check
  cases ImageFormat.ofCode? a.imageFormat.toNat with
  | none => simp
  | some known =>
    dsimp only
    cases broken : rules.find? fun rule => !rule.holds a with
    | some rule =>
      have member := List.mem_of_find?_eq_some broken
      have fails := List.find?_some broken
      simp only [reduceCtorEq, false_iff, not_and, not_forall]
      intro _
      exact ⟨rule, member, by simpa using fails⟩
    | none =>
      have holds := List.find?_eq_none.mp broken
      simp only [Bool.not_eq_true', Bool.not_eq_false] at holds
      rw [Except.ok.injEq, Option.some.injEq, and_iff_left holds]

/-- What the rules say of the numbers from which sizes are computed. -/
structure InRange (a : Attributes) : Prop where
  width : a.width.toNat ≤ maxWidth
  height : a.height.toNat ≤ maxHeight
  stride : a.stride.toNat ≤ maxStride
  lines : cacheLineSize ∣ a.stride.toNat
  scanlines : a.scanlines.toNat ≤ a.height.toNat + maxExtraScanlines
  padding : a.planarPadding.toNat ≤ maxPlanarPadding

theorem inRange (checked : a.check = .ok format) : a.InRange := by
  have holds := (check_eq_ok.mp checked).2
  simp only [rules, List.forall_mem_cons, decide_eq_true_eq] at holds
  obtain ⟨_, _, _, width, height, ⟨lines, _, stride⟩, ⟨_, scanlines⟩, padding, _⟩ := holds
  exact ⟨width, height, stride, Nat.dvd_of_mod_eq_zero lines, scanlines, padding⟩

end Attributes

/-- Both parts of a plane fit their fields in a descriptor, and the planes together fit 32 bits. -/
structure PlaneSize.Small (size : PlaneSize) : Prop where
  metadata : size.metadata < 2 ^ 28
  pixels : size.pixels < 2 ^ 30

namespace Plane

/-- The tiling of all planes that there are. -/
structure Moderate (plane : Plane) : Prop where
  columns : 0 < plane.tile.width
  rows : 0 < plane.tile.height
  width : 0 < plane.macroTile.width ∧ plane.macroTile.width ≤ 256
  height : 0 < plane.macroTile.height ∧ plane.macroTile.height ≤ 32
  bytes : plane.bytes ≤ 8

theorem moderate_of_mem {format : TileFormat} {plane : Plane} (member : plane ∈ format.planes) :
    plane.Moderate := by
  have regular := regular_of_mem member
  obtain ⟨columns, columns'⟩ := regular.columns
  obtain ⟨rows, rows'⟩ := regular.rows
  have width := regular.width
  have height := regular.height
  exact ⟨by omega, by omega, by omega, by omega, regular.bytes.2⟩

variable {plane : Plane} {width height : Nat}

theorem Moderate.metadataBytes_lt (moderate : plane.Moderate) (narrow : width ≤ 10240)
    (low : height ≤ 10240) : plane.metadataBytes width height < 2 ^ 28 := by
  have across : width ⌈/⌉ plane.tile.width ≤ width :=
    Word.ceilDiv_eq moderate.columns width ▸ Word.ceilDiv_le moderate.columns width
  have down : height ⌈/⌉ plane.tile.height ≤ height :=
    Word.ceilDiv_eq moderate.rows height ▸ Word.ceilDiv_le moderate.rows height
  have pitch := Word.roundUp_lt (by decide : 0 < 64) (width ⌈/⌉ plane.tile.width)
  have lines := Word.roundUp_lt (by decide : 0 < 16) (height ⌈/⌉ plane.tile.height)
  have area : Word.roundUp (width ⌈/⌉ plane.tile.width) 64 *
      Word.roundUp (height ⌈/⌉ plane.tile.height) 16 ≤ 10303 * 10255 :=
    Nat.mul_le_mul (by omega) (by omega)
  calc plane.metadataBytes width height
      < Word.roundUp (width ⌈/⌉ plane.tile.width) 64 *
          Word.roundUp (height ⌈/⌉ plane.tile.height) 16 + pageSize :=
        Word.roundUp_lt (by decide) _
    _ ≤ 10303 * 10255 + pageSize := Nat.add_le_add_right area _
    _ < 2 ^ 28 := by decide

theorem Moderate.paddedBytes_lt (moderate : plane.Moderate) (narrow : width ≤ 10240)
    (low : height ≤ 10240) : plane.paddedBytes width height < 2 ^ 30 := by
  obtain ⟨positive, bounded⟩ := moderate.width
  obtain ⟨positive', bounded'⟩ := moderate.height
  have pitch := Word.roundUp_lt positive width
  have lines := Word.roundUp_lt positive' height
  calc plane.paddedBytes width height
      ≤ 10496 * 10272 * 8 :=
        Nat.mul_le_mul (Nat.mul_le_mul (by omega) (by omega)) moderate.bytes
    _ < 2 ^ 30 := by decide

theorem small_of_mem {format : TileFormat} (member : plane ∈ format.planes)
    (narrow : width ≤ 10240) (low : height ≤ 10240) :
    plane.paddedBytes width height < Word.limit ∧ (plane.unboundedSize width height).Small := by
  have paged := paged_of_mem member
  have padded := (moderate_of_mem member).paddedBytes_lt narrow low
  have shared : plane.pixelBytes width height ≤ plane.paddedBytes width height :=
    paged.paddedBytes_eq width height ▸ Nat.le_mul_of_pos_left _ paged.shared
  exact ⟨Word.lt_limit (Nat.lt_trans padded (by decide)),
    (moderate_of_mem member).metadataBytes_lt narrow low, Nat.lt_of_le_of_lt shared padded⟩

end Plane

namespace Footprint

variable {a : Attributes}

/-- The second plane starts on a cache line, unless it follows the first one behind a padding
that is not in cache lines. -/
def LineAligned (a : Attributes) (format : TileFormat) (presence : Presence) : Prop :=
  ¬ (format.chromaPlane? ≠ none ∧ presence = .both ∧ ¬ cacheLineSize ∣ a.planarPadding.toNat)

structure Modest (a : Attributes) (format : TileFormat) (presence : Presence) (f : Footprint) :
    Prop where
  luma : f.luma.Small
  chroma : f.chroma.Small
  packed : f.packedStride < 2 ^ 20
  inside : f.uvOffset ≤ f.windowSize
  aligned : cacheLineSize ∣ f.uvOffset ↔ LineAligned a format presence

theorem luma_small (inRange : a.InRange) (format : TileFormat) :
    format.lumaPlane.paddedBytes a.width.toNat a.height.toNat < Word.limit ∧
      (format.lumaPlane.unboundedSize a.width.toNat a.height.toNat).Small :=
  Plane.small_of_mem List.mem_cons_self inRange.width inRange.height

theorem chroma_small (inRange : a.InRange) {format : TileFormat} {plane : Plane}
    (second : format.chromaPlane? = some plane) :
    plane.paddedBytes (a.width.toNat / 2) (a.height.toNat / 2) < Word.limit ∧
      (plane.unboundedSize (a.width.toNat / 2) (a.height.toNat / 2)).Small := by
  have member : plane ∈ format.planes := by simp [TileFormat.planes, second]
  have half := Nat.div_le_self a.width.toNat 2
  have half' := Nat.div_le_self a.height.toNat 2
  exact Plane.small_of_mem member (Nat.le_trans half inRange.width)
    (Nat.le_trans half' inRange.height)

theorem window_small (inRange : a.InRange) (format : TileFormat) (presence : Presence) :
    (window a format presence).1 < 2 ^ 31 ∧
      (window a format presence).2 ≤ (window a format presence).1 ∧
      (cacheLineSize ∣ (window a format presence).2 ↔ LineAligned a format presence) := by
  have scanlines : a.scanlines.toNat ≤ 10250 :=
    Nat.le_trans inRange.scanlines (Nat.add_le_add_right inRange.height 10)
  have padding : a.planarPadding.toNat ≤ 4096 := inRange.padding
  have y_le : a.stride.toNat * a.scanlines.toNat ≤ 32768 * 10250 :=
    Nat.mul_le_mul inRange.stride scanlines
  have uv_le : a.stride.toNat * (a.scanlines.toNat / 2) ≤ a.stride.toNat * a.scanlines.toNat :=
    Nat.mul_le_mul_left _ (Nat.div_le_self ..)
  have y_aligned : cacheLineSize ∣ a.stride.toNat * a.scanlines.toNat :=
    Nat.dvd_mul_right_of_dvd inRange.lines _
  unfold window LineAligned
  generalize a.stride.toNat * a.scanlines.toNat = y at *
  generalize a.stride.toNat * (a.scanlines.toNat / 2) = uv at *
  cases format.chromaPlane? with
  | none => exact ⟨by dsimp only; omega, Nat.le_refl _, by simp [y_aligned]⟩
  | some plane =>
    cases presence with
    | yOnly => exact ⟨by dsimp only; omega, Nat.le_refl _, by simp [y_aligned]⟩
    | uvOnly => exact ⟨by dsimp only; omega, Nat.zero_le _, by simp⟩
    | both => exact ⟨by dsimp only; omega, by dsimp only; omega,
        by simp [Nat.dvd_add_right y_aligned]⟩

theorem not_overflows (inRange : a.InRange) (format : TileFormat) (presence : Presence) :
    ¬ Overflows a format presence := by
  rintro (⟨_, large⟩ | ⟨_, plane, second, large⟩ | ⟨_, _, large⟩)
  · exact Nat.not_lt.mpr large (luma_small inRange format).1
  · exact Nat.not_lt.mpr large (chroma_small inRange second).1
  · have small := (window_small inRange format presence).1
    have near := Word.roundUp_lt (by decide : 0 < pageSize) (window a format presence).1
    have page : pageSize = 4096 := rfl
    exact Nat.not_lt.mpr large (Word.lt_limit (by simp only [unbounded]; omega))

theorem modest_unbounded (inRange : a.InRange) (format : TileFormat) (presence : Presence) :
    Modest a format presence (unbounded a format presence) := by
  have empty : PlaneSize.Small {} := ⟨by decide, by decide⟩
  obtain ⟨_, inside, aligned⟩ := window_small inRange format presence
  refine ⟨?_, ?_, ?_, Nat.le_trans inside (Word.le_roundUp (by decide) _), aligned⟩
  · unfold unbounded
    dsimp only
    split
    · exact (luma_small inRange format).2
    · exact empty
  · unfold unbounded
    dsimp only
    cases second : format.chromaPlane? with
    | none => exact empty
    | some plane =>
      dsimp only
      split
      · exact (chroma_small inRange second).2
      · exact empty
  · have width : a.width.toNat ≤ 10240 := inRange.width
    have near := Word.roundUp_lt (by decide : 0 < 192) a.width.toNat
    unfold unbounded
    dsimp only
    split <;> omega

theorem exists_measure? (inRange : a.InRange) (format : TileFormat) (presence : Presence) :
    ∃ f, measure? a format presence = some f ∧ Modest a format presence f :=
  ⟨_, by rw [measure?_eq, if_neg (not_overflows inRange format presence)],
    modest_unbounded inRange format presence⟩

theorem Modest.exists_deviceBytes? {format : TileFormat} {presence : Presence} {f : Footprint}
    (modest : Modest a format presence f) : ∃ span, f.deviceBytes? = some span := by
  have := modest.luma.metadata
  have := modest.luma.pixels
  have := modest.chroma.metadata
  have := modest.chroma.pixels
  exact ⟨_, Word.fit?_of_small (by omega)⟩

end Footprint

theorem Attributes.plan?_tiled {a : Attributes} {image : ImageFormat} {format : TileFormat}
    {presence : Presence} {f : Footprint} {span : Nat} (checked : a.check = .ok image)
    (layout : image.layout? = some (format, presence))
    (measured : Footprint.measure? a format presence = some f)
    (spanned : f.deviceBytes? = some span) :
    a.plan? = if f.windowSize = 0 then .error .emptyWindow else .ok (some ⟨format, f, span⟩) := by
  unfold plan? Footprint.ofAttributes
  rw [checked]
  simp only [bind, Except.bind, layout, measured]
  by_cases empty : f.windowSize = 0
  · simp only [if_pos empty]
  · simp only [if_neg empty, spanned]
    rfl

namespace Descriptor

theorem bounded_of_lt {bound n : Nat} (fits : n < bound) (fault : AttributeFault) :
    bounded bound n fault = .ok n := if_pos fits

theorem bounded_of_le {bound n : Nat} (wide : bound ≤ n) (fault : AttributeFault) :
    bounded bound n fault = .error fault := if_neg (Nat.not_lt.mpr wide)

variable {a : Attributes} {format : TileFormat} {presence : Presence} {f : Footprint}
  {windowBase deviceBase : Nat}

theorem byteLength_lt (format : TileFormat) {pixels : Nat} (short : pixels ≤ 10240) :
    byteLength format pixels < UInt16.size := by
  have field : UInt16.size = 65536 := rfl
  cases format <;>
    simp only [byteLength, TileFormat.byteFormat, TileFormat.lumaPlane, Nat.div_one] <;>
    omega

theorem heightField_lt (inRange : a.InRange) (format : TileFormat) (unit : LengthUnit) :
    heightField a format unit < UInt16.size := by
  have height : a.height.toNat ≤ 10240 := inRange.height
  cases unit with
  | bytes => exact byteLength_lt format height
  | pixels => exact Nat.lt_of_le_of_lt height (by decide)

theorem strides_lt (inRange : a.InRange) (modest : f.Modest a format presence) :
    (strides a format f).1 / cacheLineSize < UInt16.size ∧
      (strides a format f).2 / cacheLineSize < UInt16.size := by
  have stride : a.stride.toNat ≤ 32768 := inRange.stride
  have packed := modest.packed
  have field : UInt16.size = 65536 := rfl
  cases format <;> simp only [strides, cacheLineSize] <;> constructor <;> omega

theorem ofFootprint_high (start : windowBase + f.uvOffset < Word.limit)
    (high : 2 ^ 54 ≤ windowBase + f.uvOffset) (unit : LengthUnit) :
    ofFootprint a format f windowBase deviceBase unit = .error .uvStartRange := by
  have wide : UInt32.size * UInt16.size ≤ (windowBase + f.uvOffset) / cacheLineSize :=
    (Nat.le_div_iff_mul_le (by decide)).mpr high
  simp only [ofFootprint, bounded_of_lt start, bounded_of_le wide, bind, Except.bind]

theorem ofFootprint_low (inRange : a.InRange) (modest : f.Modest a format presence)
    (low : windowBase + f.uvOffset < 2 ^ 54) (unit : LengthUnit) :
    (deviceBase + f.luma.metadata + f.luma.pixels < 2 ^ 44 →
        ∃ d, ofFootprint a format f windowBase deviceBase unit = .ok d) ∧
      (2 ^ 44 ≤ deviceBase + f.luma.metadata + f.luma.pixels →
        ofFootprint a format f windowBase deviceBase unit =
          .error (if deviceBase + f.luma.metadata + f.luma.pixels < Word.limit then .addressField
            else .uvMetadataOverflow)) := by
  have start : windowBase + f.uvOffset < Word.limit := Word.lt_limit (by omega)
  have line : (windowBase + f.uvOffset) / cacheLineSize < UInt32.size * UInt16.size :=
    Nat.div_lt_of_lt_mul low
  have width := byteLength_lt format inRange.width
  have height := heightField_lt inRange format unit
  obtain ⟨stride, rasterStride⟩ := strides_lt inRange modest
  have luma : f.luma.metadata / pageSize < UInt16.size :=
    Nat.div_lt_of_lt_mul modest.luma.metadata
  have chroma : f.chroma.metadata / pageSize < UInt16.size :=
    Nat.div_lt_of_lt_mul modest.chroma.metadata
  simp only [ofFootprint, bounded_of_lt start, bounded_of_lt line, bounded_of_lt width,
    bounded_of_lt height, bounded_of_lt stride, bounded_of_lt rasterStride, bounded_of_lt luma,
    bounded_of_lt chroma, bind, Except.bind]
  constructor
  · intro near
    have total : deviceBase + f.luma.metadata + f.luma.pixels < Word.limit :=
      Word.lt_limit (by omega)
    have first : deviceBase / pageSize < UInt32.size :=
      Nat.div_lt_of_lt_mul (by omega : deviceBase < 2 ^ 44)
    have second : (deviceBase + f.luma.metadata + f.luma.pixels) / pageSize < UInt32.size :=
      Nat.div_lt_of_lt_mul near
    simp only [bounded_of_lt total, bounded_of_lt first, bounded_of_lt second]
    exact ⟨_, rfl⟩
  · intro far
    by_cases total : deviceBase + f.luma.metadata + f.luma.pixels < Word.limit
    · have second : UInt32.size ≤ (deviceBase + f.luma.metadata + f.luma.pixels) / pageSize :=
        (Nat.le_div_iff_mul_le (by decide)).mpr far
      simp only [bounded_of_lt total, bounded_of_le second, if_pos total]
      by_cases first : deviceBase / pageSize < UInt32.size
      · simp only [bounded_of_lt first]
      · simp only [bounded_of_le (Nat.not_lt.mp first)]
    · simp only [bounded_of_le (Nat.not_lt.mp total), if_neg total]

end Descriptor

end TiledSurface
