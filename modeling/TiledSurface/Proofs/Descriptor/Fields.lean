import TiledSurface.Proofs.Limits

/-!
What the fields of a descriptor say of a valid surface. Each of them has room for its value, so
that only the addresses decide whether there is a descriptor; and since strides, planes and bases
come in the units of the fields, the surface can be read off the block without loss.
-/

namespace TiledSurface

namespace Footprint

variable {a : Attributes} {format : TileFormat} {presence : Presence}

/-- Attributes in range have their exact footprint, unless there is nothing to show. -/
theorem ofAttributes_inRange (inRange : a.InRange) (format : TileFormat) (presence : Presence) :
    ofAttributes a format presence =
      if (window a format presence).1 = 0 then .error .emptyWindow
      else .ok (unbounded a format presence) := by
  have covers := Word.le_roundUp (by decide : 0 < pageSize) (window a format presence).1
  unfold ofAttributes
  rw [measure?_eq, if_neg (not_overflows inRange format presence)]
  dsimp only
  by_cases empty : (window a format presence).1 = 0
  · have nothing : (unbounded a format presence).windowSize = 0 := by
      simp only [unbounded, empty]
      rfl
    rw [if_pos empty, if_pos nothing]
  · have shown : (unbounded a format presence).windowSize ≠ 0 := by
      simp only [unbounded]
      omega
    rw [if_neg empty, if_neg shown]

theorem packedStride_lines {f : Footprint} (measured : measure? a format presence = some f) :
    cacheLineSize ∣ f.packedStride := by
  rw [eq_unbounded a format presence measured, unbounded]
  dsimp only
  split
  · have bytes : Word.roundUp a.width.toNat 192 * 4 / 3 =
        cacheLineSize * (4 * (a.width.toNat ⌈/⌉ 192)) := by
      rw [Word.roundUp, cacheLineSize]
      omega
    exact Dvd.intro _ bytes.symm
  · exact Nat.dvd_zero _

end Footprint

namespace Descriptor

variable {a : Attributes} {image : ImageFormat} {format : TileFormat} {presence : Presence}
  {f : Footprint} {windowBase deviceBase : Nat} {unit : LengthUnit} {d : Descriptor}

/-- The numbers that do not depend on addresses fit the sixteen bits of their fields. -/
structure FieldsFit (a : Attributes) (format : TileFormat) (f : Footprint) (unit : LengthUnit) :
    Prop where
  width : byteLength format a.width.toNat < 2 ^ 16
  height : heightField a format unit < 2 ^ 16
  stride : (strides a format f).1 / cacheLineSize < 2 ^ 16
  rasterStride : (strides a format f).2 / cacheLineSize < 2 ^ 16
  lumaOffset : f.luma.metadata / pageSize < 2 ^ 16
  chromaOffset : f.chroma.metadata / pageSize < 2 ^ 16

theorem fieldsFit (inRange : a.InRange) (modest : f.Modest a format presence)
    (unit : LengthUnit) : FieldsFit a format f unit where
  width := byteLength_lt format inRange.width
  height := heightField_lt inRange format unit
  stride := (strides_lt inRange modest).1
  rasterStride := (strides_lt inRange modest).2
  lumaOffset := Nat.div_lt_of_lt_mul modest.luma.metadata
  chromaOffset := Nat.div_lt_of_lt_mul modest.chroma.metadata

/-- A descriptor reaches 54 bits of window addresses and 44 bits of device addresses. -/
theorem Holds.reach (holds : d.Holds a format f windowBase deviceBase unit) :
    windowBase + f.uvOffset < 2 ^ 54 ∧ deviceBase + f.luma.metadata + f.luma.pixels < 2 ^ 44 := by
  have line := holds.fits
  have page := d.chromaMetadata.toNat_lt
  rw [holds.uvStart, cacheLineSize] at line
  rw [holds.chromaMetadata, pageSize] at page
  omega

/-- Only addresses that are too high are in the way of a descriptor. -/
theorem exists_ofFootprint_iff (inRange : a.InRange) (modest : f.Modest a format presence) :
    (∃ d, ofFootprint a format f windowBase deviceBase unit = .ok d) ↔
      windowBase + f.uvOffset < 2 ^ 54 ∧
        deviceBase + f.luma.metadata + f.luma.pixels < 2 ^ 44 := by
  constructor
  · rintro ⟨d, made⟩
    exact (ofFootprint_holds made).reach
  · rintro ⟨low, near⟩
    exact (ofFootprint_low inRange modest low unit).1 near

/-- The checks of attributes are enough for all that follows, in whatever format they are laid out.
A valid surface has its exact footprint, unless its window is empty; the footprint has a size in
device memory; every field of its descriptor has room; and there is a descriptor at all addresses
that leave the second plane below 54 bits in the window and below 44 bits in the device, and at no
others. -/
theorem valid_attributes_fit (checked : a.check = .ok image) (format : TileFormat)
    (presence : Presence) :
    (Footprint.ofAttributes a format presence =
      if (Footprint.window a format presence).1 = 0 then .error .emptyWindow
      else .ok (Footprint.unbounded a format presence)) ∧
    ∀ f, Footprint.ofAttributes a format presence = .ok f →
      (∃ span, f.deviceBytes? = some span) ∧
      ∀ unit, FieldsFit a format f unit ∧ ∀ windowBase deviceBase,
        (∃ d, ofFootprint a format f windowBase deviceBase unit = .ok d) ↔
          windowBase + f.uvOffset < 2 ^ 54 ∧
            deviceBase + f.luma.metadata + f.luma.pixels < 2 ^ 44 := by
  have inRange := Attributes.inRange checked
  refine ⟨Footprint.ofAttributes_inRange inRange format presence, fun f computed => ?_⟩
  have modest := Footprint.modest_unbounded inRange format presence
  have measured := (Footprint.ofAttributes_eq_ok.mp computed).1
  rw [← Footprint.eq_unbounded a format presence measured] at modest
  exact ⟨modest.exists_deviceBytes?, fun unit => ⟨fieldsFit inRange modest unit,
    fun windowBase deviceBase => exists_ofFootprint_iff inRange modest⟩⟩

def largestAttributes : Attributes where
  imageFormat := 1
  width := 10240
  height := 10240
  stride := 32768
  scanlines := 10250
  planarPadding := 4096

/-- The largest surface has a descriptor at one window address, and none one byte above it. -/
theorem valid_attributes_fit_largest :
    ∃ f, largestAttributes.check = .ok .rgba8888 ∧
      Footprint.ofAttributes largestAttributes .rgba .both = .ok f ∧ f.uvOffset = 335872000 ∧
      FieldsFit largestAttributes .rgba f .bytes ∧
      (∃ d, ofFootprint largestAttributes .rgba f (2 ^ 54 - 1 - 335872000) 0 .bytes = .ok d) ∧
      ¬ ∃ d, ofFootprint largestAttributes .rgba f (2 ^ 54 - 335872000) 0 .bytes = .ok d := by
  have checked : largestAttributes.check = .ok .rgba8888 := by decide +kernel
  have computed : Footprint.ofAttributes largestAttributes .rgba .both =
      .ok ⟨⟨1638400, 419430400⟩, ⟨0, 0⟩, 0, 335872000, 335872000⟩ := by decide +kernel
  obtain ⟨_, fit⟩ := valid_attributes_fit checked .rgba .both
  obtain ⟨fields, places⟩ := (fit _ computed).2 .bytes
  refine ⟨_, checked, computed, rfl, fields, (places _ 0).mpr (by decide), fun made => ?_⟩
  exact absurd (((places _ 0).mp made).1) (by decide)

/-- The bytes of a pixel of the first plane. A packed ten-bit pixel counts as an unpacked one. -/
def pixelLength : TileFormat → Nat
  | .rgba => 4
  | .nv12 | .nv124r => 1
  | .p010 | .p016 | .tp10 => 2

theorem byteLength_eq (format : TileFormat) (pixels : Nat) :
    byteLength format pixels = pixels * pixelLength format := by
  cases format <;> exact Nat.div_one _

/-- The surface as its descriptor tells it, in bytes. -/
structure Tells (d : Descriptor) (a : Attributes) (format : TileFormat) (f : Footprint)
    (windowBase deviceBase : Nat) (unit : LengthUnit) : Prop where
  code : d.format = format.code
  uvStart : d.uvStart.toNat * cacheLineSize = windowBase + f.uvOffset
  stride : d.stride.toNat * cacheLineSize =
    if format = .tp10 then f.packedStride else a.stride.toNat
  rasterStride : d.rasterStride.toNat * cacheLineSize =
    if format = .tp10 then a.stride.toNat else 0
  lumaMetadata : d.lumaMetadata.toNat * pageSize = deviceBase
  chromaMetadata : d.chromaMetadata.toNat * pageSize =
    deviceBase + f.luma.metadata + f.luma.pixels
  lumaOffset : d.lumaOffset.toNat * pageSize = f.luma.metadata
  chromaOffset : d.chromaOffset.toNat * pageSize = f.chroma.metadata
  width : d.widthBytes = a.width.toNat * pixelLength format
  height : d.height = match unit with
    | .bytes => a.height.toNat * pixelLength format
    | .pixels => a.height.toNat

theorem strides_eq (a : Attributes) (format : TileFormat) (f : Footprint) :
    strides a format f =
      (if format = .tp10 then f.packedStride else a.stride.toNat,
        if format = .tp10 then a.stride.toNat else 0) := by
  cases format <;> rfl

theorem heightField_eq (a : Attributes) (format : TileFormat) (unit : LengthUnit) :
    heightField a format unit = match unit with
      | .bytes => a.height.toNat * pixelLength format
      | .pixels => a.height.toNat := by
  cases unit with
  | bytes => exact byteLength_eq format _
  | pixels => rfl

theorem strides_lines (inRange : a.InRange)
    (measured : Footprint.measure? a format presence = some f) :
    cacheLineSize ∣ (strides a format f).1 ∧ cacheLineSize ∣ (strides a format f).2 := by
  rw [strides_eq]
  by_cases packed : format = .tp10
  · simp only [if_pos packed]
    exact ⟨Footprint.packedStride_lines measured, inRange.lines⟩
  · simp only [if_neg packed]
    exact ⟨inRange.lines, Nat.dvd_zero _⟩

/-- From the block of a valid surface the engine reads the surface as it is, if its buffer starts
on a page and its second plane on a cache line. -/
theorem block_tells_surface (checked : a.check = .ok image)
    (computed : Footprint.ofAttributes a format presence = .ok f)
    (paged : pageSize ∣ deviceBase) (lined : cacheLineSize ∣ windowBase + f.uvOffset)
    (made : ofFootprint a format f windowBase deviceBase unit = .ok d) :
    (decode d.encode).Tells a format f windowBase deviceBase unit := by
  obtain ⟨measured, _⟩ := Footprint.ofAttributes_eq_ok.mp computed
  obtain ⟨⟨lumaMetadata, lumaPixels⟩, chromaMetadata, _⟩ := Footprint.measure?_planes measured
  obtain ⟨stride, rasterStride⟩ := strides_lines (Attributes.inRange checked) measured
  have holds := ofFootprint_holds made
  have between : pageSize ∣ deviceBase + f.luma.metadata + f.luma.pixels :=
    Nat.dvd_add (Nat.dvd_add paged lumaMetadata) lumaPixels
  rw [decode_encode holds.fits]
  exact {
    code := holds.code
    uvStart := by rw [holds.uvStart, Nat.div_mul_cancel lined]
    stride := by rw [holds.stride, Nat.div_mul_cancel stride, strides_eq]
    rasterStride := by rw [holds.rasterStride, Nat.div_mul_cancel rasterStride, strides_eq]
    lumaMetadata := by rw [holds.lumaMetadata, Nat.div_mul_cancel paged]
    chromaMetadata := by rw [holds.chromaMetadata, Nat.div_mul_cancel between]
    lumaOffset := by rw [holds.lumaOffset, Nat.div_mul_cancel lumaMetadata]
    chromaOffset := by rw [holds.chromaOffset, Nat.div_mul_cancel chromaMetadata]
    width := by rw [holds.width, byteLength_eq]
    height := by rw [holds.height, heightField_eq] }

/-- A packed ten-bit surface of two planes, none of whose sides is a multiple of a tile. -/
def packedAttributes : Attributes where
  imageFormat := 8
  width := 1000
  height := 500
  stride := 1344
  scanlines := 505
  planarPadding := 64

/-- Its rows are 1536 bytes when compressed and 1344 bytes in raster order. -/
theorem block_tells_surface_packed :
    ∃ f d, packedAttributes.check = .ok .tp10 ∧
      Footprint.ofAttributes packedAttributes .tp10 .both = .ok f ∧
      ofFootprint packedAttributes .tp10 f 0x100000000 0x80000000 .bytes = .ok d ∧
      d.stride.toNat * cacheLineSize = 1536 ∧ d.rasterStride.toNat * cacheLineSize = 1344 ∧
      (decode d.encode).Tells packedAttributes .tp10 f 0x100000000 0x80000000 .bytes := by
  have checked : packedAttributes.check = .ok .tp10 := by decide +kernel
  have computed : Footprint.ofAttributes packedAttributes .tp10 .both =
      .ok ⟨⟨8192, 786432⟩, ⟨4096, 393216⟩, 1536, 1019904, 678784⟩ := by decide +kernel
  have made : ofFootprint packedAttributes .tp10
      ⟨⟨8192, 786432⟩, ⟨4096, 393216⟩, 1536, 1019904, 678784⟩ 0x100000000 0x80000000 .bytes =
      .ok ⟨67119470, 8, 24, 21, 524288, 524482, 2, 1, 131073000⟩ := by decide +kernel
  exact ⟨_, _, checked, computed, made, rfl, rfl,
    block_tells_surface checked computed (by decide) (by decide) made⟩

end Descriptor

end TiledSurface
