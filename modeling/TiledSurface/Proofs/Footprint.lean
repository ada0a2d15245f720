import TiledSurface.Footprint
import TiledSurface.Proofs.Window.Pool

namespace TiledSurface

theorem except_bind_eq_ok {ε α β : Type} {first : Except ε α} {next : α → Except ε β} {b : β} :
    (first >>= next) = .ok b ↔ ∃ a, first = .ok a ∧ next a = .ok b := by
  cases first with
  | error fault => simp [bind, Except.bind]
  | ok a => simp [bind, Except.bind]

/-- The pixels that share one byte of metadata take this many bytes. -/
def tileBytes : Nat := 256

/-- The tiling of all planes that there are: a macro tile is four tiles wide and four tiles high,
and a tile takes 256 bytes. -/
structure Plane.Regular (plane : Plane) : Prop where
  columns : 16 ≤ plane.tile.width ∧ plane.tile.width ≤ 64
  rows : 4 ≤ plane.tile.height ∧ plane.tile.height ≤ 8
  width : plane.macroTile.width = 4 * plane.tile.width
  height : plane.macroTile.height = 4 * plane.tile.height
  shared : 0 < plane.pixels
  bytes : 0 < plane.bytes ∧ plane.bytes ≤ 8
  tile : plane.tile.width * plane.tile.height * plane.bytes = plane.pixels * tileBytes

theorem Plane.regular_of_mem {format : TileFormat} {plane : Plane}
    (member : plane ∈ format.planes) : plane.Regular := by
  cases format <;>
  · simp only [TileFormat.planes, TileFormat.lumaPlane, TileFormat.chromaPlane?,
      Option.toList_none, Option.toList_some, List.mem_cons, List.not_mem_nil, or_false] at member
    rcases member with rfl | rfl <;> constructor <;> decide

/-- Both parts of a plane are whole pages. A plane that is not there has none. -/
def PlaneSize.Whole (size : PlaneSize) : Prop :=
  pageSize ∣ size.metadata ∧ pageSize ∣ size.pixels

theorem Plane.size?_whole {plane : Plane} {width height : Nat} {size : PlaneSize}
    (sized : plane.size? width height = some size) : size.Whole := by
  simp only [size?, metadataSize?, pixelSize?, Option.bind_eq_bind,
    Option.bind_eq_some_iff] at sized
  obtain ⟨metadata, ⟨_, _, _, _, _, _, rounded⟩, pixels, ⟨_, _, _, _, _, _, _, _, rounded'⟩,
    result⟩ := sized
  cases Option.some.inj result
  exact ⟨(Word.roundUp?_eq_some_iff.mp rounded).2.2.1,
    (Word.roundUp?_eq_some_iff.mp rounded').2.2.1⟩

namespace Footprint

variable {a : Attributes} {format : TileFormat} {presence : Presence} {footprint : Footprint}

theorem measure?_window (measured : measure? a format presence = some footprint) :
    footprint.windowSize < Word.limit ∧ pageSize ∣ footprint.windowSize := by
  simp only [measure?, Option.bind_eq_bind, Option.bind_eq_some_iff] at measured
  obtain ⟨_, _, _, _, _, _, ⟨bytes, start⟩, _, size, rounded, result⟩ := measured
  cases Option.some.inj result
  obtain ⟨_, fits, multiple, _⟩ := Word.roundUp?_eq_some_iff.mp rounded
  exact ⟨fits, multiple⟩

theorem measure?_planes (measured : measure? a format presence = some footprint) :
    footprint.luma.Whole ∧ footprint.chroma.Whole := by
  have empty : PlaneSize.Whole {} := ⟨Nat.dvd_zero _, Nat.dvd_zero _⟩
  simp only [measure?, Option.bind_eq_bind, Option.bind_eq_some_iff] at measured
  obtain ⟨luma, sized, chroma, sized', _, _, _, _, _, _, result⟩ := measured
  cases Option.some.inj result
  constructor
  · unfold lumaSize? at sized
    split at sized
    · exact Plane.size?_whole sized
    · exact Option.some.inj sized ▸ empty
  · unfold chromaSize? at sized'
    split at sized'
    · exact Option.some.inj sized' ▸ empty
    · split at sized'
      · exact Plane.size?_whole sized'
      · exact Option.some.inj sized' ▸ empty

theorem ofAttributes_eq_ok :
    ofAttributes a format presence = .ok footprint ↔
      measure? a format presence = some footprint ∧ footprint.windowSize ≠ 0 := by
  unfold ofAttributes
  cases measure? a format presence with
  | none => simp
  | some measured =>
    dsimp only
    by_cases empty : measured.windowSize = 0
    · rw [if_pos empty]
      simp only [reduceCtorEq, Option.some.injEq, false_iff]
      intro given
      obtain ⟨rfl, nonempty⟩ := given
      exact nonempty empty
    · rw [if_neg empty]
      simp only [Except.ok.injEq, Option.some.injEq]
      constructor
      · intro same
        subst same
        exact ⟨rfl, empty⟩
      · exact And.left

theorem window_whole (computed : ofAttributes a format presence = .ok footprint) :
    WindowPool.WholePages footprint.windowSize := by
  obtain ⟨measured, nonempty⟩ := ofAttributes_eq_ok.mp computed
  obtain ⟨fits, multiple⟩ := measure?_window measured
  exact ⟨Nat.pos_of_ne_zero nonempty, multiple, fits⟩

end Footprint

end TiledSurface
