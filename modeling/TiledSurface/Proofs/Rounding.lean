import Mathlib.Algebra.Order.Floor.Div
import Mathlib.Order.Bounds.Basic
import TiledSurface.Proofs.Word

namespace TiledSurface.Word

/-- The least multiple of the alignment from the value on, however large. -/
def roundUp (value alignment : Nat) : Nat := alignment * (value ⌈/⌉ alignment)

variable {alignment : Nat}

theorem ceilDiv_eq (positive : 0 < alignment) (value : Nat) :
    ceilDiv value alignment = value ⌈/⌉ alignment := by
  rw [ceilDiv, Nat.ceilDiv_eq_add_pred_div, Nat.add_sub_assoc positive]

theorem le_roundUp (positive : 0 < alignment) (value : Nat) : value ≤ roundUp value alignment :=
  le_smul_ceilDiv positive

theorem roundUp_lt (positive : 0 < alignment) (value : Nat) :
    roundUp value alignment < value + alignment := by
  have below := Nat.mul_div_le (value + alignment - 1) alignment
  rw [roundUp, Nat.ceilDiv_eq_add_pred_div]
  omega

theorem roundUp_le {value multiple : Nat} (positive : 0 < alignment) (above : value ≤ multiple)
    (whole : alignment ∣ multiple) : roundUp value alignment ≤ multiple := by
  obtain ⟨count, rfl⟩ := whole
  exact Nat.mul_le_mul_left _ ((ceilDiv_le_iff_le_mul positive).mpr above)

/-- Rounding in 64 bits is rounding, as long as the result fits. -/
theorem roundUp?_eq (positive : 0 < alignment) (value : Nat) :
    roundUp? value alignment = fit? (roundUp value alignment) := by
  have short : padding value alignment < alignment := Nat.mod_lt _ positive
  rw [roundUp?, if_neg (Nat.ne_of_gt positive)]
  congr 1
  exact multiple_unique (dvd_add_padding positive) (Nat.dvd_mul_right ..)
    (Nat.le_add_right ..) (Nat.add_lt_add_left short value)
    (le_roundUp positive value) (roundUp_lt positive value)

theorem fit?_of_lt {n : Nat} (fits : n < limit) : fit? n = some n := if_pos fits

theorem fit?_of_le {n : Nat} (long : limit ≤ n) : fit? n = none := if_neg (Nat.not_lt.mpr long)

theorem roundUp?_narrow {value : Nat} (positive : 0 < alignment) (small : alignment ≤ 256)
    (narrow : value < 2 ^ 32) : roundUp? value alignment = some (roundUp value alignment) := by
  have near := roundUp_lt positive value
  rw [roundUp?_eq positive]
  exact fit?_of_lt (lt_limit (by omega))

/-- The multiples of the alignment from the value on. Zero has one only from zero on. -/
def multiplesFrom (value alignment : Nat) : Set Nat := {m | alignment ∣ m ∧ value ≤ m}

theorem roundUp_isLeast (positive : 0 < alignment) (value : Nat) :
    IsLeast (multiplesFrom value alignment) (roundUp value alignment) :=
  ⟨⟨Nat.dvd_mul_right .., le_roundUp positive value⟩,
    fun _ given => roundUp_le positive given.2 given.1⟩

theorem isLeast_iff (positive : 0 < alignment) {value least : Nat} :
    IsLeast (multiplesFrom value alignment) least ↔ roundUp value alignment = least :=
  (roundUp_isLeast positive value).isLeast_iff_eq

theorem roundUp?_eq_some (positive : 0 < alignment) {value rounded : Nat} :
    roundUp? value alignment = some rounded ↔
      rounded < limit ∧ roundUp value alignment = rounded := by
  rw [roundUp?_eq positive, fit?_eq_some_iff]
  exact and_congr_left fun same => same ▸ Iff.rfl

theorem roundUp_mono {value larger : Nat} (positive : 0 < alignment) (more : value ≤ larger) :
    roundUp value alignment ≤ roundUp larger alignment :=
  roundUp_le positive (Nat.le_trans more (le_roundUp positive larger)) (Nat.dvd_mul_right ..)

theorem ceilDiv_eq_div_add (positive : 0 < alignment) (value : Nat) :
    ceilDiv value alignment = value / alignment + if value % alignment = 0 then 0 else 1 := by
  have rest := Nat.mod_lt value positive
  have parts : value + (alignment - 1) =
      alignment * (value / alignment) + (value % alignment + (alignment - 1)) := by
    rw [← Nat.add_assoc, Nat.div_add_mod]
  rw [ceilDiv, parts, Nat.mul_add_div positive]
  congr 1
  split_ifs with whole
  · exact Nat.div_eq_of_lt (by omega)
  · exact Nat.div_eq_of_lt_le (by omega) (by omega)

/-- Rounding gives the least multiple from the value on, or nothing where the alignment is zero or
that multiple does not fit 64 bits. So it keeps the order, what is rounded stays as it is, and it
is the alignment times the number of pieces that cover the value. -/
theorem roundUp?_least (value alignment : Nat) :
    (∀ rounded, roundUp? value alignment = some rounded ↔
      alignment ≠ 0 ∧ rounded < limit ∧ IsLeast (multiplesFrom value alignment) rounded) ∧
    (roundUp? value alignment = none ↔
      alignment = 0 ∨ ∃ least, IsLeast (multiplesFrom value alignment) least ∧ limit ≤ least) ∧
    (∀ larger top, value ≤ larger → roundUp? larger alignment = some top →
      ∃ rounded ≤ top, roundUp? value alignment = some rounded) ∧
    (∀ rounded, roundUp? value alignment = some rounded →
      roundUp? rounded alignment = some rounded ∧
        ceilDiv value alignment * alignment = rounded) ∧
    (0 < alignment →
      ceilDiv value alignment =
        value / alignment + if value % alignment = 0 then 0 else 1) := by
  rcases Nat.eq_zero_or_pos alignment with rfl | positive
  · simp [roundUp?]
  have nonzero : alignment ≠ 0 := Nat.ne_of_gt positive
  refine ⟨fun rounded => ?_, ?_, fun larger top more found => ?_, fun rounded found => ?_,
    fun _ => ceilDiv_eq_div_add positive value⟩
  · rw [roundUp?_eq_some positive, isLeast_iff positive]
    exact (and_iff_right nonzero).symm
  · rw [roundUp?_eq positive, fit?_eq_none_iff]
    constructor
    · exact fun long => .inr ⟨_, roundUp_isLeast positive value, long⟩
    · rintro (zero | ⟨least, given, long⟩)
      · exact absurd zero nonzero
      · exact (isLeast_iff positive).mp given ▸ long
  · obtain ⟨fits, rfl⟩ := (roundUp?_eq_some positive).mp found
    have below := roundUp_mono positive more
    exact ⟨_, below, (roundUp?_eq_some positive).mpr ⟨Nat.lt_of_le_of_lt below fits, rfl⟩⟩
  · obtain ⟨fits, rfl⟩ := (roundUp?_eq_some positive).mp found
    refine ⟨roundUp?_of_dvd positive (Nat.dvd_mul_right ..) fits, ?_⟩
    rw [ceilDiv_eq positive, Nat.mul_comm, roundUp]

/-- The largest number of 64 bits is a multiple of 255, but not of 192. -/
example : roundUp? (2 ^ 64 - 1) 255 = some (2 ^ 64 - 1) ∧ roundUp? (2 ^ 64 - 1) 192 = none := by
  decide

end TiledSurface.Word
