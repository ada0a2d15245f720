import Mathlib.Algebra.Group.Nat.Defs
import TiledSurface.Word

namespace TiledSurface.Word

theorem dvd_add_padding {value alignment : Nat} (positive : 0 < alignment) :
    alignment ∣ value + padding value alignment := by
  have below := Nat.mod_lt value positive
  apply Nat.dvd_of_mod_eq_zero
  unfold padding
  rw [Nat.add_mod, Nat.mod_mod]
  by_cases exact : value % alignment = 0
  · simp [exact]
  · have inside : (alignment - value % alignment) % alignment = alignment - value % alignment :=
      Nat.mod_eq_of_lt (by omega)
    rw [inside, Nat.add_sub_of_le (Nat.le_of_lt below), Nat.mod_self]

private theorem le_of_mul_lt {d k m : Nat} (near : d * k < d * m + d) : k ≤ m := by
  have below : d * k < d * (m + 1) := by rwa [Nat.mul_succ]
  exact Nat.le_of_lt_succ (Nat.lt_of_mul_lt_mul_left below)

theorem multiple_unique {d value one two : Nat} (multiple : d ∣ one) (multiple' : d ∣ two)
    (above : value ≤ one) (near : one < value + d) (above' : value ≤ two)
    (near' : two < value + d) : one = two := by
  obtain ⟨k, rfl⟩ := multiple
  obtain ⟨m, rfl⟩ := multiple'
  have le : k ≤ m := le_of_mul_lt (by omega : d * k < d * m + d)
  have ge : m ≤ k := le_of_mul_lt (by omega : d * m < d * k + d)
  rw [Nat.le_antisymm le ge]

theorem roundUp?_eq_some_iff {value alignment rounded : Nat} :
    roundUp? value alignment = some rounded ↔
      0 < alignment ∧ rounded < limit ∧ alignment ∣ rounded ∧
        value ≤ rounded ∧ rounded < value + alignment := by
  unfold roundUp?
  constructor
  · intro found
    split at found
    · simp at found
    · rename_i nonzero
      have positive : 0 < alignment := Nat.pos_of_ne_zero nonzero
      obtain ⟨fits, rfl⟩ := fit?_eq_some_iff.mp found
      have short : padding value alignment < alignment := Nat.mod_lt _ positive
      exact ⟨positive, fits, dvd_add_padding positive, by omega, by omega⟩
  · intro given
    obtain ⟨positive, fits, multiple, above, near⟩ := given
    have short : padding value alignment < alignment := Nat.mod_lt _ positive
    have same : value + padding value alignment = rounded :=
      multiple_unique (dvd_add_padding positive) multiple (by omega) (by omega) above near
    rw [if_neg (by omega), same]
    exact fit?_eq_some_iff.mpr ⟨fits, rfl⟩

theorem roundUp?_of_dvd {value alignment : Nat} (positive : 0 < alignment)
    (multiple : alignment ∣ value) (fits : value < limit) :
    roundUp? value alignment = some value :=
  roundUp?_eq_some_iff.mpr ⟨positive, fits, multiple, Nat.le_refl _, by omega⟩

theorem lt_limit {n : Nat} (small : n < 2 ^ 62) : n < limit := Nat.lt_trans small (by decide)

theorem fit?_of_small {n : Nat} (small : n < 2 ^ 62) : fit? n = some n :=
  fit?_eq_some_iff.mpr ⟨lt_limit small, rfl⟩

theorem mul?_of_small {a b : Nat} (small : a * b < 2 ^ 62) : mul? a b = some (a * b) :=
  fit?_of_small small

theorem ceilDiv_le {d : Nat} (positive : 0 < d) (n : Nat) : ceilDiv n d ≤ n := by
  apply Nat.le_of_lt_succ
  rw [ceilDiv, Nat.div_lt_iff_lt_mul positive, Nat.succ_mul]
  have grows : n ≤ n * d := Nat.le_mul_of_pos_right n positive
  omega

theorem mul_ceilDiv_lt {d : Nat} (positive : 0 < d) (n : Nat) : d * ceilDiv n d < n + d := by
  have above := Nat.mul_div_le (n + (d - 1)) d
  unfold ceilDiv
  omega

theorem ceilDiv_eq_one {d n : Nat} (positive : 0 < n) (small : n ≤ d) : ceilDiv n d = 1 :=
  Nat.div_eq_of_lt_le (by omega) (by omega)

theorem ceilDiv_add {d : Nat} (positive : 0 < d) (n : Nat) :
    ceilDiv (n + d) d = ceilDiv n d + 1 := by
  rw [ceilDiv, Nat.add_right_comm, Nat.add_div_right _ positive]
  rfl

end TiledSurface.Word
