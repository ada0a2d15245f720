import TiledSurface.Driver.Configure
import TiledSurface.Proofs.Footprint

namespace TiledSurface

variable {a : Attributes} {plan : Plan}

theorem Attributes.plan?_eq_none :
    a.plan? = .ok none ↔ ∃ format, a.check = .ok format ∧ format.layout? = none := by
  unfold Attributes.plan?
  rw [except_bind_eq_ok]
  refine exists_congr fun format => and_congr_right fun _ => ?_
  cases format.layout? with
  | none => simp [pure, Except.pure]
  | some pair =>
    dsimp only
    rw [except_bind_eq_ok]
    simp only [reduceCtorEq, iff_false, not_exists, not_and]
    intro footprint _
    cases footprint.deviceBytes? <;> simp [pure, Except.pure]

theorem Attributes.plan?_eq_some :
    a.plan? = .ok (some plan) ↔
      ∃ format presence, a.check = .ok format ∧ format.layout? = some (plan.format, presence) ∧
        Footprint.ofAttributes a plan.format presence = .ok plan.footprint ∧
        plan.footprint.deviceBytes? = some plan.span := by
  unfold Attributes.plan?
  rw [except_bind_eq_ok]
  constructor
  · intro given
    obtain ⟨format, checked, chosen⟩ := given
    cases layout : format.layout? with
    | none => simp [layout, pure, Except.pure] at chosen
    | some pair =>
      obtain ⟨tiles, presence⟩ := pair
      simp only [layout] at chosen
      obtain ⟨footprint, computed, spanned⟩ := except_bind_eq_ok.mp chosen
      cases span : footprint.deviceBytes? with
      | none => simp [span] at spanned
      | some bytes =>
        rw [span] at spanned
        cases spanned
        exact ⟨format, presence, checked, layout, computed, span⟩
  · intro given
    obtain ⟨format, presence, checked, layout, computed, span⟩ := given
    refine ⟨format, checked, ?_⟩
    rw [layout]
    refine except_bind_eq_ok.mpr ⟨plan.footprint, computed, ?_⟩
    rw [span]
    rfl

theorem Plan.window_whole (planned : a.plan? = .ok (some plan)) :
    WindowPool.WholePages plan.footprint.windowSize := by
  obtain ⟨_, _, _, _, computed, _⟩ := Attributes.plan?_eq_some.mp planned
  exact Footprint.window_whole computed

theorem Plan.describe_eq_ok {unit : LengthUnit} {window : Region} {mapping : DeviceMapping}
    {descriptor : Descriptor} :
    plan.describe a unit window mapping = .ok descriptor ↔
      plan.span ≤ mapping.length ∧ window.base + plan.footprint.uvOffset < Word.limit ∧
        cacheLineSize ∣ window.base + plan.footprint.uvOffset ∧
        Descriptor.ofFootprint a plan.format plan.footprint window.base mapping.base unit =
          .ok descriptor := by
  unfold Plan.describe
  rw [Nat.dvd_iff_mod_eq_zero]
  dsimp only
  by_cases short : mapping.length < plan.span
  · simp [short, Nat.not_le.mpr short]
  · rw [if_neg short]
    by_cases wide : Word.limit ≤ window.base + plan.footprint.uvOffset
    · simp [wide, Nat.not_lt.mpr wide]
    · rw [if_neg wide]
      by_cases odd : (window.base + plan.footprint.uvOffset) % cacheLineSize = 0
      · rw [if_neg (not_not_intro odd)]
        have long := Nat.not_lt.mp short
        have narrow := Nat.not_le.mp wide
        cases Descriptor.ofFootprint a plan.format plan.footprint window.base mapping.base unit with
        | error fault => simp
        | ok descriptor' => simp [long, narrow, odd]
      · rw [if_pos odd]
        simp [odd]

end TiledSurface
