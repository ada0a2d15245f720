import Mathlib.Logic.Function.Basic

/-!
Resources with owners. A ledger says that what is taken from a supply is exactly what its owners
hold, each item by one of them. An exchange is what one owner's dealing with the supply does to
it, and every exchange keeps the ledger.
-/

namespace TiledSurface

variable {ι α : Type}

/-- An item is taken if somebody owns it, and nobody else owns it then. -/
structure Ledger (taken : α → Prop) (owns : ι → Option α) : Prop where
  taken_iff : ∀ item, taken item ↔ ∃ owner, owns owner = some item
  alone : ∀ {first second item}, owns first = some item → owns second = some item → first = second

/-- The supply after `gone` went back to it and `came` was taken from it. What came was in the
supply, unless it is what went. -/
structure Exchange (taken taken' : α → Prop) (gone came : Option α) : Prop where
  taken_iff : ∀ item, taken' item ↔ taken item ∧ gone ≠ some item ∨ came = some item
  fresh : ∀ item, came = some item → taken item → gone = some item

theorem Exchange.nothing (taken : α → Prop) : Exchange taken taken none none :=
  ⟨by simp, by simp⟩

theorem Exchange.same {taken : α → Prop} {item : α} (held : taken item) :
    Exchange taken taken (some item) (some item) := by
  refine ⟨fun other => ⟨fun known => ?_, ?_⟩, fun _ came _ => came⟩
  · by_cases same : some item = some other
    · exact .inr same
    · exact .inl ⟨known, same⟩
  · intro either
    rcases either with ⟨known, _⟩ | same
    · exact known
    · exact Option.some.inj same ▸ held

theorem Exchange.rest {taken : α → Prop} {own : Option α}
    (held : ∀ item, own = some item → taken item) : Exchange taken taken own own := by
  cases own with
  | none => exact .nothing taken
  | some item => exact .same (held item rfl)

theorem Exchange.arrived {taken taken' : α → Prop} {gone came : Option α}
    (dealing : Exchange taken taken' gone came) {item : α} (arrives : came = some item) :
    taken' item :=
  (dealing.taken_iff item).mpr (.inr arrives)

theorem Exchange.trans {taken taken' taken'' : α → Prop} {gone between came : Option α}
    (first : Exchange taken taken' gone between) (second : Exchange taken' taken'' between came) :
    Exchange taken taken'' gone came := by
  refine ⟨fun item => ?_, fun item arrives known => ?_⟩
  · rw [second.taken_iff, first.taken_iff]
    constructor
    · intro either
      rcases either with ⟨⟨known, kept⟩ | held, left⟩ | arrives
      · exact .inl ⟨known, kept⟩
      · exact absurd held left
      · exact .inr arrives
    · intro either
      rcases either with ⟨known, kept⟩ | arrives
      · exact .inl ⟨.inl ⟨known, kept⟩, fun held => kept (first.fresh item held known)⟩
      · exact .inr arrives
  · by_cases went : gone = some item
    · exact went
    · have still := (first.taken_iff item).mpr (.inl ⟨known, went⟩)
      exact first.fresh item (second.fresh item arrives still) known

namespace Ledger

variable {taken taken' : α → Prop} {owns : ι → Option α}

theorem empty (nothing : ∀ item, ¬ taken item) : Ledger taken (fun _ : ι => none) :=
  ⟨by simpa using nothing, by simp⟩

theorem held (ledger : Ledger taken owns) {owner : ι} {item : α} (mine : owns owner = some item) :
    taken item :=
  (ledger.taken_iff item).mpr ⟨owner, mine⟩

/-- One owner's dealing, entered in the ledger. -/
theorem exchange [DecidableEq ι] (ledger : Ledger taken owns) {owner : ι} {came : Option α}
    (dealing : Exchange taken taken' (owns owner) came) :
    Ledger taken' (Function.update owns owner came) := by
  refine ⟨fun item => ?_, ?_⟩
  · rw [dealing.taken_iff, ledger.taken_iff]
    constructor
    · intro either
      rcases either with ⟨⟨other, mine⟩, kept⟩ | arrives
      · have different : other ≠ owner := fun same => kept (same ▸ mine)
        exact ⟨other, by rw [Function.update_of_ne different, mine]⟩
      · exact ⟨owner, by rw [Function.update_self, arrives]⟩
    · intro given
      obtain ⟨other, mine⟩ := given
      by_cases same : other = owner
      · subst same
        exact .inr (by rwa [Function.update_self] at mine)
      · rw [Function.update_of_ne same] at mine
        exact .inl ⟨⟨other, mine⟩, fun went => same (ledger.alone mine went)⟩
  · -- What came to the owner was nobody else's: it was in the supply or the owner's before.
    have arrived : ∀ {other item}, other ≠ owner → came = some item → owns other ≠ some item := by
      intro other item different arrives mine
      exact different (ledger.alone mine (dealing.fresh item arrives (ledger.held mine)))
    intro first second item mine mine'
    by_cases same : first = owner <;> by_cases same' : second = owner
    · rw [same, same']
    · subst same
      rw [Function.update_self] at mine
      rw [Function.update_of_ne same'] at mine'
      exact absurd mine' (arrived same' mine)
    · subst same'
      rw [Function.update_of_ne same] at mine
      rw [Function.update_self] at mine'
      exact absurd mine (arrived same mine')
    · rw [Function.update_of_ne same] at mine
      rw [Function.update_of_ne same'] at mine'
      exact ledger.alone mine mine'

end Ledger

end TiledSurface
