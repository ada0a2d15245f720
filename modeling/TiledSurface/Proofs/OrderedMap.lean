import Mathlib.Algebra.BigOperators.Group.List.Basic
import Mathlib.Algebra.GroupWithZero.Nat
import TiledSurface.OrderedMap

namespace TiledSurface.OrderedMap

variable {α : Type} {m m' : OrderedMap α} {key : Nat} {amount : α → Nat}

/-- Puts a value under a key, or takes away what is there. -/
def place (m : OrderedMap α) (key : Nat) : Option α → OrderedMap α
  | some value => m.insert key value
  | none => m.erase key

theorem find?_place (m : OrderedMap α) (key other : Nat) (value? : Option α) :
    (m.place key value?).find? other = if other = key then value? else m.find? other := by
  cases value? with
  | none => exact m.find?_erase key other
  | some value => exact m.find?_insert key other value

theorem place_comm {other : Nat} (different : key ≠ other) (one two : Option α) :
    (m.place key one).place other two = (m.place other two).place key one := by
  apply ext_find?
  intro key'
  simp only [find?_place]
  by_cases first : key' = key
  · rw [if_pos first, if_pos first, if_neg (first ▸ different)]
  · rw [if_neg first, if_neg first]

theorem place_self (m : OrderedMap α) (key : Nat) : m.place key (m.find? key) = m := by
  apply ext_find?
  intro other
  rw [find?_place]
  by_cases same : other = key
  · rw [if_pos same, same]
  · rw [if_neg same]

theorem insert_self {value : α} (found : m.find? key = some value) : m.insert key value = m := by
  have same := m.place_self key
  rwa [found] at same

theorem insert_insert (m : OrderedMap α) (key : Nat) (one two : α) :
    (m.insert key one).insert key two = m.insert key two := by
  apply ext_find?
  intro other
  simp only [find?_insert]
  split <;> rfl

theorem modify_modify (m : OrderedMap α) (key : Nat) (one two : α → α) :
    (m.modify key one).modify key two = m.modify key fun value => two (one value) := by
  apply ext_find?
  intro other
  by_cases same : other = key <;> simp [find?_modify, same, Function.comp_def]

theorem modify_id (m : OrderedMap α) (key : Nat) : m.modify key (fun value => value) = m := by
  apply ext_find?
  intro other
  by_cases same : other = key <;> simp [find?_modify, same]

/-- Changes of values that commute may be made in any order, also under one key. -/
theorem modify_comm {one two : α → α} (commute : ∀ value, two (one value) = one (two value))
    (m : OrderedMap α) (key other : Nat) :
    (m.modify key one).modify other two = (m.modify other two).modify key one := by
  apply ext_find?
  intro key'
  simp only [find?_modify]
  by_cases first : key' = key <;> by_cases second : key' = other
  · subst first second
    simp [Function.comp_def, commute]
  · subst first
    simp [second]
  · subst second
    simp [first]
  · simp [first, second]

def total (m : OrderedMap α) (amount : α → Nat) : Nat := (m.values.map amount).sum

def amountAt (m : OrderedMap α) (amount : α → Nat) (key : Nat) : Nat :=
  ((m.find? key).map amount).getD 0

theorem amountAt_of_find? {value : α} (found : m.find? key = some value) :
    m.amountAt amount key = amount value := by
  rw [amountAt, found]
  rfl

theorem amountAt_of_missing (missing : m.find? key = none) : m.amountAt amount key = 0 := by
  rw [amountAt, missing]
  rfl

theorem total_erase (m : OrderedMap α) (amount : α → Nat) (key : Nat) :
    (m.erase key).total amount + m.amountAt amount key = m.total amount := by
  obtain ⟨entries, ascending⟩ := m
  simp only [total, values, erase, amountAt, find?]
  induction entries with
  | nil => rfl
  | cons entry rest ih =>
    obtain ⟨above, ascending⟩ := List.pairwise_cons.mp ascending
    by_cases same : entry.1 = key
    · have others : rest.filter (·.1 != key) = rest := by
        rw [List.filter_eq_self]
        intro other member
        simpa using Nat.ne_of_gt (same ▸ above other member)
      simp [same, others, Nat.add_comm]
    · have later := ih ascending
      simp only [List.map_map, Option.map_map] at later
      simp [same]
      omega

theorem total_insert (m : OrderedMap α) (amount : α → Nat) (key : Nat) (value : α) :
    (m.insert key value).total amount + m.amountAt amount key = m.total amount + amount value := by
  have rest : (m.insert key value).erase key = m.erase key := by
    apply ext_find?
    intro other
    by_cases same : other = key <;> simp [find?_erase, find?_insert, same]
  have before := m.total_erase amount key
  have after := (m.insert key value).total_erase amount key
  rw [rest, amountAt_of_find? (m.find?_insert_self key value)] at after
  omega

theorem size_eq_total (m : OrderedMap α) : m.size = m.total fun _ => 1 := by
  simp [size, total, values, Function.comp_def]

end TiledSurface.OrderedMap
