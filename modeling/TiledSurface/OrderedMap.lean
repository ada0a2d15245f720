/-!
Finite maps from numbers, kept in ascending order of the keys. The order makes the form
canonical: two maps that hold the same entries are equal (`ext_mem`, `ext_find?`).
-/

namespace TiledSurface

structure OrderedMap (α : Type) where
  entries : List (Nat × α)
  ascending : entries.Pairwise (fun a b => a.1 < b.1)

namespace OrderedMap

variable {α : Type}

def empty : OrderedMap α := ⟨[], .nil⟩

def find? (m : OrderedMap α) (key : Nat) : Option α :=
  (m.entries.find? (·.1 == key)).map (·.2)

/-- Puts `value` under `key`, in place of what was there. -/
def insert (m : OrderedMap α) (key : Nat) (value : α) : OrderedMap α where
  entries := m.entries.filter (·.1 < key) ++ (key, value) :: m.entries.filter (key < ·.1)
  ascending := by
    have above : ∀ entry ∈ m.entries.filter (key < ·.1), key < entry.1 := by
      intro entry member
      simpa using (List.mem_filter.mp member).2
    refine List.pairwise_append.mpr ⟨m.ascending.filter _, ?_, ?_⟩
    · exact List.pairwise_cons.mpr ⟨above, m.ascending.filter _⟩
    · intro low lowMember entry member
      have below : low.1 < key := by simpa using (List.mem_filter.mp lowMember).2
      rcases List.mem_cons.mp member with same | later
      · exact same ▸ below
      · exact Nat.lt_trans below (above entry later)

def erase (m : OrderedMap α) (key : Nat) : OrderedMap α where
  entries := m.entries.filter (·.1 != key)
  ascending := m.ascending.filter _

def modify (m : OrderedMap α) (key : Nat) (change : α → α) : OrderedMap α :=
  match m.find? key with
  | some value => m.insert key (change value)
  | none => m

def size (m : OrderedMap α) : Nat := m.entries.length

def isEmpty (m : OrderedMap α) : Bool := m.entries.isEmpty

def values (m : OrderedMap α) : List α := m.entries.map (·.2)

theorem mem_insert {m : OrderedMap α} {key : Nat} {value : α} {entry : Nat × α} :
    entry ∈ (m.insert key value).entries ↔
      entry = (key, value) ∨ entry ∈ m.entries ∧ entry.1 ≠ key := by
  simp only [insert, List.mem_append, List.mem_cons, List.mem_filter, decide_eq_true_eq]
  constructor
  · rintro (⟨member, below⟩ | same | ⟨member, above⟩)
    · exact .inr ⟨member, by omega⟩
    · exact .inl same
    · exact .inr ⟨member, by omega⟩
  · rintro (same | ⟨member, other⟩)
    · exact .inr (.inl same)
    · rcases Nat.lt_or_gt_of_ne other with below | above
      · exact .inl ⟨member, below⟩
      · exact .inr (.inr ⟨member, above⟩)

theorem mem_erase {m : OrderedMap α} {key : Nat} {entry : Nat × α} :
    entry ∈ (m.erase key).entries ↔ entry ∈ m.entries ∧ entry.1 ≠ key := by
  simp [erase]

private theorem unique_of_ascending {entries : List (Nat × α)}
    (ascending : entries.Pairwise (fun a b => a.1 < b.1)) {first second : Nat × α}
    (one : first ∈ entries) (two : second ∈ entries) (same : first.1 = second.1) :
    first = second := by
  induction entries with
  | nil => simp at one
  | cons head tail ih =>
    have ⟨above, rest⟩ := List.pairwise_cons.mp ascending
    rcases List.mem_cons.mp one with rfl | oneTail <;>
      rcases List.mem_cons.mp two with rfl | twoTail
    · rfl
    · have := above _ twoTail
      omega
    · have := above _ oneTail
      omega
    · exact ih rest oneTail twoTail

theorem find?_eq_some_iff {m : OrderedMap α} {key : Nat} {value : α} :
    m.find? key = some value ↔ (key, value) ∈ m.entries := by
  unfold find?
  constructor
  · intro found
    obtain ⟨entry, hit, rfl⟩ := Option.map_eq_some_iff.mp found
    have key_eq : entry.1 = key := by simpa using List.find?_some hit
    exact key_eq ▸ List.mem_of_find?_eq_some hit
  · intro member
    cases hit : m.entries.find? (·.1 == key) with
    | none =>
      have := List.find?_eq_none.mp hit _ member
      simp at this
    | some entry =>
      have key_eq : entry.1 = key := by simpa using List.find?_some hit
      have := unique_of_ascending m.ascending (List.mem_of_find?_eq_some hit) member key_eq
      simp [this]

private theorem eq_of_mem_iff {left right : List (Nat × α)}
    (leftAscending : left.Pairwise (fun a b => a.1 < b.1))
    (rightAscending : right.Pairwise (fun a b => a.1 < b.1))
    (same : ∀ entry, entry ∈ left ↔ entry ∈ right) : left = right := by
  induction left generalizing right with
  | nil =>
    cases right with
    | nil => rfl
    | cons head tail => exact absurd ((same head).mpr (List.mem_cons_self ..)) (by simp)
  | cons head tail ih =>
    cases right with
    | nil => exact absurd ((same head).mp (List.mem_cons_self ..)) (by simp)
    | cons head' tail' =>
      have ⟨above, rest⟩ := List.pairwise_cons.mp leftAscending
      have ⟨above', rest'⟩ := List.pairwise_cons.mp rightAscending
      have heads : head = head' := by
        rcases List.mem_cons.mp ((same head).mp (List.mem_cons_self ..)) with eq | member
        · exact eq
        · rcases List.mem_cons.mp ((same head').mpr (List.mem_cons_self ..)) with eq | member'
          · exact eq.symm
          · have := above _ member'
            have := above' _ member
            omega
      subst heads
      congr 1
      refine ih rest rest' fun entry => ⟨fun member => ?_, fun member => ?_⟩
      · rcases List.mem_cons.mp ((same entry).mp (List.mem_cons_of_mem _ member)) with eq | found
        · have := above _ member
          subst eq
          omega
        · exact found
      · rcases List.mem_cons.mp ((same entry).mpr (List.mem_cons_of_mem _ member)) with eq | found
        · have := above' _ member
          subst eq
          omega
        · exact found

theorem ext_mem {left right : OrderedMap α}
    (same : ∀ entry, entry ∈ left.entries ↔ entry ∈ right.entries) : left = right := by
  cases left
  cases right
  simp only [mk.injEq]
  exact eq_of_mem_iff ‹_› ‹_› same

theorem ext_find? {left right : OrderedMap α}
    (same : ∀ key, left.find? key = right.find? key) : left = right := by
  refine ext_mem fun entry => ?_
  rw [← find?_eq_some_iff, ← find?_eq_some_iff, same]

theorem find?_insert (m : OrderedMap α) (key other : Nat) (value : α) :
    (m.insert key value).find? other = if other = key then some value else m.find? other := by
  apply Option.ext
  intro found
  rw [find?_eq_some_iff, mem_insert]
  by_cases same : other = key
  · simp [same, eq_comm]
  · simp [same, find?_eq_some_iff]

theorem find?_insert_self (m : OrderedMap α) (key : Nat) (value : α) :
    (m.insert key value).find? key = some value :=
  (m.find?_insert key key value).trans (if_pos rfl)

theorem find?_erase (m : OrderedMap α) (key other : Nat) :
    (m.erase key).find? other = if other = key then none else m.find? other := by
  apply Option.ext
  intro found
  rw [find?_eq_some_iff, mem_erase]
  by_cases same : other = key
  · simp [same]
  · simp [same, find?_eq_some_iff]

theorem find?_modify (m : OrderedMap α) (key other : Nat) (change : α → α) :
    (m.modify key change).find? other =
      if other = key then (m.find? key).map change else m.find? other := by
  unfold modify
  cases found : m.find? key with
  | none =>
    by_cases same : other = key
    · simp [same, found]
    · simp [same]
  | some value => simp [find?_insert]

theorem isEmpty_insert (m : OrderedMap α) (key : Nat) (value : α) :
    (m.insert key value).isEmpty = false := by
  simp [isEmpty, insert]

theorem isEmpty_of_find? {m : OrderedMap α} {key : Nat} {value : α}
    (found : m.find? key = some value) : m.isEmpty = false := by
  rw [isEmpty, List.isEmpty_eq_false_iff]
  exact List.ne_nil_of_mem (find?_eq_some_iff.mp found)

@[simp] theorem find?_empty (key : Nat) : (empty : OrderedMap α).find? key = none := rfl

end OrderedMap

end TiledSurface
