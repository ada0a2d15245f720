import TiledSurface.Window.Holes

namespace TiledSurface

namespace Hole

theorem contains_hull {h k : Hole} (touch : h.start ≤ k.stop) (touch' : k.start ≤ h.stop)
    (address : Nat) : (h.hull k).Contains address ↔ k.Contains address ∨ h.Contains address := by
  simp only [hull, Contains]
  omega

end Hole

namespace Holes

/-- Ascending holes, none of them empty and no two of them touching. -/
structure Canonical (holes : Holes) : Prop where
  apart : holes.Pairwise fun h k => h.stop < k.start
  nonempty : ∀ hole ∈ holes, hole.start < hole.stop

def Covers (holes : Holes) (address : Nat) : Prop := ∃ hole ∈ holes, hole.Contains address

theorem canonical_nil : Canonical [] := ⟨.nil, by simp⟩

theorem canonical_cons {hole : Hole} {rest : Holes} :
    Canonical (hole :: rest) ↔
      hole.start < hole.stop ∧ (∀ later ∈ rest, hole.stop < later.start) ∧ Canonical rest := by
  constructor
  · intro canonical
    have ⟨above, apart⟩ := List.pairwise_cons.mp canonical.apart
    exact ⟨canonical.nonempty _ (List.mem_cons_self ..), above, apart,
      fun later member => canonical.nonempty _ (List.mem_cons_of_mem _ member)⟩
  · intro given
    obtain ⟨nonempty, above, rest⟩ := given
    exact ⟨List.pairwise_cons.mpr ⟨above, rest.apart⟩,
      List.forall_mem_cons.mpr ⟨nonempty, rest.nonempty⟩⟩

@[simp] theorem not_covers_nil (address : Nat) : ¬ Covers [] address := by
  simp [Covers]

theorem covers_cons {hole : Hole} {rest : Holes} {address : Nat} :
    Covers (hole :: rest) address ↔ hole.Contains address ∨ Covers rest address := by
  simp [Covers]

private theorem lt_of_covers {bound address : Nat} {holes : Holes}
    (above : ∀ hole ∈ holes, bound < hole.start) (covered : Covers holes address) :
    bound < address := by
  obtain ⟨hole, member, inside⟩ := covered
  exact Nat.lt_of_lt_of_le (above hole member) inside.1

/-- Adding a range is union, whatever the list. -/
theorem covers_add (new : Hole) (holes : Holes) (address : Nat) :
    Covers (add new holes) address ↔ new.Contains address ∨ Covers holes address := by
  induction holes generalizing new with
  | nil => simp [add, covers_cons]
  | cons hole rest ih =>
    unfold add
    split
    · rw [covers_cons, covers_cons, ih]
      exact or_left_comm
    · rename_i reaches
      split
      · rename_i touches
        rw [ih, covers_cons, Hole.contains_hull touches (by omega), or_assoc]
      · exact covers_cons

theorem ends_of_mem_add {P : Nat → Prop} {new : Hole} {holes : Holes}
    (added : P new.start ∧ P new.stop) (given : ∀ hole ∈ holes, P hole.start ∧ P hole.stop) :
    ∀ hole ∈ add new holes, P hole.start ∧ P hole.stop := by
  induction holes generalizing new with
  | nil => simpa [add] using added
  | cons hole rest ih =>
    obtain ⟨first, later⟩ := List.forall_mem_cons.mp given
    unfold add
    split
    · exact List.forall_mem_cons.mpr ⟨first, ih added later⟩
    · split
      · refine ih ⟨?_, ?_⟩ later
        · rcases Nat.le_total hole.start new.start with less | less <;>
            simp [Hole.hull, less, first.1, added.1]
        · rcases Nat.le_total hole.stop new.stop with less | less <;>
            simp [Hole.hull, less, first.2, added.2]
      · exact List.forall_mem_cons.mpr ⟨added, given⟩

private theorem lt_start_of_mem_add {bound : Nat} {new : Hole} {holes : Holes}
    (added : bound < new.start) (given : ∀ hole ∈ holes, bound < hole.start) :
    ∀ hole ∈ add new holes, bound < hole.start := by
  induction holes generalizing new with
  | nil => simpa [add] using added
  | cons hole rest ih =>
    obtain ⟨first, later⟩ := List.forall_mem_cons.mp given
    unfold add
    split
    · exact List.forall_mem_cons.mpr ⟨first, ih added later⟩
    · split
      · exact ih (by simp only [Hole.hull]; omega) later
      · exact List.forall_mem_cons.mpr ⟨added, given⟩

theorem canonical_add {new : Hole} {holes : Holes} (canonical : Canonical holes)
    (nonempty : new.start < new.stop) : Canonical (add new holes) := by
  induction holes generalizing new with
  | nil => exact canonical_cons.mpr ⟨nonempty, by simp, canonical_nil⟩
  | cons hole rest ih =>
    obtain ⟨first, above, later⟩ := canonical_cons.mp canonical
    unfold add
    split
    · rename_i before
      exact canonical_cons.mpr ⟨first, lt_start_of_mem_add before above, ih later nonempty⟩
    · split
      · exact ih later (by simp only [Hole.hull]; omega)
      · refine canonical_cons.mpr ⟨nonempty, ?_, canonical⟩
        refine List.forall_mem_cons.mpr ⟨by omega, ?_⟩
        intro other member
        have := above other member
        omega

private theorem carve?_cons {size start : Nat} {hole : Hole} {tail rest : Holes}
    (carved : carve? size (hole :: tail) = some (start, rest)) :
    (size ≤ hole.size ∧ start = hole.start ∧
      rest = if hole.start + size = hole.stop then tail
        else ⟨hole.start + size, hole.stop⟩ :: tail) ∨
    ∃ rest', carve? size tail = some (start, rest') ∧ rest = hole :: rest' := by
  unfold carve? at carved
  split at carved
  · rename_i fits
    simp only [Option.some.injEq, Prod.mk.injEq] at carved
    exact .inl ⟨fits, carved.1.symm, carved.2.symm⟩
  · obtain ⟨⟨start', rest'⟩, deeper, same⟩ := Option.map_eq_some_iff.mp carved
    simp only [Prod.mk.injEq] at same
    obtain ⟨rfl, rfl⟩ := same
    exact .inr ⟨rest', deeper, rfl⟩

theorem hole_of_carve? {size start : Nat} {holes rest : Holes}
    (carved : carve? size holes = some (start, rest)) :
    ∃ hole ∈ holes, hole.start = start ∧ size ≤ hole.size := by
  induction holes generalizing rest with
  | nil => simp [carve?] at carved
  | cons hole tail ih =>
    rcases carve?_cons carved with ⟨fits, same, _⟩ | ⟨rest', deeper, _⟩
    · exact ⟨hole, List.mem_cons_self .., same.symm, fits⟩
    · obtain ⟨found, member, facts⟩ := ih deeper
      exact ⟨found, List.mem_cons_of_mem _ member, facts⟩

theorem covers_of_carve? {size start address : Nat} {holes rest : Holes}
    (carved : carve? size holes = some (start, rest)) (low : start ≤ address)
    (high : address < start + size) : Covers holes address := by
  obtain ⟨hole, member, rfl, fits⟩ := hole_of_carve? carved
  simp only [Hole.size] at fits
  exact ⟨hole, member, low, by omega⟩

theorem ends_of_mem_carve? {P Q : Nat → Prop} {size start : Nat} {holes rest : Holes}
    (carved : carve? size holes = some (start, rest))
    (moved : ∀ hole ∈ holes, P hole.start → P (hole.start + size))
    (given : ∀ hole ∈ holes, P hole.start ∧ Q hole.stop) :
    ∀ hole ∈ rest, P hole.start ∧ Q hole.stop := by
  induction holes generalizing rest with
  | nil => simp [carve?] at carved
  | cons hole tail ih =>
    obtain ⟨first, later⟩ := List.forall_mem_cons.mp given
    obtain ⟨movedFirst, movedLater⟩ := List.forall_mem_cons.mp moved
    rcases carve?_cons carved with ⟨_, _, rfl⟩ | ⟨rest', deeper, rfl⟩
    · split
      · exact later
      · exact List.forall_mem_cons.mpr ⟨⟨movedFirst first.1, first.2⟩, later⟩
    · exact List.forall_mem_cons.mpr ⟨first, ih deeper movedLater later⟩

theorem canonical_carve? {size start : Nat} {holes rest : Holes} (canonical : Canonical holes)
    (carved : carve? size holes = some (start, rest)) : Canonical rest := by
  induction holes generalizing rest with
  | nil => simp [carve?] at carved
  | cons hole tail ih =>
    obtain ⟨first, above, later⟩ := canonical_cons.mp canonical
    rcases carve?_cons carved with ⟨fits, _, rfl⟩ | ⟨rest', deeper, rfl⟩
    · split
      · exact later
      · simp only [Hole.size] at fits
        exact canonical_cons.mpr ⟨by simp only; omega, above, later⟩
    · have above' := ends_of_mem_carve? (P := (hole.stop < ·)) (Q := fun _ => True) deeper
        (fun _ _ less => Nat.lt_add_right size less)
        (fun other member => ⟨above other member, trivial⟩)
      exact canonical_cons.mpr ⟨first, fun other member => (above' other member).1, ih later deeper⟩

private theorem covers_shrunk {size : Nat} {hole : Hole} {tail : Holes}
    (room : hole.start + size ≤ hole.stop) (above : ∀ later ∈ tail, hole.stop < later.start)
    (address : Nat) :
    Covers (if hole.start + size = hole.stop then tail
        else ⟨hole.start + size, hole.stop⟩ :: tail) address ↔
      Covers (hole :: tail) address ∧
        ¬ (Hole.mk hole.start (hole.start + size)).Contains address := by
  have beyond : Covers tail address → hole.stop < address := lt_of_covers above
  split
  · rename_i used
    rw [covers_cons]
    simp only [Hole.Contains]
    constructor
    · intro covered
      have := beyond covered
      exact ⟨.inr covered, by omega⟩
    · intro both
      rcases both with ⟨inside | covered, unused⟩
      · omega
      · exact covered
  · rw [covers_cons, covers_cons]
    simp only [Hole.Contains]
    constructor
    · intro either
      rcases either with inside | covered
      · exact ⟨.inl (by omega), by omega⟩
      · have := beyond covered
        exact ⟨.inr covered, by omega⟩
    · intro both
      rcases both with ⟨inside | covered, unused⟩
      · exact .inl (by omega)
      · exact .inr covered

theorem covers_carve? {size start : Nat} {holes rest : Holes} (canonical : Canonical holes)
    (carved : carve? size holes = some (start, rest)) (address : Nat) :
    Covers rest address ↔
      Covers holes address ∧ ¬ (Hole.mk start (start + size)).Contains address := by
  induction holes generalizing rest with
  | nil => simp [carve?] at carved
  | cons hole tail ih =>
    obtain ⟨first, above, later⟩ := canonical_cons.mp canonical
    rcases carve?_cons carved with ⟨fits, rfl, rfl⟩ | ⟨rest', deeper, rfl⟩
    · simp only [Hole.size] at fits
      exact covers_shrunk (by omega) above address
    · obtain ⟨source, member, start_eq, _⟩ := hole_of_carve? deeper
      have := above source member
      rw [covers_cons, covers_cons, ih later deeper]
      simp only [Hole.Contains]
      constructor
      · intro either
        rcases either with inside | ⟨covered, unused⟩
        · exact ⟨.inl inside, by omega⟩
        · exact ⟨.inr covered, unused⟩
      · intro both
        rcases both with ⟨inside | covered, unused⟩
        · exact .inl inside
        · exact .inr ⟨covered, unused⟩

private theorem head_unique {hole hole' : Hole} {rest rest' : Holes}
    (canonical : Canonical (hole :: rest)) (canonical' : Canonical (hole' :: rest'))
    (same : ∀ address, Covers (hole :: rest) address ↔ Covers (hole' :: rest') address) :
    hole = hole' := by
  obtain ⟨first, above, _⟩ := canonical_cons.mp canonical
  obtain ⟨first', above', _⟩ := canonical_cons.mp canonical'
  have beyond : ∀ address, Covers rest address → hole.stop < address :=
    fun _ => lt_of_covers above
  have beyond' : ∀ address, Covers rest' address → hole'.stop < address :=
    fun _ => lt_of_covers above'
  simp only [covers_cons, Hole.Contains] at same
  have starts : hole.start = hole'.start := by
    rcases (same hole.start).mp (.inl ⟨Nat.le_refl _, first⟩) with inside | covered <;>
      rcases (same hole'.start).mpr (.inl ⟨Nat.le_refl _, first'⟩) with inside' | covered'
    · omega
    · have := beyond _ covered'
      omega
    · have := beyond' _ covered
      omega
    · have := beyond _ covered'
      have := beyond' _ covered
      omega
  have stops : hole.stop = hole'.stop := by
    rcases Nat.lt_trichotomy hole.stop hole'.stop with less | equal | less
    · rcases (same hole.stop).mpr (.inl (by omega)) with inside | covered
      · omega
      · have := beyond _ covered
        omega
    · exact equal
    · rcases (same hole'.stop).mp (.inl (by omega)) with inside | covered
      · omega
      · have := beyond' _ covered
        omega
  cases hole
  cases hole'
  simp_all

/-- The canonical form is determined by the addresses that it covers. -/
theorem Canonical.ext {left right : Holes} (leftCanonical : Canonical left)
    (rightCanonical : Canonical right)
    (same : ∀ address, Covers left address ↔ Covers right address) : left = right := by
  induction left generalizing right with
  | nil =>
    cases right with
    | nil => rfl
    | cons hole rest =>
      obtain ⟨first, _, _⟩ := canonical_cons.mp rightCanonical
      have := (same hole.start).mpr (covers_cons.mpr (.inl ⟨Nat.le_refl _, first⟩))
      simp at this
  | cons hole rest ih =>
    obtain ⟨first, above, later⟩ := canonical_cons.mp leftCanonical
    cases right with
    | nil =>
      have := (same hole.start).mp (covers_cons.mpr (.inl ⟨Nat.le_refl _, first⟩))
      simp at this
    | cons hole' rest' =>
      have heads := head_unique leftCanonical rightCanonical same
      subst heads
      obtain ⟨_, above', later'⟩ := canonical_cons.mp rightCanonical
      simp only [covers_cons, Hole.Contains] at same
      congr 1
      -- What the tails cover lies above the common head, so they cover the same.
      refine ih later later' fun address => ⟨fun covered => ?_, fun covered => ?_⟩
      · have := lt_of_covers above covered
        exact ((same address).mp (.inr covered)).resolve_left (by omega)
      · have := lt_of_covers above' covered
        exact ((same address).mpr (.inr covered)).resolve_left (by omega)

theorem hole_of_covers {holes : Holes} (canonical : Canonical holes) {base size : Nat}
    (positive : 0 < size)
    (covered : ∀ address, base ≤ address → address < base + size → Covers holes address) :
    ∃ hole ∈ holes, hole.start ≤ base ∧ base + size ≤ hole.stop := by
  induction holes with
  | nil => exact absurd (covered base (Nat.le_refl _) (by omega)) (not_covers_nil base)
  | cons hole tail ih =>
    obtain ⟨_, above, later⟩ := canonical_cons.mp canonical
    have beyond : ∀ address, Covers tail address → hole.stop < address :=
      fun _ => lt_of_covers above
    rcases covers_cons.mp (covered base (Nat.le_refl _) (by omega)) with inside | first
    · refine ⟨hole, List.mem_cons_self .., inside.1, Nat.not_lt.mp fun short => ?_⟩
      -- The address past the hole would be free, but no other hole touches this one.
      have := inside.2
      rcases covers_cons.mp (covered hole.stop (by omega) short) with inside | rest
      · exact Nat.lt_irrefl _ inside.2
      · exact Nat.lt_irrefl _ (beyond _ rest)
    · have start := beyond base first
      obtain ⟨found, member, room⟩ := ih later fun address low high => by
        refine (covers_cons.mp (covered address low high)).resolve_left fun inside => ?_
        have := inside.2
        omega
      exact ⟨found, List.mem_cons_of_mem _ member, room⟩

theorem carve?_eq_none {size : Nat} {holes : Holes} :
    carve? size holes = none ↔ ∀ hole ∈ holes, hole.size < size := by
  induction holes with
  | nil => simp [carve?]
  | cons hole tail ih =>
    unfold carve?
    rw [List.forall_mem_cons]
    split
    · rename_i fits
      simp [Nat.not_lt.mpr fits]
    · rename_i small
      rw [Option.map_eq_none_iff, ih]
      simp [Nat.not_le.mp small]

/-- No hole with enough room lies below the one that is carved. -/
theorem carve?_lowest {size start : Nat} {holes rest : Holes} (canonical : Canonical holes)
    (carved : carve? size holes = some (start, rest)) {hole : Hole} (member : hole ∈ holes)
    (fits : size ≤ hole.size) : start ≤ hole.start := by
  induction holes generalizing rest with
  | nil => cases member
  | cons head tail ih =>
    obtain ⟨first, above, later⟩ := canonical_cons.mp canonical
    unfold carve? at carved
    split at carved
    · simp only [Option.some.injEq, Prod.mk.injEq] at carved
      rw [← carved.1]
      rcases List.mem_cons.mp member with rfl | behind
      · exact Nat.le_refl _
      · have := above hole behind
        omega
    · rename_i small
      obtain ⟨⟨start', rest'⟩, deeper, same⟩ := Option.map_eq_some_iff.mp carved
      cases same
      rcases List.mem_cons.mp member with rfl | behind
      · exact absurd fits small
      · exact ih later deeper behind

end Holes

end TiledSurface
