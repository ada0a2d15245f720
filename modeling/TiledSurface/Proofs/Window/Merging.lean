import Mathlib.Logic.ExistsUnique
import TiledSurface.Proofs.Window.Holes

/-!
Where an added range goes. The list is parted at the first hole that reaches the range; the holes
from there on are absorbed for as long as they reach what has been gathered, and the result takes
their place. Done by places in the list, this is the same as adding by recursion.
-/

namespace TiledSurface.Holes

/-- The holes before place `first` end before `start` without touching it, the others reach it. -/
structure PartedAt (start : Nat) (holes : Holes) (first : Nat) : Prop where
  inside : first ≤ holes.length
  before : ∀ hole ∈ holes.take first, hole.stop < start
  behind : ∀ hole ∈ holes.drop first, start ≤ hole.stop

/-- Absorbs the holes from place `next` on into what has been gathered, until one starts behind
it; gives what is gathered at last, and the place of the first hole that is left. -/
def gather (holes : Holes) (gathered : Hole) (next : Nat) : Hole × Nat :=
  if inside : next < holes.length then
    if holes[next].start ≤ gathered.stop then
      gather holes (holes[next].hull gathered) (next + 1)
    else (gathered, next)
  else (gathered, next)
termination_by holes.length - next

/-- Puts what is gathered from place `first` on in the place of the holes absorbed. -/
def splice (new : Hole) (holes : Holes) (first : Nat) : Holes :=
  holes.take first ++ (gather holes new first).1 :: holes.drop (gather holes new first).2

theorem partedAt_zero {start : Nat} {holes : Holes} :
    PartedAt start holes 0 ↔ ∀ hole ∈ holes, start ≤ hole.stop :=
  ⟨fun parted => parted.behind, fun reached => ⟨Nat.zero_le _, by simp, reached⟩⟩

theorem partedAt_succ {start first : Nat} {hole : Hole} {rest : Holes} :
    PartedAt start (hole :: rest) (first + 1) ↔ hole.stop < start ∧ PartedAt start rest first := by
  constructor
  · intro parted
    obtain ⟨head, before⟩ := List.forall_mem_cons.mp parted.before
    exact ⟨head, Nat.le_of_succ_le_succ parted.inside, before, parted.behind⟩
  · rintro ⟨head, parted⟩
    exact ⟨Nat.succ_le_succ parted.inside, List.forall_mem_cons.mpr ⟨head, parted.before⟩,
      parted.behind⟩

private theorem PartedAt.le {start first other : Nat} {holes : Holes}
    (parted : PartedAt start holes first) (parted' : PartedAt start holes other) :
    first ≤ other := by
  refine Nat.not_lt.mp fun less => ?_
  have inside : other < holes.length := Nat.lt_of_lt_of_le less parted.inside
  have before := parted.before holes[other]
    (List.mem_take_iff_getElem.mpr ⟨other, Nat.lt_min.mpr ⟨less, inside⟩, rfl⟩)
  have behind := parted'.behind holes[other]
    (List.mem_drop_iff_getElem.mpr ⟨0, by omega, rfl⟩)
  exact Nat.lt_irrefl _ (Nat.lt_of_lt_of_le before behind)

theorem PartedAt.unique {start first other : Nat} {holes : Holes}
    (parted : PartedAt start holes first) (parted' : PartedAt start holes other) :
    first = other :=
  Nat.le_antisymm (parted.le parted') (parted'.le parted)

theorem Canonical.parted {holes : Holes} (canonical : Canonical holes) (start : Nat) :
    ∃ first, PartedAt start holes first := by
  induction holes with
  | nil => exact ⟨0, partedAt_zero.mpr (by simp)⟩
  | cons hole rest ih =>
    obtain ⟨_, above, later⟩ := canonical_cons.mp canonical
    by_cases before : hole.stop < start
    · obtain ⟨first, parted⟩ := ih later
      exact ⟨first + 1, partedAt_succ.mpr ⟨before, parted⟩⟩
    · refine ⟨0, partedAt_zero.mpr (List.forall_mem_cons.mpr ⟨Nat.not_lt.mp before, ?_⟩)⟩
      intro other member
      have := above other member
      have := later.nonempty other member
      omega

theorem gather_inside {holes : Holes} (gathered : Hole) {next : Nat}
    (inside : next ≤ holes.length) :
    next ≤ (gather holes gathered next).2 ∧ (gather holes gathered next).2 ≤ holes.length := by
  fun_induction gather holes gathered next with
  | case1 gathered next less reaches ih =>
    have := ih less
    omega
  | case2 => omega
  | case3 => omega

theorem gather_cons (hole : Hole) (rest : Holes) (gathered : Hole) (next : Nat) :
    gather (hole :: rest) gathered (next + 1) =
      ((gather rest gathered next).1, (gather rest gathered next).2 + 1) := by
  fun_induction gather rest gathered next with
  | case1 gathered next less reaches ih =>
    rw [gather]
    simp [less, reaches, ih]
  | case2 gathered next less apart =>
    rw [gather]
    simp [less, apart]
  | case3 gathered next outside =>
    rw [gather]
    simp [outside]

theorem gather_touching {hole gathered : Hole} {rest : Holes}
    (touches : hole.start ≤ gathered.stop) :
    gather (hole :: rest) gathered 0 =
      ((gather rest (hole.hull gathered) 0).1, (gather rest (hole.hull gathered) 0).2 + 1) := by
  rw [gather, dif_pos (by simp), List.getElem_cons_zero, if_pos touches, gather_cons]

theorem gather_apart {hole gathered : Hole} {rest : Holes}
    (apart : ¬ hole.start ≤ gathered.stop) : gather (hole :: rest) gathered 0 = (gathered, 0) := by
  rw [gather, dif_pos (by simp), List.getElem_cons_zero, if_neg apart]

/-- Where every hole reaches the range, adding it is absorbing from the front. What is gathered
starts no later than the range, so the holes behind reach it too. -/
theorem add_of_reached {new : Hole} {holes : Holes}
    (reached : ∀ hole ∈ holes, new.start ≤ hole.stop) : add new holes = splice new holes 0 := by
  induction holes generalizing new with
  | nil =>
    rw [splice, gather]
    rfl
  | cons hole rest ih =>
    obtain ⟨head, later⟩ := List.forall_mem_cons.mp reached
    have reached' : ∀ other ∈ rest, (hole.hull new).start ≤ other.stop := fun other member =>
      Nat.le_trans (Nat.min_le_right ..) (later other member)
    rw [add, if_neg (Nat.not_lt.mpr head)]
    by_cases touches : hole.start ≤ new.stop
    · rw [if_pos touches, ih reached', splice, splice, gather_touching touches]
      rfl
    · rw [if_neg touches, splice, gather_apart touches]
      rfl

/-- Adding a range is splicing it in at the place where the list is parted. -/
theorem add_eq_splice {new : Hole} {holes : Holes} {first : Nat}
    (parted : PartedAt new.start holes first) : add new holes = splice new holes first := by
  induction holes generalizing first with
  | nil =>
    obtain rfl : first = 0 := Nat.le_zero.mp parted.inside
    exact add_of_reached parted.behind
  | cons hole rest ih =>
    cases first with
    | zero => exact add_of_reached parted.behind
    | succ first =>
      obtain ⟨before, parted'⟩ := partedAt_succ.mp parted
      rw [add, if_pos before, ih parted', splice, splice, gather_cons]
      rfl

/-- Adding a range to a canonical list replaces a run of neighbouring holes, perhaps none: those
from the first that reaches the range up to the first that starts behind all that is gathered. The
list is canonical again, it covers what it covered before and the range, and no end lies higher
than it did. -/
theorem add_unites {holes : Holes} (canonical : Canonical holes) {new : Hole}
    (nonempty : new.start < new.stop) :
    (∃! first, PartedAt new.start holes first) ∧
    (∀ first, PartedAt new.start holes first →
      first ≤ (gather holes new first).2 ∧ (gather holes new first).2 ≤ holes.length ∧
        add new holes = splice new holes first) ∧
    Canonical (add new holes) ∧
    (∀ address, Covers (add new holes) address ↔ Covers holes address ∨ new.Contains address) ∧
    ∀ bound, new.stop ≤ bound → (∀ hole ∈ holes, hole.stop ≤ bound) →
      ∀ hole ∈ add new holes, hole.stop ≤ bound := by
  refine ⟨?_, fun first parted => ?_, canonical_add canonical nonempty,
    fun address => (covers_add new holes address).trans or_comm, fun bound fits below => ?_⟩
  · obtain ⟨first, parted⟩ := canonical.parted new.start
    exact ⟨first, parted, fun _ parted' => parted'.unique parted⟩
  · obtain ⟨low, high⟩ := gather_inside new parted.inside
    exact ⟨low, high, add_eq_splice parted⟩
  · intro hole member
    have nested {hole : Hole} (nonempty : hole.start < hole.stop) (below : hole.stop ≤ bound) :
        hole.start ≤ bound ∧ hole.stop ≤ bound :=
      ⟨Nat.le_trans (Nat.le_of_lt nonempty) below, below⟩
    exact (ends_of_mem_add (P := (· ≤ bound)) (nested nonempty fits)
      (fun other given => nested (canonical.nonempty other given) (below other given))
      hole member).2

/-- Holes of a page each, some of them only a page apart. -/
def scatteredHoles : Holes :=
  [⟨0x1000, 0x2000⟩, ⟨0x3000, 0x4000⟩, ⟨0x5000, 0x6000⟩, ⟨0x9000, 0xA000⟩]

/-- A range that touches the first hole, contains the second and overlaps the third makes one hole
of all three. -/
theorem add_unites_scatteredHoles :
    Canonical scatteredHoles ∧ PartedAt 0x2000 scatteredHoles 0 ∧
      splice ⟨0x2000, 0x5800⟩ scatteredHoles 0 = [⟨0x1000, 0x6000⟩, ⟨0x9000, 0xA000⟩] ∧
      ∀ address, Covers [⟨0x1000, 0x6000⟩, ⟨0x9000, 0xA000⟩] address ↔
        Covers scatteredHoles address ∨ 0x2000 ≤ address ∧ address < 0x5800 := by
  have canonical : Canonical scatteredHoles := ⟨by decide, by decide⟩
  have parted : PartedAt 0x2000 scatteredHoles 0 := partedAt_zero.mpr (by decide)
  have added : add ⟨0x2000, 0x5800⟩ scatteredHoles = [⟨0x1000, 0x6000⟩, ⟨0x9000, 0xA000⟩] := by
    decide
  obtain ⟨_, spliced, _, covers, _⟩ :=
    add_unites canonical (by decide : (⟨0x2000, 0x5800⟩ : Hole).start < 0x5800)
  refine ⟨canonical, parted, ?_, fun address => ?_⟩
  · rw [← added]
    exact (spliced 0 parted).2.2.symm
  · rw [← added]
    exact covers address

end TiledSurface.Holes
