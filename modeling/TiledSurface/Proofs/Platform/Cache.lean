import Mathlib.Data.List.Chain
import TiledSurface.Platform.Cache
import TiledSurface.Proofs.Word

namespace TiledSurface.Cache

/-- Operations that clean a window line by line. -/
structure Swept (line : Nat) (window : Region) (ops : List Op) : Prop where
  cleans : ∀ op ∈ ops, op.action = .clean ∧ 0 < op.region.size
  first : ops.head?.map (·.region.base) = some window.base
  behind : ops.IsChain fun op next => next.region.base = op.region.stop
  full : ∀ op ∈ ops.dropLast, op.region.size = line
  last : ∀ op, ops.getLast? = some op → op.region.size ≤ line
  stop : ops.getLast?.map (·.region.stop) = some window.stop
  count : ops.length = Word.ceilDiv window.size line

def Recipe.Cleans (window : Region) (ops : List Op) : Recipe → Prop
  | .bulk => ops = [⟨.clean, window⟩]
  | .perLine line _ => Swept line.toNat window ops

variable {line start stop : Nat} {ops : List Op}

theorem Swept.single (below : start < stop) (short : stop ≤ start + line) :
    Swept line ⟨start, stop - start⟩ [⟨.clean, ⟨start, stop - start⟩⟩] where
  cleans := by simpa using Nat.sub_pos_of_lt below
  first := rfl
  behind := .singleton _
  full := by simp
  last := by
    rintro op ⟨⟩
    exact Nat.sub_le_iff_le_add'.mpr short
  stop := rfl
  count := by
    exact (Word.ceilDiv_eq_one (Nat.sub_pos_of_lt below) (Nat.sub_le_iff_le_add'.mpr short)).symm

theorem Swept.cons (nonzero : 0 < line) (long : start + line < stop)
    (swept : Swept line ⟨start + line, stop - (start + line)⟩ ops) :
    Swept line ⟨start, stop - start⟩ (⟨.clean, ⟨start, line⟩⟩ :: ops) := by
  obtain ⟨op, rest, rfl⟩ : ∃ op rest, ops = op :: rest := by
    cases ops with
    | nil => cases swept.first
    | cons op rest => exact ⟨op, rest, rfl⟩
  constructor
  · intro op' member
    rcases List.mem_cons.mp member with rfl | later
    · exact ⟨rfl, nonzero⟩
    · exact swept.cleans op' later
  · rfl
  · exact .cons_cons (Option.some.inj swept.first) swept.behind
  · intro op' member
    rcases List.mem_cons.mp member with rfl | later
    · rfl
    · exact swept.full op' later
  · exact swept.last
  · have ends := swept.stop
    simp only [Region.stop] at ends ⊢
    rw [List.getLast?_cons_cons, ends]
    congr 1
    omega
  · have pieces : stop - start = stop - (start + line) + line := by omega
    rw [List.length_cons, swept.count, pieces, Word.ceilDiv_add nonzero]

theorem between_of_behind {ops : List Op}
    (behind : ops.IsChain fun op next => next.region.base = op.region.stop) :
    ∀ {base stop : Nat}, ops.head?.map (·.region.base) = some base →
      ops.getLast?.map (·.region.stop) = some stop →
      ∀ op ∈ ops, base ≤ op.region.base ∧ op.region.stop ≤ stop := by
  induction ops with
  | nil => simp
  | cons op rest ih =>
    intro base stop first last
    cases first
    cases rest with
    | nil =>
      cases last
      simp
    | cons next rest =>
      obtain ⟨touch, behind⟩ := List.isChain_cons_cons.mp behind
      rw [List.getLast?_cons_cons] at last
      have later := ih behind rfl last
      have grows : op.region.base ≤ op.region.stop := Nat.le_add_right ..
      intro op' member
      rcases List.mem_cons.mp member with rfl | member
      · have ⟨_, below⟩ := later next List.mem_cons_self
        exact ⟨Nat.le_refl _, touch ▸ Nat.le_trans (Nat.le_add_right ..) below⟩
      · have ⟨above, below⟩ := later op' member
        exact ⟨Nat.le_trans grows (touch ▸ above), below⟩

theorem Swept.inside {window : Region} (swept : Swept line window ops) {op : Op}
    (member : op ∈ ops) {address : Nat} (cleaned : op.region.Contains address) :
    window.Contains address := by
  have ⟨above, below⟩ := between_of_behind swept.behind swept.first swept.stop op member
  exact ⟨Nat.le_trans above cleaned.1, Nat.lt_of_lt_of_le cleaned.2 below⟩

/-- The lines of a sweep cover what is left of the window. Then it comes to its end, or its last sum
does not fit. -/
theorem sweep_swept (nonzero : 0 < line) (inside : stop < Word.limit) (below : start < stop)
    (done : List Op) :
    ∃ ops, Swept line ⟨start, stop - start⟩ ops ∧
      sweep line stop start done =
        (if start + line * Word.ceilDiv (stop - start) line < Word.limit then .ok ()
          else .error .overflow, done.reverse ++ ops) := by
  have last {start : Nat} (below : start < stop) (short : stop ≤ start + line) :
      min line (stop - start) = stop - start ∧ Word.ceilDiv (stop - start) line = 1 :=
    ⟨by omega, Word.ceilDiv_eq_one (by omega) (by omega)⟩
  -- Along the passes. The next one has a line to clean unless this one came to the window's end.
  fun_induction sweep line stop start done with
  | case1 => omega
  | case4 => omega
  | case3 start done _ _ lines wraps =>
    have short : stop ≤ start + line := by omega
    obtain ⟨cut, one⟩ := last below short
    refine ⟨_, .single below short, ?_⟩
    rw [one, Nat.mul_one, if_neg wraps]
    simp [lines, cut]
  | case2 start done _ _ lines fits ih =>
    by_cases long : start + line < stop
    · have pieces : stop - start = stop - (start + line) + line := by omega
      have same : start + line * Word.ceilDiv (stop - start) line =
          start + line + line * Word.ceilDiv (stop - (start + line)) line := by
        rw [pieces, Word.ceilDiv_add nonzero, Nat.mul_succ]
        omega
      have whole : min line (stop - start) = line := by omega
      obtain ⟨ops, covers, swept⟩ := ih long
      refine ⟨_, covers.cons nonzero long, ?_⟩
      rw [swept, same]
      simp [lines, whole]
    · have short : stop ≤ start + line := Nat.not_lt.mp long
      obtain ⟨cut, one⟩ := last below short
      refine ⟨_, .single below short, ?_⟩
      rw [sweep, if_neg long, one, Nat.mul_one, if_pos fits]
      simp [lines, cut]

/-- All sums and differences of cleaning line by line: the end of the window, and for every line
what is left of the window and the address of the next line. -/
structure SumsFit (line : Nat) (window : Region) (ops : List Op) : Prop where
  stop : window.stop < Word.limit
  left : ∀ op ∈ ops, op.region.base ≤ window.stop
  next : ∀ op ∈ ops, op.region.base + line < Word.limit

theorem last_of_behind {ops : List Op}
    (behind : ops.IsChain fun op next => next.region.base = op.region.stop) :
    ∀ {base : Nat}, ops.head?.map (·.region.base) = some base →
      (∀ op ∈ ops.dropLast, op.region.size = line) →
      ∀ op, ops.getLast? = some op → op.region.base + line = base + line * ops.length := by
  induction ops with
  | nil => simp
  | cons op rest ih =>
    intro base first full
    cases first
    cases rest with
    | nil =>
      rintro _ ⟨⟩
      simp
    | cons next rest =>
      obtain ⟨touch, behind⟩ := List.isChain_cons_cons.mp behind
      obtain ⟨whole, full⟩ := List.forall_mem_cons.mp full
      intro last found
      rw [List.getLast?_cons_cons] at found
      have next_base : next.region.base = op.region.base + line := by
        rw [touch, Region.stop, whole]
      calc last.region.base + line
          = next.region.base + line * (next :: rest).length := ih behind rfl full last found
        _ = op.region.base + line * (op :: next :: rest).length := by
          rw [next_base, List.length_cons (a := op), Nat.mul_succ]
          omega

/-- What counts is the address behind the last line. -/
theorem Swept.sumsFit_iff {window : Region} (swept : Swept line window ops)
    (inside : window.stop < Word.limit) :
    SumsFit line window ops ↔
      window.base + line * Word.ceilDiv window.size line < Word.limit := by
  obtain ⟨last, found, _⟩ := Option.map_eq_some_iff.mp swept.stop
  have split : ops = ops.dropLast ++ [last] := (List.dropLast_append_getLast? last found).symm
  have behind := last_of_behind swept.behind swept.first swept.full last found
  rw [← swept.count, ← behind]
  constructor
  · exact fun fit => fit.next last (List.mem_of_getLast? found)
  · intro fits
    have between := between_of_behind swept.behind swept.first swept.stop
    refine ⟨inside, fun op member => ?_, fun op member => ?_⟩
    · exact Nat.le_trans (Nat.le_add_right ..) (between op member).2
    · rw [split, List.mem_append, List.mem_singleton] at member
      rcases member with earlier | rfl
      · rw [← swept.full op earlier]
        exact Nat.lt_of_le_of_lt (between op ((List.dropLast_sublist ops).mem earlier)).2 inside
      · exact fits

theorem line_pos {line : UInt64} (nonzero : line ≠ 0) : 0 < line.toNat := by
  rw [Nat.pos_iff_ne_zero, ← UInt64.toNat_zero, Ne, UInt64.toNat_inj]
  exact nonzero

/-- Cleaning a window line by line covers it, and comes to its end just if the line over its last
address ends inside 64 bits. -/
theorem Recipe.clean_perLine {window : Region} {line : UInt64} (nonempty : 0 < window.size)
    (inside : window.stop < Word.limit) (nonzero : line ≠ 0) (delay : UInt64) :
    ∃ ops, Swept line.toNat window ops ∧
      (Recipe.perLine line delay).clean window =
        (if window.base + line.toNat * Word.ceilDiv window.size line.toNat < Word.limit then .ok ()
          else .error .overflow, ops) := by
  have size : window.stop - window.base = window.size := Nat.add_sub_cancel_left ..
  have below : window.base < window.stop := Nat.lt_add_of_pos_right nonempty
  obtain ⟨ops, covers, swept⟩ := sweep_swept (line_pos nonzero) inside below []
  rw [size] at covers swept
  refine ⟨ops, covers, ?_⟩
  rw [clean, if_pos inside, swept]
  rfl

/-- A window is cleaned as the recipe asks, if a line from its last address on would end inside
64 bits. -/
theorem Recipe.cleans_clean {recipe : Recipe} {window : Region} (nonempty : 0 < window.size)
    (room : ∀ line delay, recipe = .perLine line delay →
      line ≠ 0 ∧ window.stop + line.toNat < Word.limit) :
    ∃ ops, recipe.Cleans window ops ∧ recipe.clean window = (.ok (), ops) := by
  cases recipe with
  | bulk => exact ⟨_, rfl, rfl⟩
  | perLine line delay =>
    obtain ⟨nonzero, room⟩ := room line delay rfl
    have inside : window.stop < Word.limit := Nat.lt_of_le_of_lt (Nat.le_add_right ..) room
    obtain ⟨ops, covers, swept⟩ := clean_perLine nonempty inside nonzero delay
    refine ⟨ops, covers, ?_⟩
    have near := Word.mul_ceilDiv_lt (line_pos nonzero) window.size
    simp only [Region.stop] at room
    rw [swept, if_pos (by omega)]

end TiledSurface.Cache
