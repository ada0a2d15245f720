import TiledSurface.Proofs.Fault.Accounts

/-!
The rate limit of fault reporting. From a fresh start on, interrupts on known lines are reported
while their count is below the limit. Every one of them is counted, and the count is a word of 32
bits: when it has gone round, faults are reported as after a fresh start.
-/

namespace TiledSurface

/-- The first interrupts are reported, as many as the limit allows, and no others. -/
def Limited (limit : UInt32) (verdicts : List Bool) : Prop :=
  verdicts = List.replicate (min verdicts.length limit.toNat) true ++
    List.replicate (verdicts.length - limit.toNat) false

theorem limited_iff {limit : UInt32} {verdicts : List Bool} :
    Limited limit verdicts ↔ ∀ index verdict,
      verdicts[index]? = some verdict → verdict = decide (index < limit.toNat) := by
  have verdict (index : Nat) : (List.replicate (min verdicts.length limit.toNat) true ++
      List.replicate (verdicts.length - limit.toNat) false)[index]? =
        if index < verdicts.length then some (decide (index < limit.toNat)) else none := by
    grind
  unfold Limited
  rw [List.ext_getElem?_iff]
  simp only [verdict]
  refine forall_congr' fun index => ?_
  by_cases within : index < verdicts.length
  · simp [within]
  · simp [within]

namespace FaultMonitor

variable {m m' m'' : FaultMonitor} {line : UInt32} {kind : FaultKind}

/-- The verdicts on so many interrupts, the first of which comes when the count is as given. -/
def forecast (limit count : UInt32) (interrupts : Nat) : List Bool :=
  (List.range interrupts).map fun earlier => count + .ofNat earlier < limit

theorem forecast_succ (limit count : UInt32) (interrupts : Nat) :
    forecast limit count (interrupts + 1) =
      decide (count < limit) :: forecast limit (count + 1) interrupts := by
  unfold forecast
  rw [List.range_succ_eq_map, List.map_cons, List.map_map]
  congr 1
  · simp
  · apply List.map_congr_left
    intro earlier _
    have later : count + 1 + .ofNat earlier = count + .ofNat (earlier + 1) := by
      rw [UInt32.ofNat_add, UInt32.add_assoc, UInt32.add_comm 1]
      rfl
    rw [Function.comp_apply, later]

@[simp] theorem length_forecast (limit count : UInt32) (interrupts : Nat) :
    (forecast limit count interrupts).length = interrupts := by
  simp [forecast]

theorem forecast_fresh {limit : UInt32} {interrupts index : Nat} (within : index < interrupts) :
    (forecast limit 0 interrupts)[index]? =
      some (decide (index % UInt32.size < limit.toNat)) := by
  simp [forecast, within, UInt32.lt_iff_toNat_lt, UInt32.size]

/-- The limit holds as long as the count has not gone round. -/
theorem limited_forecast_iff {limit : UInt32} {interrupts : Nat} :
    Limited limit (forecast limit 0 interrupts) ↔ limit = 0 ∨ interrupts ≤ UInt32.size := by
  rw [limited_iff]
  constructor
  · intro limited
    by_contra beyond
    obtain ⟨positive, far⟩ := not_or.mp beyond
    have round := limited _ _ (forecast_fresh (Nat.lt_of_not_le far))
    rw [Nat.mod_self, decide_eq_decide] at round
    exact Nat.lt_asymm limit.toNat_lt_size (round.mp (UInt32.pos_iff_ne_zero.mpr positive))
  · intro either index verdict given
    have within : index < interrupts := by
      simpa using (List.getElem?_eq_some_iff.mp given).1
    rw [forecast_fresh within] at given
    cases given
    rcases either with rfl | near
    · rfl
    · rw [Nat.mod_eq_of_lt (by omega)]

/-- The verdicts on so many interrupts since a fresh start. An interrupt is reported just if the
number of those before it, as far as 32 bits tell, is below the limit. -/
structure Judged (limit : UInt32) (interrupts : Nat) (verdicts : List Bool) : Prop where
  length : verdicts.length = interrupts
  verdict : ∀ index verdict, verdicts[index]? = some verdict →
    verdict = decide (index % UInt32.size < limit.toNat)
  limited : Limited limit verdicts ↔ limit = 0 ∨ interrupts ≤ UInt32.size

theorem judged_forecast (limit : UInt32) (interrupts : Nat) :
    Judged limit interrupts (forecast limit 0 interrupts) where
  length := length_forecast ..
  verdict := fun index verdict given => by
    have within : index < interrupts := by
      simpa using (List.getElem?_eq_some_iff.mp given).1
    exact (Option.some.inj ((forecast_fresh within).symm.trans given)).symm
  limited := limited_forecast_iff

/-- What a step is to the rate limit, unless it lets reporting start afresh. An interrupt on a
known line is counted, and it is suppressed unless the count was below the limit. -/
structure Counts (m : FaultMonitor) (known : Bool) (m' : FaultMonitor) : Prop where
  lines : m'.lines = m.lines
  limit : m'.limit = m.limit
  count : m'.count = m.count + if known then 1 else 0
  reported : known = true → (m'.suppressed = m.suppressed ↔ m.count < m.limit)

/-- Whether a step reports a fault, if it is an interrupt on a known line. -/
def verdict (m : FaultMonitor) (known : Bool) (m' : FaultMonitor) : List Bool :=
  if known then [m'.suppressed = m.suppressed] else []

theorem Counts.idle (lines : m'.lines = m.lines) (limit : m'.limit = m.limit)
    (count : m'.count = m.count) : m.Counts false m' :=
  ⟨lines, limit, by simp [count], nofun⟩

theorem Counts.forecast {known : Bool} (counts : m.Counts known m') (later : Nat) :
    m.verdict known m' ++ forecast m'.limit m'.count later =
      FaultMonitor.forecast m.limit m.count (later + if known then 1 else 0) := by
  rw [counts.limit, counts.count]
  cases known with
  | false => simp [verdict]
  | true =>
    have told : decide (m'.suppressed = m.suppressed) = decide (m.count < m.limit) :=
      decide_eq_decide.mpr (counts.reported rfl)
    rw [verdict, if_pos rfl, if_pos rfl, if_pos rfl, told, forecast_succ, List.singleton_append]

/-- An interrupt that is not counted as suppressed leaves its report in the queue. -/
structure Ruled (m m' : FaultMonitor) : Prop where
  reported : m'.suppressed = m.suppressed → ∃ report, m'.queue = (m.enqueue report).queue
  suppressed : m'.suppressed ≠ m.suppressed →
    m'.suppressed = m.suppressed + 1 ∧ m'.queue = m.queue

theorem interrupt_counts (m : FaultMonitor) (e : Engine) (line : UInt32) :
    m.Counts (m.lines.kind? line).isSome (m.interrupt e line).2.1 ∧
      ((m.lines.kind? line).isSome = true → m.Ruled (m.interrupt e line).2.1) := by
  unfold interrupt
  cases owner : m.lines.kind? line with
  | none => exact ⟨.idle rfl rfl rfl, nofun⟩
  | some kind =>
    dsimp only
    by_cases allowed : m.count < m.limit
    · rw [note, if_pos allowed]
      refine ⟨⟨rfl, rfl, rfl, fun _ => iff_of_true rfl allowed⟩, fun _ => ?_⟩
      exact ⟨fun _ => ⟨_, rfl⟩, fun other => absurd rfl other⟩
    · rw [note, if_neg allowed]
      have more : m.suppressed + 1 ≠ m.suppressed := by simp
      refine ⟨⟨rfl, rfl, rfl, fun _ => iff_of_false more allowed⟩, fun _ => ?_⟩
      exact ⟨fun same => absurd same more, fun _ => ⟨rfl, rfl⟩⟩

end FaultMonitor

namespace FaultWatch

variable {w : FaultWatch} {commands : List Command}

/-- Whether each interrupt on a known line is reported, in the order in which they come. -/
def verdicts : FaultWatch → List Command → List Bool
  | _, [] => []
  | w, command :: rest =>
    w.monitor.verdict (command.isKnown w.monitor.lines) (w.step command).2.monitor ++
      verdicts (w.step command).2 rest

theorem step_counts (w : FaultWatch) {command : Command} (quiet : command ≠ .rearm) :
    w.monitor.Counts (command.isKnown w.monitor.lines) (w.step command).2.monitor := by
  cases command with
  | interrupt line => exact (w.monitor.interrupt_counts w.engine line).1
  | raise | access | takeReports => exact .idle rfl rfl rfl
  | rearm => exact absurd rfl quiet

theorem limit_run (w : FaultWatch) (commands : List Command) :
    (w.run commands).monitor.limit = w.monitor.limit := by
  induction commands generalizing w with
  | nil => rfl
  | cons command rest ih =>
    refine (ih _).trans ?_
    by_cases fresh : command = .rearm
    · rw [fresh]
      rfl
    · exact (w.step_counts fresh).limit

/-- Until the next fresh start, limit and count tell the verdicts. -/
theorem verdicts_eq (w : FaultWatch) (quiet : .rearm ∉ commands) :
    w.verdicts commands = FaultMonitor.forecast w.monitor.limit w.monitor.count
      (commands.countP (·.isKnown w.monitor.lines)) := by
  induction commands generalizing w with
  | nil => rfl
  | cons command rest ih =>
    have counts := w.step_counts fun same => quiet (same ▸ List.mem_cons_self ..)
    rw [verdicts, ih _ fun later => quiet (List.mem_cons_of_mem _ later), counts.lines,
      counts.forecast, List.countP_cons]

theorem count_fresh {before : List Command} (new : w.monitor.count = 0)
    (fresh : before = [] ∨ ∃ earlier, before = earlier ++ [.rearm]) :
    (w.run before).monitor.count = 0 := by
  rcases fresh with rfl | ⟨earlier, rfl⟩
  · exact new
  · rw [run_append]
    rfl

end FaultWatch

end TiledSurface
