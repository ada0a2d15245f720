import TiledSurface.Proofs.Driver.Turns
import TiledSurface.Proofs.Fault.RateLimit

namespace TiledSurface.Driver

variable {d d' : Driver} {handle : Handle} {commands : List Command}

def Command.isKnown (lines : InterruptLines) : Command → Bool
  | .interrupt line => (lines.kind? line).isSome
  | _ => false

def Unlocks : Policy := fun d command =>
  ∃ handle, command.isUnlock handle = true ∧ (d.step command).1.isRefused = false

/-- Whether each interrupt on a known line is reported, in the order in which they come. -/
def verdicts : Driver → List Command → List Bool
  | _, [] => []
  | d, command :: rest =>
    d.faults.verdict (command.isKnown d.faults.lines) (d.step command).2.faults ++
      verdicts (d.step command).2 rest

theorem UntrackEnds.faults {result : Except Failure Unit} (ends : d.UntrackEnds handle result d') :
    d'.faults = d.faults := by
  cases ends <;> rfl

theorem Configured.faults {a : Attributes} {result : Except Error Unit}
    (configured : d.Configured handle a result d') : d'.faults = d.faults := by
  cases configured <;> rfl

theorem TrackEnds.faults {result : Except Error Unit} (ends : d.TrackEnds handle result d') :
    d'.faults = d.faults := by
  cases ends <;> rfl

theorem LockEnds.faults {direction : Direction} {result : Except Error Unit}
    (ends : d.LockEnds handle direction result d') : d'.faults = d.faults := by
  cases ends <;> rfl

theorem PermanentEnds.faults {on : Bool} {result : Except Error Unit}
    (ends : d.PermanentEnds handle on result d') : d'.faults = d.faults := by
  cases ends <;> rfl

theorem UnlockEnds.faults {result : Except Failure Unit} (ends : d.UnlockEnds handle result d') :
    d'.faults = if (Outcome.ofResult result).isRefused then d.faults else d.faults.rearm := by
  cases ends <;> rfl

theorem step_counts {command : Command} (quiet : ¬ Unlocks d command) :
    d.faults.Counts (command.isKnown d.faults.lines) (d.step command).2.faults := by
  have still : ∀ {m : FaultMonitor}, m = d.faults → d.faults.Counts false m :=
    fun same => same ▸ .idle rfl rfl rfl
  cases command with
  | platform | attributes | takeReports => exact .idle rfl rfl rfl
  | interrupt line => exact (d.faults.interrupt_counts d.engine line).1
  | track handle => exact still (d.track_ends handle).faults
  | configure handle a => exact still (d.configure_ends handle a).faults
  | lock handle direction => exact still (d.lock_ends handle direction).faults
  | setPermanent handle on => exact still (d.setPermanent_ends handle on).faults
  | untrack handle => exact still (d.untrack_ends handle).faults
  | unlock handle direction =>
    apply still
    refine (d.unlock_ends handle direction).faults.trans (if_pos ?_)
    rw [← Bool.not_eq_false]
    exact fun accepted => quiet ⟨handle, beq_self_eq_true handle, accepted⟩

theorem Unlocks.faults {command : Command} (unlocks : Unlocks d command) :
    (d.step command).2.faults = d.faults.rearm := by
  obtain ⟨handle, request, accepted⟩ := unlocks
  cases command with
  | unlock other direction =>
    refine (d.unlock_ends other direction).faults.trans (if_neg ?_)
    rw [Bool.not_eq_true]
    exact accepted
  | platform | track | configure | attributes | lock | setPermanent | untrack | interrupt
  | takeReports => cases request

theorem rules_run (d : Driver) (commands : List Command) :
    (d.run commands).faults.lines = d.faults.lines ∧
      (d.run commands).faults.limit = d.faults.limit := by
  refine run_keeps (fun d' => d'.faults.lines = d.faults.lines ∧
    d'.faults.limit = d.faults.limit) ⟨rfl, rfl⟩ ?_ commands
  rintro d' command ⟨lines, limit⟩
  by_cases unlocks : Unlocks d' command
  · rw [unlocks.faults]
    exact ⟨lines, limit⟩
  · have counts := step_counts unlocks
    exact ⟨counts.lines.trans lines, counts.limit.trans limit⟩

/-- Until the next unlock that is not refused, limit and count tell the verdicts. -/
theorem verdicts_eq (quiet : Along (fun d command => ¬ Unlocks d command) d commands) :
    d.verdicts commands = FaultMonitor.forecast d.faults.limit d.faults.count
      (commands.countP (·.isKnown d.faults.lines)) := by
  induction commands generalizing d with
  | nil => rfl
  | cons command rest ih =>
    have counts := step_counts quiet.1
    rw [verdicts, ih quiet.2, counts.lines, counts.forecast, List.countP_cons]

theorem faults_bringUp {config : Config} {platform : Platform}
    (up : bringUp config platform = .ok d) :
    d.faults = {
      lines := config.lines
      limit := config.reportLimit
      depth := config.queueDepth.toNat } := by
  obtain ⟨_, _, rfl⟩ := bringUp_iff.mp up
  rfl

theorem count_fresh {before : List Command} (new : d.faults.count = 0)
    (fresh : before = [] ∨ ∃ earlier command, before = earlier ++ [command] ∧
      Unlocks (d.run earlier) command) : (d.run before).faults.count = 0 := by
  rcases fresh with rfl | ⟨earlier, command, rfl, unlocks⟩
  · exact new
  · rw [run_snoc, unlocks.faults]
    rfl

/-- The verdicts from one fresh start to the next, of a monitor by itself and of the monitor in a
driver, whatever else happens. A fault is reported to the queue or counted as suppressed. The limit
holds for as many interrupts as 32 bits can count. The next one is reported although the limit has
been reached, unless nothing is reported at all. -/
theorem reports_limited_iff (lines : InterruptLines) (limit : UInt32) :
    (∀ (m : FaultMonitor) (e : Engine) (line : UInt32), (m.lines.kind? line).isSome = true →
      m.Ruled (m.interrupt e line).2.1) ∧
    (∀ (w : FaultWatch) depth, w.monitor = { lines, limit, depth } →
      ∀ before between, (before = [] ∨ ∃ earlier, before = earlier ++ [.rearm]) →
        .rearm ∉ between →
        FaultMonitor.Judged limit (between.countP (·.isKnown lines))
          ((w.run before).verdicts between)) ∧
    (∀ config platform d, config.lines = lines → config.reportLimit = limit →
      bringUp config platform = .ok d →
      ∀ before between,
        (before = [] ∨ ∃ earlier command, before = earlier ++ [command] ∧
          Unlocks (d.run earlier) command) →
        Along (fun d command => ¬ Unlocks d command) (d.run before) between →
        FaultMonitor.Judged limit (between.countP (·.isKnown lines))
          ((d.run before).verdicts between)) := by
  refine ⟨fun m e line => (m.interrupt_counts e line).2, ?_, ?_⟩
  · intro w depth new before between fresh quiet
    have told := (w.run before).verdicts_eq quiet
    rw [FaultWatch.limit_run, FaultWatch.lines_run,
      FaultWatch.count_fresh (by rw [new]) fresh, new] at told
    rw [told]
    exact FaultMonitor.judged_forecast _ _
  · intro config platform d sameLines sameLimit up before between fresh quiet
    subst sameLines sameLimit
    have new := faults_bringUp up
    have told := verdicts_eq quiet
    rw [(d.rules_run before).1, (d.rules_run before).2, count_fresh (by rw [new]) fresh,
      new] at told
    rw [told]
    exact FaultMonitor.judged_forecast _ _

/-- An unlock is granted after two interrupts of which one was reported. -/
def busyRun : List Command := shortRun ++ [.interrupt 0, .interrupt 1]

/-- Of the interrupts on known lines that follow a fresh start, a limit of one lets the first be
reported. -/
theorem reports_limited_iff_busyRun :
    (FaultWatch.narrowWatch.run [.interrupt 0, .interrupt 0, .rearm]).verdicts
        [.interrupt 1, .interrupt 7, .interrupt 0] = [true, false] ∧
    ∃ d, bringUp { reportLimit := 1 } { engine := { version := ⟨1, 1⟩ } } = .ok d ∧
      (d.run (busyRun ++ [.unlock 1 .read])).verdicts
        [.interrupt 2, .lock 1 .read, .interrupt 7, .interrupt 2] = [true, false] := by
  obtain ⟨_, watch, driver⟩ := reports_limited_iff .standard 1
  constructor
  · have judged := watch FaultWatch.narrowWatch 1 rfl
      [.interrupt 0, .interrupt 0, .rearm] [.interrupt 1, .interrupt 7, .interrupt 0]
      (.inr ⟨[.interrupt 0, .interrupt 0], rfl⟩) (by simp)
    have limited := judged.limited.mpr (.inr (List.countP_le_length.trans (by decide)))
    rw [Limited, judged.length] at limited
    exact limited
  · have computed : (bringUp { reportLimit := 1 } { engine := { version := ⟨1, 1⟩ } }).toOption.any
        (fun d => !((d.run busyRun).step (.unlock 1 .read)).1.isRefused) = true := by
      decide +kernel
    obtain ⟨d, up, granted⟩ := exists_up computed
    refine ⟨d, up, ?_⟩
    have unlocks : Unlocks (d.run busyRun) (.unlock 1 .read) :=
      ⟨1, rfl, Bool.not_eq_true' _ ▸ granted⟩
    have judged := driver _ _ d rfl rfl up (busyRun ++ [.unlock 1 .read])
      [.interrupt 2, .lock 1 .read, .interrupt 7, .interrupt 2]
      (.inr ⟨busyRun, _, rfl, unlocks⟩) (by simp [Along, Unlocks, Command.isUnlock])
    have limited := judged.limited.mpr (.inr (List.countP_le_length.trans (by decide)))
    rw [Limited, judged.length] at limited
    exact limited

/-- Interrupts on the line of read faults, as many as are asked for. -/
def storm (interrupts : Nat) : List Command := List.replicate interrupts (.interrupt 0)

theorem storm_quiet (d : Driver) (interrupts : Nat) :
    Along (fun d command => ¬ Unlocks d command) d (storm interrupts) := by
  induction interrupts generalizing d with
  | zero => trivial
  | succ interrupts ih =>
    rw [storm, List.replicate_succ]
    refine ⟨?_, ih _⟩
    rintro ⟨handle, request, _⟩
    cases request

/-- One more interrupt than 32 bits can count is reported in spite of a limit of one. -/
theorem storm_not_limited :
    ∃ d, bringUp { reportLimit := 1 } { engine := { version := ⟨1, 1⟩ } } = .ok d ∧
      Along (fun d command => ¬ Unlocks d command) d (storm (UInt32.size + 1)) ∧
      ¬ Limited 1 (d.verdicts (storm (UInt32.size + 1))) := by
  have accepted : (bringUp { reportLimit := 1 } { engine := { version := ⟨1, 1⟩ } }).toOption.any
      (fun _ => true) = true := by
    decide +kernel
  obtain ⟨d, up, _⟩ := exists_up accepted
  have quiet := d.storm_quiet (UInt32.size + 1)
  refine ⟨d, up, quiet, ?_⟩
  have known : (Command.interrupt 0).isKnown .standard = true := rfl
  rw [verdicts_eq quiet, faults_bringUp up, storm, List.countP_replicate, if_pos known,
    FaultMonitor.limited_forecast_iff]
  rintro (none | few)
  · cases none
  · exact Nat.not_succ_le_self _ few

end TiledSurface.Driver
