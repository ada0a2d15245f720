import TiledSurface.Proofs.Driver.Hotplug
import TiledSurface.Proofs.Engine.Answers

/-!
The calls that a driver makes to its engine. What a step adds to the engine's log are the writes
that it makes, and the engine goes through these and nothing else. The driver counts the windows
that it programs and the flushes that time out.
-/

namespace TiledSurface

open Engine (Event)

theorem Stats.programmed_flushed (stats : Stats) (result : Except Engine.Fault Unit) :
    (stats.flushed result).programmed = stats.programmed := by
  cases result <;> rfl

theorem Stats.flushFailures_flushed (stats : Stats) (result : Except Engine.Fault Unit) :
    (stats.flushed result).flushFailures =
      stats.flushFailures + .ofNat ([Engine.Outcome.ofFlush result].countP (·.isTimeout)) := by
  cases result with
  | ok done => exact (UInt64.add_zero _).symm
  | error fault =>
    cases fault
    rfl

namespace Driver

variable {d d' : Driver} {handle : Handle}

structure Calls (d : Driver) (log : List Event) (d' : Driver) : Prop where
  engine : d'.engine = d.engine.perform log
  programmed : d'.stats.programmed = d.stats.programmed + .ofNat (log.countP (·.isProgram))
  failures : d'.stats.flushFailures = d.stats.flushFailures + .ofNat (d.engine.timeouts log)

theorem Calls.nothing (engine : d'.engine = d.engine)
    (programmed : d'.stats.programmed = d.stats.programmed)
    (failures : d'.stats.flushFailures = d.stats.flushFailures) : d.Calls [] d' where
  engine := engine
  programmed := programmed.trans (UInt64.add_zero _).symm
  failures := failures.trans (UInt64.add_zero _).symm

theorem Calls.trans {d'' : Driver} {first second : List Event} (one : d.Calls first d')
    (two : d'.Calls second d'') : d.Calls (first ++ second) d'' where
  engine := by rw [two.engine, one.engine, Engine.perform_append]
  programmed := by
    rw [two.programmed, one.programmed, List.countP_append, UInt64.ofNat_add, UInt64.add_assoc]
  failures := by
    rw [two.failures, one.failures, Engine.timeouts_append, ← one.engine, UInt64.ofNat_add,
      UInt64.add_assoc]

theorem Joins.calls {result : Except Error Unit} (joins : d.Joins handle result d') :
    d.Calls [] d' := by
  cases joins <;> exact .nothing rfl rfl rfl

/-- The writes with which a session begins. The window is programmed unless it is already. -/
def opening (layout : Tiled) (slot : Slot) : List Event :=
  (if layout.binding.programmed? = none then [.setWindow slot layout.window] else []) ++
    [.enableWindow slot, .flush]

theorem Bound.calls {layout : Tiled} {slot : Slot} {slots : SlotTable} {engine : Engine}
    {stats : Stats} (bound : d.Bound layout slot slots engine stats) (cache : List Cache.Op)
    (surfaces : OrderedMap Surface) (locks : UInt64) :
    d.Calls (opening layout slot) { d with
      slots, cache, surfaces
      engine := (engine.enableWindow slot).flush.2
      stats := { stats.flushed (engine.enableWindow slot).flush.1 with locks } } := by
  unfold opening
  cases bound with
  | ready kept =>
    rw [kept]
    exact ⟨rfl, (Stats.programmed_flushed ..).trans (UInt64.add_zero _).symm,
      Stats.flushFailures_flushed ..⟩
  | stale bound | claimed bound =>
    rw [bound]
    exact ⟨rfl, Stats.programmed_flushed .., Stats.flushFailures_flushed ..⟩

theorem LockEnds.calls {direction : Direction} {result : Except Error Unit}
    (ends : d.LockEnds handle direction result d') : ∃ log, d.Calls log d' := by
  cases ends with
  | unknown | unset | linear | overflow | exhausted | nested => exact ⟨[], .nothing rfl rfl rfl⟩
  | first found bound => exact ⟨_, bound.calls ..⟩

theorem UnlockEnds.calls {result : Except Failure Unit} (ends : d.UnlockEnds handle result d') :
    ∃ log, d.Calls log d' := by
  cases ends with
  | unknown | idle | nested | broken => exact ⟨[], .nothing rfl rfl rfl⟩
  | @last _ _ slot =>
    exact ⟨[.disableWindow slot], rfl, (Stats.programmed_flushed ..).trans (UInt64.add_zero _).symm,
      Stats.flushFailures_flushed ..⟩

theorem PermanentEnds.calls {on : Bool} {result : Except Error Unit}
    (ends : d.PermanentEnds handle on result d') : d.Calls [] d' := by
  cases ends <;> exact .nothing rfl rfl rfl

theorem settle_calls (d : Driver) (handle : Handle) (surface : Surface) (a : Attributes)
    (attempt : Attempt) : d.Calls [] (d.settle handle surface a attempt).2 := by
  cases attempt with
  | refused | linear =>
    rw [settle, release_eq]
    exact .nothing rfl rfl rfl
  | tiled => exact .nothing rfl rfl rfl

theorem configure_calls (d : Driver) (handle : Handle) (a : Attributes) :
    d.Calls [] (d.configure handle a).2 := by
  unfold configure
  cases found : d.surfaces.find? handle with
  | none => exact .nothing rfl rfl rfl
  | some surface =>
    dsimp only
    split
    · exact .nothing rfl rfl rfl
    · obtain ⟨attempt, pool, buffers, tried, _⟩ := d.attempt_ends handle surface.holdings a
      have settled := settle_calls { d with pool, buffers } handle surface a attempt
      rw [tried]
      exact ⟨settled.engine, settled.programmed, settled.failures⟩

theorem ForceEnds.calls {surface : Surface} {result : Except Cache.Break Unit}
    (ends : d.ForceEnds surface result d') : ∃ log, d.Calls log d' := by
  cases ends with
  | idle | broken => exact ⟨[], .nothing rfl rfl rfl⟩
  | @closed _ slot =>
    exact ⟨[.disableWindow slot], rfl, (Stats.programmed_flushed ..).trans (UInt64.add_zero _).symm,
      Stats.flushFailures_flushed ..⟩

theorem takeOffline_calls (d : Driver) : d.Calls [] d.takeOffline := by
  rcases d.takeOffline_cases with ⟨_, left⟩ | ⟨_, _, ⟨_, _, left⟩ | ⟨_, left⟩⟩
  all_goals
    rw [left]
    exact .nothing rfl rfl rfl

theorem untrack_calls (d : Driver) (handle : Handle) :
    ∃ log, d.Calls log (d.untrack handle).2 := by
  cases found : d.surfaces.find? handle with
  | none =>
    rw [untrack, found]
    exact ⟨[], .nothing rfl rfl rfl⟩
  | some surface =>
    obtain ⟨log, calls⟩ := (d.forceUnlock_ends surface).calls
    cases through : (d.forceUnlock surface).1 with
    | error why =>
      rw [untrack_broken found through]
      exact ⟨log, calls⟩
    | ok done =>
      have released : d.Calls log (d.without handle surface) := by
        rw [without, release_eq]
        exact ⟨calls.engine, calls.programmed, calls.failures⟩
      have left := released.trans (d.without handle surface).takeOffline_calls
      rw [List.append_nil] at left
      rw [untrack_eq found through]
      exact ⟨log, left.engine, left.programmed, left.failures⟩

theorem interrupt_calls (d : Driver) (line : UInt32) : ∃ log, d.Calls log (d.interrupt line).2 := by
  unfold interrupt FaultMonitor.interrupt
  cases d.faults.lines.kind? line with
  | none => exact ⟨[], .nothing rfl rfl rfl⟩
  | some kind =>
    exact ⟨[.clearInterrupt kind], rfl, (UInt64.add_zero _).symm, (UInt64.add_zero _).symm⟩

/-- What a step adds to the engine's log. -/
def writes (d : Driver) (command : Command) : List Event :=
  (d.step command).2.engine.events.drop d.engine.events.length

theorem Calls.writes {command : Command} {log : List Event}
    (calls : d.Calls log (d.step command).2) : d.writes command = log := by
  rw [Driver.writes, calls.engine, Engine.events_perform, List.drop_left]

/-- A request makes the writes that it adds to the log. -/
theorem step_calls (d : Driver) {command : Command} (own : command.isOwn = true) :
    d.Calls (d.writes command) (d.step command).2 := by
  have some_log : ∃ log, d.Calls log (d.step command).2 := by
    cases command with
    | platform => cases own
    | track handle => exact ⟨[], (d.track_joins handle).calls⟩
    | configure handle a => exact ⟨[], d.configure_calls handle a⟩
    | lock handle direction => exact (d.lock_ends handle direction).calls
    | unlock handle direction => exact (d.unlock_ends handle direction).calls
    | setPermanent handle on => exact ⟨[], (d.setPermanent_ends handle on).calls⟩
    | untrack handle => exact d.untrack_calls handle
    | interrupt line => exact d.interrupt_calls line
    | attributes | takeReports => exact ⟨[], .nothing rfl rfl rfl⟩
  obtain ⟨log, calls⟩ := some_log
  rw [calls.writes]
  exact calls

/-- What a step takes out of the engine's log. -/
def takes (d : Driver) : Command → List Event
  | .platform (.engine .takeLog) => d.engine.events
  | _ => []

theorem writes_platform {other : Platform.Command} (alone : EngineAlone d (.platform other)) :
    d.writes (.platform other) = [] ∧
      d.takes (.platform other) ++ (d.step (.platform other)).2.engine.events =
        d.engine.events := by
  cases other with
  | engine command =>
    by_cases taken : command = .takeLog
    · subst taken
      exact ⟨List.drop_nil, List.append_nil _⟩
    · have same : (d.engine.step command).2.events = d.engine.events :=
        (d.engine.wrote_step alone taken).events.trans (List.append_nil _)
      have none : d.takes (.platform (.engine command)) = [] := by
        cases command with
        | takeLog => exact absurd rfl taken
        | _ => rfl
      refine ⟨?_, by rw [none]; exact same⟩
      exact (congrArg (List.drop _) same).trans List.drop_length
  | register | failMaps | failAttaches | failOnlines | failOfflines | attach | detach | map
  | bringOnline | takeOffline | maintain => exact ⟨List.drop_length, rfl⟩

/-- A step, told by its writes. The counters note them, and the log that is left or taken holds
them. -/
structure Told (d : Driver) (command : Command) (d' : Driver) : Prop where
  programmed : d'.stats.programmed =
    d.stats.programmed + .ofNat ((d.writes command).countP (·.isProgram))
  failures : d'.stats.flushFailures =
    d.stats.flushFailures + .ofNat (d.engine.timeouts (d.writes command))
  log : d.takes command ++ d'.engine.events = d.engine.events ++ d.writes command

theorem step_told {command : Command} (alone : EngineAlone d command) :
    d.Told command (d.step command).2 := by
  by_cases own : command.isOwn = true
  · have calls := d.step_calls own
    refine ⟨calls.programmed, calls.failures, ?_⟩
    have none : d.takes command = [] := by
      cases command with
      | platform => cases own
      | _ => rfl
    rw [none, calls.engine, Engine.events_perform]
    rfl
  · cases command with
    | platform other =>
      obtain ⟨quiet, log⟩ := writes_platform alone
      refine ⟨?_, ?_, ?_⟩
      · rw [quiet]
        exact (UInt64.add_zero _).symm
      · rw [quiet]
        exact (UInt64.add_zero _).symm
      · rw [quiet, List.append_nil]
        exact log
    | track | configure | attributes | lock | unlock | setPermanent | untrack | interrupt
    | takeReports => exact absurd rfl own

end Driver

end TiledSurface
