import TiledSurface.Proofs.Driver.Calls
import TiledSurface.Proofs.Driver.Refusals
import TiledSurface.Proofs.Driver.Turns
import TiledSurface.Proofs.OrderedMap

namespace TiledSurface

/-- What requests are counted as. -/
inductive Deed where
  | tracked | untracked | configured | misconfigured | locked | unlocked
  deriving DecidableEq

def Stats.counter (stats : Stats) : Deed → UInt64
  | .tracked => stats.tracked
  | .untracked => stats.untracked
  | .configured => stats.configured
  | .misconfigured => stats.misconfigured
  | .locked => stats.locks
  | .unlocked => stats.unlocks

@[simp] theorem Stats.counter_flushed (stats : Stats) (result : Except Engine.Fault Unit)
    (deed : Deed) : (stats.flushed result).counter deed = stats.counter deed := by
  cases result <;> cases deed <;> rfl

namespace Driver

open Engine (Event)

variable {d d' : Driver} {handle : Handle} {surface : Surface} {commands : List Command}

/-- What a request is counted as, by its outcome. A request to configure a surface is not counted
if the surface is locked or unknown. -/
def Command.deed? : Command → Outcome → Option Deed
  | .track _, .done => some .tracked
  | .untrack _, .done => some .untracked
  | .configure .., .done => some .configured
  | .configure .., .refused .busy => none
  | .configure .., .refused (.invalid .unknownBuffer) => none
  | .configure .., .refused _ => some .misconfigured
  | .lock .., .done => some .locked
  | .unlock .., .done => some .unlocked
  | _, _ => none

def tally (deed? : Option Deed) (deed : Deed) : Nat := if deed? = some deed then 1 else 0

/-- The locks that go with a surface when it is removed. -/
def forfeits (d : Driver) : Command → Nat
  | .untrack handle =>
    match (d.untrack handle).1 with
    | .ok () => d.surfaces.amountAt Surface.lockCount handle
    | .error _ => 0
  | _ => 0

/-- A step that was counted as a deed. -/
structure Books (d : Driver) (deed? : Option Deed) (forfeited : Nat) (d' : Driver) : Prop where
  counters : ∀ deed, d'.stats.counter deed = d.stats.counter deed + .ofNat (tally deed? deed)
  size : d'.surfaces.size + tally deed? .untracked = d.surfaces.size + tally deed? .tracked
  locks : d'.surfaces.total Surface.lockCount + forfeited + tally deed? .unlocked =
    d.surfaces.total Surface.lockCount + tally deed? .locked

theorem Books.idle (surfaces : d'.surfaces = d.surfaces)
    (counters : ∀ deed, d'.stats.counter deed = d.stats.counter deed) : d.Books none 0 d' where
  counters := fun deed => (counters deed).trans (UInt64.add_zero _).symm
  size := by rw [surfaces]; rfl
  locks := by rw [surfaces]; rfl

theorem Books.replaced {next : Surface} {deed? : Option Deed}
    (found : d.surfaces.find? handle = some surface)
    (surfaces : d'.surfaces = d.surfaces.insert handle next)
    (counters : ∀ deed, d'.stats.counter deed = d.stats.counter deed + .ofNat (tally deed? deed))
    (size : tally deed? .untracked = tally deed? .tracked)
    (locks : next.lockCount + tally deed? .unlocked = surface.lockCount + tally deed? .locked) :
    d.Books deed? 0 d' where
  counters := counters
  size := by
    have changed := d.surfaces.total_insert (fun _ => 1) handle next
    rw [OrderedMap.amountAt_of_find? found, ← surfaces] at changed
    rw [OrderedMap.size_eq_total, OrderedMap.size_eq_total]
    omega
  locks := by
    have changed := d.surfaces.total_insert Surface.lockCount handle next
    rw [OrderedMap.amountAt_of_find? found, ← surfaces] at changed
    omega

theorem Joins.books {result : Except Error Unit} (joins : d.Joins handle result d') :
    d.Books ((Command.track handle).deed? (.ofUnit result)) 0 d' := by
  have added (missing : d.surfaces.find? handle = none) :
      (d.surfaces.insert handle {}).size = d.surfaces.size + 1 ∧
        (d.surfaces.insert handle {}).total Surface.lockCount =
          d.surfaces.total Surface.lockCount := by
    have sizes := d.surfaces.total_insert (fun _ => 1) handle {}
    have locks := d.surfaces.total_insert Surface.lockCount handle {}
    rw [OrderedMap.amountAt_of_missing missing] at sizes locks
    rw [OrderedMap.size_eq_total, OrderedMap.size_eq_total]
    exact ⟨sizes, locks⟩
  cases joins with
  | known | rejected => exact .idle rfl fun _ => rfl
  | joined missing | brought missing =>
    obtain ⟨size, locks⟩ := added missing
    refine ⟨fun deed => ?_, size, locks⟩
    cases deed <;> simp [Stats.counter, tally, Command.deed?, Outcome.ofUnit]

theorem Attempted.idle {held : Holdings} {a : Attributes} {attempt : Attempt} {pool : WindowPool}
    {buffers : Buffers} (attempted : d.Attempted handle held a attempt pool buffers)
    (permanent : Bool) : (Surface.mk (attempt.setup a) permanent).session? = none := by
  cases attempt with
  | refused | linear => rfl
  | tiled layout => exact Binding.session?_of_programmed? attempted.programmed?

theorem deed?_of_late {error : Error} (late : error.isLate = true) (handle : Handle)
    (a : Attributes) :
    (Command.configure handle a).deed? (.refused error) = some .misconfigured := by
  cases error with
  | busy => cases late
  | invalid fault => cases fault <;> first | rfl | cases late
  | _ => rfl

def Attempt.deed : Attempt → Deed
  | .refused .. => .misconfigured
  | .linear _ | .tiled _ => .configured

theorem deed?_of_attempted {held : Holdings} {a : Attributes} {attempt : Attempt}
    {pool : WindowPool} {buffers : Buffers}
    (attempted : d.Attempted handle held a attempt pool buffers) :
    (Command.configure handle a).deed? (.ofUnit attempt.result) = some attempt.deed := by
  cases attempt with
  | refused => exact deed?_of_late attempted.late handle a
  | linear | tiled => rfl

theorem settle_counters (d : Driver) (handle : Handle) (surface : Surface) (a : Attributes)
    (attempt : Attempt) (deed : Deed) :
    (d.settle handle surface a attempt).2.stats.counter deed =
      d.stats.counter deed + .ofNat (tally (some attempt.deed) deed) := by
  cases attempt with
  | refused | linear =>
    rw [settle, release_eq]
    cases deed <;> simp [Stats.counter, tally, Attempt.deed]
  | tiled => cases deed <;> simp [Stats.counter, tally, settle, put, Attempt.deed]

theorem configure_books (d : Driver) (handle : Handle) (a : Attributes) :
    d.Books ((Command.configure handle a).deed? (.ofUnit (d.configure handle a).1)) 0
      (d.configure handle a).2 := by
  unfold configure
  cases found : d.surfaces.find? handle with
  | none => exact .idle rfl fun _ => rfl
  | some surface =>
    dsimp only
    split
    · exact .idle rfl fun _ => rfl
    · rename_i unlocked
      obtain ⟨attempt, pool, buffers, tried, attempted⟩ :=
        d.attempt_ends handle surface.holdings a
      have counters := settle_counters { d with pool, buffers } handle surface a attempt
      obtain ⟨stats, settled⟩ := settle_eq { d with pool, buffers } handle surface a attempt
      rw [settled] at counters
      rw [tried]
      dsimp only
      rw [settled, deed?_of_attempted attempted]
      refine .replaced found rfl counters ?_ ?_
      · cases attempt <;> rfl
      · rw [Surface.lockCount_of_unlocked (attempted.idle surface.permanent),
          Surface.lockCount_of_unlocked (by simpa using unlocked)]
        cases attempt <;> rfl

theorem LockEnds.books {direction : Direction} {result : Except Error Unit}
    (ends : d.LockEnds handle direction result d') :
    d.Books ((Command.lock handle direction).deed? (.ofUnit result)) 0 d' := by
  cases ends with
  | unknown | unset | linear | overflow | exhausted => exact .idle rfl fun _ => rfl
  | nested found locked =>
    refine .replaced found rfl (fun deed => ?_) rfl ?_
    · cases deed <;> simp [Stats.counter, tally, Command.deed?, Outcome.ofUnit]
    · rw [Surface.lockCount_locked locked, Surface.lockCount_locked rfl]
      rfl
  | @first _ _ slot _ engine stats found bound =>
    refine .replaced found rfl (fun deed => ?_) rfl ?_
    · have same : stats.counter deed = d.stats.counter deed := by
        cases bound <;> cases deed <;> rfl
      dsimp only
      rw [← same]
      cases (engine.enableWindow slot).flush.1 <;> cases deed <;>
        simp [Stats.flushed, Stats.counter, tally, Command.deed?, Outcome.ofUnit]
    · rw [Surface.lockCount_unlocked bound.unlocked, Surface.lockCount_locked rfl]
      rfl

theorem UnlockEnds.books {result : Except Failure Unit} (ends : d.UnlockEnds handle result d')
    (direction : Direction) :
    d.Books ((Command.unlock handle direction).deed? (.ofResult result)) 0 d' := by
  cases ends with
  | unknown | idle | broken => exact .idle rfl fun _ => rfl
  | nested found locked more =>
    refine .replaced found rfl (fun deed => ?_) rfl ?_
    · cases deed <;> simp [Stats.counter, tally, Command.deed?, Outcome.ofResult]
    · rw [Surface.lockCount_locked locked, Surface.lockCount_locked rfl, more]
      rfl
  | @last _ permanent slot _ _ found locked single =>
    refine .replaced found rfl (fun deed => ?_) rfl ?_
    · dsimp only
      rw [Stats.counter_flushed]
      cases deed <;> simp [Stats.counter, tally, Command.deed?, Outcome.ofResult]
    · have after : (if permanent then Binding.kept slot true else .unbound).session? = none := by
        cases permanent <;> rfl
      rw [Surface.lockCount_locked locked, Surface.lockCount_unlocked after, single]
      rfl

theorem PermanentEnds.books {on : Bool} {result : Except Error Unit}
    (ends : d.PermanentEnds handle on result d') : d.Books none 0 d' := by
  cases ends with
  | unknown => exact .idle rfl fun _ => rfl
  | dropped found _ kept =>
    refine .replaced found rfl (fun deed => (UInt64.add_zero _).symm) rfl ?_
    rw [Surface.lockCount_unlocked (congrArg Binding.session? kept), Surface.lockCount_unlocked rfl]
    rfl
  | flagged found => exact .replaced found rfl (fun deed => (UInt64.add_zero _).symm) rfl rfl

theorem takeOffline_counter (d : Driver) (deed : Deed) :
    d.takeOffline.stats.counter deed = d.stats.counter deed := by
  rcases d.takeOffline_cases with ⟨_, left⟩ | ⟨_, _, ⟨_, _, left⟩ | ⟨_, left⟩⟩
  · rw [left]
  · rw [left]
    cases deed <;> rfl
  · rw [left]
    cases deed <;> rfl

theorem ForceEnds.counter {result : Except Cache.Break Unit}
    (ends : d.ForceEnds surface result d') (deed : Deed) :
    d'.stats.counter deed = d.stats.counter deed := by
  cases ends with
  | idle | broken => rfl
  | closed => exact Stats.counter_flushed ..

theorem without_counter (d : Driver) (handle : Handle) (surface : Surface) (deed : Deed) :
    (d.without handle surface).stats.counter deed = d.stats.counter deed := by
  rw [without, release_eq]
  exact (d.forceUnlock_ends surface).counter deed

theorem without_surfaces (d : Driver) (handle : Handle) (surface : Surface) :
    (d.without handle surface).takeOffline.surfaces = d.surfaces.erase handle := by
  obtain ⟨_, _, _, left⟩ := (d.without handle surface).takeOffline_eq
  obtain ⟨_, _, _, unlocked, _⟩ := (d.forceUnlock_ends surface).eq
  rw [left, without, release_eq, unlocked]

theorem untrack_books (d : Driver) (handle : Handle) :
    d.Books ((Command.untrack handle).deed? (.ofResult (d.untrack handle).1))
      (d.forfeits (.untrack handle)) (d.untrack handle).2 := by
  cases found : d.surfaces.find? handle with
  | none =>
    rw [forfeits, untrack, found]
    exact .idle rfl fun _ => rfl
  | some surface =>
    cases through : (d.forceUnlock surface).1 with
    | error why =>
      have kept : (d.forceUnlock surface).2.surfaces = d.surfaces := by
        obtain ⟨_, _, _, unlocked, _⟩ := (d.forceUnlock_ends surface).eq
        rw [unlocked]
      rw [forfeits, untrack_broken found through]
      exact .idle kept (d.forceUnlock_ends surface).counter
    | ok done =>
      have removed (amount : Surface → Nat) := d.surfaces.total_erase amount handle
      simp only [OrderedMap.amountAt_of_find? found] at removed
      rw [forfeits, untrack_eq found through, OrderedMap.amountAt_of_find? found]
      refine ⟨fun deed => ?_, ?_, ?_⟩
      · rw [← (takeOffline_counter _ deed).trans (d.without_counter handle surface deed)]
        cases deed <;> simp [Stats.counter, tally, Command.deed?, Outcome.ofResult]
      · rw [OrderedMap.size_eq_total, OrderedMap.size_eq_total, without_surfaces]
        exact removed fun _ => 1
      · rw [without_surfaces]
        exact removed Surface.lockCount

theorem step_books (d : Driver) (command : Command) :
    d.Books (command.deed? (d.step command).1) (d.forfeits command) (d.step command).2 := by
  cases command with
  | platform | attributes | interrupt | takeReports => exact .idle rfl fun _ => rfl
  | track handle => exact (d.track_joins handle).books
  | configure handle a => exact d.configure_books handle a
  | lock handle direction => exact (d.lock_ends handle direction).books
  | unlock handle direction => exact (d.unlock_ends handle direction).books direction
  | setPermanent handle on => exact (d.setPermanent_ends handle on).books
  | untrack handle => exact d.untrack_books handle

def total (amount : Driver → Command → Nat) : Driver → List Command → Nat
  | _, [] => 0
  | d, command :: rest => amount d command + total amount (d.step command).2 rest

def deeds (deed : Deed) : Driver → List Command → Nat :=
  total fun d command => tally (command.deed? (d.step command).1) deed

/-- A counter to which every step adds its amount. -/
theorem Along.counter {policy : Policy} (along : Along policy d commands)
    (counter : Driver → UInt64) {amount : Driver → Command → Nat}
    (adds : ∀ d command, policy d command →
      counter (d.step command).2 = counter d + .ofNat (amount d command)) :
    counter (d.run commands) = counter d + .ofNat (total amount d commands) := by
  induction commands generalizing d with
  | nil => exact (UInt64.add_zero _).symm
  | cons command rest ih =>
    calc counter (d.run (command :: rest))
      _ = counter (d.step command).2 + .ofNat (total amount (d.step command).2 rest) := ih along.2
      _ = _ := by rw [adds d command along.1, UInt64.add_assoc, ← UInt64.ofNat_add, total]

theorem size_run (d : Driver) (commands : List Command) :
    (d.run commands).surfaces.size + deeds .untracked d commands =
      d.surfaces.size + deeds .tracked d commands := by
  induction commands generalizing d with
  | nil => rfl
  | cons command rest ih =>
    have now := (d.step_books command).size
    have later := ih (d.step command).2
    simp only [deeds, total] at later ⊢
    change ((d.step command).2.run rest).surfaces.size + _ = _
    omega

/-- Locks are held, were given back, or went with their surface. -/
theorem locks_run (d : Driver) (commands : List Command) :
    (d.run commands).surfaces.total Surface.lockCount + total forfeits d commands +
        deeds .unlocked d commands =
      d.surfaces.total Surface.lockCount + deeds .locked d commands := by
  induction commands generalizing d with
  | nil => rfl
  | cons command rest ih =>
    have now := (d.step_books command).locks
    have later := ih (d.step command).2
    simp only [deeds, total] at later ⊢
    change ((d.step command).2.run rest).surfaces.total Surface.lockCount + _ + _ = _
    omega

def collected (events : Driver → Command → List Event) : Driver → List Command → List Event
  | _, [] => []
  | d, command :: rest => events d command ++ collected events (d.step command).2 rest

theorem countP_collected (events : Driver → Command → List Event) (p : Event → Bool) (d : Driver)
    (commands : List Command) :
    (collected events d commands).countP p =
      total (fun d command => (events d command).countP p) d commands := by
  induction commands generalizing d with
  | nil => rfl
  | cons command rest ih => rw [collected, List.countP_append, ih, total]

/-- The log at the end of a run, with what was taken out of it meanwhile. -/
theorem log_run (alone : Along EngineAlone d commands) :
    collected takes d commands ++ (d.run commands).engine.events =
      d.engine.events ++ collected writes d commands := by
  induction commands generalizing d with
  | nil => exact (List.append_nil _).symm
  | cons command rest ih =>
    have later := ih alone.2
    calc collected takes d (command :: rest) ++ (d.run (command :: rest)).engine.events
      _ = d.takes command ++ (collected takes (d.step command).2 rest ++
          ((d.step command).2.run rest).engine.events) := List.append_assoc ..
      _ = (d.takes command ++ (d.step command).2.engine.events) ++
          collected writes (d.step command).2 rest := by rw [later, List.append_assoc]
      _ = _ := by rw [(step_told alone.1).log, List.append_assoc, collected]

theorem events_bringUp {config : Config} {platform : Platform}
    (up : bringUp config platform = .ok d) :
    ∃ log, d.engine.events = platform.engine.events ++ log ∧ log.countP (·.isProgram) = 0 := by
  obtain ⟨_, _, rfl⟩ := bringUp_iff.mp up
  exact ⟨_, events_launched config platform, rfl⟩

/-- The counters along every run in which nobody but the driver writes the engine's registers,
whatever fails. The surfaces that were tracked but not removed are the ones in the registry. The
locks that were not given back are those of these surfaces and those that went with a surface when
it was removed. Requests to configure a surface are counted by success, unless the surface is
unknown or locked. The windows that were programmed are those of the engine's log, and the flushes
that timed out are those of which the engine says so when the driver makes its writes. -/
theorem statistics_agree {config : Config} {platform : Platform}
    (up : bringUp config platform = .ok d) (alone : Along EngineAlone d commands) :
    (d.run commands).stats.tracked - (d.run commands).stats.untracked =
        .ofNat (d.run commands).surfaces.size ∧
      (d.run commands).stats.locks - (d.run commands).stats.unlocks =
        .ofNat ((d.run commands).surfaces.total Surface.lockCount + total forfeits d commands) ∧
      (d.run commands).stats.configured = .ofNat (deeds .configured d commands) ∧
      (d.run commands).stats.misconfigured = .ofNat (deeds .misconfigured d commands) ∧
      (∃ log, collected takes d commands ++ (d.run commands).engine.events =
          platform.engine.events ++ log ∧
        (d.run commands).stats.programmed = .ofNat (log.countP (·.isProgram))) ∧
      (d.run commands).stats.flushFailures =
        .ofNat (total (fun d command => d.engine.timeouts (d.writes command)) d commands) ∧
      (∀ before command after, commands = before ++ command :: after → command.isOwn = true →
        ((d.run before).step command).2.engine =
          (d.run before).engine.perform ((d.run before).writes command)) := by
  have fresh : d.stats = {} ∧ d.surfaces = .empty := by
    obtain ⟨_, _, _, rfl, _⟩ := bringUp_eq_ok up
    exact ⟨rfl, rfl⟩
  have counted (deed : Deed) :
      (d.run commands).stats.counter deed = .ofNat (deeds deed d commands) := by
    have counter := alone.counter (fun d => d.stats.counter deed)
      fun d command _ => (d.step_books command).counters deed
    have zero : d.stats.counter deed = 0 := by
      rw [fresh.1]
      cases deed <;> rfl
    rw [zero, UInt64.zero_add] at counter
    exact counter
  refine ⟨?_, ?_, counted .configured, counted .misconfigured, ?_, ?_, ?_⟩
  · have sizes := d.size_run commands
    have tracked := counted .tracked
    have untracked := counted .untracked
    have none : d.surfaces.size = 0 := by
      rw [fresh.2]
      rfl
    rw [none, Nat.zero_add] at sizes
    rw [← sizes, UInt64.ofNat_add, ← untracked] at tracked
    exact (congrArg (· - _) tracked).trans (UInt64.add_sub_cancel _ _)
  · have locks := d.locks_run commands
    have locked := counted .locked
    have unlocked := counted .unlocked
    have none : d.surfaces.total Surface.lockCount = 0 := by
      rw [fresh.2]
      rfl
    rw [none, Nat.zero_add] at locks
    rw [← locks, UInt64.ofNat_add, ← unlocked] at locked
    exact (congrArg (· - _) locked).trans (UInt64.add_sub_cancel _ _)
  · obtain ⟨begun, events, none⟩ := events_bringUp up
    refine ⟨begun ++ collected writes d commands, ?_, ?_⟩
    · rw [log_run alone, events, List.append_assoc]
    · have programmed := alone.counter (fun d => d.stats.programmed)
        fun d command alone => (step_told alone).programmed
      rw [List.countP_append, none, Nat.zero_add, countP_collected, programmed, fresh.1]
      exact UInt64.zero_add _
  · have failures := alone.counter (fun d => d.stats.flushFailures)
      fun d command alone => (step_told alone).failures
    rw [failures, fresh.1]
    exact UInt64.zero_add _
  · intro before command after _ own
    exact ((d.run before).step_calls own).engine

/-- A surface is locked twice and removed, and the engine is not done in time. -/
def lostRun : List Command :=
  shortRun ++ [.lock 1 .write, .platform (.engine (.failFlushes 1)), .untrack 1]

/-- Both locks of that run went with the surface, and one flush timed out. -/
theorem statistics_agree_lostRun :
    ∃ d, bringUp {} { engine := { version := ⟨1, 1⟩ } } = .ok d ∧
      (d.run lostRun).surfaces.size = 0 ∧
      (d.run lostRun).stats.tracked - (d.run lostRun).stats.untracked = 0 ∧
      (d.run lostRun).stats.locks - (d.run lostRun).stats.unlocks = 2 ∧
      (d.run lostRun).stats.flushFailures = 1 := by
  have computed : (bringUp {} { engine := { version := ⟨1, 1⟩ } }).toOption.any (fun d =>
      (d.run lostRun).surfaces.size = 0 ∧
        (d.run lostRun).surfaces.total Surface.lockCount + total forfeits d lostRun = 2 ∧
        total (fun d command => d.engine.timeouts (d.writes command)) d lostRun = 1) = true := by
    decide +kernel
  obtain ⟨d, up, ran⟩ := exists_up computed
  obtain ⟨size, forfeited, timeouts⟩ := of_decide_eq_true ran
  have alone : Along EngineAlone d lostRun :=
    ⟨rfl, trivial, trivial, trivial, trivial, trivial, rfl, trivial, trivial⟩
  obtain ⟨surfaces, locks, _, _, _, failures, _⟩ := statistics_agree up alone
  rw [size] at surfaces
  rw [forfeited] at locks
  rw [timeouts] at failures
  refine ⟨d, up, ?_⟩
  generalize d.run lostRun = lost at size surfaces locks failures ⊢
  exact ⟨size, surfaces, locks, failures⟩

end Driver

end TiledSurface
