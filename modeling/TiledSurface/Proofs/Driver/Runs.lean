import Mathlib.Data.List.Induction
import TiledSurface.Proofs.Driver.BringUp
import TiledSurface.Proofs.Driver.Moves

/-!
Runs of a driver from the moment it is brought up. What others may do to the platform meanwhile
is a policy, a condition on each command in the state where it comes. An invariant that every
command of a policy keeps holds after every run along that policy.
-/

namespace TiledSurface

theorem Platform.version_step (p : Platform) (command : Platform.Command) :
    (p.step command).2.engine.version = p.engine.version := by
  cases command with
  | engine command => exact p.engine.version_step command
  | register | failMaps | failAttaches | failOnlines | failOfflines | attach | detach | map
  | bringOnline | takeOffline | maintain => rfl

namespace Driver

abbrev Policy : Type := Driver → Command → Prop

/-- Every command of the run meets the policy in the state where it comes. -/
def Along (policy : Policy) : Driver → List Command → Prop
  | _, [] => True
  | d, command :: rest => policy d command ∧ Along policy (d.step command).2 rest

section

variable {policy other : Policy} {d : Driver} {commands later : List Command}

theorem Along.and (one : Along policy d commands) (two : Along other d commands) :
    Along (fun d command => policy d command ∧ other d command) d commands := by
  induction commands generalizing d with
  | nil => trivial
  | cons command rest ih => exact ⟨⟨one.1, two.1⟩, ih one.2 two.2⟩

theorem Along.mono (along : Along policy d commands)
    (weaker : ∀ d command, policy d command → other d command) : Along other d commands := by
  induction commands generalizing d with
  | nil => trivial
  | cons command rest ih => exact ⟨weaker d command along.1, ih along.2⟩

/-- Invariants of steps are invariants of runs. -/
theorem Along.keeps (along : Along policy d commands) (invariant : Driver → Prop)
    (start : invariant d)
    (keeps : ∀ d command, policy d command → invariant d → invariant (d.step command).2) :
    invariant (d.run commands) := by
  induction commands generalizing d with
  | nil => exact start
  | cons command rest ih => exact ih along.2 (keeps d command along.1 start)

theorem run_keeps (invariant : Driver → Prop) (start : invariant d)
    (keeps : ∀ d command, invariant d → invariant (d.step command).2) (commands : List Command) :
    invariant (d.run commands) := by
  induction commands generalizing d with
  | nil => exact start
  | cons command rest ih => exact ih (keeps d command start)

theorem run_append (d : Driver) (first second : List Command) :
    d.run (first ++ second) = (d.run first).run second :=
  List.foldl_append

theorem run_snoc (d : Driver) (commands : List Command) (command : Command) :
    d.run (commands ++ [command]) = ((d.run commands).step command).2 :=
  run_append d commands [command]

theorem run_split (d : Driver) (before : List Command) (command : Command) (after : List Command) :
    d.run (before ++ command :: after) = ((d.run before).step command).2.run after :=
  run_append d before (command :: after)

theorem Along.append (along : Along policy d (commands ++ later)) :
    Along policy d commands ∧ Along policy (d.run commands) later := by
  induction commands generalizing d with
  | nil => exact ⟨trivial, along⟩
  | cons command rest ih =>
    obtain ⟨first, second⟩ := ih along.2
    exact ⟨⟨along.1, first⟩, second⟩

/-- The condition holds in all states of the run, from the first to the last. -/
def Throughout (holds : Driver → Prop) : Driver → List Command → Prop
  | d, [] => holds d
  | d, command :: rest => holds d ∧ Throughout holds (d.step command).2 rest

/-- At some step of the run the event happened, and the condition has held ever since. -/
def Since (event : Policy) (holds : Driver → Prop) (d : Driver) (commands : List Command) :
    Prop :=
  ∃ before command after, commands = before ++ command :: after ∧ event (d.run before) command ∧
    Throughout holds ((d.run before).step command).2 after

theorem Throughout.start {holds : Driver → Prop} (throughout : Throughout holds d commands) :
    holds d := by
  cases commands with
  | nil => exact throughout
  | cons command rest => exact throughout.1

theorem Throughout.final {holds : Driver → Prop} {commands : List Command}
    (throughout : Throughout holds d commands) : holds (d.run commands) := by
  induction commands generalizing d with
  | nil => exact throughout
  | cons command rest ih => exact ih throughout.2

theorem Throughout.concat {holds : Driver → Prop} (before : Throughout holds d commands)
    {command : Command} (still : holds (d.run (commands ++ [command]))) :
    Throughout holds d (commands ++ [command]) := by
  induction commands generalizing d with
  | nil => exact ⟨before, still⟩
  | cons first rest ih => exact ⟨before.1, ih before.2 still⟩

theorem Since.concat {event : Policy} {holds : Driver → Prop}
    (before : Since event holds d commands) {command : Command}
    (still : holds (d.run (commands ++ [command]))) :
    Since event holds d (commands ++ [command]) := by
  obtain ⟨first, cause, rest, rfl, happened, throughout⟩ := before
  refine ⟨first, cause, rest ++ [command], by simp, happened, throughout.concat ?_⟩
  rw [List.append_assoc, run_append] at still
  exact still

/-- A state that comes about with an excuse or by an event, and stays without an excuse only where
there was none before, is excused or goes back to an event. -/
theorem Along.since {event : Policy} {holds excused : Driver → Prop}
    (along : Along policy d commands) (start : holds d → excused d)
    (step : ∀ d command, policy d command → holds (d.step command).2 →
      excused (d.step command).2 ∨ event d command ∨ holds d ∧ ¬ excused d)
    (reached : holds (d.run commands)) :
    excused (d.run commands) ∨ Since event holds d commands := by
  induction commands using List.reverseRecOn with
  | nil => exact .inl (start reached)
  | append_singleton commands command ih =>
    obtain ⟨earlier, now, _⟩ := along.append
    have last := run_snoc d commands command
    rw [last] at reached
    rcases step (d.run commands) command now reached with excuse | happened | ⟨before, bare⟩
    · exact .inl (last ▸ excuse)
    · exact .inr ⟨commands, command, [], rfl, happened, reached⟩
    · rcases ih earlier before with excuse | since
      · exact absurd excuse bare
      · exact .inr (since.concat (last ▸ reached))

theorem version_run (d : Driver) (commands : List Command) :
    (d.run commands).engine.version = d.engine.version := by
  refine run_keeps (fun d' => d'.engine.version = d.engine.version) rfl ?_ commands
  intro d' command same
  rcases d'.step_cases command with move | ⟨other, rfl⟩
  · exact move.version.trans same
  · exact (d'.toPlatform.version_step other).trans same

theorem config_run (d : Driver) (commands : List Command) :
    (d.run commands).config = d.config := by
  refine run_keeps (fun d' => d'.config = d.config) rfl ?_ commands
  intro d' command same
  rcases d'.step_cases command with move | ⟨other, rfl⟩
  · exact move.config.trans same
  · exact same

end

/-- Nobody but the driver writes the registers of the engine. -/
def EngineAlone : Policy
  | _, .platform (.engine command) => command.writes = false
  | _, _ => True

theorem EngineAlone.windows {d : Driver} {other : Platform.Command}
    (alone : EngineAlone d (.platform other)) :
    (d.step (.platform other)).2.engine.windows = d.engine.windows := by
  cases other with
  | engine command => exact d.engine.step_windows alone
  | register | failMaps | failAttaches | failOnlines | failOfflines | attach | detach | map
  | bringOnline | takeOffline | maintain => rfl

/-- Nobody but the driver maps and attaches buffers, and no buffer is registered anew while its
surface holds a device mapping. -/
def BuffersAlone : Policy
  | _, .platform (.attach _) | _, .platform (.detach _) | _, .platform (.map ..) => False
  | d, .platform (.register handle _) => owned d.surfaces Surface.mapping? handle = none
  | _, _ => True

/-- Nobody but the driver attaches buffers, and no buffer is registered anew while its surface
holds a device mapping. Others may map buffers. -/
def AttachesAlone : Policy
  | _, .platform (.attach _) | _, .platform (.detach _) => False
  | d, .platform (.register handle _) => owned d.surfaces Surface.mapping? handle = none
  | _, _ => True

theorem BuffersAlone.attaches {d : Driver} {command : Command} (alone : BuffersAlone d command) :
    AttachesAlone d command := by
  cases command with
  | platform other =>
    cases other with
    | register handle length => exact alone
    | attach | detach => exact alone.elim
    | _ => trivial
  | _ => trivial

/-- No request to map a buffer is rejected. A rejection takes one of the failures that wait, and
nothing else lowers their number but arranging for failures anew. -/
def MapsGranted : Policy := fun d command =>
  (∃ count, command = .platform (.failMaps count)) ∨
    d.buffers.failingMaps ≤ (d.step command).2.buffers.failingMaps

theorem owned_bringUp {β : Type} {config : Config} {platform : Platform} {d : Driver}
    (up : bringUp config platform = .ok d) (part : Surface → Option β) (handle : Handle) :
    owned d.surfaces part handle = none := by
  obtain ⟨_, _, _, rfl, _⟩ := bringUp_eq_ok up
  rfl

theorem config_bringUp {config : Config} {platform : Platform} {d : Driver}
    (up : bringUp config platform = .ok d) (commands : List Command) :
    (d.run commands).config = config := by
  obtain ⟨_, _, _, rfl, _⟩ := bringUp_eq_ok up
  exact config_run ..

theorem exists_up {config : Config} {shows : Driver → Bool}
    (computed : (bringUp config { engine := { version := ⟨1, 1⟩ } }).toOption.any shows = true) :
    ∃ d, bringUp config { engine := { version := ⟨1, 1⟩ } } = .ok d ∧ shows d = true := by
  cases up : bringUp config { engine := { version := ⟨1, 1⟩ } } with
  | error refusal =>
    rw [up] at computed
    cases computed
  | ok d =>
    rw [up] at computed
    exact ⟨d, rfl, computed⟩

/-- The attributes of a surface of 64 by 32 pixels, whose window is one page. -/
def smallAttributes : Attributes where
  imageFormat := 2
  width := 64
  height := 32
  stride := 64
  scanlines := 32

/-- The engine is shown the pool, a buffer is registered, and its surface is set up and locked. -/
def shortRun : List Command :=
  [.platform (.engine (.setAperture (Config.pool {}))), .platform (.register 1 16384), .track 1,
    .configure 1 smallAttributes, .lock 1 .read]

/-- At the end of the short run, the surface is locked with the first slot of the table and the
first page of the pool. -/
theorem exists_shortRun :
    ∃ d surface, bringUp {} { engine := { version := ⟨1, 1⟩ } } = .ok d ∧
      (d.run shortRun).surfaces.find? 1 = some surface ∧ surface.session? ≠ none ∧
      surface.slot? = some ⟨0, by decide⟩ ∧ surface.window? = some ⟨0x100000000, pageSize⟩ ∧
      (d.run shortRun).engine.aperture = some (Config.pool {}) := by
  have computed : (bringUp {} { engine := { version := ⟨1, 1⟩ } }).toOption.any (fun d =>
      ((d.run shortRun).surfaces.find? 1).any (fun surface =>
        surface.session? ≠ none ∧ surface.slot? = some ⟨0, by decide⟩ ∧
          surface.window? = some ⟨0x100000000, pageSize⟩ ∧
          (d.run shortRun).engine.aperture = some (Config.pool {}))) = true := by
    decide +kernel
  obtain ⟨d, up, ran⟩ := exists_up computed
  obtain ⟨surface, found, shows⟩ := (Option.any_eq_true _ _).mp ran
  exact ⟨d, surface, up, found, of_decide_eq_true shows⟩

/-- Of two surfaces the first is locked and unlocked, and the second gets its slot. -/
def handOverRun : List Command :=
  [.platform (.register 1 16384), .platform (.register 2 16384), .track 1, .track 2,
    .configure 1 smallAttributes, .configure 2 smallAttributes, .lock 1 .read, .unlock 1 .read,
    .lock 2 .write]

end Driver

end TiledSurface
