import TiledSurface.Proofs.Driver.Mirror
import TiledSurface.Proofs.Engine.Log

namespace TiledSurface.Driver

open Engine (Event replay)

variable {d d' : Driver} {handle : Handle}

/-- Nobody but the driver writes the engine's registers, and the log stays where it is. -/
def LogAlone : Policy
  | _, .platform (.engine .takeLog) => False
  | _, .platform (.engine command) => command.writes = false
  | _, _ => True

/-- What a step adds to the log, and the surface for which it does. -/
inductive Adds (d : Driver) : Command → Outcome → List Event → Driver → Prop where
  | nothing {command outcome d'} : Adds d command outcome [] d'
  | cleared {line kind d'} :
      Adds d (.interrupt line) (.interrupt (some kind)) [.clearInterrupt kind] d'
  | reopened {handle direction layout permanent d'} {slot : Slot}
      (found : d.surfaces.find? handle = some ⟨.tiled layout, permanent⟩)
      (kept : layout.binding = .kept slot true)
      (locked : d'.surfaces.find? handle =
        some ⟨.tiled { layout with binding := .locked slot { direction } }, permanent⟩) :
      Adds d (.lock handle direction) .done [.enableWindow slot, .flush] d'
  /-- The window is not programmed yet, and the slot is the surface's own or free. -/
  | opened {handle direction layout permanent d'} {slot : Slot}
      (found : d.surfaces.find? handle = some ⟨.tiled layout, permanent⟩)
      (bare : layout.binding.programmed? = none)
      (own : d.slots.isHeld slot = true → layout.binding.slot? = some slot)
      (locked : d'.surfaces.find? handle =
        some ⟨.tiled { layout with binding := .locked slot { direction } }, permanent⟩) :
      Adds d (.lock handle direction) .done
        [.setWindow slot layout.window, .enableWindow slot, .flush] d'
  | closed {command handle layout permanent session d'} {slot : Slot}
      (found : d.surfaces.find? handle = some ⟨.tiled layout, permanent⟩)
      (locked : layout.binding = .locked slot session)
      (ends : command = .untrack handle ∨
        ∃ direction, command = .unlock handle direction ∧ session.nested = 0) :
      Adds d command .done [.disableWindow slot] d'

/-- A step with what it adds to the log. Windows that served the surfaces before serve them
afterwards. -/
structure Logs (d : Driver) (command : Command) (outcome : Outcome) (added : List Event)
    (d' : Driver) : Prop where
  adds : d.Adds command outcome added d'
  wrote : d.engine.Wrote added d'.engine
  gated : ∀ windows, Gated windows (owned d.surfaces Surface.gate?) →
    Gated (added.foldl Event.apply windows) (owned d'.surfaces Surface.gate?)

theorem Logs.nothing {command : Command} {outcome : Outcome} (engine : d'.engine = d.engine)
    (gated : ∀ windows, Gated windows (owned d.surfaces Surface.gate?) →
      Gated windows (owned d'.surfaces Surface.gate?)) :
    d.Logs command outcome [] d' :=
  ⟨.nothing, .nothing (by rw [engine]) (by rw [engine]), gated⟩

theorem TrackEnds.logs {result : Except Error Unit} (ends : d.TrackEnds handle result d') :
    d.Logs (.track handle) (.ofUnit result) [] d' := by
  cases ends with
  | known | offline => exact .nothing rfl fun _ gated => gated
  | tracked missing =>
    refine .nothing rfl fun windows gated => ?_
    rw [owned_insert_bare {} missing rfl]
    exact gated

theorem Configured.logs {a : Attributes} {result : Except Error Unit}
    (configured : d.Configured handle a result d') :
    d.Logs (.configure handle a) (.ofUnit result) [] d' := by
  cases configured with
  | unknown | busy => exact .nothing rfl fun _ gated => gated
  | settled found unlocked _ attempted =>
    refine .nothing rfl fun windows gated => ?_
    rw [owned_insert, attempted.gate?_eq_none]
    exact gated_vacate gated found unlocked

/-- The surface of one handle binds anew, and the log says so to any windows that serve it. -/
theorem gated_rebind (kept : d.SlotsKept) {layout : Tiled} {permanent permanent' : Bool}
    {binding : Binding} {slots : SlotTable} {windows windows' : OrderedMap EngineWindow}
    (found : d.surfaces.find? handle = some ⟨.tiled layout, permanent⟩)
    (rebinding : Rebinding d.slots { d.engine with windows } layout permanent' binding slots
      windows')
    (gated : Gated windows (owned d.surfaces Surface.gate?)) :
    Gated windows' (owned
      (d.surfaces.insert handle ⟨.tiled { layout with binding }, permanent'⟩) Surface.gate?) := by
  have rebound := kept.regate gated found rebinding
  rw [owned_insert]
  exact rebound

theorem LockEnds.logs {direction : Direction} {result : Except Error Unit} (kept : d.SlotsKept)
    (ends : d.LockEnds handle direction result d') :
    ∃ added, d.Logs (.lock handle direction) (.ofUnit result) added d' := by
  cases ends with
  | unknown | unset | linear | overflow | exhausted =>
    exact ⟨[], .nothing rfl fun _ gated => gated⟩
  | nested found locked =>
    exact ⟨[], .nothing rfl fun _ gated =>
      gated_rebind kept found (.counted locked) gated⟩
  | @first layout permanent slot _ _ _ found bound =>
    have locked := (d.surfaces.find?_insert handle handle
      ⟨.tiled { layout with binding := .locked slot { direction } }, permanent⟩).trans (if_pos rfl)
    cases bound with
    | ready bound =>
      exact ⟨_, .reopened found bound locked, Engine.wrote_openWindow ..,
        fun _ gated => gated_rebind kept found (.reopened bound) gated⟩
    | stale bound =>
      refine ⟨_, .opened found (by rw [bound]; rfl) (fun _ => by rw [bound]; rfl) locked,
        (Engine.wrote_setWindow ..).trans (Engine.wrote_openWindow ..),
        fun _ gated => gated_rebind kept found (.reprogrammed bound) gated⟩
    | claimed unbound granted =>
      have free := SlotTable.isHeld_of_claim granted
      refine ⟨_, .opened found (by rw [unbound]; rfl) (fun held => ?_) locked,
        (Engine.wrote_setWindow ..).trans (Engine.wrote_openWindow ..),
        fun _ gated => gated_rebind kept found (.claimed unbound granted) gated⟩
      cases free.symm.trans held

theorem UnlockEnds.logs {result : Except Failure Unit} (kept : d.SlotsKept)
    (ends : d.UnlockEnds handle result d') (direction : Direction) :
    ∃ added, d.Logs (.unlock handle direction) (.ofResult result) added d' := by
  cases ends with
  | unknown | idle | broken => exact ⟨[], .nothing rfl fun _ gated => gated⟩
  | nested found locked =>
    exact ⟨[], .nothing rfl fun _ gated => gated_rebind kept found (.counted locked) gated⟩
  | @last layout permanent slot _ _ found locked single =>
    refine ⟨_, .closed found locked (.inr ⟨direction, rfl, single⟩), Engine.wrote_disableWindow ..,
      fun windows gated => ?_⟩
    rw [List.foldl_cons, List.foldl_nil,
      ← Engine.windows_disableWindow { d.engine with windows } slot]
    cases permanent with
    | true => exact gated_rebind kept found (.suspended locked rfl) gated
    | false => exact gated_rebind kept found (.closed locked) gated

theorem PermanentEnds.logs {on : Bool} {result : Except Error Unit} (kept : d.SlotsKept)
    (ends : d.PermanentEnds handle on result d') :
    d.Logs (.setPermanent handle on) (.ofUnit result) [] d' := by
  cases ends with
  | unknown => exact .nothing rfl fun _ gated => gated
  | dropped found _ bound =>
    exact .nothing rfl fun _ gated => gated_rebind kept found (.dropped bound) gated
  | @flagged surface found =>
    refine .nothing rfl fun _ gated => ?_
    rw [owned_insert_same ⟨surface.setup, on⟩ found rfl]
    exact gated

theorem UntrackEnds.logs {result : Except Failure Unit} (kept : d.SlotsKept)
    (ends : d.UntrackEnds handle result d') :
    ∃ added, d.Logs (.untrack handle) (.ofResult result) added d' := by
  cases ends with
  | unknown | broken => exact ⟨[], .nothing rfl fun _ gated => gated⟩
  | @removed surface _ _ _ _ _ found through closed =>
    have ends := d.forceUnlock_ends surface
    rw [through] at ends
    generalize (d.forceUnlock surface).2 = forced at ends closed
    cases ends with
    | idle session =>
      refine ⟨[], .nothing closed fun windows gated => ?_⟩
      rw [owned_erase]
      exact gated_vacate gated found session
    | @closed layout _ _ _ tiled locked =>
      obtain ⟨setup, permanent⟩ := surface
      cases tiled
      cases closed
      refine ⟨_, .closed found locked (.inl rfl), Engine.wrote_disableWindow ..,
        fun windows gated => ?_⟩
      have rebinding : Rebinding d.slots { d.engine with windows } layout permanent .unbound _ _ :=
        .closed locked
      rw [Engine.windows_disableWindow] at rebinding
      rw [owned_erase]
      exact kept.regate gated found rebinding

theorem interrupt_logs (d : Driver) (line : UInt32) :
    ∃ added, d.Logs (.interrupt line) (.interrupt (d.interrupt line).1) added
      (d.interrupt line).2 := by
  unfold interrupt FaultMonitor.interrupt
  cases d.faults.lines.kind? line with
  | none => exact ⟨[], .nothing rfl fun _ gated => gated⟩
  | some kind =>
    exact ⟨_, .cleared, Engine.wrote_clearInterrupt .., fun _ gated => gated⟩

theorem step_logs (kept : d.SlotsKept) {command : Command} (alone : LogAlone d command) :
    ∃ added, d.Logs command (d.step command).1 added (d.step command).2 := by
  cases command with
  | track handle => exact ⟨[], (d.track_ends handle).logs⟩
  | configure handle a => exact ⟨[], (d.configure_ends handle a).logs⟩
  | lock handle direction => exact (d.lock_ends handle direction).logs kept
  | unlock handle direction => exact (d.unlock_ends handle direction).logs kept direction
  | setPermanent handle on => exact ⟨[], (d.setPermanent_ends handle on).logs kept⟩
  | untrack handle => exact (d.untrack_ends handle).logs kept
  | interrupt line => exact d.interrupt_logs line
  | attributes | takeReports => exact ⟨[], .nothing rfl fun _ gated => gated⟩
  | platform other =>
    refine ⟨[], .nothing, ?_, fun _ gated => gated⟩
    cases other with
    | engine command =>
      cases command with
      | takeLog => exact alone.elim
      | _ => exact Engine.wrote_step d.engine alone nofun
    | register | failMaps | failAttaches | failOnlines | failOfflines | attach | detach | map
    | bringOnline | takeOffline | maintain => exact .nothing rfl rfl

/-- Requests that do not reach the engine, as far as they are granted: those that neither begin nor
end a session. -/
def Quiet (d : Driver) : Command → Prop
  | .track _ | .configure .. | .attributes _ | .setPermanent .. | .takeReports => True
  | .lock handle _ => ∃ surface, d.surfaces.find? handle = some surface ∧ surface.session? ≠ none
  | .unlock handle _ => ∃ surface, d.surfaces.find? handle = some surface ∧ 1 < surface.lockCount
  | .untrack _ | .interrupt _ | .platform _ => False

theorem Adds.quiet {command : Command} {outcome : Outcome} {added : List Event}
    (adds : d.Adds command outcome added d')
    (quiet : d.Quiet command ∨ ∃ error, outcome = .refused error) : added = [] := by
  cases adds with
  | nothing => rfl
  | cleared =>
    rcases quiet with quiet | ⟨_, refused⟩
    · exact quiet.elim
    · cases refused
  | @reopened _ _ layout _ _ _ found kept =>
    rcases quiet with ⟨surface, found', locked⟩ | ⟨_, refused⟩
    · cases found.symm.trans found'
      simp [kept] at locked
    · cases refused
  | @opened _ _ layout _ _ _ found bare =>
    rcases quiet with ⟨surface, found', locked⟩ | ⟨_, refused⟩
    · cases found.symm.trans found'
      exact absurd (Binding.session?_of_programmed? bare) locked
    · cases refused
  | closed found locked ends =>
    rcases quiet with quiet | ⟨_, refused⟩
    · rcases ends with rfl | ⟨direction, rfl, single⟩
      · exact quiet.elim
      · obtain ⟨surface, found', more⟩ := quiet
        cases found.symm.trans found'
        rw [Surface.lockCount_locked locked, single] at more
        exact absurd more (Nat.lt_irrefl 1)
    · cases refused

theorem Adds.flushed {command : Command} {outcome : Outcome} {added : List Event}
    (adds : d.Adds command outcome added d') : Engine.Flushed added := by
  cases adds with
  | nothing => exact ⟨.nil, by simp, by simp⟩
  | cleared | closed => exact ⟨.singleton _, by simp, by simp⟩
  | reopened | opened => exact ⟨by simp, by simp, by simp⟩

/-- The log so far tells the windows of the surfaces, and is in order. -/
structure Recorded (d : Driver) (log : List Event) : Prop where
  slots : d.SlotsKept
  gated : Gated (replay log) (owned d.surfaces Surface.gate?)
  obeys : Engine.Obeys .empty log
  flushed : Engine.Flushed log

namespace Recorded

variable {log added : List Event} {command : Command} {outcome : Outcome}

theorem start {config : Config} {platform : Platform} (up : bringUp config platform = .ok d) :
    d.Recorded [] where
  slots := .start up
  gated := by
    obtain ⟨engine, pool, faults, rfl, _⟩ := bringUp_eq_ok up
    dsimp only
    rw [owned_empty]
    exact ⟨by simp, by simp [replay]⟩
  obeys := trivial
  flushed := ⟨.nil, by simp, by simp⟩

theorem programmed (recorded : d.Recorded log) {layout : Tiled} {permanent : Bool} {slot : Slot}
    (found : d.surfaces.find? handle = some ⟨.tiled layout, permanent⟩)
    (ready : layout.binding.programmed? = some slot) :
    (replay log).find? slot = some ⟨layout.window, layout.binding.session?.isSome⟩ := by
  have gate : (Surface.mk (.tiled layout) permanent).gate? = some (slot, _) :=
    Surface.gate?_eq_some.mpr ⟨layout, rfl, ready, rfl⟩
  exact recorded.gated.shown ((owned_of_find? _ found).trans gate)

theorem free (recorded : d.Recorded log) {layout : Tiled} {permanent : Bool} {slot : Slot}
    (found : d.surfaces.find? handle = some ⟨.tiled layout, permanent⟩)
    (bare : layout.binding.programmed? = none)
    (own : d.slots.isHeld slot = true → layout.binding.slot? = some slot) (region : Region) :
    (replay log).find? slot ≠ some ⟨region, true⟩ := by
  intro enabled
  obtain ⟨other, slot', shows, same⟩ := recorded.gated.shut enabled
  obtain rfl := Fin.ext same
  have theirs := owned_slot?_of_gate? shows
  have mine := (owned_of_find? Surface.slot? found).trans (own (recorded.slots.ledger.held theirs))
  obtain rfl := recorded.slots.ledger.alone theirs mine
  rw [owned_of_find? _ found] at shows
  obtain ⟨_, tiled, ready, _⟩ := Surface.gate?_eq_some.mp shows
  cases tiled
  cases bare.symm.trans ready

theorem obeys_added (recorded : d.Recorded log) (adds : d.Adds command outcome added d') :
    Engine.Obeys (replay log) added := by
  cases adds with
  | nothing => trivial
  | cleared => exact ⟨trivial, trivial⟩
  | reopened found kept =>
    have off := recorded.programmed found (by rw [kept]; rfl)
    rw [kept] at off
    exact ⟨⟨_, off⟩, trivial, trivial⟩
  | opened found bare own => exact Engine.obeys_open _ (recorded.free found bare own)
  | closed found locked =>
    have on := recorded.programmed found (by rw [locked]; rfl)
    rw [locked] at on
    exact ⟨⟨_, on⟩, trivial⟩

theorem step (recorded : d.Recorded log) (logs : d.Logs command outcome added d')
    (slots : d'.SlotsKept) : d'.Recorded (log ++ added) where
  slots := slots
  gated := by
    rw [Engine.replay_append]
    exact logs.gated _ recorded.gated
  obeys := Engine.obeys_append.mpr ⟨recorded.obeys, recorded.obeys_added logs.adds⟩
  flushed := recorded.flushed.append logs.adds.flushed

end Recorded

def LockedAt (d : Driver) (handle : Handle) (direction : Direction) (index : Nat)
    (window : Region) : Prop :=
  ∃ surface slot, d.surfaces.find? handle = some surface ∧
    surface.session? = some { direction } ∧ surface.slot? = some slot ∧ slot.val = index ∧
    surface.window? = some window

/-- A window is enabled for the surface that is locked, to which the slot was last given. -/
theorem Recorded.opening {log added front rest : List Event} {command : Command}
    {outcome : Outcome} (recorded : d.Recorded log) (adds : d.Adds command outcome added d')
    {index : Nat} (split : added = front ++ .enableWindow index :: rest) :
    rest = [.flush] ∧ ∃ handle direction window, command = .lock handle direction ∧
      d'.LockedAt handle direction index window ∧
      (Engine.programs index (log ++ front)).getLast? = some window := by
  cases adds with
  | nothing | cleared | closed =>
    have member : Event.enableWindow index ∈ front ++ .enableWindow index :: rest := by simp
    rw [← split] at member
    simp at member
  | @reopened handle direction layout permanent _ slot found kept locked =>
    have last := recorded.programmed found (by rw [kept]; rfl)
    obtain ⟨rfl, rfl, rfl⟩ := Engine.open_split [] (by simp) split
    refine ⟨rfl, handle, direction, layout.window, rfl, ⟨_, slot, locked, rfl, rfl, rfl, rfl⟩, ?_⟩
    rw [List.append_nil]
    exact ((Engine.told recorded.obeys slot).last last).1
  | @opened handle direction layout permanent _ slot _ _ _ locked =>
    have bare : ∀ index, Event.enableWindow index ∉ [.setWindow slot layout.window] := by simp
    obtain ⟨rfl, rfl, rfl⟩ := Engine.open_split _ bare split
    refine ⟨rfl, handle, direction, layout.window, rfl, ⟨_, slot, locked, rfl, rfl, rfl, rfl⟩, ?_⟩
    simp [Engine.programs_snoc, Event.program?]

/-- The log of a run, with the surface for which each window was enabled. -/
structure History (d : Driver) (commands : List Command) (log : List Event) : Prop where
  wrote : d.engine.Wrote log (d.run commands).engine
  recorded : (d.run commands).Recorded log
  openings : ∀ index earlier later, log = earlier ++ .enableWindow index :: later →
    ∃ before handle direction after window,
      commands = before ++ .lock handle direction :: after ∧
      ((d.run before).step (.lock handle direction)).2.engine.events =
        d.engine.events ++ earlier ++ [.enableWindow index, .flush] ∧
      ((d.run before).step (.lock handle direction)).2.LockedAt handle direction index window ∧
      (Engine.programs index earlier).getLast? = some window

theorem append_eq_append_cons {α : Type} {first second earlier later : List α} {item : α}
    (split : first ++ second = earlier ++ item :: later) :
    (∃ rest, first = earlier ++ item :: rest) ∨
      ∃ front, earlier = first ++ front ∧ second = front ++ item :: later := by
  rcases List.append_eq_append_iff.mp split with ⟨front, same, now⟩ | ⟨rest, before, now⟩
  · exact .inr ⟨front, same, now⟩
  · cases rest with
    | nil => exact .inr ⟨[], by simpa using before.symm, now.symm⟩
    | cons event rest =>
      cases (List.cons.inj now).1
      exact .inl ⟨rest, before⟩

theorem History.snoc {commands : List Command} {log added : List Event} {command : Command}
    (history : d.History commands log)
    (logs : (d.run commands).Logs command ((d.run commands).step command).1 added
      ((d.run commands).step command).2) :
    d.History (commands ++ [command]) (log ++ added) where
  wrote := by
    rw [run_append]
    exact history.wrote.trans logs.wrote
  recorded := by
    rw [run_append]
    exact history.recorded.step logs (history.recorded.slots.step command)
  openings := by
    intro index earlier later split
    -- The window was enabled before this step or in it.
    rcases append_eq_append_cons split with ⟨rest, earlier⟩ | ⟨front, rfl, now⟩
    · obtain ⟨before, handle, direction, after, window, rfl, rest⟩ :=
        history.openings index _ _ earlier
      exact ⟨before, handle, direction, after ++ [command], window, by simp, rest⟩
    · obtain ⟨rfl, handle, direction, window, rfl, locked, last⟩ :=
        history.recorded.opening logs.adds now
      refine ⟨commands, handle, direction, [], window, rfl, ?_, locked, last⟩
      rw [logs.wrote.events, history.wrote.events, now]
      simp

theorem Recorded.history (recorded : d.Recorded []) {commands : List Command}
    (alone : Along LogAlone d commands) : ∃ log, d.History commands log := by
  induction commands using List.reverseRecOn with
  | nil => exact ⟨[], .nothing rfl rfl, recorded, by simp⟩
  | append_singleton commands command ih =>
    obtain ⟨before, now, _⟩ := alone.append
    obtain ⟨log, history⟩ := ih before
    obtain ⟨added, logs⟩ := step_logs history.recorded.slots now
    exact ⟨log ++ added, history.snoc logs⟩

/-- The engine's log of a run, from the time when the driver had been brought up. The log is
orderly, every window in it that is enabled is that of a surface which is locked at that time,
requests that neither begin nor end a session add nothing to it, and the engine has counted one
flush for each window that was enabled or disabled. -/
theorem engine_log_orderly {config : Config} {platform : Platform}
    (up : bringUp config platform = .ok d) {commands : List Command}
    (alone : Along LogAlone d commands) :
    ∃ log, (d.run commands).engine.events = d.engine.events ++ log ∧
      (d.run commands).engine.flushes =
        platform.engine.flushes + .ofNat (log.countP (·.isSwitch)) ∧
      Engine.Orderly log ∧
      (∀ index earlier later, log = earlier ++ .enableWindow index :: later →
        ∃ before handle direction after window,
          commands = before ++ .lock handle direction :: after ∧
          ((d.run before).step (.lock handle direction)).2.engine.events =
            d.engine.events ++ earlier ++ [.enableWindow index, .flush] ∧
          ((d.run before).step (.lock handle direction)).2.LockedAt handle direction index window ∧
          (Engine.programs index earlier).getLast? = some window) ∧
      (∀ before command after, commands = before ++ command :: after →
        ((d.run before).Quiet command ∨
          ∃ error, ((d.run before).step command).1 = .refused error) →
        ((d.run before).step command).2.engine.events = (d.run before).engine.events) := by
  obtain ⟨log, history⟩ := (Recorded.start up).history alone
  have recorded := history.recorded
  refine ⟨log, history.wrote.events, ?_, recorded.obeys.orderly recorded.flushed,
    history.openings, ?_⟩
  · obtain ⟨_, _, _, rfl, _, _, _, flushes⟩ := bringUp_eq_ok up
    rw [← flushes]
    exact history.wrote.flushes
  · intro before command after split quiet
    rw [split] at alone
    obtain ⟨earlier, now, _⟩ := alone.append
    obtain ⟨added, logs⟩ := step_logs ((SlotsKept.start up).run before) now
    rw [logs.wrote.events, logs.adds.quiet quiet, List.append_nil]

/-- What the engine logs when the first surface of that run is locked again. -/
def handOverLog : List Event :=
  [.setWindow 0 ⟨0x100000000, pageSize⟩, .enableWindow 0, .flush, .disableWindow 0,
    .setWindow 0 ⟨0x100001000, pageSize⟩, .enableWindow 0, .flush,
    .setWindow 1 ⟨0x100000000, pageSize⟩, .enableWindow 1, .flush]

/-- The first slot is disabled for one surface and enabled for the other, which is locked then in
the window that the slot was given last. -/
theorem engine_log_orderly_handOverRun :
    ∃ d, bringUp {} { engine := { version := ⟨1, 1⟩ } } = .ok d ∧
      (d.run (handOverRun ++ [.lock 1 .read])).engine.events = d.engine.events ++ handOverLog ∧
      (d.run (handOverRun ++ [.lock 1 .read])).engine.flushes = 4 ∧
      Engine.Orderly handOverLog ∧
      ∃ before handle direction after,
        handOverRun ++ [.lock 1 .read] = before ++ .lock handle direction :: after ∧
        ((d.run before).step (.lock handle direction)).2.LockedAt handle direction 0
          ⟨0x100001000, pageSize⟩ := by
  have computed : (bringUp {} { engine := { version := ⟨1, 1⟩ } }).toOption.any (fun d =>
      (d.run (handOverRun ++ [.lock 1 .read])).engine.events = d.engine.events ++ handOverLog) =
      true := by
    decide +kernel
  obtain ⟨d, up, ran⟩ := exists_up computed
  have ran := of_decide_eq_true ran
  have alone : Along LogAlone d (handOverRun ++ [.lock 1 .read]) :=
    ⟨trivial, trivial, trivial, trivial, trivial, trivial, trivial, trivial, trivial, trivial,
      trivial⟩
  obtain ⟨log, events, flushes, orderly, openings, _⟩ := engine_log_orderly up alone
  obtain rfl := List.append_cancel_left (events.symm.trans ran)
  obtain ⟨before, handle, direction, after, window, split, _, locked, last⟩ :=
    openings 0 (handOverLog.take 5) (handOverLog.drop 6) rfl
  have given : Engine.programs 0 (handOverLog.take 5) =
      [⟨0x100000000, pageSize⟩, ⟨0x100001000, pageSize⟩] := rfl
  rw [given] at last
  cases last
  exact ⟨d, up, events, flushes, orderly, before, handle, direction, after, split, locked⟩

end TiledSurface.Driver
