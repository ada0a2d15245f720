import TiledSurface.Proofs.Driver.Neighbours
import TiledSurface.Proofs.Driver.Turns

namespace TiledSurface.Driver

variable {d d' : Driver} {handle : Handle} {surface surface' : Surface}

def Tracks (handle : Handle) (d : Driver) : Prop := d.surfaces.find? handle ≠ none

def Locked (handle : Handle) (d : Driver) : Prop :=
  ∃ surface, d.surfaces.find? handle = some surface ∧ surface.session? ≠ none

theorem Locked.of_find? {layout : Tiled} {permanent : Bool} {slot : Slot} {session : Session}
    (found : d.surfaces.find? handle = some ⟨.tiled layout, permanent⟩)
    (locked : layout.binding = .locked slot session) : Locked handle d :=
  ⟨_, found, by simp [locked]⟩

/-- How many of the requests that are counted are granted in a run. -/
def granted (counted : Command → Bool) : Driver → List Command → Nat
  | _, [] => 0
  | d, command :: rest =>
    (if counted command && (d.step command).1.isDone then 1 else 0) +
      granted counted (d.step command).2 rest

theorem granted_snoc (counted : Command → Bool) (d : Driver) (commands : List Command)
    (command : Command) :
    granted counted d (commands ++ [command]) = granted counted d commands +
      if counted command && ((d.run commands).step command).1.isDone then 1 else 0 := by
  induction commands generalizing d with
  | nil => simp [granted, run]
  | cons first rest ih =>
    rw [List.cons_append, granted, ih, granted, Nat.add_assoc]
    rfl

theorem counted_lock (handle : Handle) (direction : Direction) :
    ((Command.lock handle direction).isLock handle && Outcome.done.isDone) = true := by
  simp [Command.isLock, Outcome.isDone]

theorem counted_unlock (handle : Handle) (direction : Direction) :
    ((Command.unlock handle direction).isUnlock handle && Outcome.done.isDone) = true := by
  simp [Command.isUnlock, Outcome.isDone]

theorem Turn.counts {command : Command} {outcome : Outcome}
    (turn : Turn handle command outcome (some surface) (some surface')) :
    surface'.lockCount + (if command.isUnlock handle && outcome.isDone then 1 else 0) =
      surface.lockCount + (if command.isLock handle && outcome.isDone then 1 else 0) := by
  cases turn with
  | still locks unlocks =>
    have no_lock : (command.isLock handle && outcome.isDone) = false := by
      rw [← Bool.not_eq_true, Bool.and_eq_true]
      exact fun granted => Bool.noConfusion ((locks granted.1).symm.trans granted.2)
    have no_unlock : (command.isUnlock handle && outcome.isDone) = false := by
      rw [← Bool.not_eq_true, Bool.and_eq_true]
      exact fun granted => Bool.noConfusion ((unlocks granted.1).symm.trans granted.2)
    rw [no_lock, no_unlock]
  | configured unlocked idle =>
    rw [Surface.lockCount_of_unlocked unlocked, Surface.lockCount_of_unlocked idle]
    rfl
  | flagged => rfl
  | dropped kept =>
    have before := congrArg Binding.session? kept
    rw [Surface.lockCount_unlocked before, Surface.lockCount_unlocked rfl]
    rfl
  | begun unlocked =>
    rw [Surface.lockCount_unlocked unlocked, Surface.lockCount_locked rfl, counted_lock]
    rfl
  | nested locked =>
    rw [Surface.lockCount_locked locked, Surface.lockCount_locked rfl, counted_lock]
    rfl
  | returned locked more =>
    rw [Surface.lockCount_locked locked, Surface.lockCount_locked rfl, counted_unlock, more]
    rfl
  | @ended _ permanent slot _ _ locked single =>
    have after : (if permanent then Binding.kept slot true else .unbound).session? = none := by
      cases permanent <;> rfl
    rw [Surface.lockCount_locked locked, Surface.lockCount_unlocked after, counted_unlock, single]
    rfl

/-- The lock count of a surface is the number of locks that were granted since it was tracked,
less the unlocks. -/
theorem counted_since (fresh : d.surfaces.find? handle = none) {commands : List Command}
    (found : (d.run commands).surfaces.find? handle = some surface) :
    ∃ before after, commands = before ++ .track handle :: after ∧
      ((d.run before).step (.track handle)).1 = .done ∧
      Throughout (Tracks handle) ((d.run before).step (.track handle)).2 after ∧
      surface.lockCount +
          granted (·.isUnlock handle) ((d.run before).step (.track handle)).2 after =
        granted (·.isLock handle) ((d.run before).step (.track handle)).2 after := by
  -- From the end of the run: its last step tracks the surface, or adds to the count so far.
  induction commands using List.reverseRecOn generalizing surface with
  | nil => cases fresh.symm.trans found
  | append_singleton commands command ih =>
    have turn := (d.run commands).step_turn command handle
    rw [← run_snoc, found] at turn
    cases earlier : (d.run commands).surfaces.find? handle with
    | none =>
      rw [earlier] at turn
      obtain ⟨rfl, tracked, rfl⟩ := turn.appears
      have still : Tracks handle (d.run (commands ++ [.track handle])) := by
        rw [Tracks, found]
        exact nofun
      rw [run_snoc] at still
      exact ⟨commands, [], rfl, tracked, still, rfl⟩
    | some surface₀ =>
      rw [earlier] at turn
      obtain ⟨before, after, rfl, tracked, throughout, counts⟩ := ih earlier
      refine ⟨before, after ++ [command], by simp, tracked, throughout.concat ?_, ?_⟩
      · rw [Tracks, ← run_split, ← List.cons_append, ← List.append_assoc, found]
        exact nofun
      · have now := turn.counts
        rw [granted_snoc, granted_snoc, ← run_split, ← Nat.add_assoc, Nat.add_right_comm, now,
          Nat.add_right_comm, counts]

def Begins (handle : Handle) (direction : Direction) : Policy := fun d command =>
  command = .lock handle direction ∧ (d.step command).1 = .done ∧
    ∃ surface, d.surfaces.find? handle = some surface ∧ surface.session? = none

theorem begun_since (fresh : d.surfaces.find? handle = none) {commands : List Command}
    (found : (d.run commands).surfaces.find? handle = some surface) {session : Session}
    (locked : surface.session? = some session) :
    Since (Begins handle session.direction) (Locked handle) d commands := by
  induction commands using List.reverseRecOn generalizing surface session with
  | nil => cases fresh.symm.trans found
  | append_singleton commands command ih =>
    have still : Locked handle (d.run (commands ++ [command])) :=
      ⟨surface, found, by simp [locked]⟩
    have turn := (d.run commands).step_turn command handle
    rw [← run_snoc, found] at turn
    cases earlier : (d.run commands).surfaces.find? handle with
    | none =>
      rw [earlier] at turn
      obtain ⟨_, _, rfl⟩ := turn.appears
      cases locked
    | some surface₀ =>
      rw [earlier] at turn
      rcases turn.locked locked with ⟨session₀, locked₀, same⟩ | ⟨unlocked, now, granted⟩
      · rw [← same]
        exact (ih earlier locked₀).concat still
      · rw [run_snoc] at still
        exact ⟨commands, command, [], rfl, ⟨now, granted, surface₀, earlier, unlocked⟩, still⟩

/-- Nobody but the driver registers, maps or attaches the buffer of the handle. -/
def RecordAlone (handle : Handle) : Policy
  | _, .platform (.register other _) | _, .platform (.attach other)
  | _, .platform (.detach other) | _, .platform (.map other _) => other ≠ handle
  | _, _ => True

/-- A surface whose first lock is granted stays locked until the last command, which unlocks it. -/
structure WholeSession (d : Driver) (handle : Handle) (direction : Direction)
    (inner : List Command) (last : Command) (surface surface' : Surface) : Prop where
  before : d.surfaces.find? handle = some surface
  unlocked : surface.session? = none
  locked : Throughout (Locked handle) (d.step (.lock handle direction)).2 inner
  after : (d.run (.lock handle direction :: (inner ++ [last]))).surfaces.find? handle =
    some surface'
  unlocked' : surface'.session? = none

theorem RecordAlone.platform {command : Platform.Command}
    (alone : RecordAlone handle d (.platform command)) :
    (d.toPlatform.step command).2.buffers.records.find? handle =
      d.buffers.records.find? handle := by
  cases command with
  | register other length =>
    exact (OrderedMap.find?_insert ..).trans (if_neg (Ne.symm alone))
  | attach other => exact d.buffers.find?_ensureAttached_other none (Ne.symm alone)
  | detach other => exact (OrderedMap.find?_modify ..).trans (if_neg (Ne.symm alone))
  | map other cpu => exact d.buffers.find?_map_other cpu (Ne.symm alone)
  | engine | failMaps | failAttaches | failOnlines | failOfflines | bringOnline | takeOffline
  | maintain => rfl

theorem Configured.buffers_busy {a : Attributes} {result : Except Error Unit}
    (configured : d.Configured handle a result d')
    (found : d.surfaces.find? handle = some surface) (locked : surface.session? ≠ none) :
    d'.buffers = d.buffers := by
  cases configured with
  | unknown | busy => rfl
  | settled found' unlocked =>
    cases found.symm.trans found'
    exact absurd unlocked locked

theorem step_record (kept : d.SlotsKept) (found : d.surfaces.find? handle = some surface)
    {command : Command} (found' : (d.step command).2.surfaces.find? handle = some surface')
    (busy : ∀ a, command = .configure handle a → surface.session? ≠ none)
    (alone : RecordAlone handle d command) :
    (d.step command).2.buffers.records.find? handle = d.buffers.records.find? handle := by
  have touched : ∀ {d' : Driver}, d.Touch handle d' →
      d'.buffers.records.find? handle = d.buffers.records.find? handle :=
    fun touch => congrArg (·.records.find? handle) touch.buffers
  by_cases mine : command.target? = some handle
  · cases command with
    | track other =>
      cases mine
      exact touched (d.track_touch handle)
    | lock other direction =>
      cases mine
      exact touched (d.lock_touch handle direction)
    | unlock other direction =>
      cases mine
      exact touched (d.unlock_touch handle direction)
    | setPermanent other on =>
      cases mine
      exact touched (d.setPermanent_touch handle on)
    | configure other a =>
      cases mine
      have same := (d.configure_ends handle a).buffers_busy found (busy a rfl)
      exact congrArg (·.records.find? handle) same
    | attributes other => rfl
    | untrack other =>
      cases mine
      rcases (d.untrack_ends handle).gone with gone | ⟨_, _, _, same⟩
      · cases gone.symm.trans found'
      · exact congrArg (·.buffers.records.find? handle) same
    | platform | interrupt | takeReports => cases mine
  · cases target : command.target? with
    | some other =>
      have different : handle ≠ other := fun same => mine (same ▸ target)
      exact (step_undisturbed kept found target different).buffer
    | none =>
      cases command with
      | interrupt line => exact touched (d.interrupt_touch line handle)
      | takeReports => rfl
      | platform other => exact alone.platform
      | track | configure | attributes | lock | unlock | setPermanent | untrack => cases target

/-- Between two states of a run the surface of a handle has stayed as it was, but for its slot,
and so has the record of its buffer unless others reached it. -/
structure Steady (d : Driver) (handle : Handle) (surface : Surface) (commands : List Command)
    (surface' : Surface) : Prop where
  alike : Alike surface surface'
  record : Along (RecordAlone handle) d commands →
    (d.run commands).buffers.records.find? handle = d.buffers.records.find? handle

theorem Steady.cons {commands : List Command} {command : Command} {next : Surface}
    (kept : d.SlotsKept) (found : d.surfaces.find? handle = some surface)
    (found' : (d.step command).2.surfaces.find? handle = some next)
    (busy : ∀ a, command = .configure handle a → surface.session? ≠ none)
    (rest : (d.step command).2.Steady handle next commands surface') :
    d.Steady handle surface (command :: commands) surface' where
  alike := by
    have turn := d.step_turn command handle
    rw [found, found'] at turn
    exact (turn.alike busy).trans rest.alike
  record := fun alone =>
    (rest.record alone.2).trans (step_record kept found found' busy alone.1)

theorem steady_locked (kept : d.SlotsKept) {inner : List Command} {last : Command}
    (locked : Throughout (Locked handle) d inner)
    (found : d.surfaces.find? handle = some surface)
    (after : (d.run (inner ++ [last])).surfaces.find? handle = some surface')
    (unlocked : surface'.session? = none) :
    d.Steady handle surface (inner ++ [last]) surface' ∧
      (∃ direction, last = .unlock handle direction) ∧
      (surface'.slot? ≠ none ↔ surface'.permanent = true) := by
  -- Along the part in which the surface is locked. Only the last step takes it out of that.
  induction inner generalizing d surface with
  | nil =>
    obtain ⟨surface₀, found₀, held⟩ := locked
    cases found.symm.trans found₀
    change (d.step last).2.surfaces.find? handle = some surface' at after
    have turn := d.step_turn last handle
    rw [found, after] at turn
    have stays : (d.step last).2.Steady handle surface' [] surface' := ⟨.refl _, fun _ => rfl⟩
    exact ⟨.cons kept found after (fun _ _ => held) stays, turn.unlocked held unlocked⟩
  | cons command inner ih =>
    obtain ⟨⟨surface₀, found₀, held⟩, rest⟩ := locked
    cases found.symm.trans found₀
    obtain ⟨next, found', _⟩ := rest.start
    obtain ⟨steady, ended⟩ := ih (kept.step command) rest found' after
    exact ⟨.cons kept found found' (fun _ _ => held) steady, ended⟩

theorem WholeSession.steady {direction : Direction} {inner : List Command} {last : Command}
    (kept : d.SlotsKept) (whole : d.WholeSession handle direction inner last surface surface') :
    d.Steady handle surface (.lock handle direction :: (inner ++ [last])) surface' ∧
      (∃ direction, last = .unlock handle direction) ∧
      (surface'.slot? ≠ none ↔ surface'.permanent = true) := by
  obtain ⟨next, found, _⟩ := whole.locked.start
  obtain ⟨steady, ended⟩ :=
    steady_locked (kept.step _) whole.locked found whole.after whole.unlocked'
  exact ⟨.cons kept whole.before found nofun steady, ended⟩

/-- The sessions of a surface along every run, whatever others do. Its lock count is the number of
locks granted since it was tracked less the unlocks, it is locked while that is positive, and the
direction is that of the lock that began the session. A whole session, which ends with an unlock,
leaves the surface as it was and with a slot just if it keeps its slot. -/
theorem lock_sessions {config : Config} {platform : Platform}
    (up : bringUp config platform = .ok d) (commands : List Command)
    (found : (d.run commands).surfaces.find? handle = some surface) :
    (∃ before after, commands = before ++ .track handle :: after ∧
      ((d.run before).step (.track handle)).1 = .done ∧
      Throughout (Tracks handle) ((d.run before).step (.track handle)).2 after ∧
      surface.lockCount +
          granted (·.isUnlock handle) ((d.run before).step (.track handle)).2 after =
        granted (·.isLock handle) ((d.run before).step (.track handle)).2 after) ∧
    (surface.session? ≠ none ↔ 0 < surface.lockCount) ∧
    (∀ session, surface.session? = some session →
      Since (Begins handle session.direction) (Locked handle) d commands) ∧
    (∀ direction inner last surface',
      (d.run commands).WholeSession handle direction inner last surface surface' →
      (d.run commands).Steady handle surface (.lock handle direction :: (inner ++ [last]))
        surface' ∧
      (∃ direction, last = .unlock handle direction) ∧
      (surface'.slot? ≠ none ↔ surface'.permanent = true)) := by
  have fresh : d.surfaces.find? handle = none := by
    obtain ⟨_, _, _, rfl, _⟩ := bringUp_eq_ok up
    rfl
  have kept := (SlotsKept.start up).run commands
  refine ⟨counted_since fresh found, surface.session?_ne_none, ?_, ?_⟩
  · intro session locked
    exact begun_since fresh found locked
  · intro direction inner last surface' whole
    exact whole.steady kept

/-- The surface that the short run sets up has a session in which it comes to keep its slot. -/
theorem exists_wholeSession :
    ∃ d surface surface', bringUp {} { engine := { version := ⟨1, 1⟩ } } = .ok d ∧
      (d.run shortRun.dropLast).WholeSession 1 .read [.setPermanent 1 true] (.unlock 1 .write)
        surface surface' ∧ surface'.permanent = true := by
  have computed : (bringUp {} { engine := { version := ⟨1, 1⟩ } }).toOption.any (fun d =>
      ((d.run shortRun.dropLast).surfaces.find? 1).any (fun surface =>
        (((d.run shortRun.dropLast).step (.lock 1 .read)).2.surfaces.find? 1).any (fun locked =>
          ((((d.run shortRun.dropLast).step (.lock 1 .read)).2.step
              (.setPermanent 1 true)).2.surfaces.find? 1).any (fun kept =>
            (((d.run shortRun.dropLast).run [.lock 1 .read, .setPermanent 1 true,
                .unlock 1 .write]).surfaces.find? 1).any (fun surface' =>
              surface.session? = none ∧ locked.session? ≠ none ∧ kept.session? ≠ none ∧
                surface'.session? = none ∧ surface'.permanent = true))))) = true := by
    decide +kernel
  obtain ⟨d, up, ran⟩ := exists_up computed
  obtain ⟨surface, found, ran⟩ := (Option.any_eq_true _ _).mp ran
  obtain ⟨surface₁, found₁, ran⟩ := (Option.any_eq_true _ _).mp ran
  obtain ⟨surface₂, found₂, ran⟩ := (Option.any_eq_true _ _).mp ran
  obtain ⟨surface', found', ran⟩ := (Option.any_eq_true _ _).mp ran
  obtain ⟨before, locked, kept, after, permanent⟩ := of_decide_eq_true ran
  refine ⟨d, surface, surface', up, ?_, permanent⟩
  generalize d.run shortRun.dropLast = start at *
  exact ⟨found, before, ⟨⟨surface₁, found₁, locked⟩, ⟨surface₂, found₂, kept⟩⟩, found', after⟩

/-- The surface of the short run keeps its slot after that session. -/
theorem lock_sessions_shortRun :
    ∃ d surface surface', bringUp {} { engine := { version := ⟨1, 1⟩ } } = .ok d ∧
      (d.run shortRun.dropLast).Steady 1 surface
        [.lock 1 .read, .setPermanent 1 true, .unlock 1 .write] surface' ∧
      surface'.slot? ≠ none := by
  obtain ⟨d, surface, surface', up, whole, permanent⟩ := exists_wholeSession
  obtain ⟨_, _, _, sessions⟩ := lock_sessions up shortRun.dropLast whole.before
  obtain ⟨steady, _, slot⟩ := sessions .read _ _ surface' whole
  exact ⟨d, surface, surface', up, steady, slot.mpr permanent⟩

end TiledSurface.Driver
