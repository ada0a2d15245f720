import TiledSurface.Proofs.Driver.Plans
import TiledSurface.Proofs.Driver.Programming

/-!
Surfaces that keep their slot. Sessions and new attributes leave the slot to a surface whose
translation is permanent, and its first locks program the slot only when that is due: a
configuration was granted since it was programmed last.
-/

namespace TiledSurface

def Attributes.IsLinear (a : Attributes) : Prop :=
  ∃ format, a.check = .ok format ∧ format.layout? = none

/-- The translation of the surface is permanent, in the slot that it holds. -/
structure Surface.Keeps (s : Surface) (slot : Slot) : Prop where
  permanent : s.permanent = true
  held : s.slot? = some slot

namespace Driver

variable {d d' : Driver} {handle : Handle} {slot : Slot}

def Keeps (handle : Handle) (slot : Slot) (d : Driver) : Prop :=
  ∃ surface, d.surfaces.find? handle = some surface ∧ surface.Keeps slot

/-- No request gives up the slot of the surface. The flag is not cleared, the surface not removed,
and new attributes are refused while it is locked, or else granted and not linear. -/
def Retains (handle : Handle) : Policy
  | _, .setPermanent other on => other = handle → on = true
  | _, .untrack other => other ≠ handle
  | d, .configure other a => other = handle →
      Locked handle d ∨ (d.configure handle a).1 = .ok () ∧ ¬ a.IsLinear
  | _, _ => True

theorem Configured.keeps {a : Attributes} {result : Except Error Unit}
    (configured : d.Configured handle a result d') (keeps : Keeps handle slot d)
    (retained : Locked handle d ∨ result = .ok () ∧ ¬ a.IsLinear) : Keeps handle slot d' := by
  obtain ⟨surface, found, kept⟩ := keeps
  cases configured with
  | unknown missing => cases missing.symm.trans found
  | busy => exact ⟨surface, found, kept⟩
  | @settled _ attempt _ _ _ found' unlocked _ attempted =>
    cases found.symm.trans found'
    have granted : attempt.result = .ok () ∧ ¬ a.IsLinear := by
      rcases retained with ⟨_, found'', locked⟩ | granted
      · cases found.symm.trans found''
        exact absurd unlocked locked
      · exact granted
    refine ⟨_, OrderedMap.find?_insert_self .., kept.permanent, ?_⟩
    cases attempt with
    | refused => cases granted.1
    | linear =>
      cases attempted with
      | linear _ planned => exact absurd (Attributes.plan?_eq_none.mp planned) granted.2
    | tiled layout => exact attempted.slot.trans kept.held

theorem LockEnds.keeps {direction : Direction} {result : Except Error Unit}
    (ends : d.LockEnds handle direction result d') (keeps : Keeps handle slot d) :
    Keeps handle slot d' := by
  obtain ⟨surface, found, kept⟩ := keeps
  cases ends with
  | unknown | unset | linear | overflow | exhausted => exact ⟨surface, found, kept⟩
  | @nested layout _ _ _ found' locked =>
    cases found.symm.trans found'
    have held : layout.binding.slot? = some slot := kept.held
    rw [locked] at held
    exact ⟨_, OrderedMap.find?_insert_self .., kept.permanent, held⟩
  | @first layout _ _ _ _ _ found' bound =>
    cases found.symm.trans found'
    have held : layout.binding.slot? = some slot := kept.held
    refine ⟨_, OrderedMap.find?_insert_self .., kept.permanent, ?_⟩
    cases bound with
    | ready was | stale was =>
      rw [was] at held
      exact held
    | claimed unbound =>
      rw [unbound] at held
      cases held

theorem Turn.keeps {command : Command} {outcome : Outcome} {surface : Surface}
    {after : Option Surface} (turn : Turn handle command outcome (some surface) after)
    (kept : surface.Keeps slot) (retains : Retains handle d command)
    (configures : ∀ a, command ≠ .configure handle a)
    (locks : ∀ direction, command ≠ .lock handle direction) :
    ∃ surface', after = some surface' ∧ surface'.Keeps slot := by
  obtain ⟨permanent, held⟩ := kept
  cases turn with
  | still => exact ⟨surface, rfl, permanent, held⟩
  | removed => exact absurd rfl retains
  | configured => exact absurd rfl (configures _)
  | flagged => exact ⟨_, rfl, retains rfl, held⟩
  | dropped => cases retains rfl
  | begun | nested => exact absurd rfl (locks _)
  | @returned layout _ _ _ _ _ locked =>
    have held : layout.binding.slot? = some slot := held
    rw [locked] at held
    exact ⟨_, rfl, permanent, held⟩
  | @ended layout _ _ _ _ locked =>
    have mine : layout.binding.slot? = some slot := held
    rw [locked] at mine
    cases permanent
    exact ⟨_, rfl, rfl, mine⟩

theorem Keeps.step (keeps : Keeps handle slot d) {command : Command}
    (retains : Retains handle d command) : Keeps handle slot (d.step command).2 := by
  by_cases configures : ∃ a, command = .configure handle a
  · obtain ⟨a, rfl⟩ := configures
    exact (d.configure_ends handle a).keeps keeps (retains rfl)
  by_cases locks : ∃ direction, command = .lock handle direction
  · obtain ⟨direction, rfl⟩ := locks
    exact (d.lock_ends handle direction).keeps keeps
  · obtain ⟨surface, found, kept⟩ := keeps
    have turn := d.step_turn command handle
    rw [found] at turn
    exact turn.keeps kept retains (fun a same => configures ⟨a, same⟩)
      (fun direction same => locks ⟨direction, same⟩)

theorem Keeps.alone (keeps : Keeps handle slot d) (kept : d.SlotsKept) {other : Handle}
    (theirs : owned d.surfaces Surface.slot? other = some slot) : other = handle := by
  obtain ⟨surface, found, held⟩ := keeps
  exact kept.ledger.alone theirs (owned_eq_some.mpr ⟨surface, found, held.held⟩)

/-- A surface keeps its slot, and keeps it to itself, for as long as no request gives it up. -/
theorem Keeps.throughout (keeps : Keeps handle slot d) (kept : d.SlotsKept)
    {commands : List Command} (retains : Along (Retains handle) d commands) :
    Throughout (fun d => Keeps handle slot d ∧
      ∀ other, owned d.surfaces Surface.slot? other = some slot → other = handle) d commands := by
  induction commands generalizing d with
  | nil => exact ⟨keeps, fun _ => keeps.alone kept⟩
  | cons command rest ih =>
    exact ⟨⟨keeps, fun _ => keeps.alone kept⟩,
      ih (keeps.step retains.1) (kept.step command) retains.2⟩

/-- A request to configure the surface was granted, and no lock has programmed a slot for it
since. -/
def Reconfigured (handle : Handle) (d : Driver) (commands : List Command) : Prop :=
  ∃ before a after, commands = before ++ .configure handle a :: after ∧
    ((d.run before).configure handle a).1 = .ok () ∧
    Along (fun d command => ¬ Programming handle d command)
      ((d.run before).configure handle a).2 after

/-- The surface holds a slot that is not programmed for it. -/
def Due (handle : Handle) (d : Driver) : Prop :=
  owned d.surfaces Surface.slot? handle ≠ none ∧ Unprogrammed handle d

theorem Configured.due {a : Attributes} {result : Except Error Unit}
    (configured : d.Configured handle a result d') (due : Due handle d') :
    result = .ok () ∨ Due handle d := by
  cases configured with
  | unknown | busy => exact .inr due
  | @settled _ attempt =>
    cases attempt with
    | refused =>
      refine absurd ?_ due.1
      rw [owned_insert_self]
      rfl
    | linear | tiled => exact .inl rfl

theorem Turn.due {command : Command} {outcome : Outcome} {before after : Option Surface}
    (turn : Turn handle command outcome before after)
    (held : after.bind Surface.slot? ≠ none) (bare : after.bind Surface.programmed? = none)
    (configures : ∀ a, command ≠ .configure handle a) :
    before.bind Surface.slot? ≠ none ∧ before.bind Surface.programmed? = none := by
  cases turn with
  | still | flagged => exact ⟨held, bare⟩
  | tracked | removed | dropped => exact absurd rfl held
  | configured => exact absurd rfl (configures _)
  | begun | nested | returned => cases bare
  | @ended _ permanent =>
    cases permanent with
    | true => cases bare
    | false => exact absurd rfl held

theorem due_of_step {command : Command} (due : Due handle (d.step command).2) :
    (∃ a, command = .configure handle a ∧ (d.configure handle a).1 = .ok ()) ∨ Due handle d := by
  by_cases configures : ∃ a, command = .configure handle a
  · obtain ⟨a, rfl⟩ := configures
    rcases (d.configure_ends handle a).due due with granted | before
    · exact .inl ⟨a, rfl, granted⟩
    · exact .inr before
  · refine .inr ?_
    exact (d.step_turn command handle).due due.1 due.2 fun a same => configures ⟨a, same⟩

theorem idle_of_due {commands : List Command} (due : Throughout (Due handle) d commands) :
    Along (fun d command => ¬ Programming handle d command) d commands := by
  induction commands generalizing d with
  | nil => trivial
  | cons command rest ih =>
    refine ⟨?_, ih due.2⟩
    rintro ⟨_, _, _, programs⟩
    exact due.2.start.2.unlocked programs.locked

/-- A slot is due since a configuration was granted. -/
theorem due_since (fresh : d.surfaces.find? handle = none) {commands : List Command}
    (due : Due handle (d.run commands)) :
    Since (fun d command => ∃ a, command = .configure handle a ∧ (d.configure handle a).1 = .ok ())
      (Due handle) d commands := by
  -- From the end of the run: its last step configures the surface, or the slot was due before it.
  induction commands using List.reverseRecOn with
  | nil => exact absurd (owned_of_missing _ fresh) due.1
  | append_singleton commands command ih =>
    have last := run_snoc d commands command
    rcases due_of_step (last ▸ due) with granted | earlier
    · exact ⟨commands, command, [], rfl, granted, last ▸ due⟩
    · exact (ih earlier).concat due

theorem reconfigured_of_due (fresh : d.surfaces.find? handle = none) {commands : List Command}
    (due : Due handle (d.run commands)) : Reconfigured handle d commands := by
  obtain ⟨before, _, after, rfl, ⟨a, rfl, granted⟩, ever⟩ := due_since fresh due
  exact ⟨before, a, after, rfl, granted, idle_of_due ever⟩

theorem Reconfigured.unprogrammed {commands : List Command}
    (reconfigured : Reconfigured handle d commands) : Unprogrammed handle (d.run commands) := by
  obtain ⟨before, a, after, rfl, granted, idle⟩ := reconfigured
  have bare := unprogrammed_of_configure (Prod.ext granted rfl)
  rw [run_split]
  exact idle.keeps (Unprogrammed handle) bare fun _ _ idle bare => bare.step idle

theorem Unprogrammed.of_unheld (unheld : owned d.surfaces Surface.slot? handle = none) :
    Unprogrammed handle d := by
  cases noted : owned d.surfaces Surface.programmed? handle with
  | none => exact noted
  | some slot =>
    obtain ⟨surface, found, ready⟩ := owned_eq_some.mp noted
    obtain ⟨layout, tiled, ready⟩ := Option.bind_eq_some_iff.mp ready
    have held : surface.slot? = some slot :=
      Option.bind_eq_some_iff.mpr ⟨layout, tiled, Binding.slot?_of_programmed? ready⟩
    cases unheld.symm.trans ((owned_of_find? _ found).trans held)

theorem unprogrammed_iff (fresh : d.surfaces.find? handle = none) (commands : List Command) :
    Unprogrammed handle (d.run commands) ↔
      owned (d.run commands).surfaces Surface.slot? handle = none ∨
        Reconfigured handle d commands := by
  constructor
  · intro bare
    by_cases held : owned (d.run commands).surfaces Surface.slot? handle = none
    · exact .inl held
    · exact .inr (reconfigured_of_due fresh ⟨held, bare⟩)
  · rintro (unheld | reconfigured)
    · exact .of_unheld unheld
    · exact reconfigured.unprogrammed

/-- A first lock that programs nothing opens the window as it is, and leaves the table alone. -/
theorem lock_reopens {direction : Direction} (unlocked : ¬ Locked handle d)
    (granted : (d.lock handle direction).1 = .ok ())
    (idle : ¬ Programming handle d (.lock handle direction)) :
    ∃ slot, owned d.surfaces Surface.slot? handle = some slot ∧
      d.writes (.lock handle direction) = [.enableWindow slot, .flush] ∧
      (d.lock handle direction).2.slots = d.slots := by
  have ready := mt (programming_iff granted).mpr idle
  have ends := d.lock_ends handle direction
  rw [granted] at ends
  generalize after : (d.lock handle direction).2 = d' at ends
  have stepped : (d.step (.lock handle direction)).2 = d' := after
  cases ends with
  | nested found locked => exact absurd (.of_find? found locked) unlocked
  | @first layout _ slot _ _ _ found bound =>
    have noted : owned d.surfaces Surface.programmed? handle = layout.binding.programmed? :=
      owned_of_find? _ found
    rw [Unprogrammed, noted] at ready
    have writes : d.writes (.lock handle direction) = opening layout slot :=
      Calls.writes (stepped ▸ bound.calls ..)
    rw [opening, if_neg ready] at writes
    cases bound with
    | ready kept =>
      exact ⟨slot, (owned_of_find? _ found).trans (congrArg Binding.slot? kept), writes, rfl⟩
    | stale kept => exact absurd (by rw [kept]; rfl) ready
    | claimed unbound => exact absurd (by rw [unbound]; rfl) ready

end Driver

end TiledSurface
