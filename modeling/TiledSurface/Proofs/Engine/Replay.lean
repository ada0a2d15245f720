import TiledSurface.Proofs.Engine.Answers

/-!
The log as a record of the engine. Whatever happens to an engine, and wherever its log is cut, the
writes that the logs tell bring a fresh engine of the same revision to the same registers: the
table, all windows, the interrupts that are enabled and the number of flushes. What no write
decides, such as latched faults and flushes that are going to fail, is not recorded.
-/

namespace TiledSurface.Engine

variable {e : Engine} {command : Command} {slot : Nat}

/-- What a write makes of the registers. -/
def Event.write (r : Registers) : Event → Registers
  | .setTable base stride =>
    { r with table := if base = 0 ∧ stride = 0 then none else some (base, stride) }
  | .setWindow slot region => { r with windows := (Event.setWindow slot region).apply r.windows }
  | .enableWindow slot => { r with windows := (Event.enableWindow slot).apply r.windows }
  | .disableWindow slot =>
    { r with windows := (Event.disableWindow slot).apply r.windows, flushes := r.flushes + 1 }
  | .flush => { r with flushes := r.flushes + 1 }
  | .enableInterrupt kind on => { r with interrupts := r.interrupts.set kind on }
  | .clearInterrupt _ => r

def run (e : Engine) (commands : List Command) : Engine :=
  commands.foldl (fun e command => (e.step command).2) e

def Outcome.taken : Outcome → List Event
  | .events log => log
  | _ => []

/-- The logs that are taken during a run, one behind the other, and the one that is left. -/
def record : Engine → List Command → List Event
  | e, [] => e.events
  | e, command :: rest => (e.step command).1.taken ++ record (e.step command).2 rest

theorem registers_finishFlush (e : Engine) :
    e.finishFlush.2.registers = { e.registers with flushes := e.flushes + 1 } := by
  rw [finishFlush_eq]
  rfl

/-- The registers after a write follow from those before it. Whether a flush fails is no matter. -/
theorem registers_write (e : Engine) (event : Event) :
    (e.step event.command).2.registers = event.write e.registers := by
  cases event with
  | disableWindow slot => exact registers_finishFlush _
  | flush => exact registers_finishFlush _
  | setTable | setWindow | enableWindow | enableInterrupt | clearInterrupt => rfl

theorem registers_perform (e : Engine) (log : List Event) :
    (e.perform log).registers = log.foldl Event.write e.registers := by
  induction log generalizing e with
  | nil => rfl
  | cons event rest ih =>
    refine (ih _).trans ?_
    rw [registers_write]
    rfl

theorem exists_event (writes : command.writes = true) :
    ∃ event : Event, event.command = command := by
  cases command with
  | setTable base stride => exact ⟨.setTable base stride, rfl⟩
  | setWindow slot region => exact ⟨.setWindow slot region, rfl⟩
  | enableWindow slot => exact ⟨.enableWindow slot, rfl⟩
  | disableWindow slot => exact ⟨.disableWindow slot, rfl⟩
  | flush => exact ⟨.flush, rfl⟩
  | enableInterrupt kind on => exact ⟨.enableInterrupt kind on, rfl⟩
  | clearInterrupt kind => exact ⟨.clearInterrupt kind, rfl⟩
  | source | raise | access | setAperture | failFlushes | window | takeLog => cases writes

theorem taken_step (e : Engine) (kept : command ≠ .takeLog) : (e.step command).1.taken = [] := by
  cases command with
  | takeLog => exact absurd rfl kept
  | disableWindow slot =>
    simp only [step]
    cases (e.disableWindow slot).1 <;> rfl
  | flush =>
    simp only [step]
    cases e.flush.1 <;> rfl
  | setTable | setWindow | enableWindow | enableInterrupt | clearInterrupt | source | raise
  | access | setAperture | failFlushes | window => rfl

/-- The log, behind what was taken of it before, tells the registers from their first values on. -/
def Retold (start : Registers) (taken : List Event) (e : Engine) : Prop :=
  (taken ++ e.events).foldl Event.write start = e.registers

theorem Retold.step {start : Registers} {taken : List Event} (retold : Retold start taken e)
    (command : Command) :
    Retold start (taken ++ (e.step command).1.taken) (e.step command).2 := by
  unfold Retold at retold ⊢
  by_cases cut : command = .takeLog
  · subst cut
    exact (congrArg (List.foldl _ _) (List.append_nil _)).trans retold
  rw [taken_step e cut, List.append_nil]
  by_cases writes : command.writes = true
  · obtain ⟨event, rfl⟩ := exists_event writes
    rw [events_step, ← List.append_assoc, List.foldl_append, retold, registers_write]
    rfl
  · have reads : command.writes = false := Bool.eq_false_iff.mpr writes
    rw [(e.wrote_step reads cut).events, List.append_nil, retold, registers_step e reads]

theorem Retold.run {start : Registers} {taken : List Event} (retold : Retold start taken e)
    (commands : List Command) :
    (taken ++ e.record commands).foldl Event.write start = (e.run commands).registers := by
  -- What was taken goes along, because a later command may cut the log once more.
  induction commands generalizing e taken with
  | nil => exact retold
  | cons command rest ih =>
    rw [record, ← List.append_assoc]
    exact ih (retold.step command)

theorem windows_switch_bare (bare : e.windows.find? slot = none) :
    (e.enableWindow slot).windows = e.windows ∧ (e.disableWindow slot).2.windows = e.windows := by
  constructor
  · simp [enableWindow, OrderedMap.modify, bare]
  · simp [disableWindow, OrderedMap.modify, bare]

/-- The log of every run of an engine, whoever takes it in however many pieces. The same writes
bring a fresh engine of the same revision to the same registers. Enabling and disabling make no
window where there is none, and a window that is programmed anew stays enabled if it was. -/
theorem record_retells (version : Version) (commands : List Command) :
    let fresh : Engine := { version }
    let e := fresh.run commands
    (fresh.perform (fresh.record commands)).registers = e.registers ∧
    (∀ slot, e.windows.find? slot = none →
      (e.step (.enableWindow slot)).2.windows = e.windows ∧
      (e.step (.disableWindow slot)).2.windows = e.windows) ∧
    (∀ slot region, (e.step (.setWindow slot region)).2.windows.find? slot =
      some ⟨region, (e.windows.find? slot).any (·.enabled)⟩) := by
  intro fresh e
  refine ⟨?_, fun slot bare => windows_switch_bare bare, fun slot region => ?_⟩
  · have retold : Retold fresh.registers [] fresh := rfl
    rw [registers_perform]
    exact retold.run commands
  · exact (e.find?_setWindow slot region slot).trans (if_pos rfl)

end TiledSurface.Engine
