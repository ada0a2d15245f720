import TiledSurface.Engine.Command

namespace TiledSurface.Engine

variable {e : Engine} {slot : Nat} {region : Region} {on : Bool}

/-- Register writes, as opposed to reads and to what the hardware or a test does by itself. -/
def Command.writes : Command → Bool
  | .setTable .. | .setWindow .. | .enableWindow _ | .disableWindow _ | .flush
  | .enableInterrupt .. | .clearInterrupt _ => true
  | .source _ | .raise .. | .access .. | .setAperture _ | .failFlushes _ | .window _
  | .takeLog => false

/-- What writes decide, and nothing else does. -/
structure Registers where
  version : Version
  table : Option (Nat × Nat)
  windows : OrderedMap EngineWindow
  interrupts : PerKind Bool
  flushes : UInt64

def registers (e : Engine) : Registers where
  version := e.version
  table := e.table
  windows := e.windows
  interrupts := e.interrupts
  flushes := e.flushes

@[simp] theorem windows_log (e : Engine) (event : Event) : (e.log event).windows = e.windows := rfl

@[simp] theorem version_log (e : Engine) (event : Event) : (e.log event).version = e.version := rfl

/-- A flush is counted, and takes one of the failures that wait. It changes nothing else. -/
theorem finishFlush_eq (e : Engine) : e.finishFlush =
    (if e.failingFlushes = 0 then .ok () else .error .flushTimeout,
      { e with failingFlushes := e.failingFlushes - 1, flushes := e.flushes + 1 }) := by
  unfold finishFlush
  dsimp only
  split
  · rename_i granted
    rw [granted]
    rfl
  · rename_i failures waiting
    rw [waiting]
    rfl

@[simp] theorem windows_finishFlush (e : Engine) : e.finishFlush.2.windows = e.windows := by
  rw [finishFlush_eq]

@[simp] theorem version_finishFlush (e : Engine) : e.finishFlush.2.version = e.version := by
  rw [finishFlush_eq]

@[simp] theorem windows_flush (e : Engine) : e.flush.2.windows = e.windows := by
  simp [flush]

@[simp] theorem version_flush (e : Engine) : e.flush.2.version = e.version := by
  simp [flush]

@[simp] theorem windows_enableInterrupt (e : Engine) (kind : FaultKind) (on : Bool) :
    (e.enableInterrupt kind on).windows = e.windows := rfl

@[simp] theorem version_enableInterrupt (e : Engine) (kind : FaultKind) (on : Bool) :
    (e.enableInterrupt kind on).version = e.version := rfl

@[simp] theorem version_setWindow (e : Engine) (slot : Nat) (region : Region) :
    (e.setWindow slot region).version = e.version := rfl

@[simp] theorem version_disableWindow (e : Engine) (slot : Nat) :
    (e.disableWindow slot).2.version = e.version := by
  simp [disableWindow]

theorem find?_setWindow (e : Engine) (slot : Nat) (region : Region) (other : Nat) :
    (e.setWindow slot region).windows.find? other =
      if other = slot then some ⟨region, (e.windows.find? slot).any (·.enabled)⟩
      else e.windows.find? other :=
  OrderedMap.find?_insert ..

theorem find?_enableWindow (programmed : e.windows.find? slot = some ⟨region, on⟩) (other : Nat) :
    (e.enableWindow slot).windows.find? other =
      if other = slot then some ⟨region, true⟩ else e.windows.find? other := by
  simp [enableWindow, OrderedMap.find?_modify, programmed]

theorem find?_openWindow (e : Engine) (slot : Nat) (region : Region) (other : Nat) :
    ((e.setWindow slot region).enableWindow slot).windows.find? other =
      if other = slot then some ⟨region, true⟩ else e.windows.find? other := by
  have programmed := find?_setWindow e slot region slot
  rw [if_pos rfl] at programmed
  rw [find?_enableWindow programmed, find?_setWindow]
  split <;> rfl

theorem find?_disableWindow (programmed : e.windows.find? slot = some ⟨region, on⟩)
    (other : Nat) :
    (e.disableWindow slot).2.windows.find? other =
      if other = slot then some ⟨region, false⟩ else e.windows.find? other := by
  simp [disableWindow, OrderedMap.find?_modify, programmed]

theorem mem_enabledWindows :
    (slot, region) ∈ e.enabledWindows ↔ e.windows.find? slot = some ⟨region, true⟩ := by
  rw [OrderedMap.find?_eq_some_iff]
  unfold enabledWindows
  rw [List.mem_filterMap]
  constructor
  · intro given
    obtain ⟨⟨slot', region', on⟩, member, shown⟩ := given
    cases on with
    | false => simp at shown
    | true =>
      simp only [↓reduceIte, Option.some.injEq, Prod.mk.injEq] at shown
      obtain ⟨rfl, rfl⟩ := shown
      exact member
  · exact fun member => ⟨_, member, by simp⟩

theorem access_latches (e : Engine) (address : Nat) (write : Bool) :
    ∃ latched, (e.access address write).2 = { e with latched } := by
  unfold access
  split
  · split <;> exact ⟨_, rfl⟩
  · exact ⟨_, rfl⟩

theorem registers_step (e : Engine) {command : Command} (reads : command.writes = false) :
    (e.step command).2.registers = e.registers := by
  cases command with
  | setTable | setWindow | enableWindow | disableWindow | flush | enableInterrupt
  | clearInterrupt => cases reads
  | access address write =>
    obtain ⟨latched, same⟩ := e.access_latches address write
    simp only [step, same]
    rfl
  | source | raise | setAperture | failFlushes | window | takeLog => rfl

theorem step_windows (e : Engine) {command : Command} (reads : command.writes = false) :
    (e.step command).2.windows = e.windows :=
  congrArg Registers.windows (e.registers_step reads)

@[simp] theorem version_step (e : Engine) (command : Command) :
    (e.step command).2.version = e.version := by
  cases command with
  | disableWindow slot => exact version_disableWindow e slot
  | flush => exact version_flush e
  | access address write =>
    obtain ⟨latched, same⟩ := e.access_latches address write
    simp only [step, same]
  | setTable | setWindow | enableWindow | enableInterrupt | clearInterrupt | source | raise
  | setAperture | failFlushes | window | takeLog => rfl

theorem translate?_eq_some {address : Nat} (found : e.translate? address = some slot) :
    ∃ region : Region, (slot, region) ∈ e.enabledWindows ∧ region.Contains address := by
  obtain ⟨⟨slot', region, on⟩, hit, rfl⟩ := Option.map_eq_some_iff.mp found
  have shown := List.find?_some hit
  simp only [decide_eq_true_eq] at shown
  obtain ⟨rfl, inside⟩ := shown
  refine ⟨region, mem_enabledWindows.mpr ?_, inside⟩
  exact OrderedMap.find?_eq_some_iff.mpr (List.mem_of_find?_eq_some hit)

theorem translate?_eq_none {address : Nat} (missed : e.translate? address = none)
    (enabled : (slot, region) ∈ e.enabledWindows) : ¬ region.Contains address := by
  intro inside
  have member := OrderedMap.find?_eq_some_iff.mp (mem_enabledWindows.mp enabled)
  have skipped := List.find?_eq_none.mp (Option.map_eq_none_iff.mp missed) _ member
  simp [inside] at skipped

/-- What becomes of an access while there is an aperture. -/
theorem access_eq {aperture : Region} (set : e.aperture = some aperture) (address : Nat)
    (write : Bool) :
    (e.access address write).1 =
      if aperture.Contains address then
        match e.translate? address with
        | some slot => .translated slot
        | none => .fault (if write then .write else .read)
      else .passthrough := by
  unfold access
  simp only [set, Option.all_some, decide_eq_true_eq]
  split
  · cases e.translate? address <;> rfl
  · rfl

end TiledSurface.Engine
