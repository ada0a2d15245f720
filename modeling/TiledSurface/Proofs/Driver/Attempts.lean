import TiledSurface.Driver.Configure
import TiledSurface.Proofs.Surface.Parts

/-!
An attempt to configure a surface takes its steps one after the other and may end at each of
them. The ends are listed here once, with the pool and the buffers that each leaves behind, and
with what the surface holds by then.
-/

namespace TiledSurface

def SlotTable.giveBack (t : SlotTable) : Option Slot → SlotTable
  | some slot => t.release slot
  | none => t

def WindowPool.giveBack (pool : WindowPool) : Option Region → WindowPool
  | some window => (pool.release window.base window.size).2
  | none => pool

def Buffers.unmapWindow (b : Buffers) (handle : Handle) : Option Region → Buffers
  | some _ => (b.map handle .linear).2
  | none => b

def Buffers.giveBack (b : Buffers) (handle : Handle) (held : Holdings) : Buffers :=
  match held.mapping with
  | some _ => (b.unmapWindow handle held.window).detach handle
  | none => b.unmapWindow handle held.window

theorem Driver.release_eq (d : Driver) (handle : Handle) (held : Holdings) :
    d.release handle held =
      { d with
        slots := d.slots.giveBack held.slot
        pool := d.pool.giveBack held.window
        buffers := d.buffers.giveBack handle held } := by
  obtain ⟨slot, window, mapping⟩ := held
  cases slot <;> cases window <;> cases mapping <;> rfl

/-- A new reservation, in exchange for the old one if there is one. -/
def WindowPool.trade (pool : WindowPool) (old : Option Region) (size : Nat) :
    Except Error Nat × WindowPool :=
  match old with
  | some window => pool.resize window.base window.size size
  | none => pool.reserve size

/-- The mapping that is held already, or a new attachment. -/
def Buffers.ensureAttached (b : Buffers) (handle : Handle) :
    Option DeviceMapping → Except PlatformError DeviceMapping × Buffers
  | some mapping => (.ok mapping, b)
  | none => b.attach handle

namespace Driver.Attempt

def held : Attempt → Holdings
  | .refused _ held | .linear held => held
  | .tiled layout => ⟨layout.binding.slot?, some layout.window, some layout.mapping⟩

/-- What it holds in vain and has to give back. -/
def spare : Attempt → Holdings
  | .refused _ held | .linear held => held
  | .tiled _ => {}

def result : Attempt → Except Error Unit
  | .refused error _ => .error error
  | .linear _ | .tiled _ => .ok ()

def setup (a : Attributes) : Attempt → Setup
  | .refused _ _ => .unconfigured
  | .linear _ => .linear a
  | .tiled layout => .tiled layout

end Driver.Attempt

namespace Driver

theorem reserveWindow_eq (d : Driver) (old : Option Region) (size : Nat) :
    d.reserveWindow old size =
      ((d.pool.trade old size).1, { d with pool := (d.pool.trade old size).2 }) := by
  cases old <;> rfl

theorem attach_eq (d : Driver) (handle : Handle) (held : Option DeviceMapping) :
    d.attach handle held =
      ((d.buffers.ensureAttached handle held).1,
        { d with buffers := (d.buffers.ensureAttached handle held).2 }) := by
  cases held <;> rfl

/-- The ways in which an attempt can end, with the pool and the buffers that it leaves behind. -/
inductive Attempted (d : Driver) (handle : Handle) (held : Holdings) (a : Attributes) :
    Attempt → WindowPool → Buffers → Prop where
  | unmapped {cause buffers} (own : d.buffers.map handle .linear = (.error cause, buffers)) :
      Attempted d handle held a (.refused (.failed (.mapLinear cause)) held) d.pool buffers
  | invalid {buffers fault} (own : d.buffers.map handle .linear = (.ok (), buffers))
      (plan : a.plan? = .error fault) :
      Attempted d handle held a (.refused (.invalidAttributes fault) held) d.pool buffers
  | linear {buffers} (own : d.buffers.map handle .linear = (.ok (), buffers))
      (plan : a.plan? = .ok none) :
      Attempted d handle held a (.linear held) d.pool buffers
  | full {buffers plan error pool} (own : d.buffers.map handle .linear = (.ok (), buffers))
      (planned : a.plan? = .ok (some plan))
      (refused : d.pool.trade held.window plan.footprint.windowSize = (.error error, pool)) :
      Attempted d handle held a (.refused error { held with window := none }) pool buffers
  | unreachable {buffers plan base pool cause buffers'}
      (own : d.buffers.map handle .linear = (.ok (), buffers))
      (planned : a.plan? = .ok (some plan))
      (reserved : d.pool.trade held.window plan.footprint.windowSize = (.ok base, pool))
      (refused : buffers.map handle (.window ⟨base, plan.footprint.windowSize⟩) =
        (.error cause, buffers')) :
      Attempted d handle held a
        (.refused (.failed (.mapWindow cause))
          { held with window := some ⟨base, plan.footprint.windowSize⟩ })
        pool buffers'
  | unattached {buffers plan base pool buffers' cause buffers''}
      (own : d.buffers.map handle .linear = (.ok (), buffers))
      (planned : a.plan? = .ok (some plan))
      (reserved : d.pool.trade held.window plan.footprint.windowSize = (.ok base, pool))
      (mapped : buffers.map handle (.window ⟨base, plan.footprint.windowSize⟩) =
        (.ok (), buffers'))
      (refused : buffers'.ensureAttached handle held.mapping = (.error cause, buffers'')) :
      Attempted d handle held a
        (.refused (.failed (.attach cause))
          { held with window := some ⟨base, plan.footprint.windowSize⟩ })
        pool buffers''
  | indescribable {buffers plan base pool buffers' mapping buffers'' error}
      (own : d.buffers.map handle .linear = (.ok (), buffers))
      (planned : a.plan? = .ok (some plan))
      (reserved : d.pool.trade held.window plan.footprint.windowSize = (.ok base, pool))
      (mapped : buffers.map handle (.window ⟨base, plan.footprint.windowSize⟩) =
        (.ok (), buffers'))
      (attached : buffers'.ensureAttached handle held.mapping = (.ok mapping, buffers''))
      (refused : plan.describe a d.lengthUnit ⟨base, plan.footprint.windowSize⟩ mapping =
        .error error) :
      Attempted d handle held a
        (.refused error ⟨held.slot, some ⟨base, plan.footprint.windowSize⟩, some mapping⟩)
        pool buffers''
  | tiled {buffers plan base pool buffers' mapping buffers'' descriptor}
      (own : d.buffers.map handle .linear = (.ok (), buffers))
      (planned : a.plan? = .ok (some plan))
      (reserved : d.pool.trade held.window plan.footprint.windowSize = (.ok base, pool))
      (mapped : buffers.map handle (.window ⟨base, plan.footprint.windowSize⟩) =
        (.ok (), buffers'))
      (attached : buffers'.ensureAttached handle held.mapping = (.ok mapping, buffers''))
      (described : plan.describe a d.lengthUnit ⟨base, plan.footprint.windowSize⟩ mapping =
        .ok descriptor) :
      Attempted d handle held a
        (.tiled ⟨a, plan.format, plan.footprint, descriptor,
          ⟨base, plan.footprint.windowSize⟩, mapping, staleBinding held.slot⟩)
        pool buffers''

theorem attempt_ends (d : Driver) (handle : Handle) (held : Holdings) (a : Attributes) :
    ∃ attempt pool buffers, d.attempt handle held a = (attempt, { d with pool, buffers }) ∧
      d.Attempted handle held a attempt pool buffers := by
  unfold attempt
  rcases own : d.buffers.map handle .linear with ⟨_ | _, buffers⟩
  · exact ⟨_, _, _, rfl, .unmapped own⟩
  dsimp only
  rcases planned : a.plan? with fault | _ | plan
  · exact ⟨_, _, _, rfl, .invalid own planned⟩
  · exact ⟨_, _, _, rfl, .linear own planned⟩
  dsimp only
  unfold acquire
  rw [reserveWindow_eq]
  rcases reserved : d.pool.trade held.window plan.footprint.windowSize with ⟨_ | base, pool⟩
  · exact ⟨_, _, _, rfl, .full own planned reserved⟩
  dsimp only
  rcases mapped : buffers.map handle (.window ⟨base, plan.footprint.windowSize⟩) with
    ⟨_ | _, buffers'⟩
  · exact ⟨_, _, _, rfl, .unreachable own planned reserved mapped⟩
  dsimp only
  rw [attach_eq]
  rcases attached : buffers'.ensureAttached handle held.mapping with ⟨_ | mapping, buffers''⟩
  · exact ⟨_, _, _, rfl, .unattached own planned reserved mapped attached⟩
  dsimp only [lengthUnit]
  rcases described : plan.describe a d.lengthUnit ⟨base, plan.footprint.windowSize⟩ mapping with
    error | descriptor
  · simp only [lengthUnit] at described
    rw [described]
    exact ⟨_, _, _, rfl, .indescribable own planned reserved mapped attached described⟩
  · simp only [lengthUnit] at described
    rw [described]
    exact ⟨_, _, _, rfl, .tiled own planned reserved mapped attached described⟩

section

variable {d : Driver} {handle : Handle} {held : Holdings} {a : Attributes} {attempt : Attempt}
  {pool : WindowPool} {buffers : Buffers}

/-- What an attempt meets decides how it ends. -/
theorem Attempted.attempt_eq (attempted : d.Attempted handle held a attempt pool buffers) :
    d.attempt handle held a = (attempt, { d with pool, buffers }) := by
  unfold Driver.attempt acquire
  cases attempted with
  | unmapped own => rw [own]
  | invalid own plan => simp only [own, plan]
  | linear own plan => simp only [own, plan]
  | full own planned refused => simp only [own, planned, reserveWindow_eq, refused]
  | unreachable own planned reserved refused =>
    simp only [own, planned, reserveWindow_eq, reserved, refused]
  | unattached own planned reserved mapped refused =>
    simp only [own, planned, reserveWindow_eq, reserved, mapped, attach_eq, refused]
  | indescribable own planned reserved mapped attached refused =>
    simp only [lengthUnit] at refused
    simp only [own, planned, reserveWindow_eq, reserved, mapped, attach_eq, attached, lengthUnit,
      refused]
  | tiled own planned reserved mapped attached described =>
    simp only [lengthUnit] at described
    simp only [own, planned, reserveWindow_eq, reserved, mapped, attach_eq, attached, lengthUnit,
      described]

theorem Attempted.slot (attempted : d.Attempted handle held a attempt pool buffers) :
    attempt.held.slot = held.slot := by
  cases attempted with
  | tiled =>
    simp only [Attempt.held]
    cases held.slot <;> rfl
  | unmapped | invalid | linear | full | unreachable | unattached | indescribable => rfl

theorem Attempted.programmed? {layout : Tiled}
    (attempted : d.Attempted handle held a (.tiled layout) pool buffers) :
    layout.binding.programmed? = none := by
  cases attempted
  dsimp only
  cases held.slot <;> rfl

theorem Attempted.buffers_eq (attempted : d.Attempted handle held a attempt pool buffers) :
    buffers = (d.buffers.map handle .linear).2 ∨
      ∃ cpu, buffers = ((d.buffers.map handle .linear).2.map handle cpu).2 ∨
        buffers = (((d.buffers.map handle .linear).2.map handle cpu).2.ensureAttached handle
          held.mapping).2 := by
  cases attempted with
  | unmapped own | invalid own | linear own | full own => exact .inl (by rw [own])
  | unreachable own _ _ refused => exact .inr ⟨_, .inl (by rw [own, refused])⟩
  | unattached own _ _ mapped ended | indescribable own _ _ mapped ended
  | tiled own _ _ mapped ended => exact .inr ⟨_, .inr (by rw [own, mapped, ended])⟩

end

theorem settle_eq (d : Driver) (handle : Handle) (surface : Surface) (a : Attributes)
    (attempt : Attempt) :
    ∃ stats, d.settle handle surface a attempt =
      (attempt.result, { d with
        slots := d.slots.giveBack attempt.spare.slot
        pool := d.pool.giveBack attempt.spare.window
        buffers := d.buffers.giveBack handle attempt.spare
        surfaces := d.surfaces.insert handle ⟨attempt.setup a, surface.permanent⟩
        stats }) := by
  cases attempt with
  | refused error held => exact ⟨_, by rw [settle, release_eq]; rfl⟩
  | linear held => exact ⟨_, by rw [settle, release_eq]; rfl⟩
  | tiled layout => exact ⟨_, rfl⟩

end Driver

end TiledSurface
