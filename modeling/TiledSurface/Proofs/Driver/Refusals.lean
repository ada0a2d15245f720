import TiledSurface.Proofs.Driver.FailedConfigure
import TiledSurface.Proofs.Driver.Hotplug
import TiledSurface.Proofs.Driver.Neighbours

namespace TiledSurface

/-- Refusals that come of the work on a surface, not of what the request meets at first. -/
def Error.isLate : Error → Bool
  | .failed _ | .invalidAttributes _ | .outOfSpace _ => true
  | .invalid .zeroSized | .invalid .notReserved => true
  | _ => false

namespace WindowPool

variable {pool : WindowPool} {size : Nat} {error : Error}

theorem late_of_wholePages (refused : wholePages size = .error error) : error.isLate = true := by
  unfold wholePages at refused
  split at refused
  · cases refused
    rfl
  · split at refused <;> cases refused
    rfl

theorem late_of_reserve (refused : (pool.reserve size).1 = .error error) :
    error.isLate = true := by
  unfold reserve at refused
  split at refused
  · rename_i ended
    cases refused
    exact late_of_wholePages ended
  · split at refused <;> cases refused
    rfl

theorem late_of_release {base : Nat} (refused : (pool.release base size).1 = .error error) :
    error.isLate = true := by
  unfold release at refused
  split at refused
  · rename_i ended
    cases refused
    exact late_of_wholePages ended
  · split at refused <;> cases refused
    rfl

theorem late_of_trade {old : Option Region} (refused : (pool.trade old size).1 = .error error) :
    error.isLate = true := by
  cases old with
  | none => exact late_of_reserve refused
  | some window =>
    simp only [trade, resize] at refused
    split at refused
    · exact late_of_reserve refused
    split at refused
    · cases refused
    split at refused
    · rename_i ended
      cases refused
      exact late_of_release (congrArg Prod.fst ended)
    · exact late_of_reserve refused

end WindowPool

theorem Plan.late_of_describe {plan : Plan} {a : Attributes} {unit : LengthUnit} {window : Region}
    {mapping : DeviceMapping} {error : Error}
    (refused : plan.describe a unit window mapping = .error error) : error.isLate = true := by
  unfold describe at refused
  dsimp only at refused
  split at refused
  · cases refused
    rfl
  split at refused
  · cases refused
    rfl
  split at refused
  · cases refused
    rfl
  split at refused <;> cases refused
  rfl

namespace Driver

/-- Why a request is refused at once. -/
inductive Refusal (d : Driver) : Command → Error → Prop where
  | duplicate {handle} (tracked : d.surfaces.find? handle ≠ none) :
      Refusal d (.track handle) (.alreadyExists handle)
  | rejected {handle} (missing : d.surfaces.find? handle = none) (offline : d.online = false)
      (waiting : 0 < d.hotplug.failingOnlines) :
      Refusal d (.track handle) (.failed (.bringOnline (.rejected .online)))
  | unknown {command handle} (request : command.target? = some handle)
      (other : command ≠ .track handle) (missing : d.surfaces.find? handle = none) :
      Refusal d command (.invalid .unknownBuffer)
  | busy {handle a surface} (found : d.surfaces.find? handle = some surface)
      (locked : surface.session? ≠ none) : Refusal d (.configure handle a) .busy
  | notSet {handle surface} (found : d.surfaces.find? handle = some surface)
      (bare : surface.attributes? = none) : Refusal d (.attributes handle) .notSet
  | unset {handle direction surface} (found : d.surfaces.find? handle = some surface)
      (bare : surface.setup = .unconfigured) :
      Refusal d (.lock handle direction) (.invalid .attributesUnset)
  | linear {handle direction surface a} (found : d.surfaces.find? handle = some surface)
      (bare : surface.setup = .linear a) :
      Refusal d (.lock handle direction) (.invalid .linearSurface)
  | overflow {handle direction surface} (found : d.surfaces.find? handle = some surface)
      (full : Session.maxCount ≤ surface.lockCount) :
      Refusal d (.lock handle direction) (.invalid .lockCountOverflow)
  | exhausted {handle direction surface} (found : d.surfaces.find? handle = some surface)
      (bare : surface.slot? = none) (taken : ∀ slot : Slot, d.slots.isHeld slot = true) :
      Refusal d (.lock handle direction) (.exhausted slotCount)
  | notLocked {handle direction surface} (found : d.surfaces.find? handle = some surface)
      (unlocked : surface.session? = none) :
      Refusal d (.unlock handle direction) (.invalid .notLocked)

variable {d d' : Driver} {handle : Handle} {error : Error}

theorem Attempted.late {held held' : Holdings} {a : Attributes} {pool : WindowPool}
    {buffers : Buffers}
    (attempted : d.Attempted handle held a (.refused error held') pool buffers) :
    error.isLate = true := by
  cases attempted with
  | unmapped | invalid | unreachable | unattached => rfl
  | full _ _ refused => exact WindowPool.late_of_trade (congrArg Prod.fst refused)
  | indescribable _ _ _ _ _ refused => exact Plan.late_of_describe refused

/-- All that a refusal changes: the service uses up a failure that waits if it rejects the
request. -/
structure Untouched (d : Driver) (error : Error) (d' : Driver) : Prop where
  same : error ≠ .failed (.bringOnline (.rejected .online)) → d' = d
  failure : error = .failed (.bringOnline (.rejected .online)) →
    d' = { d with hotplug := { d.hotplug with failingOnlines := d.hotplug.failingOnlines - 1 } }

theorem Untouched.none (d : Driver) (other : error ≠ .failed (.bringOnline (.rejected .online))) :
    d.Untouched error d :=
  ⟨fun _ => rfl, fun same => absurd same other⟩

theorem Joins.refused (joins : d.Joins handle (.error error) d') :
    d.Refusal (.track handle) error ∧ d.Untouched error d' := by
  cases joins with
  | known found => exact ⟨.duplicate (by simp [found]), .none d nofun⟩
  | rejected missing offline waiting =>
    refine ⟨.rejected missing offline (by simp [waiting]), fun other => absurd rfl other, ?_⟩
    intro _
    rw [waiting]
    rfl

theorem Configured.refused_early {a : Attributes}
    (configured : d.Configured handle a (.error error) d')
    (early : error = .busy ∨ error = .invalid .unknownBuffer) :
    d.Refusal (.configure handle a) error ∧ d.Untouched error d' := by
  generalize told : (Except.error error : Except Error Unit) = result at configured
  cases configured with
  | unknown missing =>
    cases told
    exact ⟨.unknown rfl nofun missing, .none d nofun⟩
  | busy found locked =>
    cases told
    exact ⟨.busy found locked, .none d nofun⟩
  | @settled surface attempt pool buffers stats found unlocked tried attempted =>
    cases attempt with
    | refused error' held =>
      cases told
      rcases early with rfl | rfl <;> cases attempted.late
    | linear | tiled => cases told

theorem LockEnds.refused {direction : Direction}
    (ends : d.LockEnds handle direction (.error error) d') :
    d.Refusal (.lock handle direction) error ∧ d.Untouched error d' := by
  cases ends with
  | unknown missing => exact ⟨.unknown rfl nofun missing, .none d nofun⟩
  | unset found => exact ⟨.unset found rfl, .none d nofun⟩
  | linear found => exact ⟨.linear found rfl, .none d nofun⟩
  | overflow found locked full =>
    refine ⟨.overflow found ?_, .none d nofun⟩
    rw [Surface.lockCount_locked locked]
    exact full
  | exhausted found unbound taken =>
    refine ⟨.exhausted found ?_ taken, .none d nofun⟩
    simp [Surface.slot?, Surface.tiled?, unbound, Binding.slot?]

theorem Outcome.ofResult_eq_refused {result : Except Failure Unit} :
    Outcome.ofResult result = .refused error ↔ result = .error (.refused error) := by
  rcases result with (_ | _) | _ <;> simp [Outcome.ofResult]

theorem UnlockEnds.refused {direction : Direction}
    (ends : d.UnlockEnds handle (.error (.refused error)) d') :
    d.Refusal (.unlock handle direction) error ∧ d.Untouched error d' := by
  cases ends with
  | unknown missing => exact ⟨.unknown rfl nofun missing, .none d nofun⟩
  | idle found unlocked => exact ⟨.notLocked found unlocked, .none d nofun⟩

theorem PermanentEnds.refused {on : Bool} (ends : d.PermanentEnds handle on (.error error) d') :
    d.Refusal (.setPermanent handle on) error ∧ d.Untouched error d' := by
  cases ends with
  | unknown missing => exact ⟨.unknown rfl nofun missing, .none d nofun⟩

theorem UntrackEnds.refused (ends : d.UntrackEnds handle (.error (.refused error)) d') :
    d.Refusal (.untrack handle) error ∧ d.Untouched error d' := by
  cases ends with
  | unknown missing => exact ⟨.unknown rfl nofun missing, .none d nofun⟩

theorem attributes_refused (refused : d.attributes handle = .error error) :
    d.Refusal (.attributes handle) error ∧ d.Untouched error d := by
  unfold attributes at refused
  cases found : d.surfaces.find? handle with
  | none =>
    rw [found] at refused
    cases refused
    exact ⟨.unknown rfl nofun found, .none d nofun⟩
  | some surface =>
    rw [found] at refused
    dsimp only at refused
    cases set : surface.attributes? with
    | none =>
      rw [set] at refused
      cases refused
      exact ⟨.notSet found set, .none d nofun⟩
    | some a =>
      rw [set] at refused
      cases refused

/-- In whatever state the driver is, a request that it refuses for what it meets at first changes
nothing at all, neither in the driver nor on the platform, but that a rejection of the hot-plug
service uses up a failure. The causes of such refusals are the ones listed. Only a request to
configure a surface can be refused later, too. -/
theorem refusals_atomic (d : Driver) {command : Command}
    (refused : (d.step command).1 = .refused error)
    (early : ∀ handle a, command = .configure handle a →
      error = .busy ∨ error = .invalid .unknownBuffer) :
    d.Refusal command error ∧ d.Untouched error (d.step command).2 := by
  cases command with
  | track handle =>
    have joins := d.track_joins handle
    have told : (d.track handle).1 = .error error := Outcome.ofUnit_eq_refused.mp refused
    rw [told] at joins
    exact joins.refused
  | configure handle a =>
    have configured := d.configure_ends handle a
    have told : (d.configure handle a).1 = .error error := Outcome.ofUnit_eq_refused.mp refused
    rw [told] at configured
    exact configured.refused_early (early handle a rfl)
  | lock handle direction =>
    have ends := d.lock_ends handle direction
    have told : (d.lock handle direction).1 = .error error := Outcome.ofUnit_eq_refused.mp refused
    rw [told] at ends
    exact ends.refused
  | unlock handle direction =>
    have ends := d.unlock_ends handle direction
    have told : (d.unlock handle direction).1 = .error (.refused error) :=
      Outcome.ofResult_eq_refused.mp refused
    rw [told] at ends
    exact ends.refused
  | setPermanent handle on =>
    have ends := d.setPermanent_ends handle on
    have told : (d.setPermanent handle on).1 = .error error := Outcome.ofUnit_eq_refused.mp refused
    rw [told] at ends
    exact ends.refused
  | untrack handle =>
    have ends := d.untrack_ends handle
    have told : (d.untrack handle).1 = .error (.refused error) :=
      Outcome.ofResult_eq_refused.mp refused
    rw [told] at ends
    exact ends.refused
  | attributes handle =>
    apply attributes_refused
    change Outcome.ofAttributes (d.attributes handle) = _ at refused
    cases given : d.attributes handle with
    | error error' =>
      rw [given] at refused
      cases refused
      rfl
    | ok a =>
      rw [given] at refused
      cases refused
  | platform | interrupt | takeReports => cases refused

/-- After its session the surface keeps the slot. One more unlock is refused and changes nothing. -/
theorem refusals_atomic_keptRun :
    ∃ d, bringUp {} { engine := { version := ⟨1, 1⟩ } } = .ok d ∧
      (d.run keptRun).slots.isHeld 0 = true ∧
      ((d.run keptRun).step (.unlock 1 .read)).1 = .refused (.invalid .notLocked) ∧
      ((d.run keptRun).step (.unlock 1 .read)).2 = d.run keptRun := by
  have computed : (bringUp {} { engine := { version := ⟨1, 1⟩ } }).toOption.any (fun d =>
      (d.run keptRun).slots.isHeld 0 = true ∧
        ((d.run keptRun).unlock 1 .read).1 = .error (.refused (.invalid .notLocked))) = true := by
    decide +kernel
  obtain ⟨d, up, ran⟩ := exists_up computed
  obtain ⟨held, told⟩ := of_decide_eq_true ran
  refine ⟨d, up, held, ?_⟩
  generalize d.run keptRun = kept at told
  have refused : (kept.step (.unlock 1 .read)).1 = .refused (.invalid .notLocked) :=
    Outcome.ofResult_eq_refused.mpr told
  obtain ⟨_, untouched⟩ := refusals_atomic kept refused nofun
  exact ⟨refused, untouched.same nofun⟩

end Driver

end TiledSurface
