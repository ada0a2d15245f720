import TiledSurface.Proofs.Driver.Runs
import TiledSurface.Proofs.Platform.Buffers

namespace TiledSurface

/-- What the processor should see of a buffer whose surface has the window. -/
def CpuMapping.over : Option Region → CpuMapping
  | some region => .window region
  | none => .linear

namespace Buffers

variable {b b' : Buffers} {handle other : Handle} {window : Option Region} {held : Holdings}
  {cpu : CpuMapping}

def Shows (b : Buffers) (handle : Handle) (window : Option Region) : Prop :=
  ∀ cpu, b.cpu? handle = some cpu → cpu = .over window

theorem Shows.congr (shows : b.Shows handle window) (same : b'.cpu? = b.cpu?) :
    b'.Shows handle window := by
  unfold Shows
  rw [same]
  exact shows

/-- A request that succeeds shows what was asked for; one that fails without being rejected was
for an unknown buffer, of which nothing is to be seen. -/
theorem shows_map (b : Buffers) (handle : Handle) (window : Option Region)
    (granted : b.failingMaps ≤ (b.map handle (.over window)).2.failingMaps) :
    (b.map handle (.over window)).2.Shows handle window := by
  rcases ended : b.map handle (.over window) with ⟨cause | _, b'⟩
  · rw [ended] at granted
    obtain ⟨same, unknown⟩ := cpu?_map_error ended
    intro cpu seen
    dsimp only at seen
    rw [same, unknown granted] at seen
    cases seen
  · intro cpu seen
    dsimp only at seen
    rw [cpu?_map_ok ended, Function.update_self] at seen
    exact (Option.some.inj seen).symm

theorem cpu?_map_other (b : Buffers) (cpu : CpuMapping) (different : other ≠ handle) :
    (b.map handle cpu).2.cpu? other = b.cpu? other := by
  rcases ended : b.map handle cpu with ⟨cause | _, b'⟩
  · exact congrFun (cpu?_map_error ended).1 other
  · exact (congrFun (cpu?_map_ok ended) other).trans (Function.update_of_ne different ..)

theorem ensureAttached_frame (b : Buffers) (handle : Handle) (old : Option DeviceMapping) :
    (b.ensureAttached handle old).2.cpu? = b.cpu? ∧
      (b.ensureAttached handle old).2.failingMaps = b.failingMaps := by
  cases old with
  | none => exact ⟨cpu?_attach b handle, failingMaps_attach b handle⟩
  | some mapping => exact ⟨rfl, rfl⟩

theorem giveBack_frame (b : Buffers) (handle : Handle) (held : Holdings) :
    (b.giveBack handle held).cpu? = (b.unmapWindow handle held.window).cpu? ∧
      (b.giveBack handle held).failingMaps = (b.unmapWindow handle held.window).failingMaps := by
  unfold giveBack
  cases held.mapping with
  | none => exact ⟨rfl, rfl⟩
  | some mapping => exact ⟨cpu?_detach .., rfl⟩

theorem failingMaps_giveBack_le (b : Buffers) (handle : Handle) (held : Holdings) :
    (b.giveBack handle held).failingMaps ≤ b.failingMaps := by
  rw [(b.giveBack_frame handle held).2]
  cases held.window with
  | none => exact Nat.le_refl _
  | some window => exact failingMaps_map_le b handle .linear

theorem cpu?_giveBack_other (b : Buffers) (held : Holdings) (different : other ≠ handle) :
    (b.giveBack handle held).cpu? other = b.cpu? other := by
  rw [(b.giveBack_frame handle held).1]
  cases held.window with
  | none => rfl
  | some window => exact b.cpu?_map_other .linear different

theorem shows_giveBack (bare : held.window = none → b.Shows handle none)
    (granted : b.failingMaps ≤ (b.giveBack handle held).failingMaps) :
    (b.giveBack handle held).Shows handle none := by
  obtain ⟨same, failing⟩ := b.giveBack_frame handle held
  rw [failing] at granted
  refine Shows.congr ?_ same
  cases window : held.window with
  | none => exact bare window
  | some region =>
    rw [window] at granted
    exact b.shows_map handle none granted

end Buffers

namespace Driver

variable {d d' : Driver} {handle : Handle} {held : Holdings} {a : Attributes} {attempt : Attempt}
  {pool : WindowPool} {buffers : Buffers}

/-- Rejections are for good: the failures that wait never become more. -/
theorem Attempted.failingMaps_le (attempted : d.Attempted handle held a attempt pool buffers) :
    buffers.failingMaps ≤ d.buffers.failingMaps := by
  have own := d.buffers.failingMaps_map_le handle .linear
  rcases attempted.buffers_eq with rfl | ⟨cpu, rfl | rfl⟩
  · exact own
  · exact Nat.le_trans (Buffers.failingMaps_map_le ..) own
  · rw [(Buffers.ensureAttached_frame ..).2]
    exact Nat.le_trans (Buffers.failingMaps_map_le ..) own

theorem Attempted.cpu?_other (attempted : d.Attempted handle held a attempt pool buffers)
    {other : Handle} (different : other ≠ handle) :
    buffers.cpu? other = d.buffers.cpu? other := by
  have own := d.buffers.cpu?_map_other .linear different
  rcases attempted.buffers_eq with rfl | ⟨cpu, rfl | rfl⟩
  · exact own
  · exact (Buffers.cpu?_map_other _ cpu different).trans own
  · rw [(Buffers.ensureAttached_frame ..).1]
    exact (Buffers.cpu?_map_other _ cpu different).trans own

/-- If nothing is rejected and no window has to be given back, the attempt shows what the surface
has in the end. -/
theorem Attempted.shows (attempted : d.Attempted handle held a attempt pool buffers)
    (granted : d.buffers.failingMaps ≤ buffers.failingMaps) (permanent : Bool)
    (settled : attempt.spare.window = none) :
    buffers.Shows handle (Surface.mk (attempt.setup a) permanent).window? := by
  cases attempted with
  | unmapped done | invalid done | linear done | full done =>
    have shows := d.buffers.shows_map handle none (by rw [CpuMapping.over, done]; exact granted)
    rw [CpuMapping.over, done] at shows
    exact shows
  | unreachable | unattached | indescribable => cases settled
  | @tiled buffers' plan base _ buffers'' mapping _ descriptor done _ _ shown attached =>
    obtain ⟨cpu, failing⟩ := buffers''.ensureAttached_frame handle held.mapping
    rw [attached] at cpu failing
    have first := d.buffers.failingMaps_map_le handle .linear
    rw [done] at first
    have second : buffers'.failingMaps ≤ buffers''.failingMaps := by
      dsimp only at failing first
      omega
    have shows := buffers'.shows_map handle (some ⟨base, plan.footprint.windowSize⟩)
      (by rw [CpuMapping.over, shown]; exact second)
    rw [CpuMapping.over, shown] at shows
    exact shows.congr cpu

theorem failingMaps_move_le (move : d.Move d') :
    d'.buffers.failingMaps ≤ d.buffers.failingMaps := by
  cases move with
  | idle | tracked | flagged | rebound => exact Nat.le_refl _
  | settled _ _ attempted =>
    exact Nat.le_trans (Buffers.failingMaps_giveBack_le ..) attempted.failingMaps_le
  | removed => exact Buffers.failingMaps_giveBack_le ..

theorem failingMaps_step_le {command : Command}
    (never : ∀ count, command ≠ .platform (.failMaps count)) :
    (d.step command).2.buffers.failingMaps ≤ d.buffers.failingMaps := by
  rcases d.step_cases command with move | ⟨other, rfl⟩
  · exact failingMaps_move_le move
  · cases other with
    | failMaps count => exact absurd rfl (never count)
    | map handle cpu => exact Buffers.failingMaps_map_le ..
    | attach handle => exact Nat.le_of_eq (Buffers.failingMaps_attach ..)
    | engine | register | failAttaches | failOnlines | failOfflines | detach | bringOnline
    | takeOffline | maintain => exact Nat.le_refl _

theorem along_mapsGranted {commands : List Command} (none : d.buffers.failingMaps = 0)
    (never : ∀ count, .platform (.failMaps count) ∉ commands) :
    Along MapsGranted d commands := by
  induction commands generalizing d with
  | nil => trivial
  | cons command rest ih =>
    have different : ∀ count, command ≠ .platform (.failMaps count) := by
      intro count same
      exact never count (same ▸ List.mem_cons_self ..)
    have still := failingMaps_step_le (d := d) different
    rw [none, Nat.le_zero] at still
    refine ⟨.inr (by rw [none]; exact Nat.zero_le _), ih still fun count member => ?_⟩
    exact never count (List.mem_cons_of_mem _ member)

def MappingsKept (d : Driver) : Prop :=
  ∀ handle, d.buffers.Shows handle (owned d.surfaces Surface.window? handle)

namespace MappingsKept

theorem change (kept : d.MappingsKept) {handle : Handle} {window : Option Region}
    (others : ∀ other, other ≠ handle → buffers.cpu? other = d.buffers.cpu? other)
    (shows : buffers.Shows handle window) (other : Handle) :
    buffers.Shows other
      (Function.update (owned d.surfaces Surface.window?) handle window other) := by
  by_cases same : other = handle
  · subst same
    rw [Function.update_self]
    exact shows
  · rw [Function.update_of_ne same]
    unfold Buffers.Shows
    rw [others other same]
    exact kept other

theorem move (kept : d.MappingsKept) (move : d.Move d')
    (granted : d.buffers.failingMaps ≤ d'.buffers.failingMaps) : d'.MappingsKept := by
  intro other
  cases move with
  | idle => exact kept other
  | tracked missing =>
    dsimp only
    rw [owned_insert_bare {} missing rfl]
    exact kept other
  | @flagged handle surface on found =>
    dsimp only
    rw [owned_insert_same ⟨surface.setup, on⟩ found rfl]
    exact kept other
  | @rebound handle layout permanent permanent' binding _ _ _ _ _ found =>
    dsimp only
    rw [owned_insert_same ⟨.tiled { layout with binding }, permanent'⟩ found rfl]
    exact kept other
  | @settled handle surface a attempt pool buffers stats found unlocked attempted =>
    dsimp only at granted ⊢
    have back := buffers.failingMaps_giveBack_le handle attempt.spare
    have shows := attempted.shows (Nat.le_trans granted back) surface.permanent
    have others : ∀ other, other ≠ handle →
        (buffers.giveBack handle attempt.spare).cpu? other = d.buffers.cpu? other :=
      fun other different =>
        (buffers.cpu?_giveBack_other attempt.spare different).trans (attempted.cpu?_other different)
    rw [owned_insert]
    refine kept.change others ?_ other
    cases attempt with
    | refused _ rest | linear rest =>
      exact Buffers.shows_giveBack shows (Nat.le_trans attempted.failingMaps_le granted)
    | tiled layout => exact shows rfl
  | @removed handle surface _ _ _ _ _ found =>
    dsimp only at granted ⊢
    have bare : surface.holdings.window = none → d.buffers.Shows handle none := by
      intro bare
      have shows := kept handle
      rw [owned_of_find? _ found] at shows
      exact bare ▸ shows
    rw [owned_erase]
    refine kept.change ?_ (Buffers.shows_giveBack bare granted) other
    exact fun other different => d.buffers.cpu?_giveBack_other surface.holdings different

theorem start {config : Config} {platform : Platform} (up : bringUp config platform = .ok d)
    (unused : platform.buffers.Unused) : d.MappingsKept := by
  obtain ⟨engine, pool, faults, rfl, _⟩ := bringUp_eq_ok up
  intro handle cpu seen
  exact unused.cpu? seen

theorem step (kept : d.MappingsKept) {command : Command} (alone : BuffersAlone d command)
    (granted : MapsGranted d command) : (d.step command).2.MappingsKept := by
  rcases granted with ⟨count, rfl⟩ | granted
  · exact kept
  · rcases d.step_cases command with move | ⟨other, rfl⟩
    · exact kept.move move granted
    · cases other with
      | register handle length =>
        have bare := owned_window?_eq_none alone
        have registered := d.buffers.cpu?_register handle length
        have others : ∀ other, other ≠ handle →
            (d.buffers.register handle length).cpu? other = d.buffers.cpu? other := by
          intro other different
          rw [registered, Function.update_of_ne different]
        have fresh : (d.buffers.register handle length).Shows handle none := by
          intro cpu seen
          rw [registered, Function.update_self] at seen
          exact (Option.some.inj seen).symm
        intro other
        have shows := kept.change others fresh other
        rw [← bare, Function.update_eq_self] at shows
        exact shows
      | attach | detach | map => exact alone.elim
      | engine | failMaps | failAttaches | failOnlines | failOfflines | bringOnline | takeOffline
      | maintain => exact kept

theorem run (kept : d.MappingsKept) {commands : List Command}
    (alone : Along BuffersAlone d commands) (granted : Along MapsGranted d commands) :
    (d.run commands).MappingsKept :=
  (alone.and granted).keeps MappingsKept kept fun _ _ both kept => kept.step both.1 both.2

end MappingsKept

end Driver

end TiledSurface
