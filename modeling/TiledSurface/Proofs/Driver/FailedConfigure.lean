import TiledSurface.Proofs.Driver.Attachments
import TiledSurface.Proofs.Driver.Reservations
import TiledSurface.Proofs.Driver.Shapes

namespace TiledSurface.Driver

variable {d d' : Driver} {handle : Handle}

def Unset (d : Driver) (handle : Handle) : Prop :=
  ∀ surface, d.surfaces.find? handle = some surface → surface.setup = .unconfigured

def NeverSet (handle : Handle) : Policy
  | d, .configure other a => other = handle → (d.configure handle a).1 ≠ .ok ()
  | _, _ => True

theorem Unset.congr (unset : d.Unset handle)
    (same : d'.surfaces.find? handle = d.surfaces.find? handle) : d'.Unset handle := by
  intro surface found
  exact unset surface (same.symm.trans found)

theorem Unset.insert {surfaces : OrderedMap Surface} (permanent : Bool)
    (same : d'.surfaces = surfaces.insert handle ⟨.unconfigured, permanent⟩) :
    d'.Unset handle := by
  intro surface found
  rw [same, OrderedMap.find?_insert_self] at found
  cases found
  rfl

theorem Unset.touch (unset : d.Unset handle) {other : Handle} (touch : d.Touch other d') :
    d'.Unset handle := by
  by_cases same : handle = other
  · subst same
    cases touch with
    | idle => exact unset
    | tracked => exact .insert false rfl
    | @flagged surface on found => exact .insert on (by rw [unset surface found])
    | rebound found => cases unset _ found
  · exact unset.congr (touch.others same)

theorem Unset.configured {a : Attributes} {result : Except Error Unit}
    (configured : d.Configured handle a result d') (failed : result ≠ .ok ())
    (unset : d.Unset handle) : d'.Unset handle := by
  cases configured with
  | unknown | busy => exact unset
  | @settled surface attempt pool buffers stats =>
    cases attempt with
    | refused error held => exact .insert surface.permanent rfl
    | linear | tiled => exact absurd rfl failed

theorem Unset.step (unset : d.Unset handle) {command : Command}
    (never : NeverSet handle d command) :
    (d.step command).2.Unset handle := by
  cases command with
  | platform other => exact unset
  | configure other a =>
    have configured := d.configure_ends other a
    by_cases same : handle = other
    · subst same
      exact unset.configured configured (never rfl)
    · exact unset.congr (configured.others same)
  | untrack other =>
    by_cases same : handle = other
    · subst same
      rcases (d.untrack_ends handle).gone with gone | ⟨_, _, _, same⟩
      · intro surface found
        cases gone.symm.trans found
      · exact unset.congr (congrArg (·.surfaces.find? handle) same)
    · exact unset.congr ((d.untrack_ends other).others same)
  | track other => exact unset.touch (d.track_touch other)
  | lock other direction => exact unset.touch (d.lock_touch other direction)
  | unlock other direction => exact unset.touch (d.unlock_touch other direction)
  | setPermanent other on => exact unset.touch (d.setPermanent_touch other on)
  | interrupt line => exact unset.touch (d.interrupt_touch line handle)
  | attributes | takeReports => exact unset

theorem Unset.run (unset : d.Unset handle) {commands : List Command}
    (never : Along (NeverSet handle) d commands) : (d.run commands).Unset handle :=
  never.keeps (Unset · handle) unset fun _ _ never unset => unset.step never

theorem Unset.lock (unset : d.Unset handle) (direction : Direction) :
    ∃ fault, (d.lock handle direction).1 = .error (.invalid fault) := by
  unfold Driver.lock
  cases found : d.surfaces.find? handle with
  | none => exact ⟨_, rfl⟩
  | some surface =>
    have bare := unset surface found
    simp only [bare]
    exact ⟨_, rfl⟩

/-- A request that fails for another reason than that there is no surface, or that it is locked,
has tried to configure the surface. -/
theorem Configured.refused {a : Attributes} {error : Error}
    (configured : d.Configured handle a (.error error) d') (free : error ≠ .busy)
    (known : error ≠ .invalid .unknownBuffer) :
    ∃ surface held pool buffers stats, d.surfaces.find? handle = some surface ∧
      surface.session? = none ∧
      d.Attempted handle surface.holdings a (.refused error held) pool buffers ∧
      d' = { d with
        slots := d.slots.giveBack held.slot
        pool := pool.giveBack held.window
        buffers := buffers.giveBack handle held
        surfaces := d.surfaces.insert handle ⟨.unconfigured, surface.permanent⟩
        stats } := by
  generalize told : (Except.error error : Except Error Unit) = result at configured
  cases configured with
  | unknown missing =>
    cases told
    exact absurd rfl known
  | busy found locked =>
    cases told
    exact absurd rfl free
  | @settled surface attempt pool buffers stats found unlocked tried attempted =>
    cases attempt with
    | refused error' held =>
      cases told
      exact ⟨surface, held, pool, buffers, stats, found, unlocked, attempted, rfl⟩
    | linear | tiled => cases told

/-- The surface that the driver had for a handle is without a configuration afterwards, and
everything that belonged to the configuration is gone. -/
structure Reset (d : Driver) (handle : Handle) (surface : Surface) (d' : Driver) : Prop where
  unconfigured : ∃ surface', d'.surfaces.find? handle = some surface' ∧ surface'.IsUnconfigured ∧
    surface'.permanent = surface.permanent
  reservations : ∀ r, r ∈ d'.pool.reservations ↔
    r ∈ d.pool.reservations ∧ surface.window? ≠ some r
  /-- The slot is free and reads as zero. -/
  slot : ∀ slot, surface.slot? = some slot →
    d'.slots.isHeld slot = false ∧ d'.slots.read? slot = some .zero
  detached : ∀ buffer, d'.buffers.records.find? handle = some buffer → buffer.attached = false
  engine : d'.engine = d.engine
  cache : d'.cache = d.cache
  others : ∀ other, other ≠ handle → d'.surfaces.find? other = d.surfaces.find? other
  /-- There is no way to lock the surface before it has been configured. -/
  unlockable : ∀ later, Along (NeverSet handle) d' later → ∀ direction,
    ∃ fault, ((d'.run later).lock handle direction).1 = .error (.invalid fault)

theorem reset_of_refused (pool : d.PoolKept) (attachments : d.AttachmentsKept) {a : Attributes}
    {error : Error} (refused : (d.configure handle a).1 = .error error) (free : error ≠ .busy)
    (known : error ≠ .invalid .unknownBuffer) :
    ∃ surface, d.surfaces.find? handle = some surface ∧
      d.Reset handle surface (d.configure handle a).2 := by
  have configured := d.configure_ends handle a
  have settled := attachments.move configured.move
  rw [refused] at configured
  obtain ⟨surface, held, pool', buffers, stats, found, unlocked, attempted, ended⟩ :=
    configured.refused free known
  obtain ⟨_, traded⟩ := pool.settled found attempted
  rw [ended] at settled ⊢
  refine ⟨surface, found, ?_, ?_, ?_, ?_, rfl, rfl, ?_, ?_⟩
  · refine ⟨⟨.unconfigured, surface.permanent⟩, ?_, ⟨rfl, rfl, rfl, rfl, rfl, rfl, rfl⟩, rfl⟩
    simp [OrderedMap.find?_insert]
  · intro r
    rw [WindowPool.mem_reservations, WindowPool.mem_reservations]
    refine (traded.taken_iff r).trans (or_iff_left fun arrives => ?_)
    cases arrives
  · intro slot mine
    have same : held.slot = some slot := attempted.slot.trans mine
    rw [same]
    exact ⟨by simp [SlotTable.giveBack, SlotTable.isHeld_release],
      by simp [SlotTable.giveBack, SlotTable.read?_release]⟩
  · intro buffer registered
    have unseen := congrFun settled handle
    rw [owned_insert_self] at unseen
    simpa [Buffers.attached?, registered, Surface.mapping?, Surface.tiled?] using unseen
  · intro other different
    simp [OrderedMap.find?_insert, different]
  · intro later never direction
    exact (Unset.run (.insert surface.permanent rfl) never).lock direction

/-- Along every run in which only the driver attaches buffers, a request to configure a surface
that fails takes everything back from the surface, whatever the surface had and wherever the
attempt stopped, unless it failed because the surface is locked or does not exist. -/
theorem failed_configure_resets {config : Config} {platform : Platform}
    (up : bringUp config platform = .ok d) (unused : platform.buffers.Unused)
    {commands : List Command} (alone : Along AttachesAlone d commands) {a : Attributes}
    {error : Error} (refused : ((d.run commands).configure handle a).1 = .error error)
    (free : error ≠ .busy) (known : error ≠ .invalid .unknownBuffer) :
    ∃ surface, (d.run commands).surfaces.find? handle = some surface ∧
      (d.run commands).Reset handle surface ((d.run commands).configure handle a).2 :=
  reset_of_refused ((PoolKept.start up).run commands)
    ((AttachmentsKept.start up unused).along alone) refused free known

/-- A surface that keeps its slot is set up, locked and unlocked. The next two requests to map
buffers are going to be rejected. -/
def keptRun : List Command :=
  [.platform (.register 1 16384), .track 1, .setPermanent 1 true, .configure 1 smallAttributes,
    .lock 1 .read, .unlock 1 .read, .platform (.failMaps 2)]

/-- After this run the attempt to configure the surface again is rejected, and so is the request
to end its view. All the same, the first slot and the first page of the pool are free then. -/
theorem failed_configure_resets_keptRun :
    ∃ d d', bringUp {} { engine := { version := ⟨1, 1⟩ } } = .ok d ∧
      (d.run keptRun).configure 1 smallAttributes =
        (.error (.failed (.mapLinear (.rejected .mapping))), d') ∧
      (d.run keptRun).slots.isHeld 0 = true ∧ d'.slots.isHeld 0 = false ∧
      ⟨0x100000000, pageSize⟩ ∈ (d.run keptRun).pool.reservations ∧
      ⟨0x100000000, pageSize⟩ ∉ d'.pool.reservations ∧
      ∀ direction, ∃ fault, (d'.lock 1 direction).1 = .error (.invalid fault) := by
  have computed : (bringUp {} { engine := { version := ⟨1, 1⟩ } }).toOption.any (fun d =>
      ((d.run keptRun).surfaces.find? 1).any (fun surface =>
        surface.slot? = some ⟨0, by decide⟩ ∧
          surface.window? = some ⟨0x100000000, pageSize⟩ ∧
          (d.run keptRun).slots.isHeld 0 = true ∧
          ⟨0x100000000, pageSize⟩ ∈ (d.run keptRun).pool.reservations ∧
          ((d.run keptRun).configure 1 smallAttributes).1 =
            .error (.failed (.mapLinear (.rejected .mapping))))) = true := by
    decide +kernel
  obtain ⟨d, up, ran⟩ := exists_up computed
  obtain ⟨surface, found, shows⟩ := (Option.any_eq_true _ _).mp ran
  obtain ⟨slot, window, held, live, refused⟩ := of_decide_eq_true shows
  have alone : Along AttachesAlone d keptRun :=
    ⟨owned_bringUp up _ 1, trivial, trivial, trivial, trivial, trivial, trivial, trivial⟩
  obtain ⟨surface', found', reset⟩ :=
    failed_configure_resets up .empty alone refused (by decide) (by decide)
  cases found.symm.trans found'
  generalize ended : (d.run keptRun).configure 1 smallAttributes = after at refused reset
  obtain ⟨result, d'⟩ := after
  cases refused
  refine ⟨d, d', up, ended, held, (reset.slot _ slot).1, live, fun still => ?_,
    reset.unlockable [] trivial⟩
  exact ((reset.reservations _).mp still).2 window

end TiledSurface.Driver
