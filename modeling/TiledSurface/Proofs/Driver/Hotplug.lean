import TiledSurface.Proofs.Driver.Runs
import TiledSurface.Proofs.Platform.Hotplug

namespace TiledSurface.Driver

variable {d : Driver} {handle : Handle}

/-- The ways in which a request to track a buffer can end, with what the service does. -/
inductive Joins (d : Driver) (handle : Handle) : Except Error Unit → Driver → Prop where
  | known {surface} (found : d.surfaces.find? handle = some surface) :
      Joins d handle (.error (.alreadyExists handle)) d
  | joined (missing : d.surfaces.find? handle = none) (online : d.online = true) :
      Joins d handle (.ok ()) { d with
        surfaces := d.surfaces.insert handle {}
        stats := { d.stats with tracked := d.stats.tracked + 1 } }
  /-- A failure that waits is all that a rejection takes. -/
  | rejected {failures} (missing : d.surfaces.find? handle = none) (offline : d.online = false)
      (waiting : d.hotplug.failingOnlines = failures + 1) :
      Joins d handle (.error (.failed (.bringOnline (.rejected .online))))
        { d with hotplug := { d.hotplug with failingOnlines := failures } }
  | brought (missing : d.surfaces.find? handle = none) (offline : d.online = false)
      (granted : d.hotplug.failingOnlines = 0) :
      Joins d handle (.ok ()) { d with
        surfaces := d.surfaces.insert handle {}
        hotplug := { d.hotplug with
          online := true
          events := d.hotplug.events ++ [⟨true, d.config.pool⟩] }
        online := true
        stats := { d.stats with onlines := d.stats.onlines + 1, tracked := d.stats.tracked + 1 } }

theorem track_joins (d : Driver) (handle : Handle) :
    d.Joins handle (d.track handle).1 (d.track handle).2 := by
  unfold track
  cases found : d.surfaces.find? handle with
  | some surface => exact .known found
  | none =>
    unfold bringOnline
    by_cases online : d.online = true
    · rw [if_pos online]
      exact .joined found online
    rw [if_neg online]
    have offline := Bool.not_eq_true _ ▸ online
    rcases d.hotplug.bringOnline_cases d.config.pool with
      ⟨failures, waiting, asked⟩ | ⟨granted, asked⟩
    · rw [asked]
      exact .rejected found offline waiting
    · rw [asked]
      exact .brought found offline granted

/-- What a driver knows of the window addresses, and the service with them. -/
structure Memory where
  hotplug : Hotplug
  online : Bool
  onlines : UInt64
  offlines : UInt64
  offlineFailures : UInt64

def memory (d : Driver) : Memory :=
  ⟨d.hotplug, d.online, d.stats.onlines, d.stats.offlines, d.stats.offlineFailures⟩

inductive Leaves (d : Driver) (handle : Handle) : Driver → Prop where
  | failed {cache} : Leaves d handle { d with cache }
  | stayed {d'} (tracked : d.surfaces.find? handle ≠ none) (same : d'.memory = d.memory)
      (stays : d'.surfaces.isEmpty = true → d.online = false) : Leaves d handle d'
  /-- The addresses stay online, and nobody is told. -/
  | rejected {d' failures} (tracked : d.surfaces.find? handle ≠ none) (online : d.online = true)
      (waiting : d.hotplug.failingOfflines = failures + 1)
      (emptied : d'.surfaces.isEmpty = true)
      (memory : d'.memory = { d.memory with
        hotplug := { d.hotplug with failingOfflines := failures }
        offlineFailures := d.stats.offlineFailures + 1 }) : Leaves d handle d'
  | taken {d'} (online : d.online = true) (granted : d.hotplug.failingOfflines = 0)
      (emptied : d'.surfaces.isEmpty = true)
      (memory : d'.memory = { d.memory with
        hotplug := { d.hotplug with
          online := false
          events := d.hotplug.events ++ [⟨false, d.config.pool⟩] }
        online := false
        offlines := d.stats.offlines + 1 }) : Leaves d handle d'

/-- The driver without a surface, when all that it held is given back. -/
def without (d : Driver) (handle : Handle) (surface : Surface) : Driver :=
  { (d.forceUnlock surface).2.release handle surface.holdings with
    surfaces := ((d.forceUnlock surface).2.release handle surface.holdings).surfaces.erase handle }

theorem untrack_eq {surface : Surface} (found : d.surfaces.find? handle = some surface)
    (through : (d.forceUnlock surface).1 = .ok ()) :
    d.untrack handle = (.ok (), { (d.without handle surface).takeOffline with
      stats := { (d.without handle surface).takeOffline.stats with
        untracked := (d.without handle surface).takeOffline.stats.untracked + 1 } }) := by
  unfold untrack without
  rw [found]
  dsimp only
  generalize d.forceUnlock surface = forced at through ⊢
  obtain ⟨_ | _, forced⟩ := forced
  · cases through
  · rfl

theorem untrack_broken {surface : Surface} {why : Cache.Break}
    (found : d.surfaces.find? handle = some surface)
    (broken : (d.forceUnlock surface).1 = .error why) :
    d.untrack handle = (.error (.broken why), (d.forceUnlock surface).2) := by
  unfold untrack
  rw [found]
  dsimp only
  generalize d.forceUnlock surface = forced at broken ⊢
  obtain ⟨_ | _, forced⟩ := forced
  · cases broken
    rfl
  · cases broken

theorem memory_flushed (d : Driver) (engine : Engine) (cache : List Cache.Op)
    (flushed : Except Engine.Fault Unit) :
    memory { d with engine, cache, stats := d.stats.flushed flushed } = d.memory := by
  cases flushed <;> rfl

theorem ForceEnds.memory {surface : Surface} {result : Except Cache.Break Unit} {d' : Driver}
    (ends : d.ForceEnds surface result d') : d'.memory = d.memory := by
  cases ends with
  | idle | broken => rfl
  | closed => exact d.memory_flushed _ _ _

theorem without_memory (d : Driver) (handle : Handle) (surface : Surface) :
    (d.without handle surface).memory = d.memory := by
  rw [without, release_eq]
  exact (d.forceUnlock_ends surface).memory

theorem without_config (d : Driver) (handle : Handle) (surface : Surface) :
    (d.without handle surface).config = d.config := by
  obtain ⟨_, _, _, unlocked, _⟩ := (d.forceUnlock_ends surface).eq
  rw [without, release_eq, unlocked]

theorem takeOffline_cases (d : Driver) :
    (d.surfaces.isEmpty = true → d.online = false) ∧ d.takeOffline = d ∨
      d.surfaces.isEmpty = true ∧ d.online = true ∧
        ((∃ failures, d.hotplug.failingOfflines = failures + 1 ∧ d.takeOffline = { d with
            hotplug := { d.hotplug with failingOfflines := failures }
            stats := { d.stats with offlineFailures := d.stats.offlineFailures + 1 } }) ∨
          d.hotplug.failingOfflines = 0 ∧ d.takeOffline = { d with
            hotplug := { d.hotplug with
              online := false
              events := d.hotplug.events ++ [⟨false, d.config.pool⟩] }
            online := false
            stats := { d.stats with offlines := d.stats.offlines + 1 } }) := by
  unfold takeOffline
  by_cases due : d.surfaces.isEmpty = true ∧ d.online = true
  · rw [if_pos due]
    refine .inr ⟨due.1, due.2, ?_⟩
    rcases d.hotplug.takeOffline_cases d.config.pool with
      ⟨failures, waiting, asked⟩ | ⟨granted, asked⟩
    · rw [asked]
      exact .inl ⟨failures, waiting, rfl⟩
    · rw [asked]
      exact .inr ⟨granted, rfl⟩
  · rw [if_neg due]
    refine .inl ⟨fun empty => ?_, rfl⟩
    rw [← Bool.not_eq_true]
    exact fun online => due ⟨empty, online⟩

theorem untrack_leaves (d : Driver) (handle : Handle) : d.Leaves handle (d.untrack handle).2 := by
  cases found : d.surfaces.find? handle with
  | none =>
    rw [untrack, found]
    exact .failed
  | some surface =>
    cases through : (d.forceUnlock surface).1 with
    | error why =>
      have ends := d.forceUnlock_ends surface
      rw [untrack_broken found through]
      rw [through] at ends
      generalize (d.forceUnlock surface).2 = forced at ends ⊢
      cases ends
      exact .failed
    | ok done =>
      have tracked : d.surfaces.find? handle ≠ none := by simp [found]
      have same := d.without_memory handle surface
      have config := d.without_config handle surface
      rw [untrack_eq found through]
      generalize d.without handle surface = rest at *
      obtain ⟨hotplug, online, onlines, offlines, failures⟩ := Memory.mk.inj same
      rcases rest.takeOffline_cases with ⟨stays, left⟩ |
          ⟨emptied, on, ⟨waits, waiting, left⟩ | ⟨granted, left⟩⟩
      · rw [left]
        exact .stayed tracked same (online ▸ stays)
      · rw [left]
        rw [hotplug] at waiting
        refine .rejected tracked (online ▸ on) waiting emptied ?_
        simp only [memory, hotplug, online, onlines, offlines, failures]
      · rw [left]
        rw [hotplug] at granted
        refine .taken (online ▸ on) granted emptied ?_
        simp only [memory, hotplug, onlines, offlines, failures, config]

/-- Nothing changes for the window addresses, and surfaces are tracked afterwards just if they were
before. -/
structure Still (d d' : Driver) : Prop where
  memory : d'.memory = d.memory
  filled : d'.surfaces.isEmpty = d.surfaces.isEmpty

/-- Nobody but the driver uses the hot-plug service, though others may arrange for failures. -/
def HotplugAlone : Policy
  | _, .platform (.bringOnline _) | _, .platform (.takeOffline _) => False
  | _, _ => True

inductive Switch (d : Driver) : Command → Driver → Prop where
  | still {command d'} (still : d.Still d') : Switch d command d'
  | arranged {other d' failingOnlines failingOfflines}
      (memory : d'.memory = { d.memory with
        hotplug := { d.hotplug with failingOnlines, failingOfflines } })
      (surfaces : d'.surfaces = d.surfaces) : Switch d (.platform other) d'
  | joins {handle result d'} (joins : d.Joins handle result d') : Switch d (.track handle) d'
  | leaves {handle d'} (leaves : d.Leaves handle d') : Switch d (.untrack handle) d'

variable {d' : Driver}

theorem Still.refl (d : Driver) : d.Still d := ⟨rfl, rfl⟩

theorem isEmpty_replace {surface : Surface} (found : d.surfaces.find? handle = some surface)
    (next : Surface) : (d.surfaces.insert handle next).isEmpty = d.surfaces.isEmpty := by
  rw [OrderedMap.isEmpty_insert, OrderedMap.isEmpty_of_find? found]

theorem LockEnds.still {direction : Direction} {result : Except Error Unit}
    (ends : d.LockEnds handle direction result d') : d.Still d' := by
  cases ends with
  | unknown | unset | linear | overflow | exhausted => exact .refl d
  | nested found => exact ⟨rfl, isEmpty_replace found _⟩
  | @first _ _ slot _ engine _ found bound =>
    refine ⟨?_, isEmpty_replace found _⟩
    generalize (engine.enableWindow slot).flush = flushed
    obtain ⟨result, engine⟩ := flushed
    cases bound <;> cases result <;> rfl

theorem UnlockEnds.still {result : Except Failure Unit} (ends : d.UnlockEnds handle result d') :
    d.Still d' := by
  cases ends with
  | unknown | idle => exact .refl d
  | nested found => exact ⟨rfl, isEmpty_replace found _⟩
  | broken => exact ⟨rfl, rfl⟩
  | @last _ _ slot _ _ found =>
    refine ⟨?_, isEmpty_replace found _⟩
    generalize d.engine.disableWindow slot = flushed
    obtain ⟨result, engine⟩ := flushed
    cases result <;> rfl

theorem PermanentEnds.still {on : Bool} {result : Except Error Unit}
    (ends : d.PermanentEnds handle on result d') : d.Still d' := by
  cases ends with
  | unknown => exact .refl d
  | dropped found | flagged found => exact ⟨rfl, isEmpty_replace found _⟩

theorem settle_still {surface : Surface} (found : d.surfaces.find? handle = some surface)
    (a : Attributes) (attempt : Attempt) : d.Still (d.settle handle surface a attempt).2 := by
  cases attempt with
  | refused | linear =>
    rw [settle, release_eq]
    exact ⟨rfl, isEmpty_replace found _⟩
  | tiled layout => exact ⟨rfl, isEmpty_replace found _⟩

theorem configure_still (d : Driver) (handle : Handle) (a : Attributes) :
    d.Still (d.configure handle a).2 := by
  unfold configure
  cases found : d.surfaces.find? handle with
  | none => exact .refl d
  | some surface =>
    dsimp only
    split
    · exact .refl d
    · obtain ⟨attempt, pool, buffers, tried, _⟩ := d.attempt_ends handle surface.holdings a
      rw [tried]
      have settled := settle_still (d := { d with pool, buffers }) found a attempt
      exact ⟨settled.memory, settled.filled⟩

theorem step_switch {command : Command} (alone : HotplugAlone d command) :
    d.Switch command (d.step command).2 := by
  cases command with
  | platform other =>
    cases other with
    | bringOnline | takeOffline => exact alone.elim
    | engine | register | failMaps | failAttaches | failOnlines | failOfflines | attach | detach
    | map | maintain => exact .arranged rfl rfl
  | track handle => exact .joins (d.track_joins handle)
  | untrack handle => exact .leaves (d.untrack_leaves handle)
  | configure handle a => exact .still (d.configure_still handle a)
  | lock handle direction => exact .still (d.lock_ends handle direction).still
  | unlock handle direction => exact .still (d.unlock_ends handle direction).still
  | setPermanent handle on => exact .still (d.setPermanent_ends handle on).still
  | attributes => exact .still (.refl d)
  | interrupt | takeReports => exact .still ⟨rfl, rfl⟩

/-- The driver and the service agree about the addresses, which are online while surfaces are
tracked, and the counters say how often they came online and went offline. -/
structure Memory.Kept (pool : Region) (empty : Bool) (m : Memory) : Prop where
  regular : Hotplug.Regular pool m.hotplug
  agrees : m.online = m.hotplug.online
  filled : empty = false → m.online = true
  onlines : m.onlines = .ofNat m.hotplug.onlines
  offlines : m.offlines = .ofNat m.hotplug.offlines

variable {pool : Region} {empty empty' : Bool} {m : Memory}

theorem Memory.Kept.fail (kept : m.Kept pool empty) (bare : empty' = false → m.online = true)
    (failingOnlines failingOfflines : Nat) (failures : UInt64) :
    Memory.Kept pool empty' { m with
      hotplug := { m.hotplug with failingOnlines, failingOfflines }
      offlineFailures := failures } where
  regular := ⟨kept.regular.inTurn, kept.regular.online⟩
  agrees := kept.agrees
  filled := bare
  onlines := kept.onlines
  offlines := kept.offlines

theorem Memory.Kept.bringOnline (kept : m.Kept pool empty) (offline : m.online = false) :
    Memory.Kept pool empty' { m with
      hotplug := { m.hotplug with online := true, events := m.hotplug.events ++ [⟨true, pool⟩] }
      online := true
      onlines := m.onlines + 1 } where
  regular := kept.regular.switch true (kept.agrees.symm.trans offline) _ _
  agrees := rfl
  filled := fun _ => rfl
  onlines := by
    rw [Hotplug.onlines_switch, kept.onlines, if_pos rfl]
    exact (UInt64.ofNat_add ..).symm
  offlines := by
    rw [Hotplug.offlines_switch, if_pos rfl]
    exact kept.offlines

theorem Memory.Kept.takeOffline (kept : m.Kept pool empty) (online : m.online = true) :
    Memory.Kept pool true { m with
      hotplug := { m.hotplug with online := false, events := m.hotplug.events ++ [⟨false, pool⟩] }
      online := false
      offlines := m.offlines + 1 } where
  regular := kept.regular.switch false (kept.agrees.symm.trans online) _ _
  agrees := rfl
  filled := nofun
  onlines := by
    rw [Hotplug.onlines_switch, if_neg Bool.false_ne_true]
    exact kept.onlines
  offlines := by
    rw [Hotplug.offlines_switch, kept.offlines, if_neg Bool.false_ne_true]
    exact (UInt64.ofNat_add ..).symm

def MemoryKept (d : Driver) : Prop := d.memory.Kept d.config.pool d.surfaces.isEmpty

theorem MemoryKept.switch {command : Command} (kept : d.MemoryKept)
    (switch : d.Switch command d') (config : d'.config = d.config) : d'.MemoryKept := by
  unfold MemoryKept at kept ⊢
  cases switch with
  | still still =>
    rw [still.memory, still.filled, config]
    exact kept
  | arranged memory surfaces =>
    rw [memory, surfaces, config]
    exact kept.fail kept.filled _ _ _
  | joins joins =>
    cases joins with
    | known => exact kept
    | joined missing online =>
      exact ⟨kept.regular, kept.agrees, fun _ => online, kept.onlines, kept.offlines⟩
    | rejected => exact kept.fail kept.filled _ _ _
    | brought missing offline => exact kept.bringOnline offline
  | leaves leaves =>
    cases leaves with
    | failed => exact kept
    | stayed tracked same stays =>
      obtain ⟨surface, found⟩ := Option.ne_none_iff_exists'.mp tracked
      have online : d.online = true := kept.filled (OrderedMap.isEmpty_of_find? found)
      rw [same, config]
      exact ⟨kept.regular, kept.agrees, fun _ => online, kept.onlines, kept.offlines⟩
    | rejected tracked online waiting emptied memory =>
      rw [memory, emptied, config]
      exact kept.fail (fun _ => online) _ _ _
    | taken online granted emptied memory =>
      rw [memory, emptied, config]
      exact kept.takeOffline online

theorem MemoryKept.run (kept : d.MemoryKept) {commands : List Command}
    (alone : Along HotplugAlone d commands) : (d.run commands).MemoryKept :=
  alone.keeps MemoryKept kept fun d command alone kept =>
    kept.switch (step_switch alone) (d.config_run [command])

/-- The driver itself is addressed. -/
def Command.isOwn : Command → Bool
  | .platform _ => false
  | _ => true

/-- The service rejects what the driver asks of it, which takes one of the failures that wait. -/
def rejects (waiting : Hotplug → Nat) (d : Driver) (command : Command) : Bool :=
  command.isOwn && decide (waiting (d.step command).2.hotplug < waiting d.hotplug)

/-- How often something happens in a run. -/
def occurrences (event : Driver → Command → Bool) : Driver → List Command → Nat
  | _, [] => 0
  | d, command :: rest =>
    (if event d command then 1 else 0) + occurrences event (d.step command).2 rest

theorem Switch.offlineFailures {command : Command} (switch : d.Switch command d') :
    d'.stats.offlineFailures = d.stats.offlineFailures +
      .ofNat (if command.isOwn &&
        decide (d'.hotplug.failingOfflines < d.hotplug.failingOfflines) then 1 else 0) := by
  cases switch with
  | still still =>
    obtain ⟨hotplug, _, _, _, failures⟩ := Memory.mk.inj still.memory
    simp [hotplug, failures]
  | arranged memory =>
    obtain ⟨_, _, _, _, failures⟩ := Memory.mk.inj memory
    simp [Command.isOwn, failures, Driver.memory]
  | joins joins => cases joins <;> simp
  | leaves leaves =>
    cases leaves with
    | failed => simp
    | stayed tracked same =>
      obtain ⟨hotplug, _, _, _, failures⟩ := Memory.mk.inj same
      simp [hotplug, failures]
    | rejected tracked online waiting emptied memory =>
      obtain ⟨hotplug, _, _, _, failures⟩ := Memory.mk.inj memory
      simp [Command.isOwn, hotplug, failures, waiting]
    | taken online granted emptied memory =>
      obtain ⟨hotplug, _, _, _, failures⟩ := Memory.mk.inj memory
      simp [hotplug, failures, Driver.memory]

theorem offlineFailures_run {commands : List Command} (alone : Along HotplugAlone d commands) :
    (d.run commands).stats.offlineFailures = d.stats.offlineFailures +
      .ofNat (occurrences (rejects Hotplug.failingOfflines) d commands) := by
  induction commands generalizing d with
  | nil => simp [run, occurrences]
  | cons command rest ih =>
    calc (d.run (command :: rest)).stats.offlineFailures
      _ = (d.step command).2.stats.offlineFailures + .ofNat
          (occurrences (rejects Hotplug.failingOfflines) (d.step command).2 rest) := ih alone.2
      _ = _ := by
        rw [(step_switch alone.1).offlineFailures, UInt64.add_assoc, ← UInt64.ofNat_add]
        rfl

def Idles (d : Driver) : Prop := d.surfaces.isEmpty = true ∧ d.online = true

instance (d : Driver) : Decidable d.Idles := inferInstanceAs (Decidable (_ ∧ _))

/-- The last surface is removed, but the service rejects to take the addresses offline. -/
def EmptiedInVain : Policy := fun d command =>
  ∃ handle, command = .untrack handle ∧ d.surfaces.find? handle ≠ none ∧
    rejects Hotplug.failingOfflines d command = true

theorem Switch.idles {command : Command} (switch : d.Switch command d') (idles : d'.Idles) :
    (∃ handle, command = .untrack handle ∧ d.surfaces.find? handle ≠ none ∧
      d'.hotplug.failingOfflines < d.hotplug.failingOfflines) ∨ d.Idles := by
  obtain ⟨empty, online⟩ := idles
  cases switch with
  | still still =>
    obtain ⟨_, same, _⟩ := Memory.mk.inj still.memory
    exact .inr ⟨still.filled.symm.trans empty, same.symm.trans online⟩
  | arranged memory surfaces =>
    obtain ⟨_, same, _⟩ := Memory.mk.inj memory
    exact .inr ⟨surfaces ▸ empty, same.symm.trans online⟩
  | joins joins =>
    cases joins with
    | known => exact .inr ⟨empty, online⟩
    | joined | brought => cases (OrderedMap.isEmpty_insert ..).symm.trans empty
    | rejected missing offline => cases offline.symm.trans online
  | leaves leaves =>
    cases leaves with
    | failed => exact .inr ⟨empty, online⟩
    | stayed tracked memory stays =>
      obtain ⟨_, same, _⟩ := Memory.mk.inj memory
      cases (stays empty).symm.trans (same.symm.trans online)
    | rejected tracked _ waiting _ memory =>
      obtain ⟨hotplug, _⟩ := Memory.mk.inj memory
      refine .inl ⟨_, rfl, tracked, ?_⟩
      rw [hotplug, waiting]
      exact Nat.lt_succ_self _
    | taken _ _ _ memory =>
      obtain ⟨_, off, _⟩ := Memory.mk.inj memory
      cases off.symm.trans online

/-- The driver rests with an empty registry and the addresses online only after a removal in
vain. -/
theorem emptiedInVain_since (fresh : d.online = false) {commands : List Command}
    (alone : Along HotplugAlone d commands) (idles : (d.run commands).Idles) :
    Since EmptiedInVain Idles d commands := by
  have start (resting : d.Idles) : False := by
    cases fresh.symm.trans resting.2
  refine (@Along.since HotplugAlone d commands EmptiedInVain Idles (fun _ => False) alone start ?_
    idles).resolve_left id
  intro d command alone idles
  rcases (step_switch alone).idles idles with ⟨handle, rfl, tracked, took⟩ | before
  · have rejected : rejects Hotplug.failingOfflines d (.untrack handle) = true :=
      Bool.and_eq_true_iff.mpr ⟨rfl, decide_eq_true took⟩
    exact .inr (.inl ⟨handle, rfl, tracked, rejected⟩)
  · exact .inr (.inr ⟨before, id⟩)

/-- The service is asked to bring the addresses online and rejects that just if the client is
told, and then nothing else happens. -/
theorem Joins.rejected_iff {result : Except Error Unit} (joins : d.Joins handle result d') :
    (d'.hotplug.failingOnlines < d.hotplug.failingOnlines ↔
      result = .error (.failed (.bringOnline (.rejected .online)))) ∧
    (d'.hotplug.failingOnlines < d.hotplug.failingOnlines →
      d'.surfaces = d.surfaces ∧ d'.stats = d.stats) := by
  cases joins with
  | known | joined | brought => simp
  | rejected _ _ waiting => simp [waiting]

theorem Outcome.ofUnit_eq_refused {result : Except Error Unit} {error : Error} :
    Outcome.ofUnit result = .refused error ↔ result = .error error := by
  cases result <;> simp [Outcome.ofUnit]

/-- The service rejects to bring the addresses online just if the client is told, and then the
registry and the counters stay as they are. -/
theorem track_rejected (d : Driver) (handle : Handle) :
    (rejects Hotplug.failingOnlines d (.track handle) = true ↔
      (d.step (.track handle)).1 = .refused (.failed (.bringOnline (.rejected .online)))) ∧
    (rejects Hotplug.failingOnlines d (.track handle) = true →
      (d.step (.track handle)).2.surfaces = d.surfaces ∧
        (d.step (.track handle)).2.stats = d.stats) := by
  have took : rejects Hotplug.failingOnlines d (.track handle) = true ↔
      (d.track handle).2.hotplug.failingOnlines < d.hotplug.failingOnlines := by
    rw [rejects, Bool.and_eq_true_iff, decide_eq_true_eq]
    exact and_iff_right rfl
  obtain ⟨told, unchanged⟩ := (d.track_joins handle).rejected_iff
  exact ⟨took.trans (told.trans Outcome.ofUnit_eq_refused.symm), fun rejected =>
    unchanged (took.mp rejected)⟩

theorem MemoryKept.start {config : Config} {platform : Platform}
    (up : bringUp config platform = .ok d) (unused : platform.hotplug.Unused) : d.MemoryKept := by
  obtain ⟨_, _, _, rfl, _⟩ := bringUp_eq_ok up
  constructor
  · exact unused.regular _
  · exact unused.offline.symm
  · exact nofun
  · exact (congrArg (fun events => UInt64.ofNat (events.countP (·.online))) unused.silent).symm
  · exact (congrArg (fun events => UInt64.ofNat (events.countP fun event => !event.online))
      unused.silent).symm

/-- The window addresses along every run in which nobody but the driver uses the hot-plug service,
whatever failures are arranged for. The service brings the pool online and takes it offline in
turns, and the driver knows which it is. The addresses are online while surfaces are tracked, and
with an empty registry only after the service rejected to take them offline when the last surface
went. If it rejects to bring them online, the client is told and nothing is tracked or counted.
Counters say how often each of these happened. -/
theorem hotplug_disciplined {config : Config} {platform : Platform}
    (up : bringUp config platform = .ok d) (unused : platform.hotplug.Unused)
    {commands : List Command} (alone : Along HotplugAlone d commands) :
    Hotplug.InTurn config.pool (d.run commands).hotplug.events ∧
    (d.run commands).online = (d.run commands).hotplug.online ∧
    ((d.run commands).surfaces.isEmpty = false → (d.run commands).online = true) ∧
    ((d.run commands).Idles → Since EmptiedInVain Idles d commands) ∧
    (∀ handle,
      (rejects Hotplug.failingOnlines (d.run commands) (.track handle) = true ↔
        ((d.run commands).step (.track handle)).1 =
          .refused (.failed (.bringOnline (.rejected .online)))) ∧
      (rejects Hotplug.failingOnlines (d.run commands) (.track handle) = true →
        ((d.run commands).step (.track handle)).2.surfaces = (d.run commands).surfaces ∧
          ((d.run commands).step (.track handle)).2.stats = (d.run commands).stats)) ∧
    (d.run commands).stats.onlines = .ofNat (d.run commands).hotplug.onlines ∧
    (d.run commands).stats.offlines = .ofNat (d.run commands).hotplug.offlines ∧
    (d.run commands).stats.offlineFailures =
      .ofNat (occurrences (rejects Hotplug.failingOfflines) d commands) := by
  have kept := (MemoryKept.start up unused).run alone
  have pool : (d.run commands).config.pool = config.pool := by
    rw [config_run]
    obtain ⟨_, _, _, rfl, _⟩ := bringUp_eq_ok up
    rfl
  have fresh : d.online = false ∧ d.stats.offlineFailures = 0 := by
    obtain ⟨_, _, _, rfl, _⟩ := bringUp_eq_ok up
    exact ⟨rfl, rfl⟩
  refine ⟨?_, kept.agrees, kept.filled, ?_, ?_, kept.onlines, kept.offlines, ?_⟩
  · rw [← pool]
    exact kept.regular.inTurn
  · exact emptiedInVain_since fresh.1 alone
  · exact (d.run commands).track_rejected
  · rw [offlineFailures_run alone, fresh.2, UInt64.zero_add]

/-- A buffer is tracked and goes again, but the service rejects to take the addresses offline. -/
def vainRun : List Command := [.track 1, .platform (.failOfflines 1), .untrack 1]

/-- At the end of that run the addresses are online for nobody, since the removal. -/
theorem hotplug_disciplined_vainRun :
    ∃ d, bringUp {} { engine := { version := ⟨1, 1⟩ } } = .ok d ∧ (d.run vainRun).Idles ∧
      Since EmptiedInVain Idles d vainRun := by
  have computed : (bringUp {} { engine := { version := ⟨1, 1⟩ } }).toOption.any (fun d =>
      (d.run vainRun).Idles) = true := by
    decide +kernel
  obtain ⟨d, up, ran⟩ := exists_up computed
  have idles : (d.run vainRun).Idles := of_decide_eq_true ran
  have alone : Along HotplugAlone d vainRun := ⟨trivial, trivial, trivial, trivial⟩
  obtain ⟨_, _, _, since, _⟩ := hotplug_disciplined up ⟨rfl, rfl⟩ alone
  exact ⟨d, up, idles, since idles⟩

end TiledSurface.Driver
