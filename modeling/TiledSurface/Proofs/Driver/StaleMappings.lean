import TiledSurface.Proofs.Driver.Mappings
import TiledSurface.Proofs.Driver.Translation

/-!
What the processor sees where mapping may fail. A window goes back to the pool even if the request
to map the buffer's own pages again is rejected, and then the buffer keeps a view of addresses
that the pool may give to another. Apart from such views, the processor sees only windows that the
buffer's own surface holds.
-/

namespace TiledSurface

namespace Buffers

variable {b b' : Buffers} {handle : Handle} {held : Holdings} {r : Region}

/-- A view of a window that outlives what is given back was there before, and the request to end
it was rejected. -/
theorem cpu?_giveBack_window (seen : (b.giveBack handle held).cpu? handle = some (.window r)) :
    b.cpu? handle = some (.window r) ∧
      ∀ w, held.window = some w → (b.map handle .linear).1 = .error (.rejected .mapping) := by
  rw [(b.giveBack_frame handle held).1] at seen
  cases window : held.window with
  | none =>
    rw [window] at seen
    exact ⟨seen, by simp⟩
  | some w =>
    rw [window, unmapWindow] at seen
    rcases b.map_cases handle .linear with ⟨failures, _, rejected⟩ | ⟨_, missing, unknown⟩ |
      ⟨buffer, _, _, done⟩
    · rw [rejected] at seen
      exact ⟨seen, fun _ _ => by rw [rejected]⟩
    · rw [unknown] at seen
      simp [cpu?, missing] at seen
    · have shown := congrFun (cpu?_map_ok done) handle
      rw [Function.update_self] at shown
      rw [done] at seen
      cases shown.symm.trans seen

end Buffers

namespace Driver

variable {d d' : Driver} {handle : Handle} {r : Region}

/-- The view that an attempt leaves is that of the window which the surface holds after it, unless
nothing has changed because the first request failed. -/
theorem Attempted.window_seen {held : Holdings} {a : Attributes} {attempt : Attempt}
    {pool : WindowPool} {buffers : Buffers}
    (attempted : d.Attempted handle held a attempt pool buffers)
    (seen : buffers.cpu? handle = some (.window r)) :
    attempt.held.window = some r ∨
      attempt.held.window = held.window ∧ d.buffers.cpu? handle = some (.window r) := by
  have linear : ∀ {b : Buffers}, d.buffers.map handle .linear = (.ok (), b) →
      b.cpu? handle ≠ some (.window r) := by
    intro b own shown
    rw [Buffers.cpu?_map_ok own, Function.update_self] at shown
    cases shown
  have mapped : ∀ {b b' b'' : Buffers} {w : Region} {old : Option DeviceMapping},
      b.map handle (.window w) = (.ok (), b') → (b'.ensureAttached handle old).2 = b'' →
        b''.cpu? handle = some (.window r) → w = r := by
    intro b b' b'' w old done attached shown
    rw [← attached, (b'.ensureAttached_frame handle old).1, Buffers.cpu?_map_ok done,
      Function.update_self] at shown
    cases shown
    rfl
  cases attempted with
  | unmapped own =>
    rw [(Buffers.cpu?_map_error own).1] at seen
    exact .inr ⟨rfl, seen⟩
  | invalid own | linear own | full own => exact absurd seen (linear own)
  | unreachable own _ _ refused =>
    rw [(Buffers.cpu?_map_error refused).1] at seen
    exact absurd seen (linear own)
  | unattached _ _ _ done ended | indescribable _ _ _ done ended | tiled _ _ _ done ended =>
    exact .inl (congrArg some (mapped done (congrArg Prod.snd ended) seen))

/-- A window goes back to the pool although the request to map the buffer's own pages again is
rejected. That happens at the end of an attempt to configure the surface, or when the surface is
removed. -/
def Strands (handle : Handle) (r : Region) : Policy
  | d, .configure other a => other = handle ∧
      ∃ surface, d.surfaces.find? handle = some surface ∧ surface.session? = none ∧
        (d.attempt handle surface.holdings a).1.spare.window = some r ∧
        ((d.attempt handle surface.holdings a).2.buffers.map handle .linear).1 =
          .error (.rejected .mapping)
  | d, .untrack other => other = handle ∧
      owned d.surfaces Surface.window? handle = some r ∧
        (d.buffers.map handle .linear).1 = .error (.rejected .mapping)
  | _, _ => False

def Sees (handle : Handle) (r : Region) (d : Driver) : Prop :=
  d.buffers.cpu? handle = some (.window r)

def Holds (handle : Handle) (r : Region) (d : Driver) : Prop :=
  owned d.surfaces Surface.window? handle = some r

theorem sees_same (cpu : d'.buffers.cpu? handle = d.buffers.cpu? handle)
    (window : owned d'.surfaces Surface.window? handle = owned d.surfaces Surface.window? handle)
    (seen : d'.Sees handle r) : d'.Holds handle r ∨ d.Sees handle r ∧ ¬ d.Holds handle r := by
  by_cases held : d.Holds handle r
  · exact .inl (window.trans held)
  · exact .inr ⟨cpu.symm.trans seen, held⟩

theorem configured_sees {a : Attributes} {result : Except Error Unit}
    (configured : d.Configured handle a result d') (seen : d'.Sees handle r) :
    d'.Holds handle r ∨ Strands handle r d (.configure handle a) ∨
      d.Sees handle r ∧ ¬ d.Holds handle r := by
  cases configured with
  | unknown | busy => exact (sees_same rfl rfl seen).imp_right .inr
  | @settled surface attempt pool buffers stats found unlocked tried attempted =>
    obtain ⟨before, rejected⟩ := Buffers.cpu?_giveBack_window seen
    have mine : owned d.surfaces Surface.window? handle = surface.holdings.window :=
      owned_of_find? _ found
    by_cases held : attempt.held.window = some r
    · cases attempt with
      | refused _ rest | linear rest =>
        refine .inr (.inl ⟨rfl, surface, found, unlocked, ?_⟩)
        rw [tried]
        exact ⟨held, rejected r held⟩
      | tiled layout =>
        left
        unfold Holds
        rw [owned_insert_self]
        exact held
    · rcases attempted.window_seen before with now | ⟨same, earlier⟩
      · exact absurd now held
      · exact .inr (.inr ⟨earlier, fun ours => held (same.trans (mine.symm.trans ours))⟩)

theorem untracked_sees {result : Except Failure Unit} (ends : d.UntrackEnds handle result d')
    (seen : d'.Sees handle r) :
    d'.Holds handle r ∨ Strands handle r d (.untrack handle) ∨
      d.Sees handle r ∧ ¬ d.Holds handle r := by
  cases ends with
  | unknown missing =>
    have bare : ¬ d.Holds handle r := by
      intro held
      cases (owned_of_missing _ missing).symm.trans held
    exact .inr (.inr ⟨seen, bare⟩)
  | broken => exact (sees_same rfl rfl seen).imp_right .inr
  | @removed surface _ _ _ _ _ found =>
    obtain ⟨before, rejected⟩ := Buffers.cpu?_giveBack_window seen
    by_cases held : d.Holds handle r
    · have mine : surface.holdings.window = some r := (owned_of_find? _ found).symm.trans held
      exact .inr (.inl ⟨rfl, held, rejected r mine⟩)
    · exact .inr (.inr ⟨before, held⟩)

theorem configured_cpu?_other {other : Handle} {a : Attributes} {result : Except Error Unit}
    (configured : d.Configured other a result d') (different : handle ≠ other) :
    d'.buffers.cpu? handle = d.buffers.cpu? handle := by
  cases configured with
  | unknown | busy => rfl
  | settled _ _ _ attempted =>
    exact (Buffers.cpu?_giveBack_other _ _ different).trans (attempted.cpu?_other different)

theorem untracked_cpu?_other {other : Handle} {result : Except Failure Unit}
    (ends : d.UntrackEnds other result d') (different : handle ≠ other) :
    d'.buffers.cpu? handle = d.buffers.cpu? handle := by
  cases ends with
  | unknown | broken => rfl
  | removed => exact d.buffers.cpu?_giveBack_other _ different

def MapsAlone : Policy
  | _, .platform (.map ..) => False
  | _, _ => True

theorem step_sees {command : Command} (alone : MapsAlone d command)
    (seen : (d.step command).2.Sees handle r) :
    (d.step command).2.Holds handle r ∨ Strands handle r d command ∨
      d.Sees handle r ∧ ¬ d.Holds handle r := by
  have left : ∀ {d' : Driver}, d'.buffers.cpu? handle = d.buffers.cpu? handle →
      owned d'.surfaces Surface.window? handle = owned d.surfaces Surface.window? handle →
      d'.Sees handle r →
      d'.Holds handle r ∨ Strands handle r d command ∨ d.Sees handle r ∧ ¬ d.Holds handle r :=
    fun cpu window shown => (sees_same cpu window shown).imp_right .inr
  have touched : ∀ {other : Handle} {d' : Driver}, d.Touch other d' → d'.Sees handle r →
      d'.Holds handle r ∨ Strands handle r d command ∨ d.Sees handle r ∧ ¬ d.Holds handle r :=
    fun touch shown => left (by rw [touch.buffers]) (congrFun touch.windows handle) shown
  cases command with
  | platform command =>
    cases command with
    | map => exact alone.elim
    | register other length =>
      by_cases same : handle = other
      · subst same
        have linear := congrFun (d.buffers.cpu?_register handle length) handle
        rw [Function.update_self] at linear
        cases linear.symm.trans seen
      · have registered := congrFun (d.buffers.cpu?_register other length) handle
        rw [Function.update_of_ne same] at registered
        exact left registered rfl seen
    | attach other => exact left (congrFun (d.buffers.cpu?_attach other) handle) rfl seen
    | detach other => exact left (congrFun (d.buffers.cpu?_detach other) handle) rfl seen
    | engine | failMaps | failAttaches | failOnlines | failOfflines | bringOnline | takeOffline
    | maintain => exact left rfl rfl seen
  | configure other a =>
    by_cases same : handle = other
    · subst same
      exact configured_sees (d.configure_ends handle a) seen
    · have configured := d.configure_ends other a
      exact left (configured_cpu?_other configured same)
        (owned_congr _ (configured.others same)) seen
  | untrack other =>
    by_cases same : handle = other
    · subst same
      exact untracked_sees (d.untrack_ends handle) seen
    · have ends := d.untrack_ends other
      exact left (untracked_cpu?_other ends same) (owned_congr _ (ends.others same)) seen
  | track other => exact touched (d.track_touch other) seen
  | lock other direction => exact touched (d.lock_touch other direction) seen
  | unlock other direction => exact touched (d.unlock_touch other direction) seen
  | setPermanent other on => exact touched (d.setPermanent_touch other on) seen
  | interrupt line => exact touched (d.interrupt_touch line handle) seen
  | attributes | takeReports => exact left rfl rfl seen

/-- The processor sees a window in the buffer that went back to the pool at some step of the run,
when the request to end the view was rejected. -/
def Stale (handle : Handle) (r : Region) (d : Driver) (commands : List Command) : Prop :=
  Since (Strands handle r) (Sees handle r) d commands

theorem seen_run {config : Config} {platform : Platform} (up : bringUp config platform = .ok d)
    (unused : platform.buffers.Unused) {commands : List Command}
    (alone : Along MapsAlone d commands) (seen : (d.run commands).Sees handle r) :
    (d.run commands).Holds handle r ∨ Stale handle r d commands := by
  refine alone.since ?_ (fun _ _ => step_sees) seen
  intro before
  obtain ⟨_, _, _, rfl, _⟩ := bringUp_eq_ok up
  cases unused.cpu? before

/-- As long as only the driver maps buffers, the processor sees a window in a buffer only if it is
the live reservation of the buffer's own surface, or if the request to end the view was rejected
when just this window went back to the pool, and the view has stayed since. So two buffers show
windows that overlap only if such a request was rejected for one of them. -/
theorem windows_seen {config : Config} {platform : Platform} (up : bringUp config platform = .ok d)
    (unused : platform.buffers.Unused) {commands : List Command}
    (alone : Along MapsAlone d commands) :
    (∀ handle r, (d.run commands).Sees handle r →
      (r ∈ (d.run commands).pool.reservations ∧ (d.run commands).Holds handle r) ∨
        Stale handle r d commands) ∧
    (∀ first second r r', first ≠ second → (d.run commands).Sees first r →
      (d.run commands).Sees second r' → ¬ r.Disjoint r' →
        Stale first r d commands ∨ Stale second r' d commands) := by
  have kept : (d.run commands).PoolKept := (PoolKept.start up).run commands
  constructor
  · intro handle r seen
    refine (seen_run up unused alone seen).imp_left fun held => ⟨?_, held⟩
    exact WindowPool.mem_reservations.mpr (kept.ledger.held held)
  · intro first second r r' different seen seen' overlap
    rcases seen_run up unused alone seen with held | stale
    · rcases seen_run up unused alone seen' with held' | stale'
      · refine absurd (fun address inside inside' => ?_) overlap
        exact different (kept.alone held held' inside inside')
      · exact .inr stale'
    · exact .inl stale

/-- The surface of the first of two buffers is set up and removed, and the request to end its view
is rejected. Then the surface of the second is set up. -/
def reuseRun : List Command :=
  [.platform (.register 1 16384), .platform (.register 2 16384), .track 1,
    .configure 1 smallAttributes, .platform (.failMaps 1), .untrack 1, .track 2,
    .configure 2 smallAttributes]

/-- After this run both buffers show the first page of the pool, which is the window of the second
surface only. -/
theorem exists_reuseRun :
    ∃ d, bringUp {} { engine := { version := ⟨1, 1⟩ } } = .ok d ∧ Along BuffersAlone d reuseRun ∧
      (d.run reuseRun).Sees 1 ⟨0x100000000, pageSize⟩ ∧
      ¬ (d.run reuseRun).Holds 1 ⟨0x100000000, pageSize⟩ ∧
      (d.run reuseRun).Sees 2 ⟨0x100000000, pageSize⟩ := by
  have computed : (bringUp {} { engine := { version := ⟨1, 1⟩ } }).toOption.any (fun d =>
      (d.run reuseRun).buffers.cpu? 1 = some (.window ⟨0x100000000, pageSize⟩) ∧
        owned (d.run reuseRun).surfaces Surface.window? 1 = none ∧
        (d.run reuseRun).buffers.cpu? 2 = some (.window ⟨0x100000000, pageSize⟩)) = true := by
    decide +kernel
  obtain ⟨d, up, ran⟩ := exists_up computed
  obtain ⟨seen, bare, seen'⟩ := of_decide_eq_true ran
  have fresh := owned_bringUp up Surface.mapping?
  refine ⟨d, up, ⟨fresh 1, fresh 2, trivial, trivial, trivial, trivial, trivial, trivial,
    trivial⟩, seen, ?_, seen'⟩
  intro held
  cases bare.symm.trans held

/-- The view of the first buffer goes back to the rejected request. -/
theorem windows_seen_reuseRun :
    ∃ d, bringUp {} { engine := { version := ⟨1, 1⟩ } } = .ok d ∧
      (d.run reuseRun).Sees 1 ⟨0x100000000, pageSize⟩ ∧
      Stale 1 ⟨0x100000000, pageSize⟩ d reuseRun := by
  obtain ⟨d, up, _, seen, bare, _⟩ := exists_reuseRun
  have alone : Along MapsAlone d reuseRun :=
    ⟨trivial, trivial, trivial, trivial, trivial, trivial, trivial, trivial, trivial⟩
  rcases (windows_seen up .empty alone).1 1 _ seen with ⟨_, held⟩ | stale
  · exact absurd held bare
  · exact ⟨d, up, seen, stale⟩

/-- A rejected request does not keep a window from the next surface. So even where the driver alone
uses the buffers, the processor may see a window that the buffer's surface does not hold, and two
buffers may show the same window. -/
theorem window_shown_twice :
    ∃ d, bringUp {} { engine := { version := ⟨1, 1⟩ } } = .ok d ∧ Along BuffersAlone d reuseRun ∧
      ¬ (∀ handle r, (d.run reuseRun).Sees handle r →
        r ∈ (d.run reuseRun).pool.reservations ∧ (d.run reuseRun).Holds handle r) ∧
      ¬ (∀ first second r r', first ≠ second → (d.run reuseRun).Sees first r →
        (d.run reuseRun).Sees second r' → r.Disjoint r') := by
  obtain ⟨d, up, alone, seen, bare, seen'⟩ := exists_reuseRun
  refine ⟨d, up, alone, fun owned => bare (owned 1 _ seen).2, fun apart => ?_⟩
  have inside : (⟨0x100000000, pageSize⟩ : Region).Contains 0x100000000 := by decide
  exact apart 1 2 _ _ (by decide) seen seen' _ inside inside

end Driver

end TiledSurface
