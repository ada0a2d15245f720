import TiledSurface.Proofs.Driver.Sessions
import TiledSurface.Proofs.Driver.Shapes
import TiledSurface.Proofs.Platform.Cache

namespace TiledSurface

theorem Config.cacheLineBytes_ne_zero {config : Config} (checked : config.check = .ok ()) :
    config.cacheLineBytes ≠ 0 :=
  (config.check_eq_ok_iff.mp checked).cacheLine

theorem Config.line_of_recipe {config : Config} {version : Version} {line delay : UInt64}
    (asked : config.recipe version = .perLine line delay) : line = config.cacheLineBytes := by
  unfold recipe at asked
  split at asked <;> cases asked
  rfl

theorem Direction.maintenance_eq (direction : Direction) (window : Region) :
    direction.maintenance window =
      if direction = .write then [] else [⟨.invalidate, window⟩] := by
  cases direction <;> rfl

namespace Driver

variable {d : Driver} {handle : Handle} {window : Region}

theorem recipe_run {config : Config} {platform : Platform}
    (up : bringUp config platform = .ok d) (commands : List Command) :
    (d.run commands).recipe = config.recipe platform.engine.version := by
  rw [recipe, config_run, version_run]
  obtain ⟨engine, pool, faults, rfl, _, _, version, _⟩ := bringUp_eq_ok up
  rw [version]

theorem Turn.disappears {command : Command} {outcome : Outcome} {surface : Surface}
    (turn : Turn handle command outcome (some surface) none) : command = .untrack handle := by
  cases turn
  rfl

theorem TrackEnds.cache {result : Except Error Unit} {d' : Driver}
    (ends : d.TrackEnds handle result d') : d'.cache = d.cache := by
  cases ends <;> rfl

theorem Configured.cache {a : Attributes} {result : Except Error Unit} {d' : Driver}
    (configured : d.Configured handle a result d') : d'.cache = d.cache := by
  cases configured <;> rfl

theorem PermanentEnds.cache {on : Bool} {result : Except Error Unit} {d' : Driver}
    (ends : d.PermanentEnds handle on result d') : d'.cache = d.cache := by
  cases ends <;> rfl

/-- A lock leaves the cache alone, or begins a session and has the window invalidated, unless the
processor is only to write. -/
theorem LockEnds.cache {direction : Direction} {result : Except Error Unit} {d' : Driver}
    (ends : d.LockEnds handle direction result d') :
    d'.cache = d.cache ∧ (Locked handle d' → Locked handle d) ∨
      ¬ Locked handle d ∧ Locked handle d' ∧
        ∃ window, owned d.surfaces Surface.window? handle = some window ∧
          owned d'.surfaces Surface.window? handle = some window ∧
          d'.cache = d.cache ++ direction.maintenance window := by
  cases ends with
  | unknown | unset | linear | overflow | exhausted => exact .inl ⟨rfl, id⟩
  | nested found locked => exact .inl ⟨rfl, fun _ => .of_find? found locked⟩
  | @first layout _ _ _ _ _ found bound =>
    refine .inr ⟨?_, ?_, layout.window, owned_of_find? _ found, ?_, rfl⟩
    · rintro ⟨surface, found', held⟩
      cases found.symm.trans found'
      exact held bound.unlocked
    · exact .of_find? (OrderedMap.find?_insert_self ..) rfl
    · dsimp only
      rw [owned_insert_self]
      rfl

/-- What a request that may end the session of a surface does to the cache. -/
inductive Cleans (d : Driver) (handle : Handle) : Except Failure Unit → Driver → Prop where
  | spared {result d'} (same : d'.cache = d.cache) (still : Locked handle d → Locked handle d')
      (other : ∀ surface, d.surfaces.find? handle = some surface → surface.lockCount ≠ 1)
      (answered : ∀ why, result ≠ .error (.broken why)) : Cleans d handle result d'
  | ended {d' window ops} (locked : Locked handle d) (unlocked : ¬ Locked handle d')
      (reserved : owned d.surfaces Surface.window? handle = some window)
      (cleaned : d.recipe.clean window = (.ok (), ops)) (added : d'.cache = d.cache ++ ops) :
      Cleans d handle (.ok ()) d'
  | broken {d' window why ops} (still : Locked handle d')
      (reserved : owned d.surfaces Surface.window? handle = some window)
      (cleaned : d.recipe.clean window = (.error why, ops)) :
      Cleans d handle (.error (.broken why)) d'

theorem UnlockEnds.cleans {result : Except Failure Unit} {d' : Driver}
    (ends : d.UnlockEnds handle result d') : d.Cleans handle result d' := by
  cases ends with
  | unknown missing =>
    refine .spared rfl id (fun _ found => ?_) (by rintro _ ⟨⟩)
    cases missing.symm.trans found
  | idle found unlocked =>
    refine .spared rfl id (fun _ found' => ?_) (by rintro _ ⟨⟩)
    cases found.symm.trans found'
    rw [Surface.lockCount_of_unlocked unlocked]
    exact Nat.zero_ne_one
  | nested found locked more =>
    refine .spared rfl (fun _ => .of_find? (OrderedMap.find?_insert_self ..) rfl)
      (fun _ found' => ?_) (by rintro _ ⟨⟩)
    cases found.symm.trans found'
    rw [Surface.lockCount_locked locked, more]
    exact Nat.succ_succ_ne_one _
  | @last layout permanent _ _ _ found locked _ cleaned =>
    refine .ended (.of_find? found locked) ?_ (owned_of_find? _ found) cleaned rfl
    rintro ⟨surface, found', held⟩
    cases (OrderedMap.find?_insert ..).symm.trans found' |>.symm.trans (if_pos rfl)
    cases permanent <;> exact held rfl
  | broken found locked _ cleaned =>
    exact .broken (.of_find? found locked) (owned_of_find? _ found) cleaned

theorem UntrackEnds.cleans {result : Except Failure Unit} {d' : Driver}
    (ends : d.UntrackEnds handle result d') : d.Cleans handle result d' := by
  have mine {surface : Surface} (found : d.surfaces.find? handle = some surface) {layout : Tiled}
      (tiled : surface.setup = .tiled layout) :
      owned d.surfaces Surface.window? handle = some layout.window := by
    rw [owned_of_find? _ found, Surface.window?, Surface.tiled?, tiled]
    rfl
  cases ends with
  | unknown missing =>
    refine .spared rfl id (fun _ found => ?_) (by rintro _ ⟨⟩)
    cases missing.symm.trans found
  | @broken surface layout slot session _ _ found tiled locked cleaned =>
    refine .broken ⟨surface, found, ?_⟩ (mine found tiled) cleaned
    rw [Surface.session?_eq_some.mpr ⟨layout, slot, tiled, locked⟩]
    simp
  | @removed surface _ _ _ _ _ found through _ cleared =>
    have ends := d.forceUnlock_ends surface
    rw [through] at ends
    generalize (d.forceUnlock surface).2 = forced at ends cleared
    cases ends with
    | idle free =>
      refine .spared cleared ?_ ?_ (by rintro _ ⟨⟩)
      · rintro ⟨_, found', held⟩
        cases found.symm.trans found'
        exact absurd free held
      · intro _ found'
        cases found.symm.trans found'
        rw [Surface.lockCount_of_unlocked free]
        exact Nat.zero_ne_one
    | @closed layout slot session _ tiled locked cleaned =>
      refine .ended ⟨surface, found, ?_⟩ ?_ (mine found tiled) cleaned cleared
      · rw [Surface.session?_eq_some.mpr ⟨layout, slot, tiled, locked⟩]
        simp
      · rintro ⟨_, found', _⟩
        cases (OrderedMap.find?_erase ..).symm.trans found' |>.symm.trans (if_pos rfl)

theorem Cleans.result {result : Except Failure Unit} {d' : Driver} {surface : Surface}
    (cleans : d.Cleans handle result d') (found : d.surfaces.find? handle = some surface)
    (single : surface.lockCount = 1) (shown : surface.window? = some window) :
    result = (d.recipe.clean window).1.mapError .broken := by
  have reserved : owned d.surfaces Surface.window? handle = some window :=
    (owned_of_find? _ found).trans shown
  cases cleans with
  | spared _ _ other => exact absurd single (other surface found)
  | ended _ _ reserved' cleaned | broken _ reserved' cleaned =>
    cases reserved.symm.trans reserved'
    rw [cleaned]
    rfl

theorem step_begins {command : Command} (unlocked : ¬ Locked handle d)
    (locked : Locked handle (d.step command).2) :
    ∃ direction window, command = .lock handle direction ∧
      owned d.surfaces Surface.window? handle = some window ∧
      owned (d.step command).2.surfaces Surface.window? handle = some window ∧
      (d.step command).2.cache = d.cache ++ direction.maintenance window := by
  have turn := d.step_turn command handle
  obtain ⟨surface', found', held⟩ := id locked
  rw [found'] at turn
  cases found : d.surfaces.find? handle with
  | none =>
    rw [found] at turn
    obtain ⟨_, _, rfl⟩ := turn.appears
    exact absurd rfl held
  | some surface =>
    rw [found] at turn
    obtain ⟨session, holds⟩ := Option.ne_none_iff_exists'.mp held
    rcases turn.locked holds with ⟨earlier, was, _⟩ | ⟨_, rfl, _⟩
    · exact absurd ⟨surface, found, by simp [was]⟩ unlocked
    rcases (d.lock_ends handle session.direction).cache with ⟨_, was⟩ | ⟨_, _, window, begun⟩
    · exact absurd (was locked) unlocked
    · exact ⟨session.direction, window, rfl, begun⟩

theorem step_stays {command : Command} (locked : Locked handle d)
    (still : Locked handle (d.step command).2) :
    owned (d.step command).2.surfaces Surface.window? handle =
      owned d.surfaces Surface.window? handle := by
  obtain ⟨surface, found, held⟩ := locked
  obtain ⟨surface', found', _⟩ := still
  have turn := d.step_turn command handle
  rw [found, found'] at turn
  rw [owned_of_find? _ found, owned_of_find? _ found']
  exact (turn.alike fun _ _ => held).window

/-- Only an unlock or the removal of a surface ends its session. -/
theorem step_ends {last : Command} (locked : Locked handle d)
    (unlocked : ¬ Locked handle (d.step last).2) :
    (last = .untrack handle ∨ ∃ direction, last = .unlock handle direction) ∧
      ∃ window ops, owned d.surfaces Surface.window? handle = some window ∧
        d.recipe.clean window = (.ok (), ops) ∧ (d.step last).2.cache = d.cache ++ ops := by
  have turn := d.step_turn last handle
  obtain ⟨surface, found, held⟩ := id locked
  have named : last = .untrack handle ∨ ∃ direction, last = .unlock handle direction := by
    rw [found] at turn
    cases found' : (d.step last).2.surfaces.find? handle with
    | none =>
      rw [found'] at turn
      exact .inl turn.disappears
    | some surface' =>
      rw [found'] at turn
      have free : surface'.session? = none := by
        rw [← Option.not_isSome_iff_eq_none, Option.isSome_iff_ne_none]
        exact fun holds => unlocked ⟨surface', found', holds⟩
      exact .inr (turn.unlocked held free).1
  have cleans : ∃ result, d.Cleans handle result (d.step last).2 := by
    rcases named with rfl | ⟨direction, rfl⟩
    · exact ⟨_, (d.untrack_ends handle).cleans⟩
    · exact ⟨_, (d.unlock_ends handle direction).cleans⟩
  refine ⟨named, ?_⟩
  obtain ⟨result, cleans⟩ := cleans
  cases cleans with
  | spared _ still => exact absurd (still locked) unlocked
  | broken still => exact absurd still unlocked
  | ended _ _ reserved cleaned added => exact ⟨_, _, reserved, cleaned, added⟩

/-- Where no session begins or ends, the driver leaves the cache alone, unless it breaks off. -/
theorem step_leaves {command : Command} (own : ∀ op, command ≠ .platform (.maintain op))
    (answered : ∀ why, (d.step command).1 ≠ .broken why)
    (same : ∀ handle, Locked handle (d.step command).2 ↔ Locked handle d) :
    (d.step command).2.cache = d.cache := by
  have spares {handle : Handle} {result : Except Failure Unit} {d' : Driver}
      (cleans : d.Cleans handle result d') (still : Locked handle d' ↔ Locked handle d)
      (told : ∀ why, Outcome.ofResult result ≠ .broken why) : d'.cache = d.cache := by
    cases cleans with
    | spared kept => exact kept
    | ended locked unlocked => exact absurd (still.mpr locked) unlocked
    | broken => exact absurd rfl (told _)
  cases command with
  | platform other =>
    cases other with
    | maintain op => exact absurd rfl (own op)
    | _ => rfl
  | track handle => exact (d.track_ends handle).cache
  | configure handle a => exact (d.configure_ends handle a).cache
  | lock handle direction =>
    rcases (d.lock_ends handle direction).cache with ⟨kept, _⟩ | ⟨unlocked, locked, _⟩
    · exact kept
    · exact absurd ((same handle).mp locked) unlocked
  | unlock handle direction =>
    exact spares (d.unlock_ends handle direction).cleans (same _) answered
  | setPermanent handle on => exact (d.setPermanent_ends handle on).cache
  | untrack handle => exact spares (d.untrack_ends handle).cleans (same _) answered
  | attributes | interrupt | takeReports => rfl

theorem Outcome.ofUnit_ne_broken (result : Except Error Unit) (why : Cache.Break) :
    ofUnit result ≠ .broken why := by
  cases result <;> nofun

theorem Outcome.ofAttributes_ne_broken (result : Except Error Attributes) (why : Cache.Break) :
    ofAttributes result ≠ .broken why := by
  cases result <;> nofun

/-- Only cleaning the window of a surface breaks off. -/
theorem step_broken {command : Command} {why : Cache.Break}
    (broken : (d.step command).1 = .broken why) :
    ∃ handle window ops, owned d.surfaces Surface.window? handle = some window ∧
      d.recipe.clean window = (.error why, ops) := by
  have breaks {handle : Handle} {result : Except Failure Unit} {d' : Driver}
      (cleans : d.Cleans handle result d') (told : Outcome.ofResult result = .broken why) :
      ∃ handle window ops, owned d.surfaces Surface.window? handle = some window ∧
        d.recipe.clean window = (.error why, ops) := by
    rcases result with (error | cause) | done
    · cases told
    · cases told
      cases cleans with
      | spared _ _ _ answered => exact absurd rfl (answered _)
      | broken _ reserved cleaned => exact ⟨_, _, _, reserved, cleaned⟩
    · cases told
  cases command with
  | unlock handle direction => exact breaks (d.unlock_ends handle direction).cleans broken
  | untrack handle => exact breaks (d.untrack_ends handle).cleans broken
  | track | configure | lock | setPermanent => exact absurd broken (Outcome.ofUnit_ne_broken _ _)
  | attributes => exact absurd broken (Outcome.ofAttributes_ne_broken _ _)
  | platform | interrupt | takeReports => cases broken

/-- A surface becomes locked by the first command, and stays locked through the others. -/
structure Spell (d : Driver) (handle : Handle) (first : Command) (inner : List Command) :
    Prop where
  unlocked : ¬ Locked handle d
  locked : Throughout (Locked handle) (d.step first).2 inner

theorem window_throughout {inner : List Command} (locked : Throughout (Locked handle) d inner) :
    owned (d.run inner).surfaces Surface.window? handle =
      owned d.surfaces Surface.window? handle := by
  induction inner generalizing d with
  | nil => rfl
  | cons command inner ih =>
    obtain ⟨held, rest⟩ := locked
    exact (ih rest).trans (step_stays held rest.start)

theorem ShapesKept.window_pos (kept : d.ShapesKept)
    (reserved : owned d.surfaces Surface.window? handle = some window) : 0 < window.size := by
  obtain ⟨⟨setup, permanent⟩, found, shown⟩ := owned_eq_some.mp reserved
  cases setup with
  | unconfigured | linear => cases shown
  | tiled layout =>
    cases shown
    exact ((kept handle _ found).tiled layout rfl).pages.1

theorem Spell.begins {first : Command} {inner : List Command} (spell : d.Spell handle first inner) :
    ∃ direction window, first = .lock handle direction ∧
      owned d.surfaces Surface.window? handle = some window ∧
      owned (d.run (first :: inner)).surfaces Surface.window? handle = some window ∧
      (d.step first).2.cache =
        d.cache ++ if direction = .write then [] else [⟨.invalidate, window⟩] := by
  obtain ⟨direction, window, begun, before, after, added⟩ :=
    step_begins spell.unlocked spell.locked.start
  rw [direction.maintenance_eq] at added
  exact ⟨direction, window, begun, before, (window_throughout spell.locked).trans after, added⟩

/-- The cache along every run. A session begins with a lock, which invalidates the window of the
surface unless the processor is only to write. The session ends with an unlock or the removal of
the surface, and then the driver cleans that same window, in the way that the configuration and the
engine's revision ask for. A request that is answered and neither begins nor ends a session leaves
the cache alone, and every request is answered as long as a line behind every window fits 64
bits. -/
theorem cache_maintained {config : Config} {platform : Platform}
    (up : bringUp config platform = .ok d) (commands : List Command) :
    (∀ handle first inner, (d.run commands).Spell handle first inner →
      ∃ direction window, first = .lock handle direction ∧
        owned (d.run commands).surfaces Surface.window? handle = some window ∧
        ((d.run commands).step first).2.cache = (d.run commands).cache ++
          (if direction = .write then [] else [⟨.invalidate, window⟩]) ∧
        ∀ last, ¬ Locked handle (d.run (commands ++ first :: (inner ++ [last]))) →
          window.stop + config.cacheLineBytes.toNat < Word.limit →
          (last = .untrack handle ∨ ∃ direction, last = .unlock handle direction) ∧
          ∃ cleans, (d.run (commands ++ first :: (inner ++ [last]))).cache =
              (d.run (commands ++ first :: inner)).cache ++ cleans ∧
            (config.recipe platform.engine.version).Cleans window cleans) ∧
    (∀ command, (∀ op, command ≠ .platform (.maintain op)) →
      (∀ why, ((d.run commands).step command).1 ≠ .broken why) →
      (∀ handle, Locked handle ((d.run commands).step command).2 ↔
        Locked handle (d.run commands)) →
      ((d.run commands).step command).2.cache = (d.run commands).cache) ∧
    ((∀ handle window, owned (d.run commands).surfaces Surface.window? handle = some window →
        window.stop + config.cacheLineBytes.toNat < Word.limit) →
      ∀ command why, ((d.run commands).step command).1 ≠ .broken why) := by
  have cleans {commands : List Command} {handle : Handle} {window : Region}
      (reserved : owned (d.run commands).surfaces Surface.window? handle = some window)
      (room : window.stop + config.cacheLineBytes.toNat < Word.limit) :
      ∃ ops, (config.recipe platform.engine.version).Cleans window ops ∧
        (d.run commands).recipe.clean window = (.ok (), ops) := by
    rw [recipe_run up]
    apply Cache.Recipe.cleans_clean (((ShapesKept.start up).run commands).window_pos reserved)
    intro line delay asked
    cases Config.line_of_recipe asked
    exact ⟨Config.cacheLineBytes_ne_zero (bringUp_checked up), room⟩
  refine ⟨?_, fun _ => step_leaves, ?_⟩
  case refine_2 =>
    intro room command why broken
    obtain ⟨handle, window, ops, reserved, broke⟩ := step_broken broken
    obtain ⟨_, _, cleaned⟩ := cleans reserved (room handle window reserved)
    cases broke.symm.trans cleaned
  intro handle first inner spell
  obtain ⟨direction, window, begun, before, after, added⟩ := spell.begins
  refine ⟨direction, window, begun, before, added, ?_⟩
  intro last unlocked room
  have split : commands ++ first :: (inner ++ [last]) = commands ++ first :: inner ++ [last] := by
    simp
  have locked : Locked handle (d.run (commands ++ first :: inner)) := by
    rw [run_split]
    exact spell.locked.final
  rw [← run_append] at after
  rw [split, run_snoc] at unlocked ⊢
  obtain ⟨named, window', ops, reserved, cleaned, added⟩ := step_ends locked unlocked
  -- The window at the end is the one of the beginning, for the surface was locked throughout.
  cases after.symm.trans reserved
  obtain ⟨ops', swept, cleaned'⟩ := cleans reserved room
  cases cleaned.symm.trans cleaned'
  exact ⟨named, ops, added, swept⟩

/-- The session of the surface in the short run cleans one page, in lines of 64 bytes. -/
theorem cache_maintained_shortRun :
    ∃ d cleans, bringUp {} { engine := { version := ⟨1, 1⟩ } } = .ok d ∧
      (d.run (shortRun.dropLast ++ [.lock 1 .read, .setPermanent 1 true, .unlock 1 .write])).cache =
        (d.run (shortRun.dropLast ++ [.lock 1 .read, .setPermanent 1 true])).cache ++ cleans ∧
      Cache.Swept 64 ⟨0x100000000, pageSize⟩ cleans := by
  obtain ⟨d, surface, surface', up, whole, _⟩ := exists_wholeSession
  have computed : (bringUp {} { engine := { version := ⟨1, 1⟩ } }).toOption.any (fun d =>
      owned (d.run shortRun.dropLast).surfaces Surface.window? 1 =
        some ⟨0x100000000, pageSize⟩) = true := by
    decide +kernel
  obtain ⟨_, up', ran⟩ := exists_up computed
  cases up.symm.trans up'
  have spell : (d.run shortRun.dropLast).Spell 1 (.lock 1 .read) [.setPermanent 1 true] := by
    refine ⟨?_, whole.locked⟩
    rintro ⟨_, found, held⟩
    cases whole.before.symm.trans found
    exact held whole.unlocked
  obtain ⟨_, window, _, reserved, _, ends⟩ :=
    (cache_maintained up shortRun.dropLast).1 1 _ _ spell
  cases (of_decide_eq_true ran).symm.trans reserved
  have unlocked : ¬ Locked 1 (d.run (shortRun.dropLast ++
      .lock 1 .read :: ([.setPermanent 1 true] ++ [.unlock 1 .write]))) := by
    rw [run_append]
    rintro ⟨_, found, held⟩
    cases whole.after.symm.trans found
    exact held whole.unlocked'
  obtain ⟨_, cleans, added, swept⟩ := ends _ unlocked (by decide)
  simp only [List.cons_append, List.nil_append] at added
  exact ⟨d, cleans, up, added, swept⟩

end Driver

end TiledSurface
