import TiledSurface.Driver.Basic
import TiledSurface.Proofs.Fault.Accounts

namespace TiledSurface

/-- A configuration with which an engine can be brought up. -/
structure Config.Admissible (c : Config) : Prop where
  nonempty : c.poolSize ≠ 0
  baseAligned : pageSize ∣ c.poolBase.toNat
  sizeAligned : pageSize ∣ c.poolSize.toNat
  inside : c.poolBase.toNat + c.poolSize.toNat < Word.limit
  table : c.tableBase ≠ 0
  cacheLine : c.cacheLineBytes ≠ 0
  /-- No two kinds of fault share a line. -/
  lines : Function.Injective c.lines.get

theorem Config.check_eq_ok_iff_holds (c : Config) :
    c.check = .ok () ↔ ∀ rule ∈ rules, rule.holds c = true := by
  have unbroken_iff : (∀ rule ∈ rules, rule.holds c = true) ↔
      rules.find? (fun rule => !rule.holds c) = none := by
    simp
  rw [unbroken_iff, check]
  cases rules.find? fun rule => !rule.holds c with
  | none => exact iff_of_true rfl rfl
  | some rule => exact iff_of_false nofun nofun

theorem Config.check_eq_ok_iff (c : Config) : c.check = .ok () ↔ c.Admissible := by
  rw [check_eq_ok_iff_holds]
  simp only [rules, List.forall_mem_cons, decide_eq_true_eq, InterruptLines.nodup_iff]
  constructor
  · rintro ⟨⟨nonempty, base, size⟩, inside, table, cacheLine, lines, -⟩
    exact ⟨nonempty, Nat.dvd_of_mod_eq_zero base, Nat.dvd_of_mod_eq_zero size, inside, table,
      cacheLine, lines⟩
  · rintro ⟨nonempty, base, size, inside, table, cacheLine, lines⟩
    exact ⟨⟨nonempty, Nat.mod_eq_zero_of_dvd base, Nat.mod_eq_zero_of_dvd size⟩, inside, table,
      cacheLine, lines, nofun⟩

theorem WindowPool.ofRegion_pool {c : Config} (admissible : c.Admissible) :
    ofRegion c.pool = .ok (spanning c.pool) := by
  have nonempty : c.poolSize.toNat ≠ 0 := fun zero =>
    admissible.nonempty (UInt64.toNat_inj.mp zero)
  have base := Nat.mod_eq_zero_of_dvd admissible.baseAligned
  have size := Nat.mod_eq_zero_of_dvd admissible.sizeAligned
  have inside : ¬ Word.limit ≤ c.pool.stop := Nat.not_le.mpr admissible.inside
  rw [ofRegion, if_neg, if_neg inside]
  simp [Config.pool, nonempty, base, size]

theorem WindowPool.available_spanning (region : Region) :
    (spanning region).available = region.size := by
  simp [spanning, available, Holes.add, Holes.total, Hole.size, Region.stop]

namespace Driver

variable {config : Config} {platform : Platform} {d : Driver}

def launched (config : Config) (platform : Platform) : Driver where
  toPlatform := { platform with
    engine := switchInterrupts (platform.engine.setTable config.tableBase.toNat blockSize) true }
  config := config
  pool := .spanning config.pool
  faults := {
    lines := config.lines
    limit := config.reportLimit
    depth := config.queueDepth.toNat }

/-- The ends of bringing a driver up. Whatever refuses comes before the first write. -/
theorem bringUp_cases (config : Config) (platform : Platform) :
    (∃ fault, config.check = .error fault ∧
      bringUp config platform = .error (.invalidConfig fault, platform)) ∨
    (config.Admissible ∧ platform.engine.version.major = 0 ∧
      bringUp config platform =
        .error (.unsupportedHardware platform.engine.version, platform)) ∨
    (config.Admissible ∧ platform.engine.version.major ≠ 0 ∧
      bringUp config platform = .ok (launched config platform)) := by
  unfold bringUp
  cases checked : config.check with
  | error fault => exact .inl ⟨fault, rfl, rfl⟩
  | ok done =>
    have admissible := config.check_eq_ok_iff.mp checked
    refine .inr ?_
    by_cases unknown : platform.engine.version.major = 0
    · exact .inl ⟨admissible, unknown, if_pos unknown⟩
    · refine .inr ⟨admissible, unknown, ?_⟩
      dsimp only
      rw [if_neg unknown, WindowPool.ofRegion_pool admissible]
      rfl

theorem bringUp_iff :
    bringUp config platform = .ok d ↔
      config.Admissible ∧ platform.engine.version.major ≠ 0 ∧ d = launched config platform := by
  rcases bringUp_cases config platform with
    ⟨fault, checked, refused⟩ | ⟨_, unknown, refused⟩ | ⟨admissible, known, up⟩
  · refine iff_of_false (by simp [refused]) fun given => ?_
    cases checked.symm.trans (config.check_eq_ok_iff.mpr given.1)
  · exact iff_of_false (by simp [refused]) fun given => given.2.1 unknown
  · simp [up, admissible, known, eq_comm]

theorem bringUp_refused {error : Error} {left : Platform}
    (refused : bringUp config platform = .error (error, left)) : left = platform := by
  rcases bringUp_cases config platform with ⟨_, _, ends⟩ | ⟨_, _, ends⟩ | ⟨_, _, ends⟩
  · cases ends.symm.trans refused
    rfl
  · cases ends.symm.trans refused
    rfl
  · cases ends.symm.trans refused

theorem bringUp_checked (up : bringUp config platform = .ok d) : config.check = .ok () :=
  config.check_eq_ok_iff.mpr (bringUp_iff.mp up).1

/-- A driver that has just been brought up tracks no surface and holds no slot. -/
theorem bringUp_eq_ok (up : bringUp config platform = .ok d) :
    ∃ engine pool faults, d = { platform with engine, config, pool, faults } ∧
      WindowPool.ofRegion config.pool = .ok pool ∧
      engine.windows = platform.engine.windows ∧ engine.version = platform.engine.version ∧
      engine.flushes = platform.engine.flushes := by
  obtain ⟨admissible, _, rfl⟩ := bringUp_iff.mp up
  exact ⟨_, _, _, rfl, WindowPool.ofRegion_pool admissible, rfl, rfl, rfl⟩

theorem events_launched (config : Config) (platform : Platform) :
    (launched config platform).engine.events = platform.engine.events ++
      .setTable config.tableBase.toNat blockSize ::
        FaultKind.all.map fun kind => .enableInterrupt kind true := by
  simp [launched, switchInterrupts, FaultKind.all, Engine.setTable, Engine.enableInterrupt,
    Engine.log]

theorem table_launched (config : Config) (platform : Platform) :
    (launched config platform).engine.table = some (config.tableBase.toNat, blockSize) :=
  if_neg fun none => absurd none.2 (by decide)

theorem interrupts_launched (config : Config) (platform : Platform) (kind : FaultKind) :
    (launched config platform).engine.interrupts.get kind = true := by
  cases kind <;> rfl

/-- A driver is brought up on a fresh platform just with an admissible configuration and an engine
of a known revision, and the pool never refuses what the check lets pass. A refusal leaves engine,
hot-plug service and cache log untouched. Success is logged as the writes of the table and of the
four interrupts; every interrupt is enabled, no window is programmed, the whole pool is available,
and no surface is tracked. -/
theorem bringUp_all_or_nothing (config : Config) (version : Version) :
    let platform : Platform := { engine := { version } }
    ((∃ d, bringUp config platform = .ok d) ↔ config.Admissible ∧ version.major ≠ 0) ∧
    (config.check = .ok () → ∃ pool, WindowPool.ofRegion config.pool = .ok pool) ∧
    (∀ error left, bringUp config platform = .error (error, left) →
      left.engine.events = [] ∧ left.hotplug = {} ∧ left.cache = [] ∧ left = platform) ∧
    (∀ d, bringUp config platform = .ok d →
      d.engine.events = [.setTable config.tableBase.toNat blockSize,
        .enableInterrupt .read true, .enableInterrupt .write true,
        .enableInterrupt .decode true, .enableInterrupt .encode true] ∧
      d.engine.table = some (config.tableBase.toNat, blockSize) ∧
      (∀ kind, d.engine.interrupts.get kind = true) ∧
      d.engine.windows = .empty ∧
      d.pool.available = config.poolSize.toNat ∧ d.pool.reservations = [] ∧
      d.surfaces = .empty ∧
      d.hotplug = {} ∧ d.cache = []) := by
  intro platform
  refine ⟨?_, fun checked => ?_, fun error left refused => ?_, fun d up => ?_⟩
  · simp [bringUp_iff, platform]
  · exact ⟨_, WindowPool.ofRegion_pool (config.check_eq_ok_iff.mp checked)⟩
  · rw [bringUp_refused refused]
    exact ⟨rfl, rfl, rfl, rfl⟩
  · obtain ⟨_, _, rfl⟩ := bringUp_iff.mp up
    exact ⟨events_launched config platform, table_launched config platform,
      interrupts_launched config platform, rfl, WindowPool.available_spanning config.pool, rfl, rfl,
      rfl, rfl⟩

end Driver

end TiledSurface
