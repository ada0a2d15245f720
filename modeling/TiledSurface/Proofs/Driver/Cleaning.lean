import TiledSurface.Proofs.Driver.Maintenance
import TiledSurface.Proofs.Driver.Reservations
import TiledSurface.Proofs.Window.Partition

/-!
The arithmetic of cleaning line by line, for every accepted configuration and every window that its
pool hands out. The check of a configuration keeps windows inside 64 bits but lets any line size
pass that is not zero. The address behind the last line may be too large then, and computing it
breaks the work off: the window is clean, but the request that asked for it gets no answer, and the
session does not end.
-/

namespace TiledSurface

open WindowPool (ofRegion)

variable {config : Config} {version : Version} {line delay : UInt64}

theorem Config.exists_pool (checked : config.check = .ok ()) :
    ∃ pool, ofRegion config.pool = .ok pool :=
  ⟨_, WindowPool.ofRegion_pool (config.check_eq_ok_iff.mp checked)⟩

theorem WindowPool.Sound.clean_perLine {pool : WindowPool} {window : Region}
    (sound : pool.Sound config.pool) (live : pool.Reserves window)
    (checked : config.check = .ok ()) (asked : config.recipe version = .perLine line delay) :
    ∃ ops, Cache.Swept line.toNat window ops ∧
      (config.recipe version).clean window =
        (if window.base + line.toNat * Word.ceilDiv window.size line.toNat < Word.limit then .ok ()
          else .error .overflow, ops) := by
  rw [asked, Config.line_of_recipe asked]
  exact Cache.Recipe.clean_perLine (sound.pages window live).1 (sound.stop_lt live)
    (Config.cacheLineBytes_ne_zero checked) delay

namespace Driver

/-- A request that ends a session is answered just if the address behind the last line of the
window fits 64 bits. -/
theorem ending_answered {d : Driver} {platform : Platform} (up : bringUp config platform = .ok d)
    (asked : config.recipe platform.engine.version = .perLine line delay)
    (commands : List Command) {handle : Handle} {surface : Surface} {window : Region}
    (found : (d.run commands).surfaces.find? handle = some surface)
    (shown : surface.window? = some window) (single : surface.lockCount = 1) {last : Command}
    (ends : last = .untrack handle ∨ ∃ direction, last = .unlock handle direction) :
    ((d.run commands).step last).1 =
      if window.base + line.toNat * Word.ceilDiv window.size line.toNat < Word.limit then .done
      else .broken .overflow := by
  have kept := (PoolKept.start up).run commands
  have live := kept.ledger.held ((owned_of_find? Surface.window? found).trans shown)
  have sound : (d.run commands).pool.Sound config.pool := config_bringUp up commands ▸ kept.sound
  obtain ⟨ops, _, cleaned⟩ := sound.clean_perLine live (bringUp_checked up) asked
  have recipe := recipe_run up commands
  have told : ∃ result, ((d.run commands).step last).1 = .ofResult result ∧
      result = ((d.run commands).recipe.clean window).1.mapError .broken := by
    rcases ends with rfl | ⟨direction, rfl⟩
    · have cleans := ((d.run commands).untrack_ends handle).cleans
      exact ⟨_, rfl, cleans.result found single shown⟩
    · have cleans := ((d.run commands).unlock_ends handle direction).cleans
      exact ⟨_, rfl, cleans.result found single shown⟩
  obtain ⟨_, told, rfl⟩ := told
  rw [told, recipe, cleaned]
  split <;> rfl

end Driver

namespace Cache

/-- Of every accepted configuration that has windows cleaned line by line, and of every window that
its pool hands out: cleaning covers the window and no address outside it. All its sums and
differences stay inside 64 bits just if the address behind the last line does, and otherwise that
sum breaks it off. An unlock or a removal that ends a session is answered in the one case, and gets
no answer in the other. -/
theorem cleaning_fits_iff (checked : config.check = .ok ())
    (asked : config.recipe version = .perLine line delay) :
    (∃ pool, ofRegion config.pool = .ok pool ∧
      ∀ commands, ∀ window ∈ (pool.run commands).reservations,
        ∃ ops, Swept line.toNat window ops ∧
          (∀ op ∈ ops, ∀ address, op.region.Contains address → window.Contains address) ∧
          (SumsFit line.toNat window ops ↔
            window.base + line.toNat * Word.ceilDiv window.size line.toNat < Word.limit) ∧
          (config.recipe version).clean window =
            (if window.base + line.toNat * Word.ceilDiv window.size line.toNat < Word.limit then
              .ok () else .error .overflow, ops)) ∧
    ∀ platform d, Driver.bringUp config platform = .ok d → platform.engine.version = version →
      ∀ commands handle surface window,
        (d.run commands).surfaces.find? handle = some surface → surface.window? = some window →
        surface.lockCount = 1 →
        ∀ last, (last = .untrack handle ∨ ∃ direction, last = .unlock handle direction) →
          ((d.run commands).step last).1 =
            if window.base + line.toNat * Word.ceilDiv window.size line.toNat < Word.limit then
              .done else .broken .overflow := by
  constructor
  case right =>
    rintro platform d up rfl commands handle surface window found shown single last ends
    exact Driver.ending_answered up asked commands found shown single ends
  obtain ⟨pool, made⟩ := Config.exists_pool checked
  refine ⟨pool, made, fun commands window member => ?_⟩
  have sound := (WindowPool.sound_of_ofRegion made).1.run commands
  have live := WindowPool.mem_reservations.mp member
  obtain ⟨ops, covers, cleaned⟩ := sound.clean_perLine live checked asked
  exact ⟨ops, covers, fun op member address => covers.inside member,
    covers.sumsFit_iff (sound.stop_lt live), cleaned⟩

/-- With lines of 64 bytes, cleaning the first page of the pool stays inside 64 bits, and the unlock
that asks for it is answered. -/
theorem cleaning_fits_iff_firstPage :
    Config.check {} = .ok () ∧ Config.recipe {} ⟨1, 1⟩ = .perLine 64 89 ∧
      (∃ pool ops, ofRegion (Config.pool {}) = .ok pool ∧
        ⟨0x100000000, pageSize⟩ ∈ (pool.run [.reserve pageSize]).reservations ∧
        SumsFit 64 ⟨0x100000000, pageSize⟩ ops ∧
        (Config.recipe {} ⟨1, 1⟩).clean ⟨0x100000000, pageSize⟩ = (.ok (), ops)) ∧
      ∃ d, Driver.bringUp {} { engine := { version := ⟨1, 1⟩ } } = .ok d ∧
        ((d.run Driver.shortRun).step (.unlock 1 .read)).1 = .done := by
  have checked : Config.check {} = .ok () := by decide
  have asked : Config.recipe {} ⟨1, 1⟩ = .perLine 64 89 := rfl
  have reserved : ((ofRegion (Config.pool {})).toOption.any fun pool =>
      ⟨0x100000000, pageSize⟩ ∈ (pool.run [.reserve pageSize]).reservations) = true := by
    decide +kernel
  have computed : (Driver.bringUp {} { engine := { version := ⟨1, 1⟩ } }).toOption.any (fun d =>
      ((d.run Driver.shortRun).surfaces.find? 1).any (fun surface =>
        surface.window? = some ⟨0x100000000, pageSize⟩ ∧ surface.lockCount = 1)) = true := by
    decide +kernel
  obtain ⟨⟨pool, made, windows⟩, ends⟩ := cleaning_fits_iff checked asked
  refine ⟨checked, asked, ?_, ?_⟩
  · rw [made] at reserved
    have member := of_decide_eq_true reserved
    obtain ⟨ops, _, _, fits, cleaned⟩ := windows _ _ member
    exact ⟨pool, ops, made, member, fits.mpr (by decide), cleaned⟩
  · obtain ⟨d, up, ran⟩ := Driver.exists_up computed
    obtain ⟨surface, found, held⟩ := (Option.any_eq_true _ _).mp ran
    obtain ⟨shown, single⟩ := of_decide_eq_true held
    have answered := ends _ d up rfl _ 1 surface _ found shown single _ (.inr ⟨.read, rfl⟩)
    rw [if_pos (by decide)] at answered
    exact ⟨d, up, answered⟩

/-- Lines of four gigabytes less than all addresses. -/
def wideLines : Config where
  cleaning := .perLine
  cacheLineBytes := 0xFFFFFFFF00000000

/-- Such lines pass the check, but the first of them ends behind all addresses, wherever in the
pool it begins. No unlock ends a session then. -/
theorem wideLines_overflow :
    wideLines.check = .ok () ∧ wideLines.recipe ⟨1, 1⟩ = .perLine wideLines.cacheLineBytes 89 ∧
      (∃ pool window ops, ofRegion wideLines.pool = .ok pool ∧
        window ∈ (pool.run [.reserve pageSize]).reservations ∧
        (wideLines.recipe ⟨1, 1⟩).clean window = (.error .overflow, ops) ∧
        ¬ SumsFit wideLines.cacheLineBytes.toNat window ops) ∧
      ∃ d, Driver.bringUp wideLines { engine := { version := ⟨1, 1⟩ } } = .ok d ∧
        ((d.run Driver.shortRun).step (.unlock 1 .read)).1 = .broken .overflow := by
  refine ⟨by decide, rfl, ?_, ?_⟩
  · have made : ofRegion wideLines.pool = .ok (WindowPool.spanning wideLines.pool) := rfl
    refine ⟨_, ⟨0x100000000, pageSize⟩, [⟨.clean, ⟨0x100000000, pageSize⟩⟩], made,
      by decide +kernel, by decide +kernel, ?_⟩
    intro fits
    exact absurd (fits.next _ List.mem_cons_self) (by decide)
  · have computed : (Driver.bringUp wideLines { engine := { version := ⟨1, 1⟩ } }).toOption.any
        (fun d => ((d.run Driver.shortRun).unlock 1 .read).1 = .error (.broken .overflow)) =
          true := by
      decide +kernel
    obtain ⟨d, up, ran⟩ := Driver.exists_up computed
    have told := of_decide_eq_true ran
    refine ⟨d, up, ?_⟩
    generalize d.run Driver.shortRun = locked at told ⊢
    exact congrArg Driver.Outcome.ofResult told

end Cache

end TiledSurface
