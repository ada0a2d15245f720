import Mathlib.Algebra.GroupWithZero.Nat
import Mathlib.Data.List.DropRight
import TiledSurface.Fault.Command

namespace TiledSurface

namespace InterruptLines

variable {lines : InterruptLines} {line : UInt32} {kind : FaultKind}

/-- The line is that of the kind, and of none before it. -/
def Owns (lines : InterruptLines) (kind : FaultKind) (line : UInt32) : Prop :=
  lines.get kind = line ∧ ∀ other ∈ FaultKind.all, other.bit < kind.bit → lines.get other ≠ line

instance (lines : InterruptLines) (kind : FaultKind) (line : UInt32) :
    Decidable (lines.Owns kind line) :=
  inferInstanceAs (Decidable (_ ∧ _))

theorem kind?_eq_some : lines.kind? line = some kind ↔ lines.Owns kind line := by
  unfold kind? Owns
  simp only [FaultKind.all, List.forall_mem_cons]
  by_cases first : lines.get .read = line
  · cases kind <;> simp [FaultKind.bit, first]
  by_cases second : lines.get .write = line
  · cases kind <;> simp [FaultKind.bit, first, second]
  by_cases third : lines.get .decode = line
  · cases kind <;> simp [FaultKind.bit, first, second, third]
  cases kind <;> simp [FaultKind.bit, first, second, third]

/-- If no two kinds share a line, a line belongs to the kind that has it. -/
theorem kind?_eq_some_iff (distinct : Function.Injective lines.get) :
    lines.kind? line = some kind ↔ lines.get kind = line := by
  rw [kind?_eq_some]
  refine ⟨fun owns => owns.1, fun own => ⟨own, fun other _ before same => ?_⟩⟩
  rw [distinct (same.trans own.symm)] at before
  exact Nat.lt_irrefl _ before

/-- The list of the lines is free of duplicates just if no two kinds share one. -/
theorem nodup_iff (lines : InterruptLines) :
    [lines.read, lines.write, lines.encode, lines.decode].Nodup ↔ Function.Injective lines.get := by
  constructor
  · intro nodup kind kind' same
    simp only [List.nodup_cons, List.mem_cons, List.not_mem_nil, or_false, not_or] at nodup
    obtain ⟨⟨notWrite, notEncode, notDecode⟩, ⟨notEncode', notDecode'⟩, notDecode'', -⟩ := nodup
    cases kind <;> cases kind' <;> simp_all [PerKind.get, eq_comm]
  · intro injective
    have apart (kind kind' : FaultKind) (different : kind ≠ kind') :
        lines.get kind ≠ lines.get kind' := injective.ne different
    simp only [List.nodup_cons, List.mem_cons, List.not_mem_nil, or_false, not_or]
    exact ⟨⟨apart .read .write nofun, apart .read .encode nofun, apart .read .decode nofun⟩,
      ⟨apart .write .encode nofun, apart .write .decode nofun⟩, apart .encode .decode nofun,
      not_false, .nil⟩

end InterruptLines

theorem rtake_append_rtake {α : Type} (items : List α) (item : α) (depth : Nat) :
    (items.rtake depth ++ [item]).rtake depth = (items ++ [item]).rtake depth := by
  cases depth with
  | zero => rw [List.rtake_zero, List.rtake_zero]
  | succ depth =>
    have fewer : (items.rtake (depth + 1)).rtake depth = items.rtake depth := by
      simp only [List.rtake_eq_reverse_take_reverse, List.reverse_reverse, List.take_take]
      rw [Nat.min_eq_left (Nat.le_succ depth)]
    rw [List.rtake_concat_succ, List.rtake_concat_succ, fewer]

namespace FaultWatch

variable {w w' : FaultWatch} {lines : InterruptLines} {line : UInt32} {kind : FaultKind}
  {command : Command} {commands : List Command}

def Command.isInterrupt : Command → Bool
  | .interrupt _ => true
  | _ => false

def Command.isKnown (lines : InterruptLines) : Command → Bool
  | .interrupt line => (lines.kind? line).isSome
  | _ => false

def Command.isOf (lines : InterruptLines) (kind : FaultKind) : Command → Bool
  | .interrupt line => lines.Owns kind line
  | _ => false

/-- What an interrupt reports, which the rate limit may forbid. -/
def report? (w : FaultWatch) : Command → Option FaultReport
  | .interrupt line =>
    if w.monitor.count < w.monitor.limit then
      (w.monitor.lines.kind? line).map fun kind => ⟨kind, w.engine.source kind * cacheLineSize⟩
    else none
  | _ => none

/-- An interrupt on a line of the engine that the rate limit forbids to report. -/
def suppresses (w : FaultWatch) (command : Command) : Bool :=
  command.isKnown w.monitor.lines && (w.report? command).isNone

/-- The queue with what an interrupt reports. -/
def queued (w : FaultWatch) (command : Command) : List FaultReport :=
  match w.report? command with
  | some report => (w.monitor.queue ++ [report]).rtake w.monitor.depth
  | none => w.monitor.queue

def reports : FaultWatch → List Command → List FaultReport
  | _, [] => []
  | w, command :: rest => (w.report? command).toList ++ reports (w.step command).2 rest

def suppressions : FaultWatch → List Command → Nat
  | _, [] => 0
  | w, command :: rest =>
    (if w.suppresses command then 1 else 0) + suppressions (w.step command).2 rest

theorem step_foreign (foreign : w.monitor.lines.kind? line = none) :
    w.step (.interrupt line) = (.interrupt none, w) := by
  rw [step, FaultMonitor.interrupt, foreign]

/-- An interrupt on a known line is charged to its kind, which the engine clears. -/
theorem step_known (mine : w.monitor.lines.kind? line = some kind) :
    w.step (.interrupt line) = (.interrupt (some kind), {
      engine := w.engine.clearInterrupt kind
      monitor := { w.monitor with
        totals := w.monitor.totals.set kind (w.monitor.totals.get kind + 1)
        count := w.monitor.count + 1
        suppressed := w.monitor.suppressed + if w.suppresses (.interrupt line) then 1 else 0
        queue := w.queued (.interrupt line) } }) := by
  by_cases allowed : w.monitor.count < w.monitor.limit
  · have told : w.report? (.interrupt line) =
        some ⟨kind, w.engine.source kind * cacheLineSize⟩ := by
      rw [report?, if_pos allowed, mine, Option.map_some]
    have passed : w.suppresses (.interrupt line) = false := by
      rw [suppresses, told, Option.isNone_some, Bool.and_false]
    rw [queued, told, passed, if_neg Bool.false_ne_true, UInt64.add_zero, step,
      FaultMonitor.interrupt, mine]
    dsimp only
    rw [FaultMonitor.note, if_pos allowed, FaultMonitor.enqueue, List.rtake, List.length_append,
      List.length_singleton]
  · have silent : w.report? (.interrupt line) = none := by
      rw [report?, if_neg allowed]
    have stopped : w.suppresses (.interrupt line) = true := by
      rw [suppresses, silent, Command.isKnown, mine]
      rfl
    rw [queued, silent, stopped, if_pos rfl, step, FaultMonitor.interrupt, mine]
    dsimp only
    rw [FaultMonitor.note, if_neg allowed]

/-- What a step is to the accounts. -/
structure Accounts (w : FaultWatch) (command : Command) (w' : FaultWatch) : Prop where
  lines : w'.monitor.lines = w.monitor.lines
  depth : w'.monitor.depth = w.monitor.depth
  totals : ∀ kind, w'.monitor.totals.get kind =
    w.monitor.totals.get kind + if command.isOf w.monitor.lines kind then 1 else 0
  suppressed : w'.monitor.suppressed =
    w.monitor.suppressed + if w.suppresses command then 1 else 0
  queue : command ≠ .takeReports → w'.monitor.queue = w.queued command

theorem isOf_interrupt (lines : InterruptLines) (kind : FaultKind) (line : UInt32) :
    (Command.interrupt line).isOf lines kind = (lines.kind? line == some kind) := by
  rw [Bool.eq_iff_iff, beq_iff_eq, InterruptLines.kind?_eq_some]
  exact decide_eq_true_iff

theorem Accounts.quiet (lines : w'.monitor.lines = w.monitor.lines)
    (depth : w'.monitor.depth = w.monitor.depth) (totals : w'.monitor.totals = w.monitor.totals)
    (suppressed : w'.monitor.suppressed = w.monitor.suppressed)
    (uncharged : ∀ kind, command.isOf w.monitor.lines kind = false)
    (unknown : command.isKnown w.monitor.lines = false)
    (queue : command ≠ .takeReports → w'.monitor.queue = w.queued command) :
    w.Accounts command w' where
  lines := lines
  depth := depth
  totals := fun kind => by rw [totals, uncharged, if_neg Bool.false_ne_true, UInt64.add_zero]
  suppressed := by
    rw [suppressed, suppresses, unknown, Bool.false_and, if_neg Bool.false_ne_true,
      UInt64.add_zero]
  queue := queue

theorem step_accounts (w : FaultWatch) (command : Command) :
    w.Accounts command (w.step command).2 := by
  cases command with
  | interrupt line =>
    cases owner : w.monitor.lines.kind? line with
    | none =>
      rw [step_foreign owner]
      apply Accounts.quiet rfl rfl rfl rfl
      · intro kind
        rw [isOf_interrupt, owner]
        rfl
      · rw [Command.isKnown, owner]
        rfl
      · intro _
        rw [queued, report?, owner, Option.map_none, ite_self]
    | some kind =>
      rw [step_known owner]
      refine ⟨rfl, rfl, fun other => ?_, rfl, fun _ => rfl⟩
      rw [isOf_interrupt, owner, PerKind.get_set]
      by_cases same : other = kind
      · simp [same]
      · simp [same, Ne.symm same]
  | raise | access | rearm => exact .quiet rfl rfl rfl rfl (fun _ => rfl) rfl fun _ => rfl
  | takeReports =>
    exact .quiet rfl rfl rfl rfl (fun _ => rfl) rfl fun other => absurd rfl other

theorem run_append (w : FaultWatch) (first second : List Command) :
    w.run (first ++ second) = (w.run first).run second :=
  List.foldl_append

theorem lines_run (w : FaultWatch) (commands : List Command) :
    (w.run commands).monitor.lines = w.monitor.lines := by
  induction commands generalizing w with
  | nil => rfl
  | cons command rest ih => exact (ih _).trans (w.step_accounts command).lines

theorem depth_run (w : FaultWatch) (commands : List Command) :
    (w.run commands).monitor.depth = w.monitor.depth := by
  induction commands generalizing w with
  | nil => rfl
  | cons command rest ih => exact (ih _).trans (w.step_accounts command).depth

theorem totals_run (w : FaultWatch) (commands : List Command) (kind : FaultKind) :
    (w.run commands).monitor.totals.get kind =
      w.monitor.totals.get kind + .ofNat (commands.countP (·.isOf w.monitor.lines kind)) := by
  induction commands generalizing w with
  | nil => simp [run]
  | cons command rest ih =>
    have accounts := w.step_accounts command
    change ((w.step command).2.run rest).monitor.totals.get kind = _
    rw [ih, accounts.totals, accounts.lines, List.countP_cons, UInt64.add_assoc,
      Nat.add_comm, UInt64.ofNat_add]
    congr 2
    split <;> rfl

theorem suppressed_run (w : FaultWatch) (commands : List Command) :
    (w.run commands).monitor.suppressed =
      w.monitor.suppressed + .ofNat (w.suppressions commands) := by
  induction commands generalizing w with
  | nil => simp [run, suppressions]
  | cons command rest ih =>
    change ((w.step command).2.run rest).monitor.suppressed = _
    rw [ih, (w.step_accounts command).suppressed, suppressions, UInt64.add_assoc,
      UInt64.ofNat_add]
    congr 2
    split <;> rfl

/-- Between two fetches the queue holds the last reports that fit it. -/
theorem queue_run (w : FaultWatch) {commands : List Command} (kept : .takeReports ∉ commands)
    {earlier : List FaultReport} (queue : w.monitor.queue = earlier.rtake w.monitor.depth) :
    (w.run commands).monitor.queue = (earlier ++ w.reports commands).rtake w.monitor.depth := by
  -- The reports so far go along: a new one pushes out those that do not fit any more.
  induction commands generalizing w earlier with
  | nil => rw [reports, List.append_nil]; exact queue
  | cons command rest ih =>
    have accounts := w.step_accounts command
    have other : command ≠ .takeReports := fun same => kept (same ▸ List.mem_cons_self ..)
    have next : (w.step command).2.monitor.queue =
        (earlier ++ (w.report? command).toList).rtake (w.step command).2.monitor.depth := by
      rw [accounts.queue other, accounts.depth, queued]
      cases w.report? command with
      | none => rw [Option.toList_none, List.append_nil]; exact queue
      | some report => rw [queue]; exact rtake_append_rtake ..
    have ran := ih (w.step command).2 (fun later => kept (List.mem_cons_of_mem _ later)) next
    rw [accounts.depth, List.append_assoc] at ran
    exact ran

theorem sum_owner (owner : Option FaultKind) :
    (FaultKind.all.map fun kind => if owner == some kind then 1 else 0).sum =
      if owner.isSome then 1 else 0 := by
  cases owner with
  | none => rfl
  | some kind => cases kind <;> rfl

theorem charged_once (lines : InterruptLines) (command : Command) :
    (FaultKind.all.map fun kind => if command.isOf lines kind then 1 else 0).sum =
      if command.isKnown lines then 1 else 0 := by
  cases command with
  | interrupt line =>
    simp only [isOf_interrupt]
    exact sum_owner (lines.kind? line)
  | raise | access | rearm | takeReports => rfl

theorem sum_isOf (lines : InterruptLines) (commands : List Command) :
    (FaultKind.all.map fun kind => commands.countP (·.isOf lines kind)).sum =
      commands.countP (·.isKnown lines) := by
  induction commands with
  | nil => rfl
  | cons command rest ih =>
    have once := charged_once lines command
    simp only [FaultKind.all, List.map_cons, List.map_nil, List.sum_cons, List.sum_nil,
      List.countP_cons] at ih once ⊢
    omega

theorem isKnown_of_report? {report : FaultReport} (told : w.report? command = some report) :
    command.isKnown w.monitor.lines = true := by
  cases command with
  | interrupt line =>
    cases owner : w.monitor.lines.kind? line with
    | none =>
      rw [report?, owner, Option.map_none, ite_self] at told
      cases told
    | some kind =>
      rw [Command.isKnown, owner]
      rfl
  | raise | access | rearm | takeReports => cases told

/-- An interrupt on a known line is either reported or suppressed. -/
theorem reported_or_suppressed (w : FaultWatch) (commands : List Command) :
    (w.reports commands).length + w.suppressions commands =
      commands.countP (·.isKnown w.monitor.lines) := by
  induction commands generalizing w with
  | nil => rfl
  | cons command rest ih =>
    have once : (w.report? command).toList.length + (if w.suppresses command then 1 else 0) =
        if command.isKnown w.monitor.lines then 1 else 0 := by
      unfold suppresses
      cases told : w.report? command with
      | none => simp
      | some report => simp [isKnown_of_report? told]
    have later := ih (w.step command).2
    rw [(w.step_accounts command).lines] at later
    rw [reports, suppressions, List.length_append, List.countP_cons, ← later, ← once]
    omega

/-- Among fewer interrupts than a counter can count, no count wraps. -/
theorem countP_lt {p : Command → Bool} (few : commands.countP Command.isInterrupt < UInt64.size)
    (interrupts : ∀ command, p command = true → command.isInterrupt = true) :
    commands.countP p < UInt64.size :=
  Nat.lt_of_le_of_lt (List.countP_mono_left fun command _ => interrupts command) few

/-- What an interrupt does that is charged to a kind. It is reported or suppressed, but not both,
and the fault of that kind alone is cleared. -/
structure Charged (w : FaultWatch) (kind : FaultKind) (report? : Option FaultReport)
    (w' : FaultWatch) : Prop where
  totals : ∀ other, w'.monitor.totals.get other =
    if other = kind then w.monitor.totals.get kind + 1 else w.monitor.totals.get other
  reported : ∀ report, report? = some report → report.kind = kind ∧
    w'.monitor.suppressed = w.monitor.suppressed ∧
    w'.monitor.queue = (w.monitor.queue ++ [report]).rtake w.monitor.depth
  suppressed : report? = none → w'.monitor.suppressed = w.monitor.suppressed + 1 ∧
    w'.monitor.queue = w.monitor.queue
  engine : w'.engine = { w.engine with
    latched := w.engine.latched.set kind none
    events := w.engine.events ++ [.clearInterrupt kind] }

/-- No total, no suppression and nothing of the engine changes. -/
structure Unmoved (w w' : FaultWatch) : Prop where
  totals : w'.monitor.totals = w.monitor.totals
  suppressed : w'.monitor.suppressed = w.monitor.suppressed
  engine : w'.engine = w.engine

theorem step_charged (mine : w.monitor.lines.kind? line = some kind) :
    w.Charged kind (w.report? (.interrupt line)) (w.step (.interrupt line)).2 := by
  rw [step_known mine]
  constructor
  · exact fun other => w.monitor.totals.get_set kind other _
  · intro report told
    have passed : w.suppresses (.interrupt line) = false := by
      rw [suppresses, told, Option.isNone_some, Bool.and_false]
    dsimp only
    rw [passed, queued, told]
    refine ⟨?_, UInt64.add_zero _, rfl⟩
    rw [report?, mine] at told
    split at told <;> cases told
    rfl
  · intro silent
    have stopped : w.suppresses (.interrupt line) = true := by
      rw [suppresses, silent, Command.isKnown, mine]
      rfl
    dsimp only
    rw [stopped, queued, silent]
    exact ⟨rfl, rfl⟩
  · rfl

/-- The accounts along every run of a new monitor with fewer interrupts than a counter can count,
whatever lines, limit and depth it has, and whatever the engine went through before. An interrupt
is charged to the first kind that has its line, cleared, and either reported or suppressed, so that
the totals add up to the reports and the suppressions. The queue holds the last reports since they
were fetched, as many as fit. Other interrupts and requests charge nothing. -/
theorem faults_accounted {limit : UInt32} {depth : Nat} (new : w.monitor = { lines, limit, depth })
    (few : commands.countP Command.isInterrupt < UInt64.size) :
    (∀ kind, ((w.run commands).monitor.totals.get kind).toNat =
      commands.countP (·.isOf lines kind)) ∧
    (FaultKind.all.map fun kind => ((w.run commands).monitor.totals.get kind).toNat).sum =
      (w.reports commands).length + (w.run commands).monitor.suppressed.toNat ∧
    (∀ before after, commands = before ++ after →
      (before = [] ∨ ∃ earlier, before = earlier ++ [.takeReports]) → .takeReports ∉ after →
      (w.run commands).monitor.queue = ((w.run before).reports after).rtake depth) ∧
    (∀ line kind, lines.Owns kind line →
      ((w.run commands).step (.interrupt line)).1 = .interrupt (some kind) ∧
      (w.run commands).Charged kind ((w.run commands).report? (.interrupt line))
        ((w.run commands).step (.interrupt line)).2) ∧
    (∀ line, (∀ kind, ¬ lines.Owns kind line) →
      (w.run commands).step (.interrupt line) = (.interrupt none, w.run commands)) ∧
    ((w.run commands).step .takeReports).1 = .reports (w.run commands).monitor.queue ∧
    ((w.run commands).step .takeReports).2.monitor.queue = [] ∧
    (w.run commands).Unmoved ((w.run commands).step .takeReports).2 ∧
    (w.run commands).Unmoved ((w.run commands).step .rearm).2 := by
  have known : w.monitor.lines = lines := by rw [new]
  have totals (kind : FaultKind) : ((w.run commands).monitor.totals.get kind).toNat =
      commands.countP (·.isOf lines kind) := by
    have fits : commands.countP (·.isOf lines kind) < UInt64.size := by
      apply countP_lt few
      rintro (_ | _ | _ | _ | _) given
      · rfl
      all_goals cases given
    rw [totals_run, known, new, PerKind.get_const, UInt64.zero_add, UInt64.toNat_ofNat_of_lt' fits]
  have suppressed : (w.run commands).monitor.suppressed.toNat = w.suppressions commands := by
    have all := w.reported_or_suppressed commands
    have fits : commands.countP (·.isKnown w.monitor.lines) < UInt64.size := by
      apply countP_lt few
      rintro (_ | _ | _ | _ | _) given
      · rfl
      all_goals cases given
    rw [suppressed_run, new, UInt64.zero_add, UInt64.toNat_ofNat_of_lt' (by omega)]
  refine ⟨totals, ?_, ?_, ?_, ?_, rfl, rfl, ⟨rfl, rfl, rfl⟩, ⟨rfl, rfl, rfl⟩⟩
  · simp only [totals]
    rw [sum_isOf, suppressed, reported_or_suppressed, known]
  · rintro before after rfl fetched unread
    have empty : (w.run before).monitor.queue = [] := by
      rcases fetched with rfl | ⟨earlier, rfl⟩
      · exact congrArg FaultMonitor.queue new
      · rw [run_append]
        rfl
    have depths : (w.run before).monitor.depth = depth := by rw [depth_run, new]
    have ran := (w.run before).queue_run unread (empty.trans (List.rtake_nil _).symm)
    rw [run_append, ran, depths, List.nil_append]
  · intro line kind owns
    have mine : (w.run commands).monitor.lines.kind? line = some kind := by
      rw [lines_run, known]
      exact InterruptLines.kind?_eq_some.mpr owns
    exact ⟨by rw [step_known mine], step_charged mine⟩
  · intro line foreign
    apply step_foreign
    rw [lines_run, known, Option.eq_none_iff_forall_ne_some]
    intro kind mine
    exact foreign kind (InterruptLines.kind?_eq_some.mp mine)

/-- One report fits the queue, and one interrupt is reported until reporting starts afresh. -/
def narrowWatch : FaultWatch where
  engine := { version := ⟨1, 1⟩ }
  monitor := { lines := .standard, limit := 1, depth := 1 }

/-- Two write faults, of which one is reported, and a read fault after a fresh start. -/
def faultRun : List Command :=
  [.raise .write 0x1040, .interrupt 1, .interrupt 1, .rearm, .access 0x2040 false, .interrupt 7,
    .interrupt 0]

/-- The queue ends up with the second of two reports, and one interrupt is suppressed. -/
theorem faults_accounted_faultRun :
    (narrowWatch.run faultRun).monitor.queue = [⟨.read, 0x2040⟩] ∧
      (FaultKind.all.map fun kind =>
        ((narrowWatch.run faultRun).monitor.totals.get kind).toNat).sum = 2 + 1 := by
  have new : narrowWatch.monitor = { lines := .standard, limit := 1, depth := 1 } := rfl
  have few : faultRun.countP Command.isInterrupt < UInt64.size := by decide
  obtain ⟨_, sum, queue, _⟩ := faults_accounted new few
  rw [queue [] faultRun rfl (.inl rfl) (by simp [faultRun]), sum]
  decide

end FaultWatch

end TiledSurface
