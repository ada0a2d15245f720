import Mathlib.Data.List.Induction
import Mathlib.Order.Bounds.Defs
import TiledSurface.Proofs.Engine.Latches
import TiledSurface.Proofs.Fault.RateLimit

namespace TiledSurface

namespace FaultWatch

open Engine (Signal lastFault?)

variable {w : FaultWatch} {lines : InterruptLines} {kind : FaultKind} {past : List Signal}

/-- A command to the monitor or its engine, or anything else that happens to the engine. -/
inductive Turn where
  | watch (command : Command)
  | engine (command : Engine.Command)

def turn (w : FaultWatch) : Turn → FaultWatch
  | .watch command => (w.step command).2
  | .engine command => { w with engine := (w.engine.step command).2 }

def after (w : FaultWatch) (turns : List Turn) : FaultWatch := turns.foldl turn w

/-- The signal that a turn is to the latches. An interrupt clears the kind that has the line. -/
def signal? (w : FaultWatch) : Turn → Option Signal
  | .watch (.interrupt line) => (w.monitor.lines.kind? line).map .clear
  | .watch (.raise kind address) => w.engine.signal? (.raise kind address)
  | .watch (.access address write) => w.engine.signal? (.access address write)
  | .watch .rearm | .watch .takeReports => none
  | .engine command => w.engine.signal? command

def signals : FaultWatch → List Turn → List Signal
  | _, [] => []
  | w, turn :: rest => (w.signal? turn).toList ++ signals (w.turn turn) rest

theorem after_snoc (w : FaultWatch) (turns : List Turn) (turn : Turn) :
    w.after (turns ++ [turn]) = (w.after turns).turn turn :=
  List.foldl_append

/-- A monitor with these lines, this limit and this depth, whatever it has counted. -/
structure SetUp (lines : InterruptLines) (limit : UInt32) (depth : Nat) (m : FaultMonitor) :
    Prop where
  lines : m.lines = lines
  limit : m.limit = limit
  depth : m.depth = depth

theorem SetUp.turn {limit : UInt32} {depth : Nat} (setUp : SetUp lines limit depth w.monitor)
    (turn : Turn) : SetUp lines limit depth (w.turn turn).monitor := by
  cases turn with
  | engine command => exact setUp
  | watch command =>
    have accounts := w.step_accounts command
    exact ⟨accounts.lines.trans setUp.lines, (w.limit_run [command]).trans setUp.limit,
      accounts.depth.trans setUp.depth⟩

theorem knows_turn (knows : w.engine.Knows past) (turn : Turn) :
    (w.turn turn).engine.Knows (past ++ (w.signal? turn).toList) := by
  cases turn with
  | engine command => exact knows.step command
  | watch command =>
    cases command with
    | raise kind address => exact knows.step (.raise kind address)
    | access address write => exact knows.step (.access address write)
    | rearm | takeReports =>
      rw [signal?, Option.toList_none, List.append_nil]
      exact knows
    | interrupt line =>
      cases owner : w.monitor.lines.kind? line with
      | none =>
        rw [turn, step_foreign owner, signal?, owner, Option.map_none, Option.toList_none,
          List.append_nil]
        exact knows
      | some kind =>
        rw [turn, step_known owner, signal?, owner]
        exact knows.step (.clearInterrupt kind)

/-- The report is of the kind and tells the cache line of its last fault, or zero if there is no
fault of the kind that was not cleared. -/
structure Tells (signals : List Signal) (kind : FaultKind) (report : FaultReport) : Prop where
  named : report.kind = kind
  line : ∀ address, lastFault? kind signals = some address →
    IsGreatest {line | cacheLineSize ∣ line ∧ line ≤ address} report.address
  zero : lastFault? kind signals = none → report.address = 0

theorem isGreatest_line (address : Nat) :
    IsGreatest {line | cacheLineSize ∣ line ∧ line ≤ address}
      (address / cacheLineSize * cacheLineSize) := by
  refine ⟨⟨Nat.dvd_mul_left .., Nat.div_mul_le_self ..⟩, ?_⟩
  rintro line ⟨⟨count, rfl⟩, below⟩
  rw [Nat.mul_comm]
  exact Nat.mul_le_mul_right _ ((Nat.le_div_iff_mul_le (by decide)).mpr (by rwa [Nat.mul_comm]))

/-- What the engine has latched, given back as a byte address, tells the last fault. -/
theorem tells_source (knows : w.engine.Knows past) (kind : FaultKind) :
    Tells past kind ⟨kind, w.engine.source kind * cacheLineSize⟩ where
  named := rfl
  line := fun address last => by
    rw [Engine.source, knows, last]
    exact isGreatest_line address
  zero := fun bare => by
    rw [Engine.source, knows, bare]
    rfl

theorem tells_of_report? {line : UInt32} {report : FaultReport} (knows : w.engine.Knows past)
    (told : w.report? (.interrupt line) = some report) :
    w.monitor.lines.kind? line = some report.kind ∧ Tells past report.kind report := by
  rw [report?] at told
  split at told
  · obtain ⟨kind, owner, rfl⟩ := Option.map_eq_some_iff.mp told
    exact ⟨owner, tells_source knows kind⟩
  · cases told

/-- What an interrupt of the kind does. Its report goes to the end of the queue while the rate
limit allows, and the latch of the kind is cleared, but no other. -/
structure Served (w : FaultWatch) (past : List Signal) (kind : FaultKind) (w' : FaultWatch) :
    Prop where
  reported : w.monitor.count < w.monitor.limit → ∃ report, Tells past kind report ∧
    w'.monitor.queue = (w.monitor.queue ++ [report]).rtake w.monitor.depth
  silent : ¬ w.monitor.count < w.monitor.limit → w'.monitor.queue = w.monitor.queue
  latched : ∀ other, w'.engine.latched.get other =
    if other = kind then none else w.engine.latched.get other

theorem step_served {line : UInt32} (knows : w.engine.Knows past)
    (mine : w.monitor.lines.kind? line = some kind) :
    w.Served past kind (w.step (.interrupt line)).2 where
  reported := fun allowed => by
    refine ⟨_, tells_source knows kind, ?_⟩
    rw [step_known mine]
    simp only [queued, report?, if_pos allowed, mine, Option.map_some]
  silent := fun stopped => by
    rw [step_known mine]
    simp only [queued, report?, if_neg stopped]
  latched := fun other => by
    rw [step_known mine]
    exact w.engine.latched.get_set kind other none

theorem takeReports_of_report? {command : Command} {report : FaultReport}
    (told : w.report? command = some report) (unread : command ≠ .takeReports)
    (room : 0 < w.monitor.depth) :
    ∃ earlier, ((w.step command).2.step .takeReports).1 = .reports (earlier ++ [report]) := by
  have queue := (w.step_accounts command).queue unread
  obtain ⟨fewer, depth⟩ := Nat.exists_eq_add_of_lt room
  rw [queued, told, depth, Nat.zero_add] at queue
  exact ⟨_, congrArg Outcome.reports (queue.trans (List.rtake_concat_succ ..))⟩

theorem report?_of_misses {line : UInt32} {address : Nat} {write : Bool}
    (misses : w.engine.Misses address) (which : kind = if write then .write else .read)
    (mine : w.monitor.lines.kind? line = some kind)
    (allowed : w.monitor.count < w.monitor.limit) :
    (w.step (.access address write)).1 = .access (.fault kind) ∧
      (w.step (.access address write)).2.monitor = w.monitor ∧
      (w.step (.access address write)).2.report? (.interrupt line) =
        some ⟨kind, address / cacheLineSize * cacheLineSize⟩ := by
  have faulted : w.step (.access address write) =
      (.access (.fault kind), { w with engine := w.engine.latch kind address }) := by
    simp only [step, Engine.access_of_misses misses, ← which]
  rw [faulted]
  refine ⟨rfl, rfl, ?_⟩
  rw [report?, if_pos allowed, mine]
  simp [Engine.source, Engine.latch, PerKind.get_set]

theorem mem_queue_turn {turn : Turn} {report : FaultReport}
    (member : report ∈ (w.turn turn).monitor.queue) :
    report ∈ w.monitor.queue ∨
      ∃ line, turn = .watch (.interrupt line) ∧ w.report? (.interrupt line) = some report := by
  cases turn with
  | engine command => exact .inl member
  | watch command =>
    cases command with
    | raise | access | rearm => exact .inl member
    | takeReports => cases member
    | interrupt line =>
      rw [turn, (w.step_accounts (.interrupt line)).queue Command.noConfusion, queued] at member
      cases told : w.report? (.interrupt line) with
      | none =>
        rw [told] at member
        exact .inl member
      | some report' =>
        rw [told] at member
        rcases List.mem_append.mp (List.mem_of_mem_drop member) with waited | new
        · exact .inl waited
        · rw [List.mem_singleton.mp new]
          exact .inr ⟨line, rfl, told⟩

theorem signals_snoc (w : FaultWatch) (turns : List Turn) (turn : Turn) :
    w.signals (turns ++ [turn]) = w.signals turns ++ ((w.after turns).signal? turn).toList := by
  induction turns generalizing w with
  | nil => exact List.append_nil _
  | cons first rest ih =>
    rw [List.cons_append, signals, ih, signals, List.append_assoc]
    rfl

theorem knows_after (knows : w.engine.Knows past) (turns : List Turn) :
    (w.after turns).engine.Knows (past ++ w.signals turns) := by
  induction turns using List.reverseRecOn with
  | nil => rwa [signals, List.append_nil]
  | append_singleton turns turn ih =>
    rw [after_snoc, signals_snoc, ← List.append_assoc]
    exact knows_turn ih turn

theorem SetUp.after {limit : UInt32} {depth : Nat} (setUp : SetUp lines limit depth w.monitor)
    (turns : List Turn) : SetUp lines limit depth (w.after turns).monitor := by
  induction turns generalizing w with
  | nil => exact setUp
  | cons turn rest ih => exact ih (setUp.turn turn)

/-- Everything that waits was reported by some interrupt of the run. -/
theorem queue_after (empty : w.monitor.queue = []) (turns : List Turn) {report : FaultReport}
    (member : report ∈ (w.after turns).monitor.queue) :
    ∃ before line rest, turns = before ++ .watch (.interrupt line) :: rest ∧
      (w.after before).report? (.interrupt line) = some report := by
  induction turns using List.reverseRecOn with
  | nil =>
    rw [after, List.foldl_nil, empty] at member
    cases member
  | append_singleton turns turn ih =>
    rw [after_snoc] at member
    rcases mem_queue_turn member with waited | ⟨line, rfl, told⟩
    · obtain ⟨before, line, rest, rfl, told⟩ := ih waited
      exact ⟨before, line, rest ++ [turn], by simp, told⟩
    · exact ⟨turns, line, [], rfl, told⟩

/-- What a new monitor reports, whatever happens to it and to its engine. Every kind has a line of
its own, and the signals of the past say what the engine had latched before. A line belongs to the
kind that has it. Every report that waits was made by an interrupt on the line of its kind, and
tells the last fault of the kind at that time; the interrupt clears that kind and no other. So an
access that misses, followed by the interrupt of its kind, is reported with its own cache line
while rate limit and depth allow. -/
theorem last_faults_told {limit : UInt32} {depth : Nat}
    (new : w.monitor = { lines, limit, depth }) (distinct : Function.Injective lines.get)
    (knows : w.engine.Knows past) (turns : List Turn) :
    let w' := w.after turns
    (∀ line kind, lines.kind? line = some kind ↔ lines.get kind = line) ∧
    (∀ report ∈ w'.monitor.queue, ∃ before rest,
      turns = before ++ .watch (.interrupt (lines.get report.kind)) :: rest ∧
      Tells (past ++ w.signals before) report.kind report) ∧
    (∀ kind,
      (w'.step (.interrupt (lines.get kind))).1 = .interrupt (some kind) ∧
      w'.Served (past ++ w.signals turns) kind (w'.step (.interrupt (lines.get kind))).2) ∧
    (∀ address write, w'.engine.Misses address → w'.monitor.count < limit → 0 < depth →
      let kind := if write then .write else .read
      let w'' := (w'.step (.access address write)).2
      (w'.step (.access address write)).1 = .access (.fault kind) ∧
      ∃ earlier line, ((w''.step (.interrupt (lines.get kind))).2.step .takeReports).1 =
          .reports (earlier ++ [⟨kind, line⟩]) ∧
        IsGreatest {line | cacheLineSize ∣ line ∧ line ≤ address} line) := by
  intro w'
  have own (line : UInt32) (kind : FaultKind) :
      lines.kind? line = some kind ↔ lines.get kind = line :=
    InterruptLines.kind?_eq_some_iff distinct
  have start : SetUp lines limit depth w.monitor := by
    rw [new]
    exact ⟨rfl, rfl, rfl⟩
  have setUp : SetUp lines limit depth w'.monitor := start.after turns
  have knows' : w'.engine.Knows (past ++ w.signals turns) := knows_after knows turns
  refine ⟨own, fun report member => ?_, fun kind => ?_, fun address write misses allowed room => ?_⟩
  · have empty : w.monitor.queue = [] := congrArg FaultMonitor.queue new
    obtain ⟨before, line, rest, split, told⟩ := queue_after empty turns member
    obtain ⟨owner, tells⟩ := tells_of_report? (knows_after knows before) told
    rw [(start.after before).lines, own] at owner
    exact ⟨before, rest, by rw [owner, split], tells⟩
  · have mine : w'.monitor.lines.kind? (lines.get kind) = some kind := by
      rw [setUp.lines, own]
    exact ⟨by rw [step_known mine], step_served knows' mine⟩
  · intro kind w''
    have mine : w'.monitor.lines.kind? (lines.get kind) = some kind := by
      rw [setUp.lines, own]
    obtain ⟨faulted, monitor, told⟩ :=
      report?_of_misses misses rfl mine (setUp.limit.symm ▸ allowed)
    have room' : 0 < w''.monitor.depth := by
      rw [monitor, setUp.depth]
      exact room
    obtain ⟨earlier, taken⟩ := takeReports_of_report? told Command.noConfusion room'
    exact ⟨faulted, earlier, _, taken, isGreatest_line address⟩

def newWatch : FaultWatch where
  engine := { version := ⟨1, 1⟩ }
  monitor := { lines := .standard, limit := 21, depth := 64 }

/-- The first page of two is translated. An encode fault is raised and served, and a write to the
second page faults. -/
def pageRun : List Turn :=
  [.engine (.setAperture ⟨0x10000, 0x2000⟩), .engine (.setWindow 3 ⟨0x10000, 0x1000⟩),
    .engine (.enableWindow 3), .watch (.raise .encode 0x107f), .watch (.interrupt 2),
    .watch (.access 0x10040 true), .watch (.access 0x11047 true)]

/-- After the run, a read of the second page is reported behind the encode fault. -/
theorem last_faults_told_pageRun :
    Function.Injective InterruptLines.standard.get ∧ newWatch.engine.Knows [] ∧
      ((newWatch.after pageRun).step (.access 0x1107f false)).1 = .access (.fault .read) ∧
      ∃ earlier start,
        (((((newWatch.after pageRun).step (.access 0x1107f false)).2.step
          (.interrupt 0)).2).step .takeReports).1 = .reports (earlier ++ [⟨.read, start⟩]) ∧
        IsGreatest {line | cacheLineSize ∣ line ∧ line ≤ 0x1107f} start := by
  have distinct : Function.Injective InterruptLines.standard.get :=
    (InterruptLines.nodup_iff _).mp (by decide)
  have knows : newWatch.engine.Knows [] := fun kind => by cases kind <;> rfl
  obtain ⟨_, _, _, missed⟩ := last_faults_told rfl distinct knows pageRun
  exact ⟨distinct, knows,
    missed 0x1107f false (by decide +kernel) (by decide +kernel) (by decide +kernel)⟩

end FaultWatch

end TiledSurface
