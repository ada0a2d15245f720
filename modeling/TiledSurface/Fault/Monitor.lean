import TiledSurface.Engine.Basic

/-!
Accounting of fault interrupts. Every interrupt on a line of the engine is counted for its kind
and clears that kind; it is reported with its address while the rate limit allows, and counted as
suppressed otherwise. The latest reports wait in a queue of bounded length.
-/

namespace TiledSurface

/-- The interrupt line of each kind of fault. -/
abbrev InterruptLines : Type := PerKind UInt32

def InterruptLines.kind? (lines : InterruptLines) (line : UInt32) : Option FaultKind :=
  FaultKind.all.find? fun kind => lines.get kind == line

def InterruptLines.standard : InterruptLines where
  read := 0
  write := 1
  encode := 2
  decode := 3

/-- A reported fault, with the byte address of its cache line. -/
structure FaultReport where
  kind : FaultKind
  address : Nat
  deriving DecidableEq

structure FaultMonitor where
  lines : InterruptLines
  /-- How many interrupts are reported between two resets of the rate limit. -/
  limit : UInt32
  /-- How many reports the queue keeps. -/
  depth : Nat
  /-- The interrupts on known lines since the last reset. -/
  count : UInt32 := 0
  totals : PerKind UInt64 := .const 0
  suppressed : UInt64 := 0
  queue : List FaultReport := []

namespace FaultMonitor

/-- Appends a report; the oldest ones make room. -/
def enqueue (m : FaultMonitor) (report : FaultReport) : FaultMonitor :=
  { m with queue := (m.queue ++ [report]).drop (m.queue.length + 1 - m.depth) }

/-- Reports or suppresses a fault before which the limit has `seen` others. -/
def note (m : FaultMonitor) (report : FaultReport) (seen : UInt32) : FaultMonitor :=
  if seen < m.limit then m.enqueue report else { m with suppressed := m.suppressed + 1 }

/-- Serves an interrupt. A line that is not the engine's changes nothing. -/
def interrupt (m : FaultMonitor) (e : Engine) (line : UInt32) :
    Option FaultKind × FaultMonitor × Engine :=
  match m.lines.kind? line with
  | none => (none, m, e)
  | some kind =>
    let counted :=
      { m with totals := m.totals.set kind (m.totals.get kind + 1), count := m.count + 1 }
    (some kind, counted.note ⟨kind, e.source kind * cacheLineSize⟩ m.count,
      e.clearInterrupt kind)

def rearm (m : FaultMonitor) : FaultMonitor := { m with count := 0 }

/-- The waiting reports, oldest first, and the monitor with an empty queue. -/
def takeReports (m : FaultMonitor) : List FaultReport × FaultMonitor :=
  (m.queue, { m with queue := [] })

def summary (m : FaultMonitor) : String :=
  s!"FaultReporter \x7b lines: IrqLines \x7b read_fault: {m.lines.read}, " ++
  s!"write_fault: {m.lines.write}, encode_fault: {m.lines.encode}, " ++
  s!"decode_fault: {m.lines.decode} \x7d, limit: {m.limit}, count: {m.count}, .. \x7d"

end FaultMonitor

end TiledSurface
