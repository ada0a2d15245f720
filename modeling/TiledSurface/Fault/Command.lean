import TiledSurface.Fault.Monitor

namespace TiledSurface

structure FaultWatch where
  engine : Engine
  monitor : FaultMonitor

namespace FaultWatch

inductive Command where
  | interrupt (line : UInt32)
  | raise (kind : FaultKind) (address : Nat)
  | access (address : Nat) (write : Bool)
  | rearm
  | takeReports

inductive Outcome where
  | interrupt (kind : Option FaultKind)
  | raised (asserted : Bool)
  | access (access : Engine.Access)
  | done
  | reports (reports : List FaultReport)

def step (w : FaultWatch) : Command → Outcome × FaultWatch
  | .interrupt line =>
    let (kind, monitor, engine) := w.monitor.interrupt w.engine line
    (.interrupt kind, { engine, monitor })
  | .raise kind address =>
    let (asserted, engine) := w.engine.raise kind address
    (.raised asserted, { w with engine })
  | .access address write =>
    let (access, engine) := w.engine.access address write
    (.access access, { w with engine })
  | .rearm => (.done, { w with monitor := w.monitor.rearm })
  | .takeReports =>
    let (reports, monitor) := w.monitor.takeReports
    (.reports reports, { w with monitor })

def run (w : FaultWatch) (commands : List Command) : FaultWatch :=
  commands.foldl (fun w command => (w.step command).2) w

end FaultWatch

end TiledSurface
