import TiledSurface.Engine.Basic

namespace TiledSurface.Engine

inductive Command where
  | setTable (base stride : Nat)
  | setWindow (slot : Nat) (region : Region)
  | enableWindow (slot : Nat)
  | disableWindow (slot : Nat)
  | flush
  | enableInterrupt (kind : FaultKind) (on : Bool)
  | clearInterrupt (kind : FaultKind)
  | source (kind : FaultKind)
  | raise (kind : FaultKind) (address : Nat)
  | access (address : Nat) (write : Bool)
  | setAperture (region : Region)
  | failFlushes (count : Nat)
  | window (slot : Nat)
  | takeLog

inductive Outcome where
  | done
  | refused (fault : Fault)
  | source (line : Nat)
  | raised (asserted : Bool)
  | access (access : Access)
  | window (window : Option EngineWindow)
  | events (events : List Event)

def Outcome.ofFlush : Except Fault Unit → Outcome
  | .ok () => .done
  | .error fault => .refused fault

def step (e : Engine) : Command → Outcome × Engine
  | .setTable base stride => (.done, e.setTable base stride)
  | .setWindow slot region => (.done, e.setWindow slot region)
  | .enableWindow slot => (.done, e.enableWindow slot)
  | .disableWindow slot =>
    let (result, e) := e.disableWindow slot
    (.ofFlush result, e)
  | .flush =>
    let (result, e) := e.flush
    (.ofFlush result, e)
  | .enableInterrupt kind on => (.done, e.enableInterrupt kind on)
  | .clearInterrupt kind => (.done, e.clearInterrupt kind)
  | .source kind => (.source (e.source kind), e)
  | .raise kind address =>
    let (asserted, e) := e.raise kind address
    (.raised asserted, e)
  | .access address write =>
    let (access, e) := e.access address write
    (.access access, e)
  | .setAperture region => (.done, { e with aperture := some region })
  | .failFlushes count => (.done, { e with failingFlushes := count })
  | .window slot => (.window (e.windows.find? slot), e)
  | .takeLog =>
    let (events, e) := e.takeLog
    (.events events, e)

end TiledSurface.Engine
