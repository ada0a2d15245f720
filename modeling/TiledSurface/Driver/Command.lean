import TiledSurface.Driver.Configure
import TiledSurface.Driver.Locking

/-!
Everything that can happen to a running driver, as values: requests of its clients, interrupts,
and what others do to the platform meanwhile. A run is a list of commands.
-/

namespace TiledSurface.Driver

inductive Command where
  | platform (command : Platform.Command)
  | track (handle : Handle)
  | configure (handle : Handle) (attributes : Attributes)
  | attributes (handle : Handle)
  | lock (handle : Handle) (direction : Direction)
  | unlock (handle : Handle) (direction : Direction)
  | setPermanent (handle : Handle) (on : Bool)
  | untrack (handle : Handle)
  | interrupt (line : UInt32)
  | takeReports

inductive Outcome where
  | platform (outcome : Platform.Outcome)
  | done
  | refused (error : Error)
  /-- No answer. -/
  | broken (why : Cache.Break)
  | attributes (attributes : Attributes)
  | interrupt (kind : Option FaultKind)
  | reports (reports : List FaultReport)

def Outcome.ofUnit : Except Error Unit → Outcome
  | .ok () => .done
  | .error error => .refused error

def Outcome.ofResult : Except Failure Unit → Outcome
  | .ok () => .done
  | .error (.refused error) => .refused error
  | .error (.broken why) => .broken why

def Outcome.ofAttributes : Except Error Attributes → Outcome
  | .ok a => .attributes a
  | .error error => .refused error

def step (d : Driver) : Command → Outcome × Driver
  | .platform command =>
    let (outcome, platform) := d.toPlatform.step command
    (.platform outcome, { d with toPlatform := platform })
  | .track handle =>
    let (result, d) := d.track handle
    (.ofUnit result, d)
  | .configure handle a =>
    let (result, d) := d.configure handle a
    (.ofUnit result, d)
  | .attributes handle => (.ofAttributes (d.attributes handle), d)
  | .lock handle direction =>
    let (result, d) := d.lock handle direction
    (.ofUnit result, d)
  | .unlock handle direction =>
    let (result, d) := d.unlock handle direction
    (.ofResult result, d)
  | .setPermanent handle on =>
    let (result, d) := d.setPermanent handle on
    (.ofUnit result, d)
  | .untrack handle =>
    let (result, d) := d.untrack handle
    (.ofResult result, d)
  | .interrupt line =>
    let (kind, d) := d.interrupt line
    (.interrupt kind, d)
  | .takeReports =>
    let (reports, d) := d.takeReports
    (.reports reports, d)

def run (d : Driver) (commands : List Command) : Driver :=
  commands.foldl (fun d command => (d.step command).2) d

end TiledSurface.Driver
