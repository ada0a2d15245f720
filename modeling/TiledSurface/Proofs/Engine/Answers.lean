import TiledSurface.Proofs.Engine.Log

namespace TiledSurface.Engine

def Event.command : Event → Command
  | .setTable base stride => .setTable base stride
  | .setWindow slot region => .setWindow slot region
  | .enableWindow slot => .enableWindow slot
  | .disableWindow slot => .disableWindow slot
  | .flush => .flush
  | .enableInterrupt kind on => .enableInterrupt kind on
  | .clearInterrupt kind => .clearInterrupt kind

def perform (e : Engine) (log : List Event) : Engine :=
  log.foldl (fun e event => (e.step event.command).2) e

def answers : Engine → List Event → List Outcome
  | _, [] => []
  | e, event :: rest => (e.step event.command).1 :: answers (e.step event.command).2 rest

def Outcome.isTimeout : Outcome → Bool
  | .refused .flushTimeout => true
  | _ => false

/-- How many flushes of a log the engine reports as timed out. -/
def timeouts (e : Engine) (log : List Event) : Nat := (e.answers log).countP (·.isTimeout)

def Event.isProgram : Event → Bool
  | .setWindow .. => true
  | _ => false

theorem events_step (e : Engine) (event : Event) :
    (e.step event.command).2.events = e.events ++ [event] := by
  cases event with
  | disableWindow slot => exact (e.wrote_disableWindow slot).events
  | flush => exact events_finishFlush (e.log .flush)
  | setTable | setWindow | enableWindow | enableInterrupt | clearInterrupt => rfl

theorem events_perform (e : Engine) (log : List Event) :
    (e.perform log).events = e.events ++ log := by
  induction log generalizing e with
  | nil => exact (List.append_nil _).symm
  | cons event rest ih =>
    refine (ih _).trans ?_
    rw [events_step, List.append_assoc]
    rfl

theorem perform_append (e : Engine) (first second : List Event) :
    e.perform (first ++ second) = (e.perform first).perform second :=
  List.foldl_append

theorem timeouts_append (e : Engine) (first second : List Event) :
    e.timeouts (first ++ second) = e.timeouts first + (e.perform first).timeouts second := by
  unfold timeouts
  rw [← List.countP_append]
  congr 1
  induction first generalizing e with
  | nil => rfl
  | cons event rest ih => exact congrArg (_ :: ·) (ih _)

end TiledSurface.Engine
