import TiledSurface.Descriptor.Table

namespace TiledSurface.SlotTable

inductive Command where
  | claim
  | release (slot : Slot)
  | write (slot : Slot) (block : Block)

inductive Outcome where
  | claimed (slot : Slot)
  | done
  | refused (error : Error)

def Outcome.ofSlot : Except Error Slot → Outcome
  | .ok slot => .claimed slot
  | .error error => .refused error

def step (t : SlotTable) : Command → Outcome × SlotTable
  | .claim =>
    let (result, t) := t.claim
    (.ofSlot result, t)
  | .release slot => (.done, t.release slot)
  | .write slot block => (.done, t.write slot block)

def run (t : SlotTable) (commands : List Command) : SlotTable :=
  commands.foldl (fun t command => (t.step command).2) t

end TiledSurface.SlotTable
