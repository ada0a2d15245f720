namespace TiledSurface

inductive FaultKind where
  | read | write | decode | encode
  deriving DecidableEq

namespace FaultKind

def all : List FaultKind := [.read, .write, .decode, .encode]

/-- The place of the kind's bit in the enable and status registers. -/
def bit : FaultKind → Nat
  | .read => 0
  | .write => 1
  | .decode => 2
  | .encode => 3

def name : FaultKind → String
  | .read => "read-fault"
  | .write => "write-fault"
  | .decode => "decode-fault"
  | .encode => "encode-fault"

end FaultKind

/-- One value for each kind of fault. -/
structure PerKind (α : Type) where
  read : α
  write : α
  decode : α
  encode : α
  deriving DecidableEq

namespace PerKind

variable {α : Type}

def const (value : α) : PerKind α := ⟨value, value, value, value⟩

def get (p : PerKind α) : FaultKind → α
  | .read => p.read
  | .write => p.write
  | .decode => p.decode
  | .encode => p.encode

def set (p : PerKind α) (kind : FaultKind) (value : α) : PerKind α :=
  match kind with
  | .read => { p with read := value }
  | .write => { p with write := value }
  | .decode => { p with decode := value }
  | .encode => { p with encode := value }

theorem get_const (value : α) (kind : FaultKind) : (const value).get kind = value := by
  cases kind <;> rfl

theorem get_set (p : PerKind α) (kind other : FaultKind) (value : α) :
    (p.set kind value).get other = if other = kind then value else p.get other := by
  cases kind <;> cases other <;> rfl

end PerKind

end TiledSurface
