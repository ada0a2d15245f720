import TiledSurface.Engine.FaultKind
import TiledSurface.Engine.Version
import TiledSurface.OrderedMap
import TiledSurface.Window.Region
import TiledSurface.Word

/-!
The engine's registers as its clients see them. Every register write is entered in an event log,
and every access of the processor to the aperture is translated by an enabled window or latched
as a fault.
-/

namespace TiledSurface

/-- The addresses that one descriptor slot translates. -/
structure EngineWindow where
  region : Region
  enabled : Bool
  deriving DecidableEq

namespace Engine

/-- Register writes, as they are logged. -/
inductive Event where
  | setTable (base stride : Nat)
  | setWindow (slot : Nat) (region : Region)
  | enableWindow (slot : Nat)
  | disableWindow (slot : Nat)
  | flush
  | enableInterrupt (kind : FaultKind) (on : Bool)
  | clearInterrupt (kind : FaultKind)
  deriving DecidableEq

inductive Access where
  | translated (slot : Nat)
  | fault (kind : FaultKind)
  | passthrough
  deriving DecidableEq

/-- The engine may fail to drain its outstanding work in time. -/
inductive Fault where
  | flushTimeout
  deriving DecidableEq

def Fault.message : Fault → String
  | .flushTimeout => "engine did not quiesce before the flush timeout"

end Engine

structure Engine where
  version : Version
  /-- The base address and stride of the descriptor table, while one is installed. -/
  table : Option (Nat × Nat) := none
  /-- The programmed windows by slot. -/
  windows : OrderedMap EngineWindow := .empty
  interrupts : PerKind Bool := .const false
  /-- The cache line of the last fault of each kind since the kind was cleared. -/
  latched : PerKind (Option Nat) := .const none
  /-- The addresses that reach the engine; all of them if there is no aperture. -/
  aperture : Option Region := none
  /-- How many of the next flushes will time out. -/
  failingFlushes : Nat := 0
  flushes : UInt64 := 0
  events : List Engine.Event := []

namespace Engine

def log (e : Engine) (event : Event) : Engine := { e with events := e.events ++ [event] }

/-- The log so far, and the engine with an empty one. -/
def takeLog (e : Engine) : List Event × Engine := (e.events, { e with events := [] })

/-- Installs the descriptor table; base and stride zero take it away. -/
def setTable (e : Engine) (base stride : Nat) : Engine :=
  { e with table := if base = 0 ∧ stride = 0 then none else some (base, stride) }.log
    (.setTable base stride)

def setWindow (e : Engine) (slot : Nat) (region : Region) : Engine :=
  let enabled := (e.windows.find? slot).any (·.enabled)
  { e with windows := e.windows.insert slot ⟨region, enabled⟩ }.log (.setWindow slot region)

def enableWindow (e : Engine) (slot : Nat) : Engine :=
  { e with windows := e.windows.modify slot fun window => { window with enabled := true } }.log
    (.enableWindow slot)

/-- Every flush is counted, also one that times out. -/
def finishFlush (e : Engine) : Except Fault Unit × Engine :=
  let e := { e with flushes := e.flushes + 1 }
  match e.failingFlushes with
  | 0 => (.ok (), e)
  | failures + 1 => (.error .flushTimeout, { e with failingFlushes := failures })

def disableWindow (e : Engine) (slot : Nat) : Except Fault Unit × Engine :=
  ({ e with windows := e.windows.modify slot fun window => { window with enabled := false } }.log
    (.disableWindow slot)).finishFlush

def flush (e : Engine) : Except Fault Unit × Engine := (e.log .flush).finishFlush

def enableInterrupt (e : Engine) (kind : FaultKind) (on : Bool) : Engine :=
  { e with interrupts := e.interrupts.set kind on }.log (.enableInterrupt kind on)

def clearInterrupt (e : Engine) (kind : FaultKind) : Engine :=
  { e with latched := e.latched.set kind none }.log (.clearInterrupt kind)

/-- The cache line of the latched fault, or zero. -/
def source (e : Engine) (kind : FaultKind) : Nat := (e.latched.get kind).getD 0

def latch (e : Engine) (kind : FaultKind) (address : Nat) : Engine :=
  { e with latched := e.latched.set kind (some (address / cacheLineSize)) }

/-- Latches a fault and tells whether its interrupt is enabled. -/
def raise (e : Engine) (kind : FaultKind) (address : Nat) : Bool × Engine :=
  (e.interrupts.get kind, e.latch kind address)

/-- The lowest slot with an enabled window over the address. -/
def translate? (e : Engine) (address : Nat) : Option Nat :=
  (e.windows.entries.find? fun (_, window) =>
    window.enabled ∧ window.region.Contains address).map (·.1)

/-- An access of the processor. Inside the aperture it needs an enabled window. -/
def access (e : Engine) (address : Nat) (write : Bool) : Access × Engine :=
  if e.aperture.all fun aperture => aperture.Contains address then
    match e.translate? address with
    | some slot => (.translated slot, e)
    | none =>
      let kind := if write then FaultKind.write else FaultKind.read
      (.fault kind, e.latch kind address)
  else (.passthrough, e)

/-- The kinds with a latched fault whose interrupt is enabled. -/
def pending (e : Engine) : List FaultKind :=
  FaultKind.all.filter fun kind => (e.latched.get kind).isSome && e.interrupts.get kind

def enabledWindows (e : Engine) : List (Nat × Region) :=
  e.windows.entries.filterMap fun (slot, window) =>
    if window.enabled then some (slot, window.region) else none

end Engine

end TiledSurface
