import TiledSurface.Driver.Registry

/-!
Setting the attributes of a surface. The window, the mappings and the descriptor that follow from
the attributes are acquired one after the other, and whatever the surface holds when a step fails
is given back, so that a failure leaves it unconfigured.
-/

namespace TiledSurface

/-- What attributes ask for. -/
structure Plan where
  format : TileFormat
  footprint : Footprint
  /-- The least length of the buffer. -/
  span : Nat

/-- The plan for valid attributes. Linear surfaces need none. -/
def Attributes.plan? (a : Attributes) : Except AttributeFault (Option Plan) := do
  match (← a.check).layout? with
  | none => return none
  | some (format, presence) =>
    let footprint ← Footprint.ofAttributes a format presence
    match footprint.deviceBytes? with
    | none => .error .sizeOverflow
    | some span => return some { format, footprint, span }

/-- The descriptor of a planned surface, if its buffer is long enough and its second plane starts
on a cache line. -/
def Plan.describe (plan : Plan) (a : Attributes) (unit : LengthUnit) (window : Region)
    (mapping : DeviceMapping) : Except Error Descriptor :=
  let uvStart := window.base + plan.footprint.uvOffset
  if mapping.length < plan.span then
    .error (.failed (.bufferTooSmall mapping.length plan.span))
  else if Word.limit ≤ uvStart then .error (.invalidAttributes .uvStartOverflow)
  else if uvStart % cacheLineSize ≠ 0 then .error (.invalidAttributes .uvStartUnaligned)
  else
    match Descriptor.ofFootprint a plan.format plan.footprint window.base mapping.base unit with
    | .error fault => .error (.invalidAttributes fault)
    | .ok descriptor => .ok descriptor

namespace Driver

/-- How an attempt to configure a surface ended, with what the surface holds if it does not end
up with a layout. -/
inductive Attempt where
  | refused (error : Error) (held : Holdings)
  | linear (held : Holdings)
  | tiled (layout : Tiled)

/-- A slot that is still held has to be programmed anew. -/
def staleBinding : Option Slot → Binding
  | some slot => .kept slot false
  | none => .unbound

def reserveWindow (d : Driver) (old : Option Region) (size : Nat) : Except Error Nat × Driver :=
  let (result, pool) := match old with
    | some window => d.pool.resize window.base window.size size
    | none => d.pool.reserve size
  (result, { d with pool })

/-- The device mapping that is held already, or a new one. -/
def attach (d : Driver) (handle : Handle) (held : Option DeviceMapping) :
    Except PlatformError DeviceMapping × Driver :=
  match held with
  | some mapping => (.ok mapping, d)
  | none =>
    let (result, buffers) := d.buffers.attach handle
    (result, { d with buffers })

def acquire (d : Driver) (handle : Handle) (held : Holdings) (a : Attributes) (plan : Plan) :
    Attempt × Driver :=
  match d.reserveWindow held.window plan.footprint.windowSize with
  | (.error error, d) => (.refused error { held with window := none }, d)
  | (.ok base, d) =>
    let window : Region := ⟨base, plan.footprint.windowSize⟩
    let held := { held with window := some window }
    match d.buffers.map handle (.window window) with
    | (.error cause, buffers) =>
      (.refused (.failed (.mapWindow cause)) held, { d with buffers })
    | (.ok (), buffers) =>
      match { d with buffers }.attach handle held.mapping with
      | (.error cause, d) => (.refused (.failed (.attach cause)) held, d)
      | (.ok mapping, d) =>
        let held := { held with mapping := some mapping }
        match plan.describe a d.lengthUnit window mapping with
        | .error error => (.refused error held, d)
        | .ok descriptor =>
          (.tiled {
            attributes := a
            format := plan.format
            footprint := plan.footprint
            descriptor
            window
            mapping
            binding := staleBinding held.slot }, d)

/-- Tries to configure a surface. The buffer's own pages are mapped first of all. -/
def attempt (d : Driver) (handle : Handle) (held : Holdings) (a : Attributes) :
    Attempt × Driver :=
  match d.buffers.map handle .linear with
  | (.error cause, buffers) => (.refused (.failed (.mapLinear cause)) held, { d with buffers })
  | (.ok (), buffers) =>
    match a.plan? with
    | .error fault => (.refused (.invalidAttributes fault) held, { d with buffers })
    | .ok none => (.linear held, { d with buffers })
    | .ok (some plan) => { d with buffers }.acquire handle held a plan

/-- Records how an attempt ended. Unless it gave a layout, all that is still held goes back. -/
def settle (d : Driver) (handle : Handle) (surface : Surface) (a : Attributes) :
    Attempt → Except Error Unit × Driver
  | .refused error held =>
    (.error error,
      { (d.release handle held).put handle { surface with setup := .unconfigured } with
        stats := { d.stats with misconfigured := d.stats.misconfigured + 1 } })
  | .linear held =>
    (.ok (),
      { (d.release handle held).put handle { surface with setup := .linear a } with
        stats := { d.stats with configured := d.stats.configured + 1 } })
  | .tiled layout =>
    (.ok (),
      { d.put handle { surface with setup := .tiled layout } with
        stats := { d.stats with configured := d.stats.configured + 1 } })

/-- Sets the attributes of a surface that is not locked. -/
def configure (d : Driver) (handle : Handle) (a : Attributes) : Except Error Unit × Driver :=
  match d.surfaces.find? handle with
  | none => (.error (.invalid .unknownBuffer), d)
  | some surface =>
    if surface.session?.isSome then (.error .busy, d)
    else
      let (attempt, d) := d.attempt handle surface.holdings a
      d.settle handle surface a attempt

end Driver

end TiledSurface
