import TiledSurface.Proofs.Engine.Windows

namespace TiledSurface.Engine

variable {e : Engine} {address : Nat}

/-- What happens to the latch of a kind. -/
inductive Signal where
  | fault (kind : FaultKind) (address : Nat)
  | clear (kind : FaultKind)

namespace Signal

def kind : Signal → FaultKind
  | .fault kind _ | .clear kind => kind

def address? : Signal → Option Nat
  | .fault _ address => some address
  | .clear _ => none

end Signal

/-- The address is in the aperture, if there is one, and no enabled window covers it. -/
def Misses (e : Engine) (address : Nat) : Prop :=
  (∀ aperture ∈ e.aperture, aperture.Contains address) ∧
    ∀ window ∈ e.enabledWindows, ¬ window.2.Contains address

instance (e : Engine) (address : Nat) : Decidable (e.Misses address) :=
  inferInstanceAs (Decidable (_ ∧ _))

/-- The signal that a command is to the latches. -/
def signal? (e : Engine) : Command → Option Signal
  | .raise kind address => some (.fault kind address)
  | .access address write =>
    if e.Misses address then some (.fault (if write then .write else .read) address) else none
  | .clearInterrupt kind => some (.clear kind)
  | .setTable .. | .setWindow .. | .enableWindow _ | .disableWindow _ | .flush
  | .enableInterrupt .. | .source _ | .setAperture _ | .failFlushes _ | .window _ | .takeLog => none

/-- The address of the last fault of a kind, unless the kind was cleared after it. -/
def lastFault? (kind : FaultKind) (signals : List Signal) : Option Nat :=
  (signals.filter (·.kind = kind)).getLast?.bind Signal.address?

theorem lastFault?_snoc (kind : FaultKind) (signals : List Signal) (signal : Signal) :
    lastFault? kind (signals ++ [signal]) =
      if signal.kind = kind then signal.address? else lastFault? kind signals := by
  by_cases same : signal.kind = kind <;> simp [lastFault?, same]

theorem misses_iff :
    e.Misses address ↔
      e.aperture.all (fun aperture => aperture.Contains address) = true ∧
        e.translate? address = none := by
  have uncovered : (∀ window ∈ e.enabledWindows, ¬ window.2.Contains address) ↔
      e.translate? address = none := by
    constructor
    · intro missed
      rw [Option.eq_none_iff_forall_ne_some]
      intro slot found
      obtain ⟨region, enabled, inside⟩ := translate?_eq_some found
      exact missed (slot, region) enabled inside
    · exact fun missed window enabled => translate?_eq_none missed enabled
  rw [Misses, uncovered, Option.all_eq_true]
  simp only [decide_eq_true_eq, Option.mem_def]

theorem access_of_misses (misses : e.Misses address) (write : Bool) :
    e.access address write =
      (.fault (if write then .write else .read),
        e.latch (if write then .write else .read) address) := by
  obtain ⟨inside, missed⟩ := misses_iff.mp misses
  rw [access, if_pos inside, missed]

theorem access_of_not_misses (covered : ¬ e.Misses address) (write : Bool) :
    (e.access address write).2 = e := by
  rw [misses_iff, not_and] at covered
  rw [access]
  split
  · rename_i inside
    cases hit : e.translate? address with
    | some slot => rfl
    | none => exact absurd hit (covered inside)
  · rfl

@[simp] theorem latched_finishFlush (e : Engine) : e.finishFlush.2.latched = e.latched := by
  rw [finishFlush_eq]

/-- A command sets the latch of its signal's kind and leaves the others alone. -/
theorem latched_step (e : Engine) (command : Command) (kind : FaultKind) :
    (e.step command).2.latched.get kind =
      match e.signal? command with
      | some signal =>
        if signal.kind = kind then signal.address?.map (· / cacheLineSize)
        else e.latched.get kind
      | none => e.latched.get kind := by
  have set (kind' : FaultKind) (value : Option Nat) :
      (e.latched.set kind' value).get kind =
        if kind' = kind then value else e.latched.get kind := by
    simp only [PerKind.get_set, eq_comm]
  cases command with
  | raise kind' address => exact set kind' _
  | clearInterrupt kind' => exact set kind' _
  | access address write =>
    by_cases misses : e.Misses address
    · simp only [step, access_of_misses misses, signal?, if_pos misses]
      exact set _ _
    · simp only [step, access_of_not_misses misses, signal?, if_neg misses]
  | disableWindow slot => exact congrArg (·.get kind) (latched_finishFlush _)
  | flush => exact congrArg (·.get kind) (latched_finishFlush _)
  | setTable | setWindow | enableWindow | enableInterrupt | source | setAperture | failFlushes
  | window | takeLog => rfl

/-- The latches hold the cache lines of the last faults. -/
def Knows (e : Engine) (signals : List Signal) : Prop :=
  ∀ kind, e.latched.get kind = (lastFault? kind signals).map (· / cacheLineSize)

theorem Knows.step {signals : List Signal} (knows : e.Knows signals) (command : Command) :
    (e.step command).2.Knows (signals ++ (e.signal? command).toList) := by
  intro kind
  rw [latched_step]
  cases e.signal? command with
  | none => rw [Option.toList_none, List.append_nil]; exact knows kind
  | some signal =>
    rw [Option.toList_some, lastFault?_snoc]
    by_cases same : signal.kind = kind
    · simp only [if_pos same]
    · simp only [if_neg same]
      exact knows kind

end TiledSurface.Engine
