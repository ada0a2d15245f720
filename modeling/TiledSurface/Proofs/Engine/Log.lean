import Mathlib.Data.List.Chain
import Mathlib.Data.List.Induction
import TiledSurface.Proofs.Engine.Windows

/-!
The log of the engine's register writes. It tells the windows by itself: a slot has the window
that it was last given, enabled if it was last enabled. A log is orderly if every slot is given a
window before it is first enabled, is enabled and disabled in turn, gets a new window only while
it is disabled, and if flushes follow the enabling of windows and nothing else.
-/

namespace TiledSurface.Engine

def Event.isSwitch : Event → Bool
  | .enableWindow _ | .disableWindow _ => true
  | _ => false

/-- An engine after the register writes of a log. It counts a flush for every window that is
enabled or disabled. -/
structure Wrote (e : Engine) (log : List Event) (e' : Engine) : Prop where
  events : e'.events = e.events ++ log
  flushes : e'.flushes = e.flushes + .ofNat (log.countP (·.isSwitch))

theorem Wrote.nothing {e e' : Engine} (events : e'.events = e.events)
    (flushes : e'.flushes = e.flushes) : e.Wrote [] e' :=
  ⟨by simp [events], by simp [flushes]⟩

theorem Wrote.trans {e e' e'' : Engine} {first second : List Event} (one : e.Wrote first e')
    (two : e'.Wrote second e'') : e.Wrote (first ++ second) e'' where
  events := by rw [two.events, one.events, List.append_assoc]
  flushes := by
    rw [two.flushes, one.flushes, List.countP_append, UInt64.ofNat_add, UInt64.add_assoc]

@[simp] theorem events_finishFlush (e : Engine) : e.finishFlush.2.events = e.events := by
  rw [finishFlush_eq]

@[simp] theorem flushes_finishFlush (e : Engine) : e.finishFlush.2.flushes = e.flushes + 1 := by
  rw [finishFlush_eq]

theorem wrote_setWindow (e : Engine) (slot : Nat) (region : Region) :
    e.Wrote [.setWindow slot region] (e.setWindow slot region) :=
  ⟨rfl, (UInt64.add_zero _).symm⟩

theorem wrote_openWindow (e : Engine) (slot : Nat) :
    e.Wrote [.enableWindow slot, .flush] (e.enableWindow slot).flush.2 where
  events := by simp [flush, enableWindow, log]
  flushes := by
    rw [flush, flushes_finishFlush]
    rfl

theorem wrote_disableWindow (e : Engine) (slot : Nat) :
    e.Wrote [.disableWindow slot] (e.disableWindow slot).2 where
  events := by simp [disableWindow, log]
  flushes := by
    rw [disableWindow, flushes_finishFlush]
    rfl

theorem wrote_clearInterrupt (e : Engine) (kind : FaultKind) :
    e.Wrote [.clearInterrupt kind] (e.clearInterrupt kind) :=
  ⟨rfl, (UInt64.add_zero _).symm⟩

/-- Nothing is logged but register writes. -/
theorem wrote_step (e : Engine) {command : Command} (reads : command.writes = false)
    (kept : command ≠ .takeLog) : e.Wrote [] (e.step command).2 := by
  cases command with
  | setTable | setWindow | enableWindow | disableWindow | flush | enableInterrupt
  | clearInterrupt => simp [Command.writes] at reads
  | access address write =>
    obtain ⟨latched, same⟩ := e.access_latches address write
    simp only [step, same]
    exact .nothing rfl rfl
  | takeLog => exact absurd rfl kept
  | source | raise | setAperture | failFlushes | window => exact .nothing rfl rfl

def Event.apply (windows : OrderedMap EngineWindow) : Event → OrderedMap EngineWindow
  | .setWindow slot region =>
    windows.insert slot ⟨region, (windows.find? slot).any (·.enabled)⟩
  | .enableWindow slot => windows.modify slot fun window => { window with enabled := true }
  | .disableWindow slot => windows.modify slot fun window => { window with enabled := false }
  | .setTable .. | .flush | .enableInterrupt .. | .clearInterrupt _ => windows

theorem windows_disableWindow (e : Engine) (slot : Nat) :
    (e.disableWindow slot).2.windows = (Event.disableWindow slot).apply e.windows :=
  windows_finishFlush _

def replay (log : List Event) : OrderedMap EngineWindow := log.foldl Event.apply .empty

theorem replay_append (first second : List Event) :
    replay (first ++ second) = second.foldl Event.apply (replay first) :=
  List.foldl_append

theorem replay_snoc (log : List Event) (event : Event) :
    replay (log ++ [event]) = event.apply (replay log) := replay_append log [event]

/-- The slot whose window an event is about. -/
def Event.slot? : Event → Option Nat
  | .setWindow slot _ | .enableWindow slot | .disableWindow slot => some slot
  | .setTable .. | .flush | .enableInterrupt .. | .clearInterrupt _ => none

def Event.program? (slot : Nat) : Event → Option Region
  | .setWindow slot' region => if slot' = slot then some region else none
  | _ => none

def Event.switch? (slot : Nat) : Event → Option Bool
  | .enableWindow slot' => if slot' = slot then some true else none
  | .disableWindow slot' => if slot' = slot then some false else none
  | _ => none

theorem Event.find?_apply (event : Event) (windows : OrderedMap EngineWindow) (slot : Nat) :
    (event.apply windows).find? slot =
      match event.program? slot, event.switch? slot with
      | some region, _ => some ⟨region, (windows.find? slot).any (·.enabled)⟩
      | none, some on => (windows.find? slot).map fun window => { window with enabled := on }
      | none, none => windows.find? slot := by
  cases event with
  | setWindow slot' region =>
    by_cases same : slot' = slot
    · simp [apply, program?, same, OrderedMap.find?_insert]
    · simp [apply, program?, switch?, same, OrderedMap.find?_insert, Ne.symm same]
  | enableWindow slot' | disableWindow slot' =>
    by_cases same : slot' = slot
    · simp [apply, program?, switch?, same, OrderedMap.find?_modify]
    · simp [apply, program?, switch?, same, OrderedMap.find?_modify, Ne.symm same]
  | setTable | flush | enableInterrupt | clearInterrupt => rfl

/-- The windows that a slot was given, in turn. -/
def programs (slot : Nat) (log : List Event) : List Region := log.filterMap (·.program? slot)

/-- Whether a slot was enabled or disabled, each time it was. -/
def switches (slot : Nat) (log : List Event) : List Bool := log.filterMap (·.switch? slot)

theorem programs_snoc (slot : Nat) (log : List Event) (event : Event) :
    programs slot (log ++ [event]) = programs slot log ++ (event.program? slot).toList := by
  cases shown : event.program? slot <;> simp [programs, shown]

theorem switches_snoc (slot : Nat) (log : List Event) (event : Event) :
    switches slot (log ++ [event]) = switches slot log ++ (event.switch? slot).toList := by
  cases shown : event.switch? slot <;> simp [switches, shown]

/-- The writes that are in order while the windows are as given. -/
def Event.Allowed (windows : OrderedMap EngineWindow) : Event → Prop
  | .setWindow slot _ => ∀ region, windows.find? slot ≠ some ⟨region, true⟩
  | .enableWindow slot => ∃ region, windows.find? slot = some ⟨region, false⟩
  | .disableWindow slot => ∃ region, windows.find? slot = some ⟨region, true⟩
  | .flush | .clearInterrupt _ => True
  | .setTable .. | .enableInterrupt .. => False

theorem Event.Allowed.program {windows : OrderedMap EngineWindow} {event : Event} {slot : Nat}
    {region : Region} (allowed : event.Allowed windows)
    (given : event.program? slot = some region) :
    event.switch? slot = none ∧ ∀ region, windows.find? slot ≠ some ⟨region, true⟩ := by
  cases event with
  | setWindow slot' region' =>
    obtain ⟨rfl, _⟩ := Option.ite_none_right_eq_some.mp given
    exact ⟨rfl, allowed⟩
  | enableWindow | disableWindow | setTable | flush | enableInterrupt | clearInterrupt =>
    cases given

theorem Event.Allowed.switch {windows : OrderedMap EngineWindow} {event : Event} {slot : Nat}
    {on : Bool} (allowed : event.Allowed windows) (switched : event.switch? slot = some on) :
    event.program? slot = none ∧ ∃ region, windows.find? slot = some ⟨region, !on⟩ := by
  cases event with
  | enableWindow | disableWindow =>
    obtain ⟨rfl, same⟩ := Option.ite_none_right_eq_some.mp switched
    cases same
    exact ⟨rfl, allowed⟩
  | setWindow | setTable | flush | enableInterrupt | clearInterrupt => cases switched

/-- Every event of the log is in order when it comes. -/
def Obeys : OrderedMap EngineWindow → List Event → Prop
  | _, [] => True
  | windows, event :: rest => event.Allowed windows ∧ Obeys (event.apply windows) rest

theorem obeys_append {windows : OrderedMap EngineWindow} {first second : List Event} :
    Obeys windows (first ++ second) ↔
      Obeys windows first ∧ Obeys (first.foldl Event.apply windows) second := by
  induction first generalizing windows with
  | nil => simp [Obeys]
  | cons event rest ih => simp [Obeys, ih, and_assoc]

theorem obeys_snoc {log : List Event} {event : Event} :
    Obeys .empty (log ++ [event]) ↔ Obeys .empty log ∧ event.Allowed (replay log) := by
  simp [obeys_append, Obeys, replay]

theorem obeys_open {windows : OrderedMap EngineWindow} {slot : Nat} (region : Region)
    (off : ∀ region, windows.find? slot ≠ some ⟨region, true⟩) :
    Obeys windows [.setWindow slot region, .enableWindow slot, .flush] := by
  have closed : (windows.find? slot).any (·.enabled) = false := by
    rw [Option.any_eq_false]
    intro window found
    rw [← Bool.not_eq_true]
    intro enabled
    exact off window.region (found.trans (by rw [← enabled]))
  refine ⟨off, ⟨region, ?_⟩, trivial, trivial⟩
  rw [Event.apply, OrderedMap.find?_insert_self, closed]

/-- What a log in order tells of a slot: its window, enabled if it was last enabled. -/
structure Told (log : List Event) (slot : Nat) : Prop where
  window : (replay log).find? slot = (programs slot log).getLast?.map fun region =>
    ⟨region, (switches slot log).getLast? = some true⟩
  bare : programs slot log = [] → switches slot log = []

/-- A slot with a window was last given this one, and is as it was last switched. -/
theorem Told.last {log : List Event} {slot : Nat} {region : Region} {on : Bool}
    (told : Told log slot) (found : (replay log).find? slot = some ⟨region, on⟩) :
    (programs slot log).getLast? = some region ∧ (switches slot log).getLast?.getD false = on := by
  obtain ⟨region', last, same⟩ := Option.map_eq_some_iff.mp (told.window.symm.trans found)
  cases same
  refine ⟨last, ?_⟩
  cases (switches slot log).getLast? <;> simp

theorem Told.enabled_iff {log : List Event} {slot : Nat} (told : Told log slot) :
    (switches slot log).getLast? = some true ↔
      ∃ region, (replay log).find? slot = some ⟨region, true⟩ := by
  rw [told.window]
  constructor
  · intro last
    cases given : (programs slot log).getLast? with
    | none => simp [told.bare (List.getLast?_eq_none_iff.mp given)] at last
    | some region => exact ⟨region, by simp [last]⟩
  · intro shown
    obtain ⟨region, shown⟩ := shown
    obtain ⟨_, _, same⟩ := Option.map_eq_some_iff.mp shown
    exact of_decide_eq_true (congrArg EngineWindow.enabled same)

theorem told {log : List Event} (obeys : Obeys .empty log) (slot : Nat) : Told log slot := by
  induction log using List.reverseRecOn with
  | nil => exact ⟨rfl, fun _ => rfl⟩
  | append_singleton log event ih =>
    obtain ⟨before, allowed⟩ := obeys_snoc.mp obeys
    have told := ih before
    have shown := event.find?_apply (replay log) slot
    rw [← replay_snoc] at shown
    cases given : event.program? slot with
    | some region =>
      obtain ⟨unswitched, off⟩ := allowed.program given
      -- A window may be programmed only where none is enabled, and it is not enabled by that.
      have disabled : (switches slot log).getLast? ≠ some true := by
        intro last
        obtain ⟨region, on⟩ := told.enabled_iff.mp last
        exact off region on
      have closed : ((replay log).find? slot).any (·.enabled) = false := by
        rw [told.window]
        cases (programs slot log).getLast? <;> simp [disabled]
      rw [given, closed] at shown
      constructor
      · simp [shown, programs_snoc, given, switches_snoc, unswitched, disabled]
      · simp [programs_snoc, given]
    | none =>
      cases switched : event.switch? slot with
      | some on =>
        obtain ⟨_, region, off⟩ := allowed.switch switched
        rw [given, switched, off] at shown
        have last := (told.last off).1
        constructor
        · simp [shown, programs_snoc, given, switches_snoc, switched, last]
        · intro bare
          simp [programs_snoc, given] at bare
          simp [bare] at last
      | none =>
        rw [given, switched] at shown
        constructor
        · simpa [shown, programs_snoc, given, switches_snoc, switched] using told.window
        · simpa [programs_snoc, given, switches_snoc, switched] using told.bare

/-- Where each flush belongs: behind the enabling of a window. -/
structure Flushed (log : List Event) : Prop where
  behind : log.IsChain fun event next => (∃ slot, event = .enableWindow slot) ↔ next = .flush
  first : log.head? ≠ some .flush
  last : ∀ slot, log.getLast? ≠ some (.enableWindow slot)

theorem open_split {slot index : Nat} (before : List Event) {front rest : List Event}
    (bare : ∀ slot, .enableWindow slot ∉ before)
    (split : before ++ [.enableWindow slot, .flush] = front ++ .enableWindow index :: rest) :
    front = before ∧ slot = index ∧ rest = [.flush] := by
  induction before generalizing front with
  | nil =>
    cases front with
    | nil => simpa [eq_comm] using split
    | cons event front => cases front <;> simp at split
  | cons event before ih =>
    cases front with
    | nil =>
      cases (List.cons.inj split).1
      exact absurd List.mem_cons_self (bare index)
    | cons event' front =>
      obtain ⟨rfl, tail⟩ := List.cons.inj split
      have later := ih (fun slot member => bare slot (List.mem_cons_of_mem _ member)) tail
      exact later.imp_left (congrArg (event :: ·))

/-- A log of whole sessions. -/
structure Orderly (log : List Event) : Prop where
  /-- The first that is written for a slot is its window. -/
  begins : ∀ slot event, (log.filter (·.slot? = some slot)).head? = some event →
    ∃ region, event = .setWindow slot region
  /-- Enabling and disabling take turns, and a slot is not enabled at first. -/
  alternates : ∀ slot, (false :: switches slot log).IsChain (· ≠ ·)
  /-- A slot is given a window only while it is not enabled. -/
  shut : ∀ slot region earlier later, log = earlier ++ .setWindow slot region :: later →
    (switches slot earlier).getLast? ≠ some true
  /-- A window that has been enabled is flushed at once. -/
  flushed : ∀ slot earlier later, log = earlier ++ .enableWindow slot :: later →
    later.head? = some .flush
  /-- Nothing else is flushed. -/
  opened : ∀ earlier later, log = earlier ++ .flush :: later →
    ∃ slot, earlier.getLast? = some (.enableWindow slot)
  /-- The table and the interrupts stay as they are. -/
  settled : ∀ event ∈ log, (∀ base stride, event ≠ .setTable base stride) ∧
    ∀ kind on, event ≠ .enableInterrupt kind on

theorem Flushed.append {first second : List Event} (one : Flushed first) (two : Flushed second) :
    Flushed (first ++ second) where
  behind := by
    refine one.behind.append two.behind fun event last next start => ?_
    constructor
    · rintro ⟨slot, rfl⟩
      exact absurd last (one.last slot)
    · rintro rfl
      exact absurd start two.first
  first := by
    cases first with
    | nil => exact two.first
    | cons event rest => exact one.first
  last := by
    cases second using List.reverseRecOn with
    | nil => simpa using one.last
    | append_singleton rest event => simpa [← List.append_assoc] using two.last

theorem programs_eq_nil {log : List Event} {slot : Nat}
    (silent : ∀ event ∈ log, event.slot? ≠ some slot) : programs slot log = [] := by
  refine List.filterMap_eq_nil_iff.mpr fun event member => ?_
  cases event with
  | setWindow slot' region =>
    exact if_neg fun same => silent _ member (congrArg some same)
  | enableWindow | disableWindow | setTable | flush | enableInterrupt | clearInterrupt => rfl

theorem begins_of_obeys {log : List Event} (obeys : Obeys .empty log) {slot : Nat}
    {event : Event} (first : (log.filter (·.slot? = some slot)).head? = some event) :
    ∃ region, event = .setWindow slot region := by
  induction log using List.reverseRecOn with
  | nil => cases first
  | append_singleton log next ih =>
    obtain ⟨before, allowed⟩ := obeys_snoc.mp obeys
    rw [List.filter_append, List.head?_append] at first
    cases earlier : log.filter (·.slot? = some slot) with
    | cons event' rest =>
      rw [earlier] at first
      exact ih before ((congrArg List.head? earlier).trans first)
    | nil =>
      -- Nothing was written for the slot, so it has no window that could be switched.
      have silent := List.filter_eq_nil_iff.mp earlier
      have bare : (replay log).find? slot = none := by
        rw [(told before slot).window, programs_eq_nil fun event member about =>
          silent event member (decide_eq_true about)]
        rfl
      rw [earlier, List.head?_nil, Option.none_or] at first
      obtain ⟨only, about⟩ := List.mem_filter.mp (List.mem_of_mem_head? first)
      obtain rfl := List.mem_singleton.mp only
      have about := of_decide_eq_true about
      cases event with
      | setWindow slot' region =>
        cases about
        exact ⟨region, rfl⟩
      | enableWindow | disableWindow =>
        cases about
        obtain ⟨region, on⟩ := allowed
        cases bare.symm.trans on
      | setTable | flush | enableInterrupt | clearInterrupt => cases about

theorem alternates_of_obeys {log : List Event} (obeys : Obeys .empty log) (slot : Nat) :
    (false :: switches slot log).IsChain (· ≠ ·) := by
  induction log using List.reverseRecOn with
  | nil => exact .singleton false
  | append_singleton log event ih =>
    obtain ⟨before, allowed⟩ := obeys_snoc.mp obeys
    rw [switches_snoc, ← List.cons_append]
    cases switched : event.switch? slot with
    | none => simpa using ih before
    | some on =>
      obtain ⟨_, region, off⟩ := allowed.switch switched
      have last := ((told before slot).last off).2
      refine (ih before).append (.singleton on) fun on' latest next only => ?_
      rw [List.getLast?_cons, last] at latest
      cases latest
      cases only
      simp

/-- A log in order that flushes where it should is orderly. -/
theorem Obeys.orderly {log : List Event} (obeys : Obeys .empty log) (flushed : Flushed log) :
    Orderly log where
  begins := fun slot event first => begins_of_obeys obeys first
  alternates := alternates_of_obeys obeys
  shut := by
    intro slot region earlier later split
    rw [split] at obeys
    obtain ⟨before, allowed, _⟩ := obeys_append.mp obeys
    intro last
    obtain ⟨region, on⟩ := (told before slot).enabled_iff.mp last
    exact allowed region on
  flushed := by
    intro slot earlier later split
    cases later with
    | nil =>
      refine absurd ?_ (flushed.last slot)
      rw [split, List.getLast?_append]
      rfl
    | cons next rest =>
      have adjacent := flushed.behind
      rw [split] at adjacent
      have behind := (List.isChain_append_cons_cons.mp adjacent).2.1
      exact congrArg some (behind.mp ⟨slot, rfl⟩)
  opened := by
    intro earlier later split
    cases earlier using List.reverseRecOn with
    | nil => exact absurd (congrArg List.head? split) flushed.first
    | append_singleton rest event =>
      have adjacent := flushed.behind
      rw [split, List.append_assoc, List.singleton_append] at adjacent
      obtain ⟨slot, rfl⟩ := (List.isChain_append_cons_cons.mp adjacent).2.1.mpr rfl
      exact ⟨slot, List.getLast?_concat⟩
  settled := by
    intro event member
    obtain ⟨earlier, later, split⟩ := List.append_of_mem member
    rw [split] at obeys
    obtain ⟨_, allowed, _⟩ := obeys_append.mp obeys
    constructor
    · rintro base stride rfl
      exact allowed
    · rintro kind on rfl
      exact allowed

end TiledSurface.Engine
