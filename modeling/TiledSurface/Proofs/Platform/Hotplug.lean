import TiledSurface.Platform.Hotplug

namespace TiledSurface.Hotplug

structure Unused (h : Hotplug) : Prop where
  offline : h.online = false
  silent : h.events = []

/-- The transitions are of one range and take turns, and the first brings it online. -/
def InTurn (region : Region) (events : List Event) : Prop :=
  ∀ (i : Nat) (event : Event), events[i]? = some event → event = ⟨i % 2 == 0, region⟩

/-- The service has dealt with one range only, by transitions that take turns. -/
structure Regular (region : Region) (h : Hotplug) : Prop where
  inTurn : InTurn region h.events
  online : h.online = (h.events.length % 2 == 1)

variable {h : Hotplug} {region : Region} {events : List Event}

theorem InTurn.concat (turns : InTurn region events) {on : Bool}
    (next : on = (events.length % 2 == 0)) : InTurn region (events ++ [⟨on, region⟩]) := by
  intro i event found
  rcases Nat.lt_trichotomy i events.length with earlier | last | beyond
  · rw [List.getElem?_append_left earlier] at found
    exact turns i event found
  · rw [last, List.getElem?_concat_length] at found
    cases found
    rw [next, last]
  · rw [List.getElem?_eq_none (by simpa using Nat.succ_le_of_lt beyond)] at found
    cases found

theorem Unused.regular (unused : h.Unused) (region : Region) : Regular region h := by
  constructor
  · rw [unused.silent]
    exact nofun
  · rw [unused.silent]
    exact unused.offline

theorem Regular.switch (regular : Regular region h) (on : Bool) (other : h.online = !on)
    (failingOnlines failingOfflines : Nat) :
    Regular region ⟨on, failingOnlines, failingOfflines, h.events ++ [⟨on, region⟩]⟩ := by
  have parity := regular.online
  have next : on = (h.events.length % 2 == 0) := by
    rw [other] at parity
    rcases Nat.mod_two_eq_zero_or_one h.events.length with even | odd
    · simpa [even] using parity
    · simpa [odd] using parity
  refine ⟨regular.inTurn.concat next, ?_⟩
  rw [next, List.length_append, List.length_singleton]
  rcases Nat.mod_two_eq_zero_or_one h.events.length with even | odd
  · simp [Nat.add_mod, even]
  · simp [Nat.add_mod, odd]

theorem onlines_switch (on : Bool) (failingOnlines failingOfflines : Nat) :
    onlines ⟨on, failingOnlines, failingOfflines, h.events ++ [⟨on, region⟩]⟩ =
      h.onlines + if on then 1 else 0 := by
  cases on <;> simp [onlines]

theorem offlines_switch (on : Bool) (failingOnlines failingOfflines : Nat) :
    offlines ⟨on, failingOnlines, failingOfflines, h.events ++ [⟨on, region⟩]⟩ =
      h.offlines + if on then 0 else 1 := by
  cases on <;> simp [offlines]

theorem bringOnline_cases (h : Hotplug) (region : Region) :
    (∃ failures, h.failingOnlines = failures + 1 ∧ h.bringOnline region =
        (.error (.rejected .online), { h with failingOnlines := failures })) ∨
      h.failingOnlines = 0 ∧ h.bringOnline region =
        (.ok (), { h with online := true, events := h.events ++ [⟨true, region⟩] }) := by
  unfold bringOnline
  cases waiting : h.failingOnlines with
  | zero => exact .inr ⟨rfl, rfl⟩
  | succ failures => exact .inl ⟨failures, rfl, rfl⟩

theorem takeOffline_cases (h : Hotplug) (region : Region) :
    (∃ failures, h.failingOfflines = failures + 1 ∧ h.takeOffline region =
        (.error (.rejected .offline), { h with failingOfflines := failures })) ∨
      h.failingOfflines = 0 ∧ h.takeOffline region =
        (.ok (), { h with online := false, events := h.events ++ [⟨false, region⟩] }) := by
  unfold takeOffline
  cases waiting : h.failingOfflines with
  | zero => exact .inr ⟨rfl, rfl⟩
  | succ failures => exact .inl ⟨failures, rfl, rfl⟩

end TiledSurface.Hotplug
