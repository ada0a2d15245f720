import Mathlib.Data.Fintype.Card
import Mathlib.Order.Bounds.Defs
import TiledSurface.Proofs.Driver.Neighbours
import TiledSurface.Proofs.Driver.Notes
import TiledSurface.Proofs.Driver.Shapes
import TiledSurface.Proofs.Driver.Turns

namespace TiledSurface

def Surface.IsTiled (s : Surface) : Prop :=
  ∃ a format tiles, s.attributes? = some a ∧ a.check = .ok format ∧ format.layout? = some tiles

theorem Surface.Valid.isTiled_iff {s : Surface} {unit : LengthUnit} (valid : s.Valid unit) :
    s.IsTiled ↔ ∃ layout, s.setup = .tiled layout := by
  obtain ⟨setup, permanent⟩ := s
  constructor
  · rintro ⟨a, format, tiles, attributes, checked, layout⟩
    cases setup with
    | unconfigured => cases attributes
    | linear =>
      cases attributes
      obtain ⟨_, checked', none⟩ := Attributes.plan?_eq_none.mp (valid.linear a rfl)
      cases checked.symm.trans checked'
      cases layout.symm.trans none
    | tiled layout => exact ⟨layout, rfl⟩
  · rintro ⟨layout, rfl⟩
    obtain ⟨format, tiles, presence, checked, chosen, _⟩ := (valid.tiled layout rfl).layout
    exact ⟨layout.attributes, format, _, rfl, checked, chosen⟩

namespace Driver

variable {d d' : Driver} {handle other : Handle} {slot : Slot} {direction : Direction}

def boundSlots (d : Driver) : Finset Slot := (d.surfaces.values.filterMap Surface.slot?).toFinset

theorem mem_boundSlots :
    slot ∈ d.boundSlots ↔ ∃ handle, owned d.surfaces Surface.slot? handle = some slot := by
  simp only [boundSlots, OrderedMap.values, List.mem_toFinset, List.mem_filterMap, List.mem_map,
    owned_eq_some, OrderedMap.find?_eq_some_iff]
  constructor
  · rintro ⟨surface, ⟨⟨handle, _⟩, member, rfl⟩, held⟩
    exact ⟨handle, _, member, held⟩
  · rintro ⟨handle, surface, member, held⟩
    exact ⟨surface, ⟨_, member, rfl⟩, held⟩

theorem SlotsKept.isHeld_iff (kept : d.SlotsKept) (slot : Slot) :
    d.slots.isHeld slot = true ↔ slot ∈ d.boundSlots :=
  (kept.ledger.taken_iff slot).trans mem_boundSlots.symm

theorem card_boundSlots_eq : d.boundSlots.card = slotCount ↔ ∀ slot, slot ∈ d.boundSlots := by
  rw [← Finset.eq_univ_iff_forall, ← Finset.card_eq_iff_eq_univ, Fintype.card_fin]

theorem card_boundSlots_lt : d.boundSlots.card < slotCount ↔ ∃ slot, slot ∉ d.boundSlots := by
  have most : d.boundSlots.card ≤ slotCount := by
    simpa using Finset.card_le_univ d.boundSlots
  rw [Nat.lt_iff_le_and_ne, and_iff_right most, Ne, card_boundSlots_eq, not_forall]

/-- A surface that may be locked: again, if its locks can still be counted, or for the first time,
if it is set up for tiles and has a slot or finds one. -/
inductive Lockable (d : Driver) (handle : Handle) : Prop where
  | again {surface session} (found : d.surfaces.find? handle = some surface)
      (locked : surface.session? = some session) (room : session.count < Session.maxCount)
  | first {surface} (found : d.surfaces.find? handle = some surface)
      (unlocked : surface.session? = none) (tiled : surface.IsTiled)
      (provided : surface.slot? ≠ none ∨ d.boundSlots.card < slotCount)

/-- A surface that is set up for tiles and waits for a slot while surfaces hold all of them. -/
structure Starved (d : Driver) (handle : Handle) (surface : Surface) : Prop where
  found : d.surfaces.find? handle = some surface
  unlocked : surface.session? = none
  tiled : surface.IsTiled
  bare : surface.slot? = none
  taken : d.boundSlots.card = slotCount

theorem LockEnds.lockable (ends : d.LockEnds handle direction (.ok ()) d') (kept : d.SlotsKept)
    (shapes : d.ShapesKept) : d.Lockable handle := by
  cases ends with
  | nested found locked room => exact .again found (congrArg Binding.session? locked) room
  | @first layout permanent slot _ _ _ found bound =>
    refine .first found bound.unlocked ((shapes handle _ found).isTiled_iff.mpr ⟨layout, rfl⟩) ?_
    cases bound with
    | ready kept | stale kept =>
      exact .inl (by simp [Surface.slot?, Surface.tiled?, kept, Binding.slot?])
    | claimed unbound granted =>
      refine .inr (card_boundSlots_lt.mpr ⟨slot, ?_⟩)
      rw [← kept.isHeld_iff, SlotTable.isHeld_of_claim granted]
      exact Bool.false_ne_true

theorem LockEnds.not_lockable {error : Error}
    (ends : d.LockEnds handle direction (.error error) d') (kept : d.SlotsKept)
    (shapes : d.ShapesKept) : ¬ d.Lockable handle := by
  -- Each refusal met a surface that is not as either kind of lock needs it.
  have refuse {surface : Surface} (found : d.surfaces.find? handle = some surface)
      (again : ∀ session, surface.session? = some session → Session.maxCount ≤ session.count)
      (first : surface.session? = none → surface.IsTiled →
        surface.slot? = none ∧ ∀ slot, slot ∈ d.boundSlots) : ¬ d.Lockable handle := by
    rintro (⟨found', locked, room⟩ | ⟨found', unlocked, tiled, provided⟩)
    · cases found.symm.trans found'
      exact absurd room (Nat.not_lt.mpr (again _ locked))
    · cases found.symm.trans found'
      obtain ⟨bare, taken⟩ := first unlocked tiled
      rcases provided with held | vacant
      · exact held bare
      · exact Nat.ne_of_lt vacant (card_boundSlots_eq.mpr taken)
  have untiled {surface : Surface} (found : d.surfaces.find? handle = some surface)
      (other : ∀ layout, surface.setup ≠ .tiled layout) : ¬ surface.IsTiled := by
    rw [(shapes handle _ found).isTiled_iff]
    rintro ⟨layout, tiled⟩
    exact other layout tiled
  cases ends with
  | unknown missing =>
    rintro (⟨found, _⟩ | ⟨found, _⟩) <;> cases missing.symm.trans found
  | unset found | linear found =>
    exact refuse found nofun fun _ tiled => absurd tiled (untiled found nofun)
  | overflow found locked full =>
    have session := congrArg Binding.session? locked
    refine refuse found (fun other held => ?_) fun unlocked _ => ?_
    · cases session.symm.trans held
      exact full
    · cases session.symm.trans unlocked
  | exhausted found unbound taken =>
    have unlocked := congrArg Binding.session? unbound
    refine refuse found (fun other held => ?_) fun _ _ => ⟨?_, fun slot => ?_⟩
    · cases unlocked.symm.trans held
    · exact congrArg Binding.slot? unbound
    · exact (kept.isHeld_iff slot).mp (taken slot)

theorem lock_granted_iff (kept : d.SlotsKept) (shapes : d.ShapesKept) :
    (d.lock handle direction).1 = .ok () ↔ d.Lockable handle := by
  have ends := d.lock_ends handle direction
  cases told : (d.lock handle direction).1 with
  | ok done =>
    rw [told] at ends
    exact iff_of_true rfl (ends.lockable kept shapes)
  | error error =>
    rw [told] at ends
    exact iff_of_false nofun (ends.not_lockable kept shapes)

/-- A surface that waits for a slot is refused for that, and for nothing else. -/
theorem lock_exhausted_iff (kept : d.SlotsKept) (shapes : d.ShapesKept) :
    (d.lock handle direction).1 = .error (.exhausted slotCount) ↔
      ∃ surface, d.Starved handle surface := by
  have ends := d.lock_ends handle direction
  constructor
  · intro refused
    rw [refused] at ends
    generalize (d.lock handle direction).2 = d' at ends
    cases ends with
    | @exhausted layout permanent found unbound taken =>
      exact ⟨_, {
        found
        unlocked := congrArg Binding.session? unbound
        tiled := (shapes handle _ found).isTiled_iff.mpr ⟨layout, rfl⟩
        bare := congrArg Binding.slot? unbound
        taken := card_boundSlots_eq.mpr fun slot => (kept.isHeld_iff slot).mp (taken slot) }⟩
  · rintro ⟨surface, starved⟩
    have found := starved.found
    obtain ⟨layout, tiled⟩ := (shapes handle _ found).isTiled_iff.mp starved.tiled
    obtain ⟨setup, permanent⟩ := surface
    cases tiled
    have bare : layout.binding.slot? = none := starved.bare
    have unbound : layout.binding = .unbound := by
      cases binding : layout.binding with
      | unbound => rfl
      | kept | locked => simp [binding, Binding.slot?] at bare
    unfold lock bindSlot
    simp only [found, unbound]
    rcases d.slots.claim_cases with ⟨refused, _⟩ | ⟨slot, _, _, free, _⟩
    · rw [refused]
    · have held := (kept.isHeld_iff slot).mpr (card_boundSlots_eq.mp starved.taken slot)
      cases free.symm.trans held

/-- A lock that is granted gives a surface without a slot the lowest one that no surface holds. -/
theorem lock_takes_lowest (kept : d.SlotsKept) (granted : (d.lock handle direction).1 = .ok ())
    (bare : owned d.surfaces Surface.slot? handle = none) :
    ∃ slot, owned (d.lock handle direction).2.surfaces Surface.slot? handle = some slot ∧
      IsLeast {slot | slot ∉ d.boundSlots} slot := by
  have ends := d.lock_ends handle direction
  rw [granted] at ends
  generalize (d.lock handle direction).2 = d' at ends
  cases ends with
  | nested found locked =>
    have held := bare.symm.trans (owned_of_find? Surface.slot? found)
    simp [Surface.slot?, Surface.tiled?, locked, Binding.slot?] at held
  | @first layout permanent slot _ _ _ found bound =>
    have unbound : layout.binding.slot? = none :=
      (owned_of_find? Surface.slot? found).symm.trans bare
    refine ⟨slot, owned_insert_self .., ?_⟩
    cases bound with
    | ready kept | stale kept => simp [kept, Binding.slot?] at unbound
    | claimed _ granted =>
      rcases d.slots.claim_cases with ⟨refused, _⟩ | ⟨slot', _, given, free, lower, _⟩
      · cases refused.symm.trans granted
      · cases given.symm.trans granted
        refine ⟨?_, fun other vacant => ?_⟩
        · show slot ∉ d.boundSlots
          rw [← kept.isHeld_iff, free]
          exact Bool.false_ne_true
        · refine Fin.not_lt.mp fun below => vacant ?_
          exact (kept.isHeld_iff other).mp (lower other below)

theorem target?_of_lost {command : Command}
    (held : owned d.surfaces Surface.slot? other = some slot)
    (lost : owned (d.step command).2.surfaces Surface.slot? other ≠ some slot) :
    command.target? = some other := by
  by_contra elsewhere
  exact lost ((owned_congr _ (d.step_elsewhere elsewhere)).trans held)

theorem step_vacates (kept : d.SlotsKept) {command : Command}
    (held : owned d.surfaces Surface.slot? other = some slot)
    (lost : owned (d.step command).2.surfaces Surface.slot? other ≠ some slot) :
    slot ∉ (d.step command).2.boundSlots ∧
      ∀ slot' ∈ d.boundSlots, slot' ≠ slot → slot' ∈ (d.step command).2.boundSlots := by
  have request := target?_of_lost held lost
  have others {handle : Handle} (different : handle ≠ other) :
      owned (d.step command).2.surfaces Surface.slot? handle =
        owned d.surfaces Surface.slot? handle :=
    owned_congr _ (d.step_elsewhere (request ▸ fun same => different (Option.some.inj same).symm))
  constructor
  · rw [mem_boundSlots]
    rintro ⟨owner, mine⟩
    by_cases same : owner = other
    · exact lost (same ▸ mine)
    · exact same (kept.ledger.alone ((others same).symm.trans mine) held)
  · intro slot' bound apart
    obtain ⟨owner, mine⟩ := mem_boundSlots.mp bound
    have different : owner ≠ other := by
      rintro rfl
      exact apart (Option.some.inj (mine.symm.trans held))
    exact mem_boundSlots.mpr ⟨owner, (others different).trans mine⟩

/-- A surface that waits for a slot gets the one that another surface gives up. -/
theorem Starved.served {surface : Surface} (starved : d.Starved handle surface)
    (kept : d.SlotsKept) {command : Command} (kept' : (d.step command).2.SlotsKept)
    (shapes' : (d.step command).2.ShapesKept)
    (held : owned d.surfaces Surface.slot? other = some slot)
    (lost : owned (d.step command).2.surfaces Surface.slot? other ≠ some slot) :
    ((d.step command).2.lock handle direction).1 = .ok () ∧
      owned ((d.step command).2.lock handle direction).2.surfaces Surface.slot? handle =
        some slot := by
  obtain ⟨vacant, still⟩ := step_vacates kept held lost
  have unheld : owned d.surfaces Surface.slot? handle = none :=
    (owned_of_find? _ starved.found).trans starved.bare
  have elsewhere : command.target? ≠ some handle := by
    rw [target?_of_lost held lost]
    rintro ⟨⟩
    cases unheld.symm.trans held
  have same := d.step_elsewhere elsewhere
  have granted : ((d.step command).2.lock handle direction).1 = .ok () :=
    (lock_granted_iff kept' shapes').mpr (.first (same.trans starved.found) starved.unlocked
      starved.tiled (.inr (card_boundSlots_lt.mpr ⟨slot, vacant⟩)))
  obtain ⟨taken, gets, least⟩ :=
    lock_takes_lowest kept' granted ((owned_congr _ same).trans unheld)
  have only : taken = slot := by
    by_contra apart
    exact least.1 (still taken (card_boundSlots_eq.mp starved.taken taken) apart)
  exact ⟨granted, only ▸ gets⟩

/-- In every state of a run, a lock is granted just if it is a further lock that can be counted, or
the surface is set up for tiles, not locked, and has a slot or finds one that no surface holds. It
is refused for want of a slot just if the surface is set up for tiles, not locked and without a
slot, and surfaces hold all slots. A surface without a slot gets the lowest one that no surface
holds. A flush that times out changes none of this. When a lock was refused for want of a slot and
then another surface gives up its slot, by whatever request, the same lock is granted and gets just
that slot. -/
theorem lock_exact {config : Config} {platform : Platform} (up : bringUp config platform = .ok d)
    (commands : List Command) (handle : Handle) (direction : Direction) :
    (((d.run commands).lock handle direction).1 = .ok () ↔ (d.run commands).Lockable handle) ∧
    (((d.run commands).lock handle direction).1 = .error (.exhausted slotCount) ↔
      ∃ surface, (d.run commands).Starved handle surface) ∧
    (((d.run commands).lock handle direction).1 = .ok () →
      owned (d.run commands).surfaces Surface.slot? handle = none →
      ∃ slot, owned ((d.run commands).lock handle direction).2.surfaces Surface.slot? handle =
          some slot ∧ IsLeast {slot | slot ∉ (d.run commands).boundSlots} slot) ∧
    (∀ count, ((d.run (commands ++ [.platform (.engine (.failFlushes count))])).lock handle
        direction).1 = ((d.run commands).lock handle direction).1 ∧
      ((d.run (commands ++ [.platform (.engine (.failFlushes count))])).lock handle
        direction).2.surfaces = ((d.run commands).lock handle direction).2.surfaces) ∧
    (∀ command other slot,
      ((d.run commands).lock handle direction).1 = .error (.exhausted slotCount) →
      owned (d.run commands).surfaces Surface.slot? other = some slot →
      owned (d.run (commands ++ [command])).surfaces Surface.slot? other ≠ some slot →
      ((d.run (commands ++ [command])).lock handle direction).1 = .ok () ∧
        owned ((d.run (commands ++ [command])).lock handle direction).2.surfaces Surface.slot?
          handle = some slot) := by
  have kept := (SlotsKept.start up).run commands
  have shapes := (ShapesKept.start up).run commands
  refine ⟨lock_granted_iff kept shapes, lock_exhausted_iff kept shapes, lock_takes_lowest kept,
    fun count => ?_, fun command other slot refused held lost => ?_⟩
  · rw [run_snoc]
    have same : ((d.run commands).step (.platform (.engine (.failFlushes count)))).2.plain =
        (d.run commands).plain := rfl
    obtain ⟨told, left⟩ := effect_eq.mp
      (effect_congr (·.lock handle direction) (lock_plain · handle direction) same)
    exact ⟨told, surfaces_of_plain left⟩
  · have kept' := (SlotsKept.start up).run (commands ++ [command])
    have shapes' := (ShapesKept.start up).run (commands ++ [command])
    rw [run_snoc] at lost kept' shapes' ⊢
    obtain ⟨surface, starved⟩ := (lock_exhausted_iff kept shapes).mp refused
    exact starved.served kept kept' shapes' held lost

/-- The slot that the first surface of that run gave up is the lowest one for the second, and the
next one is for the first, when it is locked again. -/
theorem lock_exact_handOverRun :
    ∃ d, bringUp {} { engine := { version := ⟨1, 1⟩ } } = .ok d ∧
      (d.run handOverRun.dropLast).Lockable 2 ∧
      IsLeast {slot | slot ∉ (d.run handOverRun.dropLast).boundSlots} ⟨0, by decide⟩ ∧
      (d.run handOverRun).Lockable 1 ∧
      IsLeast {slot | slot ∉ (d.run handOverRun).boundSlots} ⟨1, by decide⟩ := by
  have computed : (bringUp {} { engine := { version := ⟨1, 1⟩ } }).toOption.any (fun d =>
      ((d.run handOverRun.dropLast).lock 2 .write).1 = .ok () ∧
        owned (d.run handOverRun.dropLast).surfaces Surface.slot? 2 = none ∧
        owned ((d.run handOverRun.dropLast).lock 2 .write).2.surfaces Surface.slot? 2 =
          some ⟨0, by decide⟩ ∧
        ((d.run handOverRun).lock 1 .read).1 = .ok () ∧
        owned (d.run handOverRun).surfaces Surface.slot? 1 = none ∧
        owned ((d.run handOverRun).lock 1 .read).2.surfaces Surface.slot? 1 =
          some ⟨1, by decide⟩) = true := by
    decide +kernel
  obtain ⟨d, up, ran⟩ := exists_up computed
  obtain ⟨granted, bare, gets, granted', bare', gets'⟩ := of_decide_eq_true ran
  obtain ⟨lockable, _, lowest, _⟩ := lock_exact up handOverRun.dropLast 2 .write
  obtain ⟨lockable', _, lowest', _⟩ := lock_exact up handOverRun 1 .read
  obtain ⟨slot, takes, least⟩ := lowest granted bare
  obtain ⟨slot', takes', least'⟩ := lowest' granted' bare'
  cases takes.symm.trans gets
  cases takes'.symm.trans gets'
  exact ⟨d, up, lockable.mp granted, least, lockable'.mp granted', least'⟩

end Driver

end TiledSurface
