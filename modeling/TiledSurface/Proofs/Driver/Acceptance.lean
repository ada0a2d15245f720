import TiledSurface.Proofs.Driver.Attachments
import TiledSurface.Proofs.Driver.Reservations
import TiledSurface.Proofs.Limits
import TiledSurface.Proofs.Window.Fit

/-!
Which attributes a surface takes. While nothing below the driver fails, valid attributes of a
tiled format meet six demands: on their own sizes, on the pool and on the buffer. The first one
that is not met decides the refusal, and no other check can fail. What the surface had before
counts in one way only: its own window is free for it.
-/

namespace TiledSurface

structure Demand where
  met : Prop
  refusal : Error

/-- The answer to a request whose demands are looked at one after the other. -/
inductive Answers : List Demand → Except Error Unit → Prop where
  | granted : Answers [] (.ok ())
  | unmet {demand later} (fails : ¬ demand.met) :
      Answers (demand :: later) (.error demand.refusal)
  | met {demand later result} (holds : demand.met) (rest : Answers later result) :
      Answers (demand :: later) result

/-- The first demand that is not met has this refusal. -/
def Refuses (demands : List Demand) (error : Error) : Prop :=
  ∃ before demand after, demands = before ++ demand :: after ∧
    (∀ earlier ∈ before, earlier.met) ∧ ¬ demand.met ∧ demand.refusal = error

theorem refuses_cons {demand : Demand} {later : List Demand} {error : Error} :
    Refuses (demand :: later) error ↔
      ¬ demand.met ∧ demand.refusal = error ∨ demand.met ∧ Refuses later error := by
  constructor
  · intro refused
    obtain ⟨before, first, after, split, met, fails, refusal⟩ := refused
    cases before with
    | nil =>
      cases split
      exact .inl ⟨fails, refusal⟩
    | cons earlier rest =>
      cases split
      obtain ⟨holds, met⟩ := List.forall_mem_cons.mp met
      exact .inr ⟨holds, rest, first, after, rfl, met, fails, refusal⟩
  · intro either
    rcases either with ⟨fails, refusal⟩ | ⟨holds, before, first, after, rfl, met, fails, refusal⟩
    · exact ⟨[], demand, later, rfl, nofun, fails, refusal⟩
    · exact ⟨demand :: before, first, after, rfl, List.forall_mem_cons.mpr ⟨holds, met⟩, fails,
        refusal⟩

theorem Answers.ok_iff {demands : List Demand} {result : Except Error Unit}
    (answers : Answers demands result) : result = .ok () ↔ ∀ demand ∈ demands, demand.met := by
  induction answers with
  | granted => simp
  | unmet fails => simp [fails]
  | met holds rest ih => simp [holds, ih]

theorem Answers.error_iff {demands : List Demand} {result : Except Error Unit} {error : Error}
    (answers : Answers demands result) : result = .error error ↔ Refuses demands error := by
  induction answers with
  | granted => simp [Refuses]
  | unmet fails => simp [refuses_cons, fails]
  | met holds rest ih => simp [refuses_cons, holds, ih]

namespace Buffers

/-- A buffer is registered at these device addresses, and no failure waits. -/
structure Ready (b : Buffers) (handle : Handle) (mapping : DeviceMapping) : Prop where
  registered : ∃ buffer, b.records.find? handle = some buffer ∧ buffer.mapping = mapping
  maps : b.failingMaps = 0
  attaches : b.failingAttaches = 0

variable {b b' : Buffers} {handle : Handle} {mapping : DeviceMapping}

theorem Ready.map (ready : b.Ready handle mapping) {cpu : CpuMapping}
    {result : Except PlatformError Unit} (mapped : b.map handle cpu = (result, b')) :
    result = .ok () ∧ b'.Ready handle mapping ∧ b'.attached? = b.attached? := by
  have same := b.attached?_map handle cpu
  obtain ⟨⟨buffer, found, here⟩, maps, attaches⟩ := ready
  rcases b.map_cases handle cpu with ⟨failures, failing, _⟩ | ⟨_, missing, _⟩ |
    ⟨buffer', _, found', done⟩
  · cases maps.symm.trans failing
  · cases found.symm.trans missing
  · cases found.symm.trans found'
    cases done.symm.trans mapped
    rw [done] at same
    exact ⟨rfl, ⟨⟨{ buffer with cpu }, by simp [OrderedMap.find?_insert], here⟩, maps, attaches⟩,
      same⟩

theorem Ready.ensureAttached (ready : b.Ready handle mapping)
    {result : Except PlatformError DeviceMapping}
    (ended : b.ensureAttached handle (b.attached? handle) = (result, b')) :
    result = .ok mapping := by
  obtain ⟨⟨buffer, found, rfl⟩, _, attaches⟩ := ready
  cases attached : buffer.attached with
  | false =>
    have unseen : b.attached? handle = none := by simp [Buffers.attached?, found, attached]
    have done : (b.attach handle).1 = .ok buffer.mapping := by
      simp [Buffers.attach, attaches, found, attached]
    rw [unseen] at ended
    exact (congrArg Prod.fst ended).symm.trans done
  | true =>
    have seen : b.attached? handle = some buffer.mapping := by
      simp [Buffers.attached?, found, attached]
    rw [seen] at ended
    cases ended
    rfl

end Buffers

/-- Valid attributes of a tiled format, with what they ask for. -/
structure Attributes.Asks (a : Attributes) (presence : Presence) (plan : Plan) : Prop where
  tiled : ∃ image, a.check = .ok image ∧ image.layout? = some (plan.format, presence)
  measured : Footprint.measure? a plan.format presence = some plan.footprint
  spanned : plan.footprint.deviceBytes? = some plan.span

namespace Plan

/-- What the descriptor and the buffer demand of a window that is placed at some base. -/
def demands (plan : Plan) (a : Attributes) (presence : Presence) (placed : Nat → Prop)
    (mapping : DeviceMapping) : List Demand :=
  let chroma := mapping.base + plan.footprint.luma.metadata + plan.footprint.luma.pixels
  [⟨plan.span ≤ mapping.length, .failed (.bufferTooSmall mapping.length plan.span)⟩,
    ⟨Footprint.LineAligned a plan.format presence, .invalidAttributes .uvStartUnaligned⟩,
    ⟨∃ base, placed base ∧ base + plan.footprint.uvOffset < 2 ^ 54,
      .invalidAttributes .uvStartRange⟩,
    ⟨chroma < 2 ^ 44,
      .invalidAttributes (if chroma < Word.limit then .addressField else .uvMetadataOverflow)⟩]

end Plan

namespace Attributes.Asks

variable {a : Attributes} {presence : Presence} {plan : Plan}

theorem inRange (asks : a.Asks presence plan) : a.InRange := by
  obtain ⟨image, checked, _⟩ := asks.tiled
  exact Attributes.inRange checked

theorem modest (asks : a.Asks presence plan) :
    plan.footprint.Modest a plan.format presence := by
  obtain ⟨f, measured, modest⟩ := Footprint.exists_measure? asks.inRange plan.format presence
  cases asks.measured.symm.trans measured
  exact modest

theorem plan?_eq (asks : a.Asks presence plan) :
    a.plan? = if plan.footprint.windowSize = 0 then .error .emptyWindow else .ok (some plan) := by
  obtain ⟨image, checked, layout⟩ := asks.tiled
  exact Attributes.plan?_tiled checked layout asks.measured asks.spanned

theorem not_linear (asks : a.Asks presence plan) : a.check ≠ .ok .linear := by
  obtain ⟨image, checked, layout⟩ := asks.tiled
  intro linear
  cases checked.symm.trans linear
  cases layout

theorem valid (asks : a.Asks presence plan) (fault : AttributeFault) : a.check ≠ .error fault := by
  obtain ⟨image, checked, _⟩ := asks.tiled
  intro invalid
  cases checked.symm.trans invalid

theorem unique (asks : a.Asks presence plan) {presence' : Presence} {plan' : Plan}
    (asks' : a.Asks presence' plan') : presence' = presence ∧ plan' = plan := by
  obtain ⟨⟨image, checked, layout⟩, measured, spanned⟩ := asks
  obtain ⟨⟨image', checked', layout'⟩, measured', spanned'⟩ := asks'
  obtain ⟨format, f, span⟩ := plan
  obtain ⟨format', f', span'⟩ := plan'
  cases checked.symm.trans checked'
  cases layout.symm.trans layout'
  cases measured.symm.trans measured'
  cases spanned.symm.trans spanned'
  exact ⟨rfl, rfl⟩

theorem exists_iff (asks : a.Asks presence plan) {holds : Presence → Plan → Prop} :
    (∃ presence plan, a.Asks presence plan ∧ holds presence plan) ↔ holds presence plan := by
  constructor
  · intro given
    obtain ⟨presence', plan', asks', here⟩ := given
    obtain ⟨rfl, rfl⟩ := asks.unique asks'
    exact here
  · exact fun here => ⟨presence, plan, asks, here⟩

theorem describe (asks : a.Asks presence plan) {window : Region} {mapping : DeviceMapping}
    {placed : Nat → Prop} (here : ∀ base, placed base ↔ base = window.base)
    (lines : cacheLineSize ∣ window.base)
    (inside : window.base + plan.footprint.windowSize < Word.limit) (unit : LengthUnit) :
    Answers (plan.demands a presence placed mapping)
      ((plan.describe a unit window mapping).map fun _ => ()) := by
  have modest := asks.modest
  have start : window.base + plan.footprint.uvOffset < Word.limit :=
    Nat.lt_of_le_of_lt (Nat.add_le_add_left modest.inside _) inside
  have aligned := modest.aligned
  rw [← Nat.dvd_add_right lines, Nat.dvd_iff_mod_eq_zero] at aligned
  unfold Plan.describe Plan.demands
  simp only [here, exists_eq_left]
  rcases Nat.lt_or_ge mapping.length plan.span with short | long
  · rw [if_pos short]
    exact .unmet (Nat.not_le.mpr short)
  refine .met long ?_
  rw [if_neg (Nat.not_lt.mpr long), if_neg (Nat.not_le.mpr start)]
  rcases em' (Footprint.LineAligned a plan.format presence) with odd | even
  · rw [if_pos fun whole => odd (aligned.mp whole)]
    exact .unmet odd
  refine .met even ?_
  rw [if_neg (not_not_intro (aligned.mpr even))]
  rcases Nat.lt_or_ge (window.base + plan.footprint.uvOffset) (2 ^ 54) with low | high
  · refine .met low ?_
    obtain ⟨fits, wide⟩ := Descriptor.ofFootprint_low asks.inRange modest low unit
    rcases Nat.lt_or_ge (mapping.base + plan.footprint.luma.metadata + plan.footprint.luma.pixels)
      (2 ^ 44) with near | far
    · obtain ⟨descriptor, described⟩ := fits near
      rw [described]
      exact .met near .granted
    · rw [wide far]
      exact .unmet (Nat.not_lt.mpr far)
  · rw [Descriptor.ofFootprint_high start high]
    exact .unmet (Nat.not_lt.mpr high)

end Attributes.Asks

theorem ImageFormat.layout?_eq_none {image : ImageFormat} :
    image.layout? = none ↔ image = .linear := by
  cases image <;> simp [ImageFormat.layout?]

theorem Attributes.asks_of_check {a : Attributes} {image : ImageFormat}
    (checked : a.check = .ok image) : image = .linear ∨ ∃ presence plan, a.Asks presence plan := by
  cases layout : image.layout? with
  | none => exact .inl (ImageFormat.layout?_eq_none.mp layout)
  | some pair =>
    obtain ⟨format, presence⟩ := pair
    obtain ⟨f, measured, modest⟩ :=
      Footprint.exists_measure? (Attributes.inRange checked) format presence
    obtain ⟨span, spanned⟩ := modest.exists_deviceBytes?
    exact .inr ⟨presence, ⟨format, f, span⟩, ⟨image, checked, layout⟩, measured, spanned⟩

namespace WindowPool

variable {pool : WindowPool} {region : Region} {own : Option Region} {size : Nat}

theorem Sound.trade_fits (sound : pool.Sound region)
    (live : ∀ r, own = some r → pool.Reserves r) (whole : WholePages size) :
    (∃ base pool', pool.trade own size = (.ok base, pool') ∧ pool.Placed region own size base) ∨
      ∃ pool', pool.trade own size = (.error (.outOfSpace size), pool') ∧
        ∀ base, ¬ pool.Free region own ⟨base, size⟩ := by
  cases own with
  | none =>
    rcases sound.reserve_fits whole with ⟨base, pool', granted, lowest⟩ | ⟨refused, full⟩
    · exact .inl ⟨base, pool', granted, .inr ⟨nofun, lowest⟩⟩
    · exact .inr ⟨pool, refused, full⟩
  | some r => exact sound.resize_fits (live r rfl) whole

theorem Sound.traded_inside {base : Nat} {pool' : WindowPool} (sound : pool.Sound region)
    (live : ∀ r, own = some r → pool.Reserves r) (whole : WholePages size)
    (traded : pool.trade own size = (.ok base, pool')) :
    pageSize ∣ base ∧ base + size < Word.limit := by
  obtain ⟨sound', dealing⟩ := sound.trade live whole traded
  have arrived : pool'.Reserves ⟨base, size⟩ := dealing.arrived rfl
  exact ⟨(sound'.pages _ arrived).2.1, sound'.stop_lt arrived⟩

end WindowPool

namespace Driver

variable {d : Driver} {handle : Handle}

/-- What a driver demands for a surface with a window of its own, in the order in which it looks. -/
def demands (d : Driver) (own : Option Region) (mapping : DeviceMapping) (a : Attributes)
    (presence : Presence) (plan : Plan) : List Demand :=
  ⟨plan.footprint.windowSize ≠ 0, .invalidAttributes .emptyWindow⟩ ::
    ⟨∃ base, d.pool.Free d.config.pool own ⟨base, plan.footprint.windowSize⟩,
      .outOfSpace plan.footprint.windowSize⟩ ::
    plan.demands a presence (d.pool.Placed d.config.pool own plan.footprint.windowSize) mapping

/-- Attributes that a surface takes: linear ones, and those that meet every demand. -/
def Takes (d : Driver) (own : Option Region) (mapping : DeviceMapping) (a : Attributes) : Prop :=
  a.check = .ok .linear ∨ ∃ presence plan, a.Asks presence plan ∧
    ∀ demand ∈ d.demands own mapping a presence plan, demand.met

/-- Attributes that it does not take: they are invalid, or a demand is the first not to be met. -/
def Declines (d : Driver) (own : Option Region) (mapping : DeviceMapping) (a : Attributes)
    (error : Error) : Prop :=
  (∃ fault, a.check = .error fault ∧ error = .invalidAttributes fault) ∨
    ∃ presence plan, a.Asks presence plan ∧ Refuses (d.demands own mapping a presence plan) error

/-- The answer to attributes while nothing below the driver fails. -/
def verdict (d : Driver) (own : Option Region) (mapping : DeviceMapping) (a : Attributes) :
    Except Error Unit :=
  match a.plan? with
  | .error fault => .error (.invalidAttributes fault)
  | .ok none => .ok ()
  | .ok (some plan) =>
    match (d.pool.trade own plan.footprint.windowSize).1 with
    | .error error => .error error
    | .ok base =>
      (plan.describe a d.lengthUnit ⟨base, plan.footprint.windowSize⟩ mapping).map fun _ => ()

theorem Attempted.result_eq {held : Holdings} {a : Attributes} {attempt : Attempt}
    {pool : WindowPool} {buffers : Buffers} {mapping : DeviceMapping}
    (attempted : d.Attempted handle held a attempt pool buffers)
    (ready : d.buffers.Ready handle mapping) (mine : d.buffers.attached? handle = held.mapping) :
    attempt.result = d.verdict held.window mapping a := by
  -- What the requests to map leave behind still shows the surface's mapping.
  have attach : ∀ {b b' b'' : Buffers} {cpu : CpuMapping}
      {result : Except PlatformError DeviceMapping},
      d.buffers.map handle .linear = (.ok (), b) → b.map handle cpu = (.ok (), b') →
      b'.ensureAttached handle held.mapping = (result, b'') → result = .ok mapping := by
    intro b b' b'' cpu result own mapped ended
    obtain ⟨_, ready, same⟩ := ready.map own
    obtain ⟨_, ready, same'⟩ := ready.map mapped
    rw [← mine, ← same, ← same'] at ended
    exact ready.ensureAttached ended
  unfold verdict
  cases attempted with
  | unmapped own => cases (ready.map own).1
  | invalid _ plan | linear _ plan => rw [plan]; rfl
  | full _ planned refused => simp only [planned, refused]; rfl
  | unreachable own _ _ refused => cases ((ready.map own).2.1.map refused).1
  | unattached own _ _ mapped refused => cases attach own mapped refused
  | indescribable own planned reserved mapped attached described
  | tiled own planned reserved mapped attached described =>
    cases attach own mapped attached
    simp only [planned, reserved, described]
    rfl

theorem verdict_answers {own : Option Region} {mapping : DeviceMapping} {a : Attributes}
    {presence : Presence} {plan : Plan} (asks : a.Asks presence plan)
    (sound : d.pool.Sound d.config.pool) (live : ∀ r, own = some r → d.pool.Reserves r) :
    Answers (d.demands own mapping a presence plan) (d.verdict own mapping a) := by
  unfold verdict demands
  rw [asks.plan?_eq]
  by_cases empty : plan.footprint.windowSize = 0
  · rw [if_pos empty]
    exact .unmet (not_not_intro empty)
  refine .met empty ?_
  have planned := asks.plan?_eq
  rw [if_neg empty] at planned ⊢
  have whole := Plan.window_whole planned
  rcases sound.trade_fits live whole with ⟨base, pool', traded, placed⟩ | ⟨pool', refused, full⟩
  · obtain ⟨page, inside⟩ := sound.traded_inside live whole traded
    have lines : cacheLineSize ∣ base := Nat.dvd_trans (by decide) page
    refine .met ⟨base, sound.placed_free live placed⟩ ?_
    simp only [traded]
    refine asks.describe (fun base' => ⟨fun placed' => placed'.unique placed, ?_⟩) lines inside _
    rintro rfl
    exact placed
  · simp only [refused]
    exact .unmet fun free => full _ free.choose_spec

/-- The whole of a verdict: on invalid, on linear and on tiled attributes. -/
theorem verdict_decides {own : Option Region} (sound : d.pool.Sound d.config.pool)
    (live : ∀ r, own = some r → d.pool.Reserves r) (mapping : DeviceMapping) (a : Attributes) :
    (d.verdict own mapping a = .ok () ↔ d.Takes own mapping a) ∧
      ∀ error, d.verdict own mapping a = .error error ↔ d.Declines own mapping a error := by
  unfold Takes Declines
  cases checked : a.check with
  | error fault =>
    have silent : ∀ presence plan, ¬ a.Asks presence plan := fun _ _ asks =>
      asks.valid fault checked
    have plan : a.plan? = .error fault := by
      unfold Attributes.plan?
      rw [checked]
      rfl
    simp [verdict, plan, silent, eq_comm]
  | ok image =>
    rcases Attributes.asks_of_check checked with rfl | ⟨presence, plan, asks⟩
    · have silent : ∀ presence plan, ¬ a.Asks presence plan := fun _ _ asks =>
        asks.not_linear checked
      have plan : a.plan? = .ok none := Attributes.plan?_eq_none.mpr ⟨_, checked, rfl⟩
      simp [verdict, plan, silent]
    · have tiled := asks.not_linear
      rw [checked] at tiled
      have answers : Answers (d.demands own mapping a presence plan) (d.verdict own mapping a) :=
        verdict_answers asks sound live
      simp [asks.exists_iff, answers.ok_iff, answers.error_iff, tiled]

/-- While nothing below the driver fails, an unlocked surface is configured as the verdict says. -/
theorem configure_result {a : Attributes} {surface : Surface} {mapping : DeviceMapping}
    (attachments : d.AttachmentsKept) (found : d.surfaces.find? handle = some surface)
    (unlocked : surface.session? = none) (ready : d.buffers.Ready handle mapping) :
    (d.configure handle a).1 = d.verdict surface.window? mapping a := by
  have configured := d.configure_ends handle a
  generalize (d.configure handle a).1 = result at *
  generalize (d.configure handle a).2 = d' at configured
  cases configured with
  | unknown missing => cases missing.symm.trans found
  | busy found' locked =>
    cases found.symm.trans found'
    exact absurd unlocked locked
  | settled found' _ _ attempted =>
    cases found.symm.trans found'
    refine attempted.result_eq ready ?_
    rw [attachments, owned_of_find? _ found]
    rfl

/-- Along every run in which only the driver attaches buffers, if no failure of the buffers waits
then, an unlocked surface takes exactly the valid attributes that are linear or meet every demand.
Others are refused for what makes them invalid, or for the first demand that is not met. -/
theorem configure_decided {config : Config} {platform : Platform}
    (up : bringUp config platform = .ok d) (unused : platform.buffers.Unused)
    {commands : List Command} (alone : Along AttachesAlone d commands) {surface : Surface}
    (found : (d.run commands).surfaces.find? handle = some surface)
    (unlocked : surface.session? = none) {buffer : Buffer}
    (registered : (d.run commands).buffers.records.find? handle = some buffer)
    (maps : (d.run commands).buffers.failingMaps = 0)
    (attaches : (d.run commands).buffers.failingAttaches = 0) (a : Attributes) :
    (((d.run commands).configure handle a).1 = .ok () ↔
        (d.run commands).Takes surface.window? buffer.mapping a) ∧
      ∀ error, ((d.run commands).configure handle a).1 = .error error ↔
        (d.run commands).Declines surface.window? buffer.mapping a error := by
  have kept := (PoolKept.start up).run commands
  have attachments := (AttachmentsKept.start up unused).along alone
  generalize d.run commands = d at *
  rw [configure_result attachments found unlocked ⟨⟨buffer, registered, rfl⟩, maps, attaches⟩]
  have live : ∀ r, surface.window? = some r → d.pool.Reserves r := fun r held =>
    kept.ledger.held ((owned_of_find? Surface.window? found).trans held)
  exact verdict_decides kept.sound live buffer.mapping a

def tightRun : List Command :=
  [.platform (.register 1 16384), .track 1, .configure 1 smallAttributes]

def tallAttributes : Attributes := { smallAttributes with height := 64, scanlines := 64 }

/-- Set up again, the small surface still meets every demand. If it grows, its buffer is too
short, whatever room there is for its window. -/
theorem configure_decided_tightRun :
    ∃ d surface buffer, bringUp {} { engine := { version := ⟨1, 1⟩ } } = .ok d ∧
      (d.run tightRun).surfaces.find? 1 = some surface ∧
      surface.window? = some ⟨0x100000000, pageSize⟩ ∧
      (d.run tightRun).buffers.records.find? 1 = some buffer ∧
      (d.run tightRun).Takes surface.window? buffer.mapping smallAttributes ∧
      (d.run tightRun).Declines surface.window? buffer.mapping tallAttributes
        (.failed (.bufferTooSmall 16384 20480)) := by
  have computed : (bringUp {} { engine := { version := ⟨1, 1⟩ } }).toOption.any (fun d =>
      ((d.run tightRun).surfaces.find? 1).any fun surface =>
        ((d.run tightRun).buffers.records.find? 1).any fun _ =>
          surface.session? = none ∧ surface.window? = some ⟨0x100000000, pageSize⟩ ∧
            (d.run tightRun).buffers.failingMaps = 0 ∧
            (d.run tightRun).buffers.failingAttaches = 0 ∧
            ((d.run tightRun).configure 1 smallAttributes).1 = .ok () ∧
            ((d.run tightRun).configure 1 tallAttributes).1 =
              .error (.failed (.bufferTooSmall 16384 20480))) = true := by
    decide +kernel
  obtain ⟨d, up, ran⟩ := exists_up computed
  obtain ⟨surface, found, ran⟩ := (Option.any_eq_true _ _).mp ran
  obtain ⟨buffer, registered, shows⟩ := (Option.any_eq_true _ _).mp ran
  obtain ⟨unlocked, window, maps, attaches, taken, refused⟩ := of_decide_eq_true shows
  have alone : Along AttachesAlone d tightRun := ⟨owned_bringUp up _ 1, trivial, trivial, trivial⟩
  have decided := configure_decided up .empty alone found unlocked registered maps attaches
  exact ⟨d, surface, buffer, up, found, window, registered, (decided smallAttributes).1.mp taken,
    ((decided tallAttributes).2 _).mp refused⟩

end Driver

end TiledSurface
