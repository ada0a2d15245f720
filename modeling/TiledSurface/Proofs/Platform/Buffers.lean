import Mathlib.Logic.Function.Basic
import TiledSurface.Platform.Buffers

namespace TiledSurface.Buffers

variable {b b' : Buffers} {handle : Handle}

/-- Where the engine sees a buffer, while it is attached. -/
def attached? (b : Buffers) (handle : Handle) : Option DeviceMapping :=
  (b.records.find? handle).bind fun buffer =>
    if buffer.attached then some buffer.mapping else none

/-- What the processor sees of a registered buffer. -/
def cpu? (b : Buffers) (handle : Handle) : Option CpuMapping :=
  (b.records.find? handle).map (·.cpu)

theorem attached?_eq_some {mapping : DeviceMapping} :
    b.attached? handle = some mapping ↔
      ∃ buffer, b.records.find? handle = some buffer ∧ buffer.attached = true ∧
        buffer.mapping = mapping := by
  simp [attached?, Option.bind_eq_some_iff]

theorem attached?_insert (records : OrderedMap Buffer) (handle : Handle) (buffer : Buffer)
    (nextBase maps attaches : Nat) :
    attached? ⟨records.insert handle buffer, nextBase, maps, attaches⟩ =
      Function.update (attached? ⟨records, nextBase, maps, attaches⟩) handle
        (if buffer.attached then some buffer.mapping else none) := by
  funext other
  by_cases same : other = handle
  · subst same
    simp [attached?, OrderedMap.find?_insert]
  · simp [attached?, OrderedMap.find?_insert, same]

theorem cpu?_insert (records : OrderedMap Buffer) (handle : Handle) (buffer : Buffer)
    (nextBase maps attaches : Nat) :
    cpu? ⟨records.insert handle buffer, nextBase, maps, attaches⟩ =
      Function.update (cpu? ⟨records, nextBase, maps, attaches⟩) handle (some buffer.cpu) := by
  funext other
  by_cases same : other = handle
  · subst same
    simp [cpu?, OrderedMap.find?_insert]
  · simp [cpu?, OrderedMap.find?_insert, same]

/-- A request to map is rejected, or the buffer is unknown, or the record changes. -/
theorem map_cases (b : Buffers) (handle : Handle) (cpu : CpuMapping) :
    (∃ failures, b.failingMaps = failures + 1 ∧
        b.map handle cpu = (.error (.rejected .mapping), { b with failingMaps := failures })) ∨
      (b.failingMaps = 0 ∧ b.records.find? handle = none ∧
        b.map handle cpu = (.error (.unknownBuffer handle), b)) ∨
      ∃ buffer, b.failingMaps = 0 ∧ b.records.find? handle = some buffer ∧
        b.map handle cpu =
          (.ok (), { b with records := b.records.insert handle { buffer with cpu } }) := by
  unfold map
  cases failing : b.failingMaps with
  | succ failures => exact .inl ⟨failures, rfl, rfl⟩
  | zero =>
    cases found : b.records.find? handle with
    | none => exact .inr (.inl ⟨rfl, rfl, rfl⟩)
    | some buffer => exact .inr (.inr ⟨buffer, rfl, rfl, rfl⟩)

theorem failingMaps_map_le (b : Buffers) (handle : Handle) (cpu : CpuMapping) :
    (b.map handle cpu).2.failingMaps ≤ b.failingMaps := by
  rcases b.map_cases handle cpu with ⟨failures, failing, rejected⟩ | ⟨_, _, unknown⟩ |
    ⟨buffer, _, _, done⟩
  · simp [rejected, failing]
  · simp [unknown]
  · simp [done]

@[simp] theorem attached?_map (b : Buffers) (handle : Handle) (cpu : CpuMapping) :
    (b.map handle cpu).2.attached? = b.attached? := by
  rcases b.map_cases handle cpu with ⟨failures, _, rejected⟩ | ⟨_, _, unknown⟩ |
    ⟨buffer, _, found, done⟩
  · rw [rejected]
    rfl
  · rw [unknown]
  · rw [done]
    have same : b.attached? handle = if buffer.attached then some buffer.mapping else none := by
      simp [attached?, found]
    have changed := attached?_insert b.records handle { buffer with cpu } b.nextBase b.failingMaps
      b.failingAttaches
    rw [← same, Function.update_eq_self] at changed
    exact changed

theorem cpu?_map_ok {cpu : CpuMapping} (mapped : b.map handle cpu = (.ok (), b')) :
    b'.cpu? = Function.update b.cpu? handle (some cpu) := by
  rcases b.map_cases handle cpu with ⟨failures, _, rejected⟩ | ⟨_, _, unknown⟩ |
    ⟨buffer, _, _, done⟩
  · cases rejected.symm.trans mapped
  · cases unknown.symm.trans mapped
  · cases done.symm.trans mapped
    exact cpu?_insert ..

/-- A request that fails leaves the view of the processor alone. If it was not rejected, the
buffer is unknown. -/
theorem cpu?_map_error {cpu : CpuMapping} {cause : PlatformError}
    (refused : b.map handle cpu = (.error cause, b')) :
    b'.cpu? = b.cpu? ∧ (b.failingMaps ≤ b'.failingMaps → b.cpu? handle = none) := by
  rcases b.map_cases handle cpu with ⟨failures, failing, rejected⟩ | ⟨_, missing, unknown⟩ |
    ⟨buffer, _, _, done⟩
  · cases rejected.symm.trans refused
    refine ⟨rfl, fun granted => ?_⟩
    simp only [failing] at granted
    omega
  · cases unknown.symm.trans refused
    exact ⟨rfl, fun _ => by simp [cpu?, missing]⟩
  · cases done.symm.trans refused

theorem attach_cases (b : Buffers) (handle : Handle) :
    (∃ error failures, b.attach handle = (.error error, { b with failingAttaches := failures })) ∨
      ∃ buffer, b.records.find? handle = some buffer ∧ buffer.attached = false ∧
        b.attach handle =
          (.ok buffer.mapping,
            { b with records := b.records.insert handle { buffer with attached := true } }) := by
  unfold attach
  cases failing : b.failingAttaches with
  | succ failures => exact .inl ⟨_, failures, rfl⟩
  | zero =>
    cases found : b.records.find? handle with
    | none => exact .inl ⟨_, b.failingAttaches, rfl⟩
    | some buffer =>
      dsimp only
      split
      · exact .inl ⟨_, b.failingAttaches, rfl⟩
      · rename_i free
        exact .inr ⟨buffer, rfl, by simpa using free, rfl⟩

theorem attached?_attach_ok {mapping : DeviceMapping}
    (attached : b.attach handle = (.ok mapping, b')) :
    b'.attached? = Function.update b.attached? handle (some mapping) := by
  rcases b.attach_cases handle with ⟨error, failures, refused⟩ | ⟨buffer, _, _, done⟩
  · cases refused.symm.trans attached
  · cases done.symm.trans attached
    exact attached?_insert ..

theorem attached?_attach_error {cause : PlatformError}
    (refused : b.attach handle = (.error cause, b')) : b'.attached? = b.attached? := by
  rcases b.attach_cases handle with ⟨error, failures, refused'⟩ | ⟨buffer, _, _, done⟩
  · cases refused'.symm.trans refused
    rfl
  · cases done.symm.trans refused

@[simp] theorem cpu?_attach (b : Buffers) (handle : Handle) :
    (b.attach handle).2.cpu? = b.cpu? := by
  rcases b.attach_cases handle with ⟨error, failures, refused⟩ | ⟨buffer, found, _, done⟩
  · rw [refused]
    rfl
  · rw [done]
    have same : b.cpu? handle = some buffer.cpu := by simp [cpu?, found]
    have changed := cpu?_insert b.records handle { buffer with attached := true } b.nextBase
      b.failingMaps b.failingAttaches
    rw [← same, Function.update_eq_self] at changed
    exact changed

@[simp] theorem failingMaps_attach (b : Buffers) (handle : Handle) :
    (b.attach handle).2.failingMaps = b.failingMaps := by
  rcases b.attach_cases handle with ⟨error, failures, refused⟩ | ⟨buffer, _, _, done⟩
  · rw [refused]
  · rw [done]

theorem attached?_detach (b : Buffers) (handle : Handle) :
    (b.detach handle).attached? = Function.update b.attached? handle none := by
  funext other
  by_cases same : other = handle
  · subst same
    cases found : b.records.find? other <;>
      simp [attached?, detach, OrderedMap.find?_modify, found]
  · simp [attached?, detach, OrderedMap.find?_modify, same]

@[simp] theorem cpu?_detach (b : Buffers) (handle : Handle) :
    (b.detach handle).cpu? = b.cpu? := by
  funext other
  by_cases same : other = handle
  · subst same
    cases found : b.records.find? other <;>
      simp [cpu?, detach, OrderedMap.find?_modify, found]
  · simp [cpu?, detach, OrderedMap.find?_modify, same]

theorem attached?_register (b : Buffers) (handle : Handle) (length : Nat) :
    (b.register handle length).attached? = Function.update b.attached? handle none :=
  attached?_insert ..

theorem cpu?_register (b : Buffers) (handle : Handle) (length : Nat) :
    (b.register handle length).cpu? = Function.update b.cpu? handle (some .linear) :=
  cpu?_insert ..

/-- Nobody has attached a buffer or mapped it elsewhere. -/
def Unused (b : Buffers) : Prop :=
  ∀ handle buffer, b.records.find? handle = some buffer →
    buffer.attached = false ∧ buffer.cpu = .linear

theorem Unused.empty : ({} : Buffers).Unused := by
  intro handle buffer found
  cases found

theorem Unused.attached? (unused : b.Unused) : b.attached? = fun _ => none := by
  funext handle
  unfold Buffers.attached?
  cases found : b.records.find? handle with
  | none => rfl
  | some buffer => simp [(unused handle buffer found).1]

theorem Unused.cpu? (unused : b.Unused) {cpu : CpuMapping} (seen : b.cpu? handle = some cpu) :
    cpu = .linear := by
  obtain ⟨buffer, found, rfl⟩ := Option.map_eq_some_iff.mp seen
  exact (unused handle buffer found).2

theorem attachments_eq_zero (nothing : ∀ handle, b.attached? handle = none) :
    b.attachments = 0 := by
  unfold attachments
  rw [List.countP_eq_zero]
  intro buffer member
  obtain ⟨⟨handle, _⟩, entry, rfl⟩ := List.mem_map.mp member
  have found := OrderedMap.find?_eq_some_iff.mpr entry
  have unseen := nothing handle
  simp only [attached?, found, Option.bind_some] at unseen
  simpa using unseen

end TiledSurface.Buffers
