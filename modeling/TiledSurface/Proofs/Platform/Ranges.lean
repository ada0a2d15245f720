import TiledSurface.Proofs.Platform.Buffers
import TiledSurface.Proofs.Window.Pool

namespace TiledSurface

def DeviceMapping.region (m : DeviceMapping) : Region := ⟨m.base, m.length⟩

namespace Buffers

variable {b b' : Buffers} {handle : Handle}

/-- Where the engine would see a registered buffer. -/
def mapping? (b : Buffers) (handle : Handle) : Option DeviceMapping :=
  (b.records.find? handle).map (·.mapping)

/-- The device addresses of all buffers, and where those given out end. -/
def ranges (b : Buffers) : (Handle → Option DeviceMapping) × Nat := (b.mapping?, b.nextBase)

theorem mapping?_insert (records : OrderedMap Buffer) (handle : Handle) (buffer : Buffer)
    (nextBase maps attaches : Nat) :
    mapping? ⟨records.insert handle buffer, nextBase, maps, attaches⟩ =
      Function.update (mapping? ⟨records, nextBase, maps, attaches⟩) handle
        (some buffer.mapping) := by
  funext other
  by_cases same : other = handle
  · subst same
    simp [mapping?, OrderedMap.find?_insert]
  · simp [mapping?, OrderedMap.find?_insert, same]

theorem ranges_insert {buffer next : Buffer} (found : b.records.find? handle = some buffer)
    (same : next.mapping = buffer.mapping) :
    ranges { b with records := b.records.insert handle next } = b.ranges := by
  have before : b.mapping? handle = some next.mapping := by simp [mapping?, found, same]
  refine Prod.ext ?_ rfl
  exact (mapping?_insert ..).trans (before ▸ Function.update_eq_self ..)

@[simp] theorem ranges_map (b : Buffers) (handle : Handle) (cpu : CpuMapping) :
    (b.map handle cpu).2.ranges = b.ranges := by
  rcases b.map_cases handle cpu with ⟨failures, _, rejected⟩ | ⟨_, _, unknown⟩ |
    ⟨buffer, _, found, done⟩
  · rw [rejected]
    rfl
  · rw [unknown]
  · rw [done]
    exact ranges_insert found rfl

@[simp] theorem ranges_attach (b : Buffers) (handle : Handle) :
    (b.attach handle).2.ranges = b.ranges := by
  rcases b.attach_cases handle with ⟨error, failures, refused⟩ | ⟨buffer, found, _, done⟩
  · rw [refused]
    rfl
  · rw [done]
    exact ranges_insert found rfl

@[simp] theorem ranges_detach (b : Buffers) (handle : Handle) :
    (b.detach handle).ranges = b.ranges := by
  refine Prod.ext (funext fun other => ?_) rfl
  by_cases same : other = handle
  · subst same
    cases found : b.records.find? other <;>
      simp [ranges, mapping?, detach, OrderedMap.find?_modify, found]
  · simp [ranges, mapping?, detach, OrderedMap.find?_modify, same]

/-- A new buffer starts where the earlier ones end, and there are enough pages for it. -/
theorem register_room (b : Buffers) (handle : Handle) (length : Nat) :
    max b.nextBase firstBase + length ≤ (b.register handle length).nextBase := by
  have covered : length ≤ Word.ceilDiv length pageSize * pageSize := by
    simp only [Word.ceilDiv, pageSize]
    omega
  have pages := Nat.mul_le_mul_right pageSize (Nat.le_max_left (Word.ceilDiv length pageSize) 1)
  simp only [register]
  omega

theorem mapping?_register {other : Handle} {length : Nat} {m : DeviceMapping}
    (found : (b.register handle length).mapping? other = some m) :
    other = handle ∧ m = ⟨max b.nextBase firstBase, length⟩ ∨ b.mapping? other = some m := by
  have changed := congrFun (mapping?_insert b.records handle
    { mapping := ⟨max b.nextBase firstBase, length⟩ } (b.register handle length).nextBase
    b.failingMaps b.failingAttaches) other
  have view := changed.symm.trans found
  by_cases same : other = handle
  · subst same
    rw [Function.update_self] at view
    exact .inl ⟨rfl, (Option.some.inj view).symm⟩
  · rw [Function.update_of_ne same] at view
    exact .inr view

/-- Buffers begin on pages, and no two of them share device addresses, all of which have been
given out. -/
structure Laid (b : Buffers) : Prop where
  next : pageSize ∣ b.nextBase
  aligned : ∀ {handle m}, b.mapping? handle = some m → pageSize ∣ m.base
  given : ∀ {handle m}, b.mapping? handle = some m → m.region.stop ≤ b.nextBase
  apart : ∀ {first second m m'}, b.mapping? first = some m → b.mapping? second = some m' →
    first ≠ second → m.region.Disjoint m'.region

namespace Laid

theorem empty : ({} : Buffers).Laid where
  next := Nat.dvd_zero _
  aligned := by simp [mapping?]
  given := by simp [mapping?]
  apart := by simp [mapping?]

theorem congr (laid : b.Laid) (same : b'.ranges = b.ranges) : b'.Laid := by
  obtain ⟨mappings, next⟩ := Prod.mk.inj same
  refine ⟨?_, ?_, ?_, ?_⟩
  · rw [next]
    exact laid.next
  · rw [mappings]
    exact laid.aligned
  · rw [mappings, next]
    exact laid.given
  · rw [mappings]
    exact laid.apart

theorem register (laid : b.Laid) (handle : Handle) (length : Nat) :
    (b.register handle length).Laid := by
  have room := b.register_room handle length
  have start : pageSize ∣ max b.nextBase firstBase := by
    rcases Nat.le_total b.nextBase firstBase with low | high
    · rw [Nat.max_eq_right low]
      decide
    · rw [Nat.max_eq_left high]
      exact laid.next
  have fresh : ∀ {other m}, b.mapping? other = some m →
      m.region.Disjoint ⟨max b.nextBase firstBase, length⟩ := by
    intro other m found address inside inside'
    have below := laid.given found
    simp only [Region.Contains] at inside inside'
    omega
  refine ⟨?_, ?_, ?_, ?_⟩
  · exact Nat.dvd_add start (Nat.dvd_mul_left _ _)
  · intro other m found
    rcases mapping?_register found with ⟨_, rfl⟩ | earlier
    · exact start
    · exact laid.aligned earlier
  · intro other m found
    rcases mapping?_register found with ⟨_, rfl⟩ | earlier
    · exact room
    · have below := laid.given earlier
      omega
  · intro first second m m' found found' different
    rcases mapping?_register found with ⟨rfl, rfl⟩ | earlier <;>
      rcases mapping?_register found' with ⟨rfl, rfl⟩ | earlier'
    · exact absurd rfl different
    · exact (fresh earlier').symm
    · exact fresh earlier
    · exact laid.apart earlier earlier' different

end Laid

end Buffers

end TiledSurface
