import Mathlib.Algebra.Group.Int.Defs
import Mathlib.Data.List.Forall2
import Mathlib.Data.List.Nodup
import TiledSurface.Proofs.Json.Text

/-!
The fields of a record in its two forms. A list gives its items to the names in turn; an object
may hold its members in any order, with others among them. What a record is read from is in both
cases what is found under each name.
-/

namespace TiledSurface.Json

/-- A whole number of so many bits. No other kind of value is one, not even a number that is
written with a fraction or an exponent. -/
def Whole (bits : Nat) : Json → Prop
  | .integer n => 0 ≤ n ∧ n < 2 ^ bits
  | _ => False

theorem Whole.proper {bits : Nat} {value : Json} (whole : value.Whole bits) : value.Proper := by
  cases value with
  | integer n => exact .integer n
  | _ => cases whole

theorem below?_eq_some {bound n : Nat} {value : Json} :
    value.below? bound = some n ↔ n < bound ∧ value = .integer n := by
  unfold below?
  split
  · rename_i m
    simp only [Option.ite_none_right_eq_some, Option.some.injEq, integer.injEq]
    constructor
    · rintro ⟨fits, rfl⟩
      exact ⟨fits, rfl⟩
    · rintro ⟨fits, same⟩
      obtain rfl : m = n := Int.ofNat.inj same
      exact ⟨fits, rfl⟩
  · rename_i other
    simp only [reduceCtorEq, false_iff, not_and]
    rintro - rfl
    exact other n rfl

/-- A reader that takes a value just as it is written. -/
def Exact {β : Type} (write : β → Json) (read : Json → Option β) : Prop :=
  ∀ {value b}, read value = some b ↔ value = write b

theorem Exact.bind {β γ : Type} {write : β → Json} {read : Json → Option β}
    (exact : Exact write read) {value : Json} {next : β → Option γ} {c : γ}
    (accepted : (read value).bind next = some c) : ∃ b, value = write b ∧ next b = some c := by
  obtain ⟨b, own, rest⟩ := Option.bind_eq_some_iff.mp accepted
  exact ⟨b, exact.mp own, rest⟩

/-- Words of any size are read from the numbers as which they are written, and from nothing else. -/
private theorem exact_word {word : Type} {bound : Nat} {ofNat : Nat → word} {toNat : word → Nat}
    (fits : ∀ w, toNat w < bound) (back : ∀ w, ofNat (toNat w) = w)
    (same : ∀ n < bound, toNat (ofNat n) = n) :
    Exact (fun w => .integer (toNat w)) fun value => (value.below? bound).map ofNat := by
  intro value w
  simp only [Option.map_eq_some_iff, below?_eq_some]
  constructor
  · rintro ⟨n, ⟨less, rfl⟩, rfl⟩
    rw [same n less]
  · rintro rfl
    exact ⟨toNat w, ⟨fits w, rfl⟩, back w⟩

theorem exact_uint16 : Exact ofUInt16 uint16? :=
  exact_word UInt16.toNat_lt (fun _ => UInt16.ofNat_toNat) fun _ => UInt16.toNat_ofNat_of_lt'

theorem exact_uint32 : Exact ofUInt32 uint32? :=
  exact_word UInt32.toNat_lt (fun _ => UInt32.ofNat_toNat) fun _ => UInt32.toNat_ofNat_of_lt'

theorem exact_uint64 : Exact ofUInt64 uint64? :=
  exact_word UInt64.toNat_lt (fun _ => UInt64.ofNat_toNat) fun _ => UInt64.toNat_ofNat_of_lt'

@[simp] theorem uint16?_ofUInt16 (n : UInt16) : (ofUInt16 n).uint16? = some n :=
  exact_uint16.mpr rfl

@[simp] theorem uint32?_ofUInt32 (n : UInt32) : (ofUInt32 n).uint32? = some n :=
  exact_uint32.mpr rfl

@[simp] theorem uint64?_ofUInt64 (n : UInt64) : (ofUInt64 n).uint64? = some n :=
  exact_uint64.mpr rfl

theorem whole_ofUInt16 (n : UInt16) : (ofUInt16 n).Whole 16 :=
  ⟨Int.natCast_nonneg _, Int.ofNat_lt.mpr n.toNat_lt⟩

theorem whole_ofUInt32 (n : UInt32) : (ofUInt32 n).Whole 32 :=
  ⟨Int.natCast_nonneg _, Int.ofNat_lt.mpr n.toNat_lt⟩

theorem whole_ofUInt64 (n : UInt64) : (ofUInt64 n).Whole 64 :=
  ⟨Int.natCast_nonneg _, Int.ofNat_lt.mpr n.toNat_lt⟩

theorem whole_of_uint32? {value : Json} {n : UInt32} (accepted : value.uint32? = some n) :
    value.Whole 32 :=
  exact_uint32.mp accepted ▸ whole_ofUInt32 n

theorem whole_of_uint64? {value : Json} {n : UInt64} (accepted : value.uint64? = some n) :
    value.Whole 64 :=
  exact_uint64.mp accepted ▸ whole_ofUInt64 n

variable {names : List String}

/-- The members in which a record with these names is looked up. A list may end early, but has no
more items than there are names. -/
def members? (names : List String) : Json → Option (List (String × Json))
  | .list items => if items.length ≤ names.length then some (names.zip items) else none
  | .object members => some members
  | _ => none

theorem mapM_eq_some {α β : Type} {f : α → Option β} {keys : List α} {found : List β} :
    keys.mapM f = some found ↔ keys.map f = found.map some := by
  induction keys generalizing found with
  | nil => cases found <;> simp
  | cons key rest ih =>
    rw [List.mapM_cons, List.map_cons]
    cases first : f key with
    | none => cases found <;> simp
    | some value =>
      cases found with
      | nil => simp [Option.bind_eq_some_iff]
      | cons other later => simp [Option.bind_eq_some_iff, ← ih, and_comm]

theorem fields?_eq_some {value : Json} {fields : List Json} :
    value.fields? names = some fields ↔ value.partialFields? names = some (fields.map some) := by
  cases value with
  | list items =>
    simp only [fields?, partialFields?, Option.ite_none_right_eq_some, Option.some.injEq]
    constructor
    · rintro ⟨full, rfl⟩
      simp [full]
    · rintro ⟨short, same⟩
      -- A field left out would be a `none` among the fields that are there.
      have full : names.length - items.length = 0 := by
        by_contra missing
        have member : none ∈ fields.map some := by
          rw [← same]
          simp [missing]
        simp at member
      rw [full, List.replicate_zero, List.append_nil] at same
      exact ⟨by omega, (List.map_inj_right fun _ _ => Option.some.inj).mp same⟩
  | object members => simp [fields?, partialFields?, mapM_eq_some]
  | _ => simp [fields?, partialFields?]

theorem map_lookup_zip (distinct : names.Nodup) {items : List Json}
    (short : items.length ≤ names.length) :
    (names.map fun name => (names.zip items).lookup name) =
      items.map some ++ List.replicate (names.length - items.length) none := by
  induction names generalizing items with
  | nil =>
    obtain rfl := List.length_eq_zero_iff.mp (Nat.le_zero.mp short)
    rfl
  | cons name rest ih =>
    obtain ⟨other, distinct⟩ := List.nodup_cons.mp distinct
    cases items with
    | nil => simp [List.replicate_succ]
    | cons item items =>
      have later : (rest.map fun key => ((name, item) :: rest.zip items).lookup key) =
          rest.map fun key => (rest.zip items).lookup key := by
        refine List.map_congr_left fun key member => ?_
        have differs : key ≠ name := fun same => other (same ▸ member)
        rw [List.lookup_cons, beq_false_of_ne differs]
      rw [List.zip_cons_cons, List.map_cons, List.lookup_cons_self, later,
        ih distinct (Nat.le_of_succ_le_succ short), List.length_cons, List.length_cons,
        Nat.succ_sub_succ, List.map_cons, List.cons_append]

theorem partialFields?_eq (distinct : names.Nodup) (value : Json) :
    value.partialFields? names =
      (value.members? names).map fun members => names.map fun name => members.lookup name := by
  cases value with
  | list items =>
    by_cases short : items.length ≤ names.length
    · simp [partialFields?, members?, short, map_lookup_zip distinct short]
    · simp [partialFields?, members?, short]
  | object members => rfl
  | _ => rfl

theorem mem_of_lookup {members : List (String × Json)} {name : String} {value : Json}
    (found : members.lookup name = some value) : (name, value) ∈ members := by
  obtain ⟨before, behind, rfl, _⟩ := List.lookup_eq_some_iff.mp found
  simp

theorem lookup_of_mem {members : List (String × Json)} {name : String} {value : Json}
    (member : (name, value) ∈ members)
    (alone : ∀ other, (name, other) ∈ members → other = value) :
    members.lookup name = some value := by
  cases found : members.lookup name with
  | none => simpa using List.lookup_eq_none_iff.mp found _ member
  | some other => rw [alone other (mem_of_lookup found)]

/-- Neither the order of members nor members of other names change what is found. -/
theorem lookup_of_perm {known foreign members : List (String × Json)}
    (distinct : (known.map Prod.fst).Nodup) (strange : ∀ m ∈ foreign, m.1 ∉ names)
    (order : members.Perm (known ++ foreign)) {name : String} (own : name ∈ names) :
    members.lookup name = known.lookup name := by
  have same (value : Json) : (name, value) ∈ members ↔ (name, value) ∈ known := by
    rw [order.mem_iff, List.mem_append]
    exact or_iff_left fun member => strange _ member own
  cases found : known.lookup name with
  | none =>
    refine List.lookup_eq_none_iff.mpr fun m member => bne_iff_ne.mpr ?_
    rintro rfl
    simpa using List.lookup_eq_none_iff.mp found m ((same m.2).mp member)
  | some value =>
    have member := mem_of_lookup found
    refine lookup_of_mem ((same value).mpr member) fun other given => ?_
    exact congrArg Prod.snd
      (List.inj_on_of_nodup_map distinct ((same other).mp given) member rfl)

theorem lookup_filter (given : String → Bool) (members : List (String × Json)) (name : String) :
    (members.filter fun m => given m.1).lookup name =
      if given name then members.lookup name else none := by
  induction members with
  | nil => simp
  | cons m rest ih =>
    obtain ⟨key, value⟩ := m
    by_cases same : name = key
    · subst same
      by_cases kept : given name <;> simp [kept, ih]
    · have other : (name == key) = false := beq_false_of_ne same
      by_cases kept : given key <;> simp [kept, ih, List.lookup_cons, other]

/-- The fields of the names given, and nothing under the others. -/
def kept (given : String → Bool) (names : List String) (fields : List Json) :
    List (Option Json) :=
  names.zipWith (fun name field => if given name then some field else none) fields

/-- An object that holds some of the fields, in any order and with other members among them. -/
theorem partialFields?_of_perm (distinct : names.Nodup) {given : String → Bool}
    {fields : List Json} (full : fields.length = names.length)
    {foreign members : List (String × Json)} (strange : ∀ m ∈ foreign, m.1 ∉ names)
    (order : members.Perm ((names.zip fields).filter (fun m => given m.1) ++ foreign)) :
    (object members).partialFields? names = some (kept given names fields) := by
  have keys : ((names.zip fields).map Prod.fst).Nodup := by
    rwa [List.map_fst_zip (Nat.le_of_eq full.symm)]
  have distinct' : (((names.zip fields).filter fun m => given m.1).map Prod.fst).Nodup :=
    keys.sublist (List.filter_sublist.map _)
  have all : (names.map fun name => (names.zip fields).lookup name) = fields.map some := by
    rw [map_lookup_zip distinct (Nat.le_of_eq full), full, Nat.sub_self, List.replicate_zero,
      List.append_nil]
  have found : (names.map fun name => members.lookup name) =
      names.map fun name => if given name then (names.zip fields).lookup name else none :=
    List.map_congr_left fun name own =>
      (lookup_of_perm distinct' strange order own).trans (lookup_filter given _ name)
  calc (object members).partialFields? names
      = some (names.zipWith (fun name field => if given name then field else none)
          (names.map fun name => (names.zip fields).lookup name)) := by
        rw [partialFields?, found, List.zipWith_map_right, List.zipWith_self]
    _ = some (kept given names fields) := by rw [all, List.zipWith_map_right, kept]

theorem Proper.zip (distinct : names.Nodup) {fields : List Json}
    (full : fields.length = names.length) (each : ∀ field ∈ fields, Proper field) :
    Proper (.object (names.zip fields)) := by
  refine .object ?_ fun m member => each m.2 (List.of_mem_zip member).2
  rwa [List.map_fst_zip (Nat.le_of_eq full.symm)]

theorem filter_zip (distinct : names.Nodup) (fields : List Json) (count : Nat) :
    (names.zip fields).filter (fun m => m.1 ∈ names.take count) =
      names.zip (fields.take count) := by
  induction names generalizing fields count with
  | nil => simp
  | cons name rest ih =>
    obtain ⟨other, distinct⟩ := List.nodup_cons.mp distinct
    cases fields with
    | nil => simp
    | cons field fields =>
      cases count with
      | zero => simp
      | succ count =>
        have later : (rest.zip fields).filter (fun m => m.1 ∈ name :: rest.take count) =
            (rest.zip fields).filter fun m => m.1 ∈ rest.take count := by
          refine List.filter_congr fun m member => ?_
          have differs : m.1 ≠ name := fun same => other (same ▸ (List.of_mem_zip member).1)
          simp [differs]
        rw [List.take_succ_cons, List.zip_cons_cons, List.filter_cons_of_pos (by simp), later,
          ih distinct, List.take_succ_cons, List.zip_cons_cons]

theorem partialFields?_take (distinct : names.Nodup) {fields : List Json}
    (full : fields.length = names.length) (count : Nat) :
    (list (fields.take count)).partialFields? names =
      some (kept (fun name => name ∈ names.take count) names fields) := by
  have short : (fields.take count).length ≤ names.length := full ▸ List.length_take_le' ..
  have order : (names.zip (fields.take count)).Perm
      ((names.zip fields).filter (fun m => m.1 ∈ names.take count) ++ []) := by
    rw [List.append_nil, filter_zip distinct]
  rw [← partialFields?_of_perm distinct full (by simp) order, partialFields?_eq distinct, members?,
    if_pos short]
  rfl

theorem kept_all {fields : List Json} (full : fields.length = names.length) :
    kept (fun _ => true) names fields = fields.map some := by
  apply List.ext_getElem <;> simp [kept, full]

theorem orDefault_kept {β : Type} {standard own : β} {read : Json → Option β} {given : Bool}
    {field : Json} {slot : Option Json} (stands : slot = if given then some field else none)
    (reads : read field = some own) :
    orDefault standard read slot = some (if given then own else standard) := by
  subst stands
  cases given
  · rfl
  · exact reads

variable {α : Type} {widths : List (String × Nat)} {fields : α → List Json} {write : α → Json}
  {read : Json → Option α}

/-- How a record of whole numbers is exchanged, given the names of its fields with their bits: both
forms are read back, and these from their texts; neither the order of members matters nor what
others there are; and a record is refused if a field is missing, if one is no whole number of its
bits, or if there is one too many. -/
structure Exchanged (widths : List (String × Nat)) (fields : α → List Json) (write : α → Json)
    (read : Json → Option α) : Prop where
  written : ∀ a, read (write a) = some a
  listed : ∀ a, read (.list (fields a)) = some a
  printed : ∀ a, ofText? (write a).toText = some (write a) ∧
    ofText? (toText (.list (fields a))) = some (.list (fields a))
  reordered : ∀ a foreign members, (∀ m ∈ foreign, m.1 ∉ widths.map Prod.fst) →
    members.Perm ((widths.map Prod.fst).zip (fields a) ++ foreign) →
      read (.object members) = some a
  complete : ∀ value members, value.members? (widths.map Prod.fst) = some members →
    ∀ name ∈ widths.map Prod.fst, members.lookup name = none → read value = none
  whole : ∀ value members, value.members? (widths.map Prod.fst) = some members →
    ∀ field ∈ widths, ∀ content, members.lookup field.1 = some content →
      ¬ content.Whole field.2 → read value = none
  surplus : ∀ items, widths.length < items.length → read (.list items) = none

/-- A reader of such a record takes just the fields that are written. -/
structure Reads (widths : List (String × Nat)) (fields : α → List Json) (write : α → Json)
    (read : Json → Option α) : Prop where
  distinct : (widths.map Prod.fst).Nodup
  sized : ∀ a, List.Forall₂ (fun field value => value.Whole field.2) widths (fields a)
  write_eq : ∀ a, write a = .object ((widths.map Prod.fst).zip (fields a))
  read_iff : ∀ value a,
    read value = some a ↔ value.fields? (widths.map Prod.fst) = some (fields a)

namespace Reads

variable (reads : Reads widths fields write read)
include reads

theorem full (a : α) : (fields a).length = (widths.map Prod.fst).length := by
  rw [List.length_map, (reads.sized a).length_eq]

theorem proper {a : α} {value : Json} (member : value ∈ fields a) : value.Proper := by
  obtain ⟨place, inside, rfl⟩ := List.getElem_of_mem member
  have inside' : place < widths.length := by rwa [(reads.sized a).length_eq]
  exact ((List.forall₂_iff_get.mp (reads.sized a)).2 place inside' inside).proper

theorem proper_write (a : α) : (write a).Proper := by
  rw [reads.write_eq]
  exact .zip reads.distinct (reads.full a) fun _ => reads.proper

theorem reordered {a : α} {foreign members : List (String × Json)}
    (strange : ∀ m ∈ foreign, m.1 ∉ widths.map Prod.fst)
    (order : members.Perm ((widths.map Prod.fst).zip (fields a) ++ foreign)) :
    read (.object members) = some a := by
  rw [reads.read_iff, fields?_eq_some, ← kept_all (reads.full a)]
  exact partialFields?_of_perm reads.distinct (reads.full a) strange (by simpa using order)

theorem found {value : Json} {a : α} {members : List (String × Json)}
    (accepted : read value = some a) (taken : value.members? (widths.map Prod.fst) = some members) :
    ((widths.map Prod.fst).map fun name => members.lookup name) = (fields a).map some := by
  rw [reads.read_iff, fields?_eq_some, partialFields?_eq reads.distinct, taken] at accepted
  exact Option.some.inj accepted

theorem complete {value : Json} {a : α} {members : List (String × Json)} {name : String}
    (accepted : read value = some a) (taken : value.members? (widths.map Prod.fst) = some members)
    (own : name ∈ widths.map Prod.fst) : members.lookup name ≠ none := by
  intro missing
  have member : none ∈ (fields a).map some := by
    rw [← reads.found accepted taken, ← missing]
    exact List.mem_map_of_mem own
  simp at member

theorem whole {value : Json} {a : α} {members : List (String × Json)} {field : String × Nat}
    {content : Json} (accepted : read value = some a)
    (taken : value.members? (widths.map Prod.fst) = some members) (own : field ∈ widths)
    (stands : members.lookup field.1 = some content) : content.Whole field.2 := by
  obtain ⟨place, inside, rfl⟩ := List.getElem_of_mem own
  have inside' : place < (fields a).length := by rwa [← (reads.sized a).length_eq]
  have same : members.lookup widths[place].1 = some (fields a)[place] := by
    simpa [inside, inside'] using congrArg (·[place]?) (reads.found accepted taken)
  rw [stands, Option.some.injEq] at same
  exact same ▸ (List.forall₂_iff_get.mp (reads.sized a)).2 place inside inside'

theorem exchanged : Exchanged widths fields write read := by
  have refused {value : Json} (impossible : ∀ a, read value ≠ some a) : read value = none :=
    Option.eq_none_iff_forall_ne_some.mpr impossible
  refine ⟨fun a => ?_, fun a => ?_, fun a => ⟨?_, ?_⟩, fun a foreign members => reads.reordered,
    fun value members taken name own missing => ?_,
    fun value members taken field own content stands bad => ?_, fun items surplus => ?_⟩
  · rw [reads.write_eq]
    have nothing : ∀ m ∈ ([] : List (String × Json)), m.1 ∉ widths.map Prod.fst := by simp
    exact reads.reordered nothing (by simp)
  · rw [reads.read_iff, fields?, if_pos (reads.full a)]
  · exact ofText?_toText (reads.proper_write a)
  · exact ofText?_toText (.list fun _ => reads.proper)
  · exact refused fun a accepted => reads.complete accepted taken own missing
  · exact refused fun a accepted => bad (reads.whole accepted taken own stands)
  · refine refused fun a accepted => ?_
    rw [reads.read_iff, fields?, List.length_map, if_neg (by omega)] at accepted
    cases accepted

end Reads

end TiledSurface.Json
