import TiledSurface.Json.Records
import TiledSurface.Proofs.Json.Fields

namespace TiledSurface

namespace InterruptLines

def widths : List (String × Nat) := fieldNames.map fun name => (name, 32)

theorem reads : Json.Reads widths toFields toJson ofJson? where
  distinct := by decide
  sized lines := by
    simp only [widths, fieldNames, toFields, List.map_cons, List.map_nil, List.forall₂_cons,
      List.forall₂_nil_right_iff, Json.whole_ofUInt32, and_self]
  write_eq lines := rfl
  read_iff value lines := by
    have names : widths.map Prod.fst = fieldNames := rfl
    rw [names, ofJson?, Option.bind_eq_bind, Option.bind_eq_some_iff]
    constructor
    · rintro ⟨fields, there, accepted⟩
      split at accepted
      · obtain ⟨_, read, accepted⟩ := Json.exact_uint32.bind accepted
        obtain ⟨_, write, accepted⟩ := Json.exact_uint32.bind accepted
        obtain ⟨_, encode, accepted⟩ := Json.exact_uint32.bind accepted
        obtain ⟨_, decode, accepted⟩ := Json.exact_uint32.bind accepted
        cases accepted
        subst read write encode decode
        exact there
      · cases accepted
    · intro there
      exact ⟨_, there, by simp [toFields]⟩

end InterruptLines

namespace Attributes

def widths : List (String × Nat) :=
  fieldNames.zip [16, 16, 16, 16, 16, 32, 32, 32, 32, 32, 16, 16, 32, 16]

theorem reads : Json.Reads widths toFields toJson ofJson? where
  distinct := by decide
  sized a := by
    simp only [widths, fieldNames, toFields, List.zip_cons_cons, List.zip_nil_left,
      List.forall₂_cons, List.forall₂_nil_right_iff, Json.whole_ofUInt16, Json.whole_ofUInt32,
      and_self]
  write_eq a := rfl
  read_iff value a := by
    have names : widths.map Prod.fst = fieldNames := rfl
    rw [names, ofJson?, Option.bind_eq_bind, Option.bind_eq_some_iff]
    constructor
    · rintro ⟨fields, there, accepted⟩
      split at accepted
      · obtain ⟨_, imageFormat, accepted⟩ := Json.exact_uint16.bind accepted
        obtain ⟨_, majorVersion, accepted⟩ := Json.exact_uint16.bind accepted
        obtain ⟨_, minorVersion, accepted⟩ := Json.exact_uint16.bind accepted
        obtain ⟨_, compression, accepted⟩ := Json.exact_uint16.bind accepted
        obtain ⟨_, lossyParameters, accepted⟩ := Json.exact_uint16.bind accepted
        obtain ⟨_, width, accepted⟩ := Json.exact_uint32.bind accepted
        obtain ⟨_, height, accepted⟩ := Json.exact_uint32.bind accepted
        obtain ⟨_, stride, accepted⟩ := Json.exact_uint32.bind accepted
        obtain ⟨_, scanlines, accepted⟩ := Json.exact_uint32.bind accepted
        obtain ⟨_, planarPadding, accepted⟩ := Json.exact_uint32.bind accepted
        obtain ⟨_, subsampling, accepted⟩ := Json.exact_uint16.bind accepted
        obtain ⟨_, targets, accepted⟩ := Json.exact_uint16.bind accepted
        obtain ⟨_, yOffset, accepted⟩ := Json.exact_uint32.bind accepted
        obtain ⟨_, batchSize, accepted⟩ := Json.exact_uint16.bind accepted
        cases accepted
        subst imageFormat majorVersion minorVersion compression lossyParameters width height stride
          scanlines planarPadding subsampling targets yOffset batchSize
        exact there
      · cases accepted
    · intro there
      exact ⟨_, there, by simp [toFields]⟩

end Attributes

namespace CleaningPolicy

theorem ofJson?_toJson (policy : CleaningPolicy) : ofJson? policy.toJson = some policy := by
  cases policy <;> rfl

theorem proper_toJson (policy : CleaningPolicy) : policy.toJson.Proper := .text _

theorem ofJson?_text {text : String} (foreign : text ∉ all.map name) :
    ofJson? (.text text) = none := by
  refine List.find?_eq_none.mpr fun policy member same => foreign ?_
  exact List.mem_map.mpr ⟨policy, member, eq_of_beq same⟩

end CleaningPolicy

namespace Config

def widths : List (String × Nat) :=
  [("ula_pool_base", 64), ("ula_pool_size", 64), ("descriptor_table_iova", 64),
    ("fault_report_limit", 32), ("fault_queue_depth", 64), ("cache_line_bytes", 64),
    ("per_line_delay_us", 64)]

def standard : Config := {}

/-- Values that state the fields of a configuration: the numbers as they are written, the policy
and the interrupt lines in any form in which they are read. -/
def States (c : Config) (fields : List Json) : Prop :=
  ∃ policy lines, CleaningPolicy.ofJson? policy = some c.cleaning ∧
    InterruptLines.ofJson? lines = some c.lines ∧
      fields = (c.toFields.set 5 policy).set 8 lines

/-- The configuration in the fields given, the default in the others. -/
def keeping (given : String → Bool) (c : Config) : Config where
  poolBase := if given "ula_pool_base" then c.poolBase else standard.poolBase
  poolSize := if given "ula_pool_size" then c.poolSize else standard.poolSize
  tableBase := if given "descriptor_table_iova" then c.tableBase else standard.tableBase
  reportLimit := if given "fault_report_limit" then c.reportLimit else standard.reportLimit
  queueDepth := if given "fault_queue_depth" then c.queueDepth else standard.queueDepth
  cleaning := if given "cache_flush" then c.cleaning else standard.cleaning
  cacheLineBytes := if given "cache_line_bytes" then c.cacheLineBytes else standard.cacheLineBytes
  lineDelay := if given "per_line_delay_us" then c.lineDelay else standard.lineDelay
  lines := if given "irq" then c.lines else standard.lines

/-- Each field is read from the member of its name, or has its default. -/
structure ReadFrom (members : List (String × Json)) (c : Config) : Prop where
  poolBase : Json.orDefault standard.poolBase Json.uint64? (members.lookup "ula_pool_base") =
    some c.poolBase
  poolSize : Json.orDefault standard.poolSize Json.uint64? (members.lookup "ula_pool_size") =
    some c.poolSize
  tableBase : Json.orDefault standard.tableBase Json.uint64?
    (members.lookup "descriptor_table_iova") = some c.tableBase
  reportLimit : Json.orDefault standard.reportLimit Json.uint32?
    (members.lookup "fault_report_limit") = some c.reportLimit
  queueDepth : Json.orDefault standard.queueDepth Json.uint64?
    (members.lookup "fault_queue_depth") = some c.queueDepth
  cleaning : Json.orDefault standard.cleaning CleaningPolicy.ofJson?
    (members.lookup "cache_flush") = some c.cleaning
  cacheLineBytes : Json.orDefault standard.cacheLineBytes Json.uint64?
    (members.lookup "cache_line_bytes") = some c.cacheLineBytes
  lineDelay : Json.orDefault standard.lineDelay Json.uint64?
    (members.lookup "per_line_delay_us") = some c.lineDelay
  lines : Json.orDefault standard.lines InterruptLines.ofJson? (members.lookup "irq") =
    some c.lines

theorem fieldNames_nodup : fieldNames.Nodup := by decide

theorem ofJson?_eq_some {value : Json} {c : Config} :
    ofJson? value = some c ↔
      ∃ members, value.members? fieldNames = some members ∧ c.ReadFrom members := by
  rw [ofJson?, Json.partialFields?_eq fieldNames_nodup, Option.bind_eq_bind,
    Option.bind_eq_some_iff]
  constructor
  · rintro ⟨_, found, accepted⟩
    obtain ⟨members, taken, rfl⟩ := Option.map_eq_some_iff.mp found
    obtain ⟨_, poolBase, accepted⟩ := Option.bind_eq_some_iff.mp accepted
    obtain ⟨_, poolSize, accepted⟩ := Option.bind_eq_some_iff.mp accepted
    obtain ⟨_, tableBase, accepted⟩ := Option.bind_eq_some_iff.mp accepted
    obtain ⟨_, reportLimit, accepted⟩ := Option.bind_eq_some_iff.mp accepted
    obtain ⟨_, queueDepth, accepted⟩ := Option.bind_eq_some_iff.mp accepted
    obtain ⟨_, cleaning, accepted⟩ := Option.bind_eq_some_iff.mp accepted
    obtain ⟨_, cacheLineBytes, accepted⟩ := Option.bind_eq_some_iff.mp accepted
    obtain ⟨_, lineDelay, accepted⟩ := Option.bind_eq_some_iff.mp accepted
    obtain ⟨_, lines, accepted⟩ := Option.bind_eq_some_iff.mp accepted
    cases accepted
    exact ⟨members, taken, poolBase, poolSize, tableBase, reportLimit, queueDepth, cleaning,
      cacheLineBytes, lineDelay, lines⟩
  · rintro ⟨members, taken, told⟩
    refine ⟨_, Option.map_eq_some_iff.mpr ⟨members, taken, rfl⟩, ?_⟩
    refine Option.bind_eq_some_iff.mpr ⟨_, told.poolBase, ?_⟩
    refine Option.bind_eq_some_iff.mpr ⟨_, told.poolSize, ?_⟩
    refine Option.bind_eq_some_iff.mpr ⟨_, told.tableBase, ?_⟩
    refine Option.bind_eq_some_iff.mpr ⟨_, told.reportLimit, ?_⟩
    refine Option.bind_eq_some_iff.mpr ⟨_, told.queueDepth, ?_⟩
    refine Option.bind_eq_some_iff.mpr ⟨_, told.cleaning, ?_⟩
    refine Option.bind_eq_some_iff.mpr ⟨_, told.cacheLineBytes, ?_⟩
    refine Option.bind_eq_some_iff.mpr ⟨_, told.lineDelay, ?_⟩
    refine Option.bind_eq_some_iff.mpr ⟨_, told.lines, ?_⟩
    rfl

theorem states_toFields (c : Config) : c.States c.toFields :=
  ⟨_, _, c.cleaning.ofJson?_toJson, InterruptLines.reads.exchanged.written c.lines, rfl⟩

theorem States.length {c : Config} {fields : List Json} (stated : c.States fields) :
    fields.length = fieldNames.length := by
  obtain ⟨_, _, _, _, rfl⟩ := stated
  rfl

theorem ofJson?_kept {c : Config} {fields : List Json} {given : String → Bool} {value : Json}
    (stated : c.States fields)
    (found : value.partialFields? fieldNames = some (Json.kept given fieldNames fields)) :
    ofJson? value = some (c.keeping given) := by
  rw [Json.partialFields?_eq fieldNames_nodup, Option.map_eq_some_iff] at found
  obtain ⟨members, taken, told⟩ := found
  obtain ⟨policy, lines, cleaning, wired, rfl⟩ := stated
  simp only [fieldNames, List.map_cons, List.map_nil, Json.kept, toFields, List.set_cons_succ,
    List.set_cons_zero, List.zipWith_cons_cons, List.zipWith_nil_left, List.cons.injEq,
    and_true] at told
  obtain ⟨poolBase, poolSize, tableBase, reportLimit, queueDepth, flush, lineBytes, delay, irq⟩ :=
    told
  refine ofJson?_eq_some.mpr ⟨members, taken, ?_⟩
  exact ⟨Json.orDefault_kept poolBase (Json.uint64?_ofUInt64 _),
    Json.orDefault_kept poolSize (Json.uint64?_ofUInt64 _),
    Json.orDefault_kept tableBase (Json.uint64?_ofUInt64 _),
    Json.orDefault_kept reportLimit (Json.uint32?_ofUInt32 _),
    Json.orDefault_kept queueDepth (Json.uint64?_ofUInt64 _),
    Json.orDefault_kept flush cleaning,
    Json.orDefault_kept lineBytes (Json.uint64?_ofUInt64 _),
    Json.orDefault_kept delay (Json.uint64?_ofUInt64 _),
    Json.orDefault_kept irq wired⟩

theorem ofJson?_object {c : Config} (given : String → Bool) {fields : List Json}
    {foreign members : List (String × Json)} (stated : c.States fields)
    (strange : ∀ m ∈ foreign, m.1 ∉ fieldNames)
    (order : members.Perm ((fieldNames.zip fields).filter (fun m => given m.1) ++ foreign)) :
    ofJson? (.object members) = some (c.keeping given) :=
  ofJson?_kept stated (Json.partialFields?_of_perm fieldNames_nodup stated.length strange order)

theorem ofJson?_list {c : Config} {fields : List Json} (stated : c.States fields) (count : Nat) :
    ofJson? (.list (fields.take count)) =
      some (c.keeping fun name => name ∈ fieldNames.take count) :=
  ofJson?_kept stated (Json.partialFields?_take fieldNames_nodup stated.length count)

theorem ofJson?_written (c : Config) : ofJson? c.toJson = some c := by
  have nothing : ∀ m ∈ ([] : List (String × Json)), m.1 ∉ fieldNames := by simp
  have order : (fieldNames.zip c.toFields).Perm
      ((fieldNames.zip c.toFields).filter (fun _ => true) ++ []) := by simp
  exact ofJson?_object (fun _ => true) c.states_toFields nothing order

theorem ofJson?_listed (c : Config) : ofJson? (.list c.toFields) = some c :=
  ofJson?_list c.states_toFields 9

theorem proper_toFields (c : Config) : ∀ value ∈ c.toFields, value.Proper := by
  have number (n : UInt64) : (Json.ofUInt64 n).Proper := .integer _
  have limit : (Json.ofUInt32 c.reportLimit).Proper := .integer _
  simp only [toFields, List.forall_mem_cons, number, limit, c.cleaning.proper_toJson,
    InterruptLines.reads.proper_write c.lines, List.not_mem_nil, false_implies, implies_true,
    and_self]

theorem proper_toJson (c : Config) : c.toJson.Proper :=
  .zip fieldNames_nodup c.states_toFields.length c.proper_toFields

theorem ReadFrom.whole {members : List (String × Json)} {c : Config} (told : c.ReadFrom members)
    {field : String × Nat} (own : field ∈ widths) {content : Json}
    (stands : members.lookup field.1 = some content) : content.Whole field.2 := by
  simp only [widths, List.mem_cons, List.not_mem_nil, or_false] at own
  rcases own with rfl | rfl | rfl | rfl | rfl | rfl | rfl
  · exact Json.whole_of_uint64? (stands ▸ told.poolBase)
  · exact Json.whole_of_uint64? (stands ▸ told.poolSize)
  · exact Json.whole_of_uint64? (stands ▸ told.tableBase)
  · exact Json.whole_of_uint32? (stands ▸ told.reportLimit)
  · exact Json.whole_of_uint64? (stands ▸ told.queueDepth)
  · exact Json.whole_of_uint64? (stands ▸ told.cacheLineBytes)
  · exact Json.whole_of_uint64? (stands ▸ told.lineDelay)

theorem ofJson?_refused {value : Json}
    (impossible : ∀ c members, value.members? fieldNames = some members → ¬ ReadFrom members c) :
    ofJson? value = none := by
  refine Option.eq_none_iff_forall_ne_some.mpr fun c accepted => ?_
  obtain ⟨members, taken, told⟩ := ofJson?_eq_some.mp accepted
  exact impossible c members taken told

/-- A configuration is read back from both forms, and these from their texts. From an object,
whatever the order of its members and whatever others stand among them, or from a list that ends
early, it has what is given and the default in all other fields. It is refused if a number that is
given is none of its bits, if the policy is a text that is no policy's name, if the interrupt lines
are refused, or if a list has too many items. Interrupt lines and attributes are read back from both
forms too, but only as a whole. -/
theorem records_exchanged :
    (∀ c : Config, ofJson? c.toJson = some c ∧ ofJson? (.list c.toFields) = some c) ∧
    (∀ c : Config, Json.ofText? c.toJson.toText = some c.toJson ∧
      Json.ofText? (Json.toText (.list c.toFields)) = some (.list c.toFields)) ∧
    (∀ (c : Config) given fields foreign members, c.States fields →
      (∀ m ∈ foreign, m.1 ∉ fieldNames) →
        members.Perm ((fieldNames.zip fields).filter (fun m => given m.1) ++ foreign) →
          ofJson? (.object members) = some (c.keeping given)) ∧
    (∀ (c : Config) fields count, c.States fields →
      ofJson? (.list (fields.take count)) =
        some (c.keeping fun name => name ∈ fieldNames.take count)) ∧
    (∀ value members, value.members? fieldNames = some members →
      (∀ field ∈ widths, ∀ content, members.lookup field.1 = some content →
        ¬ content.Whole field.2 → ofJson? value = none) ∧
      (∀ text, members.lookup "cache_flush" = some (.text text) →
        text ∉ ["auto", "bulk", "per_line"] → ofJson? value = none) ∧
      ∀ lines, members.lookup "irq" = some lines → InterruptLines.ofJson? lines = none →
        ofJson? value = none) ∧
    (∀ items, fieldNames.length < items.length → ofJson? (.list items) = none) ∧
    Json.Exchanged InterruptLines.widths InterruptLines.toFields InterruptLines.toJson
      InterruptLines.ofJson? ∧
    Json.Exchanged Attributes.widths Attributes.toFields Attributes.toJson
      Attributes.ofJson? ∧
    ∀ value : Json, value.Proper → Json.ofText? value.toText = some value := by
  refine ⟨fun c => ⟨ofJson?_written c, ofJson?_listed c⟩,
    fun c => ⟨Json.ofText?_toText c.proper_toJson, Json.ofText?_toText (.list c.proper_toFields)⟩,
    fun c given fields foreign members stated strange order =>
      ofJson?_object given stated strange order,
    fun c fields count stated => ofJson?_list stated count,
    fun value members taken => ?_, fun items surplus => ?_,
    InterruptLines.reads.exchanged, Attributes.reads.exchanged, fun _ => Json.ofText?_toText⟩
  · have refused (impossible : ∀ c, ¬ ReadFrom members c) : ofJson? value = none :=
      ofJson?_refused fun c others taken' =>
        Option.some.inj (taken.symm.trans taken') ▸ impossible c
    refine ⟨fun field own content stands bad => ?_, fun text stands foreign => ?_,
      fun lines stands bad => ?_⟩
    · exact refused fun c told => bad (told.whole own stands)
    · refine refused fun c told => ?_
      have read := told.cleaning
      rw [stands, Json.orDefault, CleaningPolicy.ofJson?_text foreign] at read
      cases read
    · refine refused fun c told => ?_
      have read := told.lines
      rw [stands, Json.orDefault, bad] at read
      cases read
  · refine ofJson?_refused fun c members taken => ?_
    rw [Json.members?, if_neg (Nat.not_le.mpr surplus)] at taken
    cases taken

/-- Some of the fields, with a member among them that is none. -/
example :
    (Json.ofText? "\x7b\"cache_flush\": \"bulk\", \"x\": [], \"ula_pool_size\": 1048576\x7d").bind
      ofJson? = some { standard with poolSize := 0x100000, cleaning := .bulk } := by
  cbv

end Config

end TiledSurface
