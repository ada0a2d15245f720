import Mathlib.Data.List.TakeDrop
import TiledSurface.Json.Reader

namespace TiledSurface.Json

def writeInt (n : Int) : List Char :=
  if n < 0 then '-' :: Nat.toDigits 10 n.natAbs else Nat.toDigits 10 n.natAbs

/-- A character of a text. Control characters are escaped. -/
def escape (c : Char) : List Char :=
  if c = '"' ∨ c = '\\' then ['\\', c]
  else if c.toNat < 0x20 then
    ['\\', 'u', '0', '0', (c.toNat / 16).digitChar, (c.toNat % 16).digitChar]
  else [c]

def writeText (content : String) : List Char := '"' :: (content.toList.flatMap escape ++ ['"'])

mutual

def write : Json → List Char
  | .null => ['n', 'u', 'l', 'l']
  | .bool true => ['t', 'r', 'u', 'e']
  | .bool false => ['f', 'a', 'l', 's', 'e']
  | .integer n => writeInt n
  | .real digits exponent => writeInt digits ++ 'e' :: writeInt exponent
  | .text content => writeText content
  | .list items => '[' :: writeItems items
  | .object members => '\x7b' :: writeMembers members

def writeItems : List Json → List Char
  | [] => [']']
  | [item] => write item ++ [']']
  | item :: next :: rest => write item ++ ',' :: writeItems (next :: rest)

def writeMembers : List (String × Json) → List Char
  | [] => ['\x7d']
  | [(name, value)] => writeText name ++ ':' :: (write value ++ ['\x7d'])
  | (name, value) :: next :: rest =>
    writeText name ++ ':' :: (write value ++ ',' :: writeMembers (next :: rest))

end

def toText (value : Json) : String := .ofList (write value)

/-- A value in which no object has two members of one name. -/
inductive Proper : Json → Prop where
  | null : Proper .null
  | bool (value : Bool) : Proper (.bool value)
  | integer (value : Int) : Proper (.integer value)
  | real (digits exponent : Int) : Proper (.real digits exponent)
  | text (value : String) : Proper (.text value)
  | list {items : List Json} (each : ∀ item ∈ items, Proper item) : Proper (.list items)
  | object {members : List (String × Json)} (distinct : (members.map Prod.fst).Nodup)
      (each : ∀ m ∈ members, Proper m.2) : Proper (.object members)

theorem decimal_toDigits (n : Nat) : decimal (Nat.toDigits 10 n) = n :=
  Nat.ofDigitChars_toDigits (by decide) (by decide)

theorem isDigit_of_mem {n : Nat} {c : Char} (member : c ∈ Nat.toDigits 10 n) : c.isDigit = true :=
  Nat.isDigit_of_mem_toDigits (by decide) (by decide) member

theorem head_toDigits (n : Nat) :
    ∃ c digits, Nat.toDigits 10 n = c :: digits ∧ c.isDigit = true := by
  obtain ⟨c, digits, same⟩ := List.exists_cons_of_ne_nil (Nat.toDigits_ne_nil (n := n) (b := 10))
  exact ⟨c, digits, same, isDigit_of_mem (n := n) (same ▸ List.mem_cons_self ..)⟩

theorem toDigits_ne_zero_cons (n : Nat) (c : Char) (digits : List Char) :
    Nat.toDigits 10 n ≠ '0' :: c :: digits := by
  induction n using Nat.strongRecOn generalizing c digits with
  | _ n ih =>
    by_cases small : n < 10
    · rw [Nat.toDigits_of_lt_base small]
      simp
    · rw [Nat.toDigits_of_base_le (by decide) (Nat.not_lt.mp small)]
      obtain ⟨first, more, same, _⟩ := head_toDigits (n / 10)
      intro zero
      rw [same, List.cons_append, List.cons.injEq] at zero
      obtain ⟨rfl, _⟩ := zero
      cases more with
      | nil =>
        have vanishes : decimal ['0'] = n / 10 := same ▸ decimal_toDigits (n / 10)
        have : decimal ['0'] = 0 := rfl
        omega
      | cons second more => exact ih (n / 10) (by omega) second more same

/-- A number ends where no digit follows. -/
def NoDigit (rest : List Char) : Prop := ∀ c ∈ rest.head?, c.isDigit = false

theorem readDigits?_append {digits rest : List Char} (nonempty : digits ≠ [])
    (each : ∀ c ∈ digits, c.isDigit = true) (ends : NoDigit rest) :
    readDigits? (digits ++ rest) = some (digits, rest) := by
  have taken : rest.takeWhile Char.isDigit = [] := by
    cases rest with
    | nil => rfl
    | cons c rest => simp [ends c rfl]
  have dropped : rest.dropWhile Char.isDigit = rest := by
    cases rest with
    | nil => rfl
    | cons c rest => simp [ends c rfl]
  rw [readDigits?, List.span_eq_takeWhile_dropWhile, List.takeWhile_append_of_pos each,
    List.dropWhile_append_of_pos each, taken, dropped, List.append_nil]
  split
  · rename_i same
    cases same
    exact absurd rfl nonempty
  · rename_i same
    cases same
    rfl

theorem readDigits?_toDigits (n : Nat) {rest : List Char} (ends : NoDigit rest) :
    readDigits? (Nat.toDigits 10 n ++ rest) = some (Nat.toDigits 10 n, rest) :=
  readDigits?_append Nat.toDigits_ne_nil (fun _ => isDigit_of_mem) ends

theorem readWhole?_toDigits (n : Nat) {rest : List Char} (ends : NoDigit rest) :
    readWhole? (Nat.toDigits 10 n ++ rest) = some (Nat.toDigits 10 n, rest) := by
  rw [readWhole?, readDigits?_toDigits n ends]
  split
  · rename_i zero
    simp only [Option.some.injEq, Prod.mk.injEq] at zero
    exact absurd zero.1 (toDigits_ne_zero_cons n _ _)
  · rfl

theorem readNumber?_writeInt (n : Int) {rest : List Char} (ends : NoDigit rest) :
    readNumber? (writeInt n ++ rest) = do
      let (fraction, rest) ← readFraction? rest
      let (exponent, rest) ← readExponent? rest
      return (ofNumeral (n < 0) (Nat.toDigits 10 n.natAbs) fraction exponent, rest) := by
  unfold readNumber? writeInt
  by_cases negative : n < 0
  · simp [negative, readWhole?_toDigits n.natAbs ends]
  · obtain ⟨c, digits, same, digit⟩ := head_toDigits n.natAbs
    have sign : c ≠ '-' := by
      rintro rfl
      cases digit
    have whole := readWhole?_toDigits n.natAbs ends
    rw [if_neg negative, same, List.cons_append] at *
    simp [negative, sign, whole]

/-- What stands behind a value in a text: nothing, a comma or a closing bracket or brace. -/
def Ends (rest : List Char) : Prop := ∀ c ∈ rest.head?, c = ',' ∨ c = ']' ∨ c = '\x7d'

theorem Ends.noDigit {rest : List Char} (ends : Ends rest) : NoDigit rest := by
  intro c head
  rcases ends c head with rfl | rfl | rfl <;> rfl

theorem Ends.readFraction? {rest : List Char} (ends : Ends rest) :
    readFraction? rest = some ([], rest) := by
  unfold Json.readFraction?
  split
  · cases ends '.' rfl <;> simp_all
  · rfl

theorem Ends.readExponent? {rest : List Char} (ends : Ends rest) :
    readExponent? rest = some (none, rest) := by
  cases rest with
  | nil => rfl
  | cons c rest =>
    rcases ends c rfl with rfl | rfl | rfl <;> rfl

theorem signed_natAbs (n : Int) :
    (if decide (n < 0) = true then -(n.natAbs : Int) else n.natAbs) = n := by
  split <;> rename_i sign <;> rw [decide_eq_true_iff] at sign <;> omega

theorem readNumber?_integer (n : Int) {rest : List Char} (ends : Ends rest) :
    readNumber? (writeInt n ++ rest) = some (.integer n, rest) := by
  have numeral : ofNumeral (n < 0) (Nat.toDigits 10 n.natAbs) [] none = .integer n := by
    have signless : ¬(decide (n < 0) = true ∧ n.natAbs = 0) := by simp; omega
    rw [ofNumeral, List.append_nil, decimal_toDigits, if_pos ⟨rfl, rfl, signless⟩, signed_natAbs]
  rw [readNumber?_writeInt n ends.noDigit, ends.readFraction?]
  simp [ends.readExponent?, numeral]

theorem readSign_writeInt (n : Int) (rest : List Char) :
    readSign (writeInt n ++ rest) =
      (if n < 0 then -1 else 1, Nat.toDigits 10 n.natAbs ++ rest) := by
  by_cases negative : n < 0
  · simp [writeInt, negative, readSign]
  · obtain ⟨c, digits, same, digit⟩ := head_toDigits n.natAbs
    rw [writeInt, if_neg negative, if_neg negative, same, List.cons_append]
    unfold readSign
    split
    · rename_i sign
      cases sign
      cases digit
    · rename_i sign
      cases sign
      cases digit
    · rfl

theorem readExponent?_writeInt (n : Int) {rest : List Char} (ends : Ends rest) :
    Json.readExponent? ('e' :: (writeInt n ++ rest)) = some (some n, rest) := by
  have digits := readDigits?_toDigits n.natAbs ends.noDigit
  have signed : (if n < 0 then -1 else 1) * (n.natAbs : Int) = n := by
    split <;> omega
  simp only [Json.readExponent?, readSign_writeInt, digits, Option.bind_eq_bind, Option.bind_some,
    decimal_toDigits, signed, Option.pure_def, true_or, if_true]

theorem readNumber?_real (digits exponent : Int) {rest : List Char} (ends : Ends rest) :
    readNumber? (writeInt digits ++ 'e' :: (writeInt exponent ++ rest)) =
      some (.real digits exponent, rest) := by
  have numeral : ofNumeral (digits < 0) (Nat.toDigits 10 digits.natAbs) [] (some exponent) =
      .real digits exponent := by
    rw [ofNumeral, List.append_nil, decimal_toDigits, if_neg (by simp), signed_natAbs]
    simp
  have noDigit : NoDigit ('e' :: (writeInt exponent ++ rest)) := by
    rintro c ⟨⟩
    rfl
  rw [readNumber?_writeInt digits noDigit]
  simp [Json.readFraction?, readExponent?_writeInt exponent ends, numeral]

theorem hexDigit?_digitChar {d : Nat} (small : d < 16) : hexDigit? d.digitChar = some d := by
  have all : ∀ d < 16, hexDigit? (Nat.digitChar d) = some d := by decide
  exact all d small

theorem readChar?_escape (c : Char) (rest : List Char) :
    readChar? (escape c ++ rest) = some (c, rest) := by
  unfold escape
  split
  · rename_i quoted
    rcases quoted with rfl | rfl <;> rfl
  · rename_i plain
    obtain ⟨quote, backslash⟩ := not_or.mp plain
    split
    · rename_i control
      have high := hexDigit?_digitChar (by omega : c.toNat / 16 < 16)
      have low := hexDigit?_digitChar (by omega : c.toNat % 16 < 16)
      have zero : hexDigit? '0' = some 0 := rfl
      have whole : 16 * (c.toNat / 16) + c.toNat % 16 = c.toNat := Nat.div_add_mod ..
      have short : c.toNat < 0xD800 := by omega
      simp [readChar?, readCodePoint?, readUnit?, high, low, zero, whole, short]
    · rename_i visible
      simp [readChar?, backslash, visible]

theorem head_escape (c : Char) : ∃ first rest, escape c = first :: rest ∧ first ≠ '"' := by
  unfold escape
  split
  · exact ⟨_, _, rfl, by decide⟩
  · rename_i plain
    split
    · exact ⟨_, _, rfl, by decide⟩
    · exact ⟨_, _, rfl, (not_or.mp plain).1⟩

theorem readText?_escape {fuel : Nat} {content : List Char} (enough : content.length < fuel)
    (rest : List Char) :
    readText? fuel (content.flatMap escape ++ '"' :: rest) = some (content, rest) := by
  induction content generalizing fuel with
  | nil =>
    cases fuel with
    | zero => cases enough
    | succ fuel => rfl
  | cons c content ih =>
    cases fuel with
    | zero => cases enough
    | succ fuel =>
      obtain ⟨first, more, same, inner⟩ := head_escape c
      have read := readChar?_escape c (content.flatMap escape ++ '"' :: rest)
      have later := ih (Nat.lt_of_succ_lt_succ enough)
      rw [List.flatMap_cons, List.append_assoc]
      rw [same, List.cons_append] at read ⊢
      simp [readText?, inner, read, later]

/-- What the reader decides by at the start of a value: a digit or a minus sign is a number's. -/
def Numeral (c : Char) : Prop := c.isDigit = true ∨ c = '-'

theorem head_writeInt (n : Int) : ∃ first rest, writeInt n = first :: rest ∧ Numeral first := by
  unfold writeInt
  split
  · exact ⟨_, _, rfl, .inr rfl⟩
  · obtain ⟨first, rest, same, digit⟩ := head_toDigits n.natAbs
    exact ⟨first, rest, same, .inl digit⟩

theorem Numeral.ne {c other : Char} (numeral : Numeral c)
    (foreign : other.isDigit = false ∧ other ≠ '-') : c ≠ other := by
  rintro rfl
  rcases numeral with digit | minus
  · exact absurd digit (by simp [foreign.1])
  · exact foreign.2 minus

theorem Numeral.isBlank {c : Char} (numeral : Numeral c) : isBlank c = false := by
  have space := numeral.ne (by decide : ' '.isDigit = false ∧ ' ' ≠ '-')
  have tab := numeral.ne (by decide : '\t'.isDigit = false ∧ '\t' ≠ '-')
  have line := numeral.ne (by decide : '\n'.isDigit = false ∧ '\n' ≠ '-')
  have carriage := numeral.ne (by decide : '\r'.isDigit = false ∧ '\r' ≠ '-')
  simp [Json.isBlank, space, tab, line, carriage]

theorem skipBlanks_cons {first : Char} (inner : isBlank first = false) (rest : List Char) :
    skipBlanks (first :: rest) = first :: rest := by
  rw [skipBlanks, List.dropWhile_cons_of_neg (by simp [inner])]

theorem readValue?_numeral {fuel : Nat} {first : Char} {rest : List Char}
    (numeral : Numeral first) :
    readValue? (fuel + 1) (first :: rest) = readNumber? (first :: rest) := by
  rw [readValue?, skipBlanks_cons numeral.isBlank]
  split <;> rename_i same
  case h_7 => rfl
  all_goals
    cases same
    exact absurd rfl (numeral.ne (by decide))

theorem head_write (value : Json) :
    ∃ first rest, write value = first :: rest ∧ isBlank first = false ∧ first ≠ ']' := by
  cases value with
  | integer n =>
    obtain ⟨first, rest, same, numeral⟩ := head_writeInt n
    exact ⟨first, rest, by rw [write, same], numeral.isBlank, numeral.ne (by decide)⟩
  | real digits exponent =>
    obtain ⟨first, rest, same, numeral⟩ := head_writeInt digits
    exact ⟨first, _, by rw [write, same, List.cons_append], numeral.isBlank,
      numeral.ne (by decide)⟩
  | bool value => cases value <;> exact ⟨_, _, rfl, rfl, by decide⟩
  | null => exact ⟨_, _, rfl, rfl, by decide⟩
  | text content => exact ⟨_, _, rfl, rfl, by decide⟩
  | list items => exact ⟨_, _, rfl, rfl, by decide⟩
  | object members => exact ⟨_, _, rfl, rfl, by decide⟩

theorem length_write (value : Json) : 0 < (write value).length := by
  obtain ⟨first, rest, same, _⟩ := head_write value
  simp [same]

/-- The value is read from its text, whatever stands behind, in twice as many steps as the text has
characters. -/
def ReadBack (value : Json) : Prop :=
  ∀ fuel rest, 2 * (write value).length ≤ fuel + 1 → Ends rest →
    readValue? (fuel + 1) (write value ++ rest) = some (value, rest)

theorem head_writeItems (item : Json) (items : List Json) :
    ∃ first rest, writeItems (item :: items) = first :: rest ∧
      isBlank first = false ∧ first ≠ ']' := by
  obtain ⟨first, rest, same, inner, opens⟩ := head_write item
  cases items <;> exact ⟨first, _, by rw [writeItems, same, List.cons_append], inner, opens⟩

theorem readItems?_write {items : List Json} (each : ∀ item ∈ items, ReadBack item)
    (nonempty : items ≠ []) {fuel : Nat} (enough : 2 * (writeItems items).length ≤ fuel + 1)
    (rest : List Char) :
    readItems? (fuel + 1) (writeItems items ++ rest) = some (items, rest) := by
  induction items generalizing fuel with
  | nil => exact absurd rfl nonempty
  | cons item later ih =>
    obtain ⟨first, each⟩ := List.forall_mem_cons.mp each
    have long := length_write item
    cases later with
    | nil =>
      simp only [writeItems, List.length_append, List.length_singleton] at enough
      obtain ⟨fuel, rfl⟩ := Nat.exists_eq_add_one.mpr (by omega : 0 < fuel)
      have ends : Ends (']' :: rest) := by simp [Ends]
      have read := first fuel (']' :: rest) (by omega) ends
      rw [readItems?]
      simp [writeItems, read, skipBlanks, isBlank]
    | cons next later =>
      simp only [writeItems, List.length_append, List.length_cons] at enough
      obtain ⟨fuel, rfl⟩ := Nat.exists_eq_add_one.mpr (by omega : 0 < fuel)
      have ends : Ends (',' :: (writeItems (next :: later) ++ rest)) := by simp [Ends]
      have read := first fuel _ (by omega) ends
      have others : readItems? (fuel + 1) (writeItems (next :: later) ++ rest) =
          some (next :: later, rest) := ih each (by simp) (by omega)
      rw [readItems?]
      simp [writeItems, read, skipBlanks, isBlank, others]

theorem length_le_escape (content : List Char) :
    content.length ≤ (content.flatMap escape).length := by
  induction content with
  | nil => exact Nat.le_refl _
  | cons c content ih =>
    obtain ⟨first, rest, same, _⟩ := head_escape c
    simp only [List.flatMap_cons, List.length_append, List.length_cons, same]
    omega

theorem length_writeText (content : String) :
    content.toList.length + 2 ≤ (writeText content).length := by
  have long := length_le_escape content.toList
  rw [writeText, List.length_cons, List.length_append, List.length_singleton]
  omega

theorem addMember_new {name : String} {value : Json} {members : List (String × Json)}
    (new : name ∉ members.map Prod.fst) :
    addMember name value members = (name, value) :: members := by
  refine if_neg fun found => new ?_
  obtain ⟨m, member, same⟩ := List.any_eq_true.mp found
  exact List.mem_map.mpr ⟨m, member, eq_of_beq same⟩

theorem head_writeMembers (m : String × Json) (members : List (String × Json)) :
    ∃ rest, writeMembers (m :: members) = '"' :: rest := by
  obtain ⟨name, value⟩ := m
  cases members <;> exact ⟨_, by rw [writeMembers, writeText, List.cons_append]⟩

theorem readMembers?_write {members : List (String × Json)}
    (each : ∀ m ∈ members, ReadBack m.2) (distinct : (members.map Prod.fst).Nodup)
    (nonempty : members ≠ []) {fuel : Nat} (enough : 2 * (writeMembers members).length ≤ fuel + 1)
    (rest : List Char) :
    readMembers? (fuel + 1) (writeMembers members ++ rest) = some (members, rest) := by
  induction members generalizing fuel with
  | nil => exact absurd rfl nonempty
  | cons m later ih =>
    obtain ⟨name, value⟩ := m
    obtain ⟨(first : ReadBack value), each⟩ := List.forall_mem_cons.mp each
    obtain ⟨new, distinct⟩ := List.nodup_cons.mp distinct
    have long := length_write value
    have named := length_writeText name
    cases later with
    | nil =>
      simp only [writeMembers, List.length_append, List.length_cons] at enough
      obtain ⟨fuel, rfl⟩ := Nat.exists_eq_add_one.mpr (by omega : 0 < fuel)
      have ends : Ends ('\x7d' :: rest) := by simp [Ends]
      have read := first fuel ('\x7d' :: rest) (by omega) ends
      have key := readText?_escape (by omega : name.toList.length < fuel + 1)
        (':' :: (write value ++ '\x7d' :: rest))
      rw [readMembers?]
      simp [writeMembers, writeText, skipBlanks, isBlank, key, read]
    | cons next later =>
      simp only [writeMembers, List.length_append, List.length_cons] at enough
      obtain ⟨fuel, rfl⟩ := Nat.exists_eq_add_one.mpr (by omega : 0 < fuel)
      have ends : Ends (',' :: (writeMembers (next :: later) ++ rest)) := by simp [Ends]
      have read := first fuel _ (by omega) ends
      have key := readText?_escape (by omega : name.toList.length < fuel + 1)
        (':' :: (write value ++ ',' :: (writeMembers (next :: later) ++ rest)))
      have others : readMembers? (fuel + 1) (writeMembers (next :: later) ++ rest) =
          some (next :: later, rest) := ih each distinct (by simp) (by omega)
      rw [readMembers?]
      simp [writeMembers, writeText, skipBlanks, isBlank, key, read, others, addMember_new new]

theorem Proper.readBack {value : Json} (proper : value.Proper) : ReadBack value := by
  -- On what makes the value proper: the values inside are read back whatever stands behind them,
  -- so also before the comma or bracket that follows each.
  induction proper with
  | null => exact fun _ _ _ _ => rfl
  | bool value => cases value <;> exact fun _ _ _ _ => rfl
  | integer n =>
    intro fuel rest _ ends
    obtain ⟨first, more, same, numeral⟩ := head_writeInt n
    rw [write, ← readNumber?_integer n ends, same]
    exact readValue?_numeral numeral
  | real digits exponent =>
    intro fuel rest _ ends
    obtain ⟨first, more, same, numeral⟩ := head_writeInt digits
    rw [write, List.append_assoc, List.cons_append, ← readNumber?_real digits exponent ends, same]
    exact readValue?_numeral numeral
  | text content =>
    intro fuel rest enough _
    have long := length_writeText content
    have short : content.toList.length < fuel := by
      rw [write] at enough
      omega
    have inner := readText?_escape short rest
    rw [write, writeText, readValue?]
    simp [skipBlanks, isBlank, inner]
  | @list items _ each =>
    intro fuel rest enough _
    cases items with
    | nil => rfl
    | cons item items =>
      obtain ⟨first, more, same, inner, opens⟩ := head_writeItems item items
      rw [write, List.length_cons] at enough
      obtain ⟨fuel, rfl⟩ := Nat.exists_eq_add_one.mpr (by omega : 0 < fuel)
      have read := readItems?_write each (by simp) (by omega : _ ≤ fuel + 1) rest
      rw [same, List.cons_append] at read
      rw [write, same, List.cons_append, List.cons_append, readValue?, skipBlanks_cons rfl]
      simp [skipBlanks_cons inner, opens, read]
  | @object members distinct _ each =>
    intro fuel rest enough _
    cases members with
    | nil => rfl
    | cons m members =>
      rw [write, List.length_cons] at enough
      obtain ⟨fuel, rfl⟩ := Nat.exists_eq_add_one.mpr (by omega : 0 < fuel)
      have read := readMembers?_write each distinct (by simp) (by omega : _ ≤ fuel + 1) rest
      obtain ⟨more, same⟩ := head_writeMembers m members
      rw [same, List.cons_append] at read
      rw [write, same, List.cons_append, List.cons_append, readValue?, skipBlanks_cons rfl]
      simp [skipBlanks_cons (rfl : isBlank '"' = false), read]

/-- A text is read back as the value of which it is the text. -/
theorem ofText?_toText {value : Json} (proper : value.Proper) :
    ofText? value.toText = some value := by
  have read := proper.readBack (2 * (write value).length + 1) [] (by omega) (by simp [Ends])
  rw [List.append_nil] at read
  simp only [ofText?, toText, String.toList_ofList, read, Option.bind_eq_bind, Option.bind_some,
    skipBlanks, List.dropWhile_nil, if_true]

end TiledSurface.Json
