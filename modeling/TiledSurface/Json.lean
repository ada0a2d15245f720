/-!
Structured values as they are exchanged in configuration files, and the two shapes of a record
in them: an object, whose order does not matter, or the list of its fields in declared order.
-/

namespace TiledSurface

inductive Json where
  | null
  | bool (value : Bool)
  | integer (value : Int)
  /-- The number `digits * 10 ^ exponent`, written with a fraction or an exponent. It is not taken
  for an integer, even where its value is whole. -/
  | real (digits exponent : Int)
  | text (value : String)
  | list (items : List Json)
  | object (members : List (String × Json))

namespace Json

instance : Inhabited Json := ⟨.null⟩

def below? (bound : Nat) : Json → Option Nat
  | .integer (.ofNat n) => if n < bound then some n else none
  | _ => none

def uint16? (value : Json) : Option UInt16 := (value.below? UInt16.size).map .ofNat

def uint32? (value : Json) : Option UInt32 := (value.below? UInt32.size).map .ofNat

def uint64? (value : Json) : Option UInt64 := (value.below? UInt64.size).map .ofNat

/-- The name of an alternative without content, alone or as the only member of an object. -/
def alternative? : Json → Option String
  | .text name => some name
  | .object [(name, .null)] => some name
  | _ => none

/-- The fields of a record in which none may be missing. A list must have just these fields;
in an object, members of other names are passed over. -/
def fields? (names : List String) : Json → Option (List Json)
  | .list items => if items.length = names.length then some items else none
  | .object members => names.mapM fun name => members.lookup name
  | _ => none

/-- The fields of a record in which any may be missing; of a list, the last ones. -/
def partialFields? (names : List String) : Json → Option (List (Option Json))
  | .list items =>
    if items.length ≤ names.length then
      some (items.map some ++ List.replicate (names.length - items.length) none)
    else none
  | .object members => some (names.map fun name => members.lookup name)
  | _ => none

/-- Reads a field if it is there, and otherwise takes the default. -/
def orDefault {α : Type} (default : α) (read : Json → Option α) : Option Json → Option α
  | none => some default
  | some value => read value

def ofUInt16 (n : UInt16) : Json := .integer n.toNat

def ofUInt32 (n : UInt32) : Json := .integer n.toNat

def ofUInt64 (n : UInt64) : Json := .integer n.toNat

end Json

end TiledSurface
